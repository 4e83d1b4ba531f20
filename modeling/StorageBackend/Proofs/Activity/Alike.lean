import StorageBackend.Cluster.Client
import StorageBackend.Proofs.Activity
import StorageBackend.Proofs.Poll.Course

/-!
# Activities that look alike

Two activities look alike if nothing that can be seen of them tells them apart: begun at the same
instant in related states, they show the same trace, end at the same instant, and either fail with
the same error or give related values. `bind_alike` and `await_alike` carry this from parts to whole
activities, so it is enough to look at single reads.
-/

namespace StorageBackend

variable {σ τ α β γ δ : Type} {R : σ → τ → Prop} {Q : α → β → Prop}

/-- Either both sides are missing, or both are there and related. -/
theorem none_or_related {a : Option α} {b : Option β} (h : Option.Rel Q a b) :
    (a = none ∧ b = none) ∨ ∃ x y, a = some x ∧ b = some y ∧ Q x y := by
  cases h with
  | none => exact .inl ⟨rfl, rfl⟩
  | some h => exact .inr ⟨_, _, rfl, rfl, h⟩

/-- The same error, or values that `Q` relates. -/
inductive ResultsAlike (Q : α → β → Prop) : Except Error α → Except Error β → Prop where
  | ok {x : α} {y : β} (h : Q x y) : ResultsAlike Q (.ok x) (.ok y)
  | error (error : Error) : ResultsAlike Q (.error error) (.error error)

/-- Either both results are values, and related, or both are the same error. -/
theorem ResultsAlike.values_or_error {first : Except Error α} {second : Except Error β}
    (h : ResultsAlike Q first second) :
    (∃ x y, first = .ok x ∧ second = .ok y ∧ Q x y) ∨
      ∃ error, first = .error error ∧ second = .error error := by
  cases h with
  | ok h => exact .inl ⟨_, _, rfl, rfl, h⟩
  | error error => exact .inr ⟨error, rfl, rfl⟩

/-- Results that are alike are alike in a wider sense, too. -/
theorem ResultsAlike.mono {P : α → β → Prop} {first : Except Error α} {second : Except Error β}
    (h : ResultsAlike Q first second) (hvalues : ∀ x y, Q x y → P x y) :
    ResultsAlike P first second := by
  cases h with
  | ok h => exact .ok (hvalues _ _ h)
  | error error => exact .error error

/-- Outcomes that cannot be told apart but by their states and values, which are related. -/
structure Outcome.Alike (R : σ → τ → Prop) (Q : α → β → Prop) (first : Outcome σ α)
    (second : Outcome τ β) : Prop where
  result : ResultsAlike Q first.result second.result
  now : first.now = second.now
  state : R first.state second.state
  trace : first.trace = second.trace

/-- Outcomes that are alike stay so when the same is seen before both. -/
theorem Outcome.Alike.after {first : Outcome σ α} {second : Outcome τ β}
    (h : first.Alike R Q second) (trace : List Step) :
    Outcome.Alike R Q { first with trace := trace ++ first.trace }
      { second with trace := trace ++ second.trace } :=
  ⟨h.result, h.now, h.state, congrArg (trace ++ ·) h.trace⟩

/-- Answers to a read that cannot be told apart but by their states and objects, which are
related. -/
structure Cluster.Answer.Alike (R : σ → τ → Prop) (Q : α → β → Prop) (first : Answer σ α)
    (second : Answer τ β) : Prop where
  result : ResultsAlike (Option.Rel Q) first.result second.result
  took : first.took = second.took
  state : R first.state second.state
  log : first.log = second.log

namespace Activity

/-- Activities that look alike from related states. -/
def Alike (R : σ → τ → Prop) (Q : α → β → Prop) (first : Activity σ α)
    (second : Activity τ β) : Prop :=
  ∀ budget now s t, R s t →
    Option.Rel (Outcome.Alike R Q) (first budget now s) (second budget now t)

/-- Either both activities have no outcome, or both have one and these look alike. -/
theorem Alike.outcomes {first : Activity σ α} {second : Activity τ β} (h : Alike R Q first second)
    (budget : Nat) (now : Instant) {s : σ} {t : τ} (hstate : R s t) :
    (first budget now s = none ∧ second budget now t = none) ∨
      ∃ a b, first budget now s = some a ∧ second budget now t = some b ∧ a.Alike R Q b :=
  none_or_related (h budget now s t hstate)

/-- Outcomes that look alike have values that are related in a wider sense, too. -/
theorem outcomes_mono {P : α → β → Prop} {a : Option (Outcome σ α)} {b : Option (Outcome τ β)}
    (h : Option.Rel (Outcome.Alike R Q) a b) (hvalues : ∀ x y, Q x y → P x y) :
    Option.Rel (Outcome.Alike R P) a b := by
  cases h with
  | none => exact .none
  | some h => exact .some ⟨h.result.mono hvalues, h.now, h.state, h.trace⟩

/-- Activities that look alike give values that are related in a wider sense, too. -/
theorem Alike.mono {first : Activity σ α} {second : Activity τ β} {P : α → β → Prop}
    (h : Alike R Q first second) (hvalues : ∀ x y, Q x y → P x y) : Alike R P first second :=
  fun budget now s t hstate => outcomes_mono (h budget now s t hstate) hvalues

/-! ## Single steps -/

/-- Activities that end at once look alike if their results do. -/
theorem done_alike {first : Except Error α} {second : Except Error β}
    (h : ResultsAlike Q first second) : Alike R Q (done first) (done second) :=
  fun _ _ _ _ hstate => .some ⟨h, rfl, hstate, rfl⟩

/-- Writing the same event looks alike. -/
theorem log_alike (event : Log.Event) : Alike R Eq (log event) (log event) :=
  fun _ _ _ _ hstate => .some ⟨.ok rfl, rfl, hstate, rfl⟩

/-- Reads look alike if their answers do. -/
theorem reading_alike {object : ObjectRef} {first : Instant → σ → Cluster.Answer σ α}
    {second : Instant → τ → Cluster.Answer τ β}
    (h : ∀ now s t, R s t → (first now s).Alike R Q (second now t)) :
    Alike R (Option.Rel Q) (Cluster.reading object first) (Cluster.reading object second) := by
  intro budget now s t hstate
  obtain ⟨hresult, htook, hnext, hlog⟩ := h now s t hstate
  refine .some ⟨hresult, ?_, hnext, ?_⟩
  · show now + (first now s).took.nanos = now + (second now t).took.nanos
    rw [htook]
  · show Step.read object :: (first now s).log.map Step.log =
      .read object :: (second now t).log.map Step.log
    rw [hlog]

/-! ## One activity after another -/

/-- The result of an activity begun at an instant in a state is this value. -/
def Gives (activity : Activity σ α) (budget : Nat) (now : Instant) (state : σ) (value : α) : Prop :=
  ∃ outcome, activity budget now state = some outcome ∧ outcome.result = .ok value

/-- Runs look alike if they begin alike and go on alike after related values that can occur. -/
theorem bind_alike_at {P : γ → δ → Prop} {first : Activity σ α} {second : Activity τ β}
    {next : α → Activity σ γ} {other : β → Activity τ δ} {budget : Nat} {now : Instant} {s : σ}
    {t : τ} (h : Option.Rel (Outcome.Alike R Q) (first budget now s) (second budget now t))
    (hnext : ∀ x y, Q x y → first.Gives budget now s x → Alike R P (next x) (other y)) :
    Option.Rel (Outcome.Alike R P) ((first >>= next) budget now s)
      ((second >>= other) budget now t) := by
  -- both runs take the same branch, since an error of one is an error of the other
  rcases none_or_related h with ⟨ha, hb⟩ | ⟨a, b, ha, hb, hresult, hnow, hmid, htrace⟩
  · rw [bind_of_none ha, bind_of_none hb]
    exact .none
  · rcases hresult.values_or_error with ⟨x, y, hx, hy, hxy⟩ | ⟨error, hx, hy⟩
    · rw [bind_of_ok ha hx, bind_of_ok hb hy, hnow, htrace]
      rcases (hnext x y hxy ⟨a, ha, hx⟩).outcomes budget b.now hmid with
        ⟨hc, hd⟩ | ⟨c, d, hc, hd, hrest⟩
      · rw [hc, hd]
        exact .none
      · rw [hc, hd]
        exact .some (hrest.after b.trace)
    · rw [bind_of_error ha hx, bind_of_error hb hy]
      exact .some ⟨.error error, hnow, hmid, htrace⟩

/-- Activities look alike if they begin alike and go on alike after related values. -/
theorem bind_alike {P : γ → δ → Prop} {first : Activity σ α} {second : Activity τ β}
    {next : α → Activity σ γ} {other : β → Activity τ δ} (h : Alike R Q first second)
    (hnext : ∀ x y, Q x y → Alike R P (next x) (other y)) :
    Alike R P (first >>= next) (second >>= other) :=
  fun budget now s t hstate =>
    bind_alike_at (h budget now s t hstate) fun x y hxy _ => hnext x y hxy

end Activity

/-! ## Waits -/

namespace Poll

/-- The same wait with other checks, which look alike. -/
structure WaitsAlike (R : σ → τ → Prop) (Q : α → β → Prop) (wait : Wait σ α)
    (other : Wait τ β) : Prop where
  policy : wait.policy = other.policy
  operation : wait.operation = other.operation
  start : wait.start = other.start
  check : Activity.Alike R (Option.Rel Q) wait.check other.check

/-- Reports of waits that look alike. -/
structure ReportsAlike (R : σ → τ → Prop) (Q : α → β → Prop) (first : Report σ α)
    (second : Report τ β) : Prop where
  outcome : first.outcome.Alike R Q second.outcome
  starts : first.starts = second.starts

variable {wait : Wait σ α} {other : Wait τ β}

/-- The deadline is the same, and so is what is told when the wait goes on. -/
theorem WaitsAlike.note_eq (h : WaitsAlike R Q wait other) (attempt : UInt32) :
    wait.note attempt = other.note attempt := by
  rw [Wait.note, h.operation]
  rfl

/-- Either both waits go on, or both are over with the same event. What is decided does not depend
on the value that a check has found. -/
theorem WaitsAlike.verdicts (h : WaitsAlike R Q wait other) (attempt : UInt32) (now : Instant)
    {found : Except Error (Option α)} {otherFound : Except Error (Option β)}
    (hfound : ResultsAlike (Option.Rel Q) found otherFound) :
    (wait.verdict attempt now found = .goesOn ∧ other.verdict attempt now otherFound = .goesOn) ∨
      ∃ result otherResult event, wait.verdict attempt now found = .over result event ∧
        other.verdict attempt now otherFound = .over otherResult event ∧
        ResultsAlike Q result otherResult := by
  obtain ⟨policy, operation, check, start⟩ := wait
  obtain ⟨_, _, otherCheck, _⟩ := other
  obtain ⟨rfl, rfl, rfl, -⟩ := h
  cases hfound with
  | error error => exact .inr ⟨_, _, _, rfl, rfl, .error error⟩
  | ok hfound =>
    cases hfound with
    | some hxy => exact .inr ⟨_, _, _, rfl, rfl, .ok hxy⟩
    | none =>
      by_cases hpast : isPast (Clock.after start policy.timeout) now policy.interval = true
      · exact .inr ⟨_, _, _, if_pos hpast, if_pos hpast, .error _⟩
      · exact .inl ⟨if_neg hpast, if_neg hpast⟩

/-- Waits whose checks look alike go on alike, from any check on. -/
theorem WaitsAlike.run_from (h : WaitsAlike R Q wait other) (budget checks : Nat) :
    ∀ (attempt : UInt32) (now : Instant) {s : σ} {t : τ}, R s t →
      Option.Rel (ReportsAlike R Q) (wait.runFrom budget checks attempt now s)
        (other.runFrom budget checks attempt now t) := by
  -- on the number of checks that may still be made, which is the same for both waits
  induction checks with
  | zero => exact fun _ _ _ _ _ => .none
  | succ checks ih =>
    intro attempt now s t hstate
    rcases h.check.outcomes budget now hstate with
      ⟨ha, hb⟩ | ⟨a, b, ha, hb, hfound, hends, hnext, htrace⟩
    · rw [Wait.run_from_of_none ha, Wait.run_from_of_none hb]
      exact .none
    · rcases h.verdicts (attempt + 1) a.now hfound with
        ⟨hgo, hotherGo⟩ | ⟨result, otherResult, event, hover, hotherOver, hresult⟩
      · rw [hends] at hotherGo
        rw [Wait.run_from_of_goes_on ha hgo, Wait.run_from_of_goes_on hb hotherGo, h.note_eq,
          h.policy, hends, htrace]
        have hrest := ih (attempt + 1) (Clock.wake b.now other.policy.interval) hnext
        rcases none_or_related hrest with ⟨hc, hd⟩ | ⟨c, d, hc, hd, houtcome, hstarts⟩
        · rw [hc, hd]
          exact .none
        · rw [hc, hd]
          exact .some ⟨houtcome.after _, congrArg (now :: ·) hstarts⟩
      · rw [hends] at hotherOver
        rw [Wait.run_from_of_over ha hover, Wait.run_from_of_over hb hotherOver, htrace]
        exact .some ⟨⟨hresult, hends, hnext, rfl⟩, rfl⟩

/-- Waiting looks alike if the checks do. -/
theorem await_alike {policy : PollPolicy} {operation : String} {check : Activity σ (Option α)}
    {otherCheck : Activity τ (Option β)} (h : Activity.Alike R (Option.Rel Q) check otherCheck) :
    Activity.Alike R Q (await policy operation check) (await policy operation otherCheck) := by
  intro budget start s t hstate
  have hwaits : WaitsAlike R Q ⟨policy, operation, check, start⟩
      ⟨policy, operation, otherCheck, start⟩ := ⟨rfl, rfl, rfl, h⟩
  unfold await run
  rcases none_or_related (hwaits.run_from budget budget 0 start hstate) with
    ⟨ha, hb⟩ | ⟨a, b, ha, hb, hreports⟩
  · rw [ha, hb]
    exact .none
  · rw [ha, hb]
    exact .some hreports.outcome

end Poll

end StorageBackend

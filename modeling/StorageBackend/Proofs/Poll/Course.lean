import Mathlib.Order.Nat
import StorageBackend.Poll
import StorageBackend.Proofs.Clock

/-!
# The course of a wait

A wait whose checks always have an outcome runs along a fixed sequence of places: the instant at
which a check begins and the state in which it finds the world. `Course.Settles k` says, in exact
arithmetic, that the wait ends with the check number `k`. The main statements are `Course.run_eq`,
which gives the whole report of a wait that settles first at `n`, and `Course.run_eq_none`: a wait
that never settles has no report, however many checks it may make.
-/

namespace StorageBackend.Poll

variable {σ α : Type}

/-! ## The loop, check by check -/

namespace Wait

variable {wait : Wait σ α} {budget checks : Nat} {attempt : UInt32} {now : Instant} {state : σ}

/-- A check without an outcome leaves the wait without a report. -/
theorem run_from_of_none (h : wait.check budget now state = none) :
    wait.runFrom budget (checks + 1) attempt now state = none := by
  rw [runFrom, h]

/-- A check after which the wait is over. -/
theorem run_from_of_over {outcome : Outcome σ (Option α)} {result : Except Error α}
    {event : Log.Event} (h : wait.check budget now state = some outcome)
    (hverdict : wait.verdict (attempt + 1) outcome.now outcome.result = .over result event) :
    wait.runFrom budget (checks + 1) attempt now state =
      some ⟨⟨result, outcome.now, outcome.state, outcome.trace ++ [.log event]⟩, [now]⟩ := by
  obtain ⟨found, ends, next, trace⟩ := outcome
  rw [runFrom, h]
  simp only at hverdict ⊢
  rw [hverdict]

/-- A check after which the wait goes on. -/
theorem run_from_of_goes_on {outcome : Outcome σ (Option α)}
    (h : wait.check budget now state = some outcome)
    (hverdict : wait.verdict (attempt + 1) outcome.now outcome.result = .goesOn) :
    wait.runFrom budget (checks + 1) attempt now state =
      (wait.runFrom budget checks (attempt + 1) (Clock.wake outcome.now wait.policy.interval)
        outcome.state).map fun report =>
          { outcome :=
              { report.outcome with
                trace := outcome.trace ++ wait.note (attempt + 1) ++ report.outcome.trace }
            starts := now :: report.starts } := by
  obtain ⟨found, ends, next, trace⟩ := outcome
  rw [runFrom, h]
  simp only at hverdict ⊢
  rw [hverdict]

/-- A check ends the wait, or the rest of the wait follows it. -/
theorem run_from_eq_some {report : Report σ α}
    (h : wait.runFrom budget (checks + 1) attempt now state = some report) :
    ∃ outcome, wait.check budget now state = some outcome ∧
      ((∃ result event,
          wait.verdict (attempt + 1) outcome.now outcome.result = .over result event ∧
          report = ⟨⟨result, outcome.now, outcome.state, outcome.trace ++ [.log event]⟩, [now]⟩) ∨
        ∃ rest, wait.verdict (attempt + 1) outcome.now outcome.result = .goesOn ∧
          wait.runFrom budget checks (attempt + 1) (Clock.wake outcome.now wait.policy.interval)
            outcome.state = some rest ∧
          report =
            { outcome :=
                { rest.outcome with
                  trace := outcome.trace ++ wait.note (attempt + 1) ++ rest.outcome.trace }
              starts := now :: rest.starts }) := by
  cases hcheck : wait.check budget now state with
  | none =>
    rw [run_from_of_none hcheck] at h
    cases h
  | some outcome =>
    refine ⟨outcome, rfl, ?_⟩
    rcases hverdict : wait.verdict (attempt + 1) outcome.now outcome.result with
      ⟨result, event⟩ | _
    · rw [run_from_of_over hcheck hverdict] at h
      exact .inl ⟨result, event, rfl, (Option.some.inj h).symm⟩
    · rw [run_from_of_goes_on hcheck hverdict] at h
      obtain ⟨rest, hrest, rfl⟩ := Option.map_eq_some_iff.mp h
      exact .inr ⟨rest, rfl, hrest, rfl⟩

end Wait

/-- A wait whose checks always have an outcome, with the place where it begins. -/
structure Course (σ α : Type) where
  policy : PollPolicy
  operation : String
  /-- What a check does. -/
  probe : Instant → σ → Outcome σ (Option α)
  start : Instant
  state : σ

namespace Course

variable (course : Course σ α)

/-- The checks of the wait, as an activity. -/
def check : Activity σ (Option α) := fun _ now state => some (course.probe now state)

/-- The wait, without the place where it begins. -/
def wait : Wait σ α := ⟨course.policy, course.operation, course.check, course.start⟩

/-- The wait with at most `budget` checks. -/
def run (budget : Nat) : Option (Report σ α) :=
  Poll.run course.policy course.operation course.check budget course.start course.state

/-! ## The places of the checks -/

/-- Where the check number `k` begins if the checks before it do not end the wait. Numbers begin
with zero. -/
def place : Nat → Instant × σ
  | 0 => (course.start, course.state)
  | k + 1 =>
    let outcome := course.probe (place k).1 (place k).2
    (Clock.wake outcome.now course.policy.interval, outcome.state)

/-- When the check number `k` begins. -/
def begins (k : Nat) : Instant := (course.place k).1

/-- The outcome of the check number `k`. -/
def outcome (k : Nat) : Outcome σ (Option α) :=
  course.probe (course.place k).1 (course.place k).2

/-- When the check number `k` ends. -/
def ends (k : Nat) : Instant := (course.outcome k).now

/-- What the check number `k` finds. -/
def found (k : Nat) : Except Error (Option α) := (course.outcome k).result

/-- A check begins when the sleep after the check before it is over. -/
theorem begins_succ (k : Nat) :
    course.begins (k + 1) = Clock.wake (course.ends k) course.policy.interval := rfl

/-! ## The end of the wait -/

/-- The wait has a deadline. -/
def IsBounded : Prop := course.start + course.policy.timeout.nanos < Clock.horizon

/-- A pause after the check number `k` would go past the deadline. -/
def IsLate (k : Nat) : Prop :=
  course.IsBounded ∧
    course.start + course.policy.timeout.nanos < course.ends k + course.policy.interval.nanos

/-- The wait ends with the check number `k`, if it has come so far. -/
def Settles (k : Nat) : Prop := course.found k ≠ .ok none ∨ course.IsLate k

/-- The result of a wait that ends with the check number `k`. -/
def result (k : Nat) : Except Error α :=
  match course.found k with
  | .ok (some value) => .ok value
  | .ok none => .error (.timeout course.operation (Clock.elapsed course.start (course.ends k)))
  | .error error => .error error

/-- What a wait that ends with the check number `k` tells at its end. -/
def closing (k : Nat) : Log.Event :=
  let attempt := UInt32.ofNat (k + 1)
  match course.found k with
  | .ok (some _) =>
    .conditionMet course.operation attempt (Clock.elapsed course.start (course.ends k))
  | .ok none => .timedOut course.operation attempt course.policy.timeout
  | .error error => .aborted course.operation attempt error.message

/-- What can be seen of the check number `k` and of the pause after it. -/
def passage (k : Nat) : List Step :=
  (course.outcome k).trace ++ course.wait.note (UInt32.ofNat (k + 1))

/-- What can be seen of the check number `k` and of the end of the wait after it. -/
def farewell (k : Nat) : List Step := (course.outcome k).trace ++ [.log (course.closing k)]

/-- The part of the report that begins with the check number `j`, for a wait that ends `m` checks
later. -/
def reportFrom (j m : Nat) : Report σ α where
  outcome :=
    { result := course.result (j + m)
      now := course.ends (j + m)
      state := (course.outcome (j + m)).state
      trace := (List.range' j m).flatMap course.passage ++ course.farewell (j + m) }
  starts := (List.range' j (m + 1)).map course.begins

/-- The report of a wait that ends with the check number `n`. -/
def report (n : Nat) : Report σ α where
  outcome :=
    { result := course.result n
      now := course.ends n
      state := (course.outcome n).state
      trace := (List.range n).flatMap course.passage ++ course.farewell n }
  starts := (List.range (n + 1)).map course.begins

/-- The part of a report that begins with the first check is the whole report. -/
theorem report_from_zero (n : Nat) : course.reportFrom 0 n = course.report n := by
  simp [reportFrom, report, List.range_eq_range']

variable {course}

/-- The test for the deadline means the comparison of exact sums: a pause that ends at an instant
that cannot be represented ends after every deadline. -/
theorem is_past_iff (k : Nat) :
    isPast course.wait.deadline (course.ends k) course.policy.interval = true ↔
      course.IsLate k := by
  by_cases hd : course.start + course.policy.timeout.nanos < Clock.horizon
  · have hdeadline : course.wait.deadline = some (course.start + course.policy.timeout.nanos) :=
      if_pos hd
    by_cases hn : course.ends k + course.policy.interval.nanos < Clock.horizon
    · simp [isPast, hdeadline, Clock.after, IsLate, IsBounded, hd, hn]
    · have hlate := Nat.lt_of_lt_of_le hd (Nat.le_of_not_lt hn)
      simp [isPast, hdeadline, Clock.after, IsLate, IsBounded, hd, hn, hlate]
  · have hdeadline : course.wait.deadline = none := if_neg hd
    simp [isPast, hdeadline, IsLate, IsBounded, hd]

/-- A check that settles the wait ends it with the result and the event of the course. -/
theorem verdict_of_settles {k : Nat} (h : course.Settles k) :
    course.wait.verdict (UInt32.ofNat (k + 1)) (course.ends k) (course.found k) =
      .over (course.result k) (course.closing k) := by
  unfold Settles at h
  unfold Wait.verdict result closing
  cases hf : course.found k with
  | error error => rfl
  | ok value? =>
    cases value? with
    | some value => rfl
    | none =>
      have hlate : course.IsLate k := h.resolve_left (not_not_intro hf)
      exact if_pos (is_past_iff k |>.mpr hlate)

/-- After any other check the wait goes on. -/
theorem verdict_of_not_settles {k : Nat} (h : ¬ course.Settles k) (attempt : UInt32) :
    course.wait.verdict attempt (course.ends k) (course.found k) = .goesOn := by
  obtain ⟨hfound, hlate⟩ := not_or.mp h
  rw [not_not.mp hfound]
  exact if_neg (mt (is_past_iff k).mp hlate)

/-! ## Whole runs -/

/-- The number of the next check. -/
theorem attempt_succ (j : Nat) : UInt32.ofNat (j + 1) = UInt32.ofNat j + 1 := UInt32.ofNat_add j 1

/-- A check that does not settle the wait is followed by the pause and the checks after it. -/
theorem run_from_place_succ {j : Nat} (h : ¬ course.Settles j) (budget checks : Nat) :
    course.wait.runFrom budget (checks + 1) (UInt32.ofNat j) (course.place j).1
        (course.place j).2 =
      (course.wait.runFrom budget checks (UInt32.ofNat (j + 1)) (course.place (j + 1)).1
        (course.place (j + 1)).2).map fun report =>
          { outcome :=
              { report.outcome with
                trace := course.passage j ++ report.outcome.trace }
            starts := course.begins j :: report.starts } := by
  unfold passage
  rw [attempt_succ]
  exact Wait.run_from_of_goes_on rfl (verdict_of_not_settles h _)

/-- From the check number `j` on, a wait that settles first `m` checks later gives the report of
the course as soon as it may make more than `m` checks. -/
theorem run_from_place (budget : Nat) {m : Nat} : ∀ {j : Nat} (checks : Nat),
    course.Settles (j + m) → (∀ k, j ≤ k → k < j + m → ¬ course.Settles k) →
    course.wait.runFrom budget checks (UInt32.ofNat j) (course.place j).1 (course.place j).2 =
      if m < checks then some (course.reportFrom j m) else none := by
  -- on the number of checks that are still to come; each of them uses up one of `checks`
  induction m with
  | zero =>
    intro j checks hsettles _
    cases checks with
    | zero => rfl
    | succ checks =>
      have hverdict := verdict_of_settles hsettles
      rw [attempt_succ] at hverdict
      rw [if_pos (Nat.succ_pos checks)]
      exact Wait.run_from_of_over rfl hverdict
  | succ m ih =>
    intro j checks hsettles hbefore
    cases checks with
    | zero => rfl
    | succ checks =>
      have hj : ¬ course.Settles j := hbefore j (Nat.le_refl j) (by omega)
      have hindex : j + 1 + m = j + (m + 1) := by omega
      have hrest := ih (j := j + 1) checks (hindex ▸ hsettles)
        fun k hle hlt => hbefore k (by omega) (by omega)
      rw [run_from_place_succ hj, hrest]
      by_cases hm : m < checks
      · simp [hm, reportFrom, hindex, List.range'_succ]
      · simp [hm]

/-- A wait that does not settle within its checks has no report. -/
theorem run_from_place_eq_none (budget checks : Nat) : ∀ {j : Nat},
    (∀ k, j ≤ k → ¬ course.Settles k) →
    course.wait.runFrom budget checks (UInt32.ofNat j) (course.place j).1 (course.place j).2 =
      none := by
  -- on the checks that may still be made; the last one leaves none to go on with
  induction checks with
  | zero => exact fun _ => rfl
  | succ checks ih =>
    intro j hnever
    rw [run_from_place_succ (hnever j (Nat.le_refl j)), ih fun k hk => hnever k (by omega)]
    rfl

/-- A wait that settles first with the check number `n` has the report of the course if it may make
more than `n` checks, and none otherwise. -/
theorem run_eq {n : Nat} (h : IsLeast {k | course.Settles k} n) (budget : Nat) :
    course.run budget = if n < budget then some (course.report n) else none := by
  have hlast : course.Settles (0 + n) := by
    rw [Nat.zero_add]
    exact h.1
  have hbefore : ∀ k, 0 ≤ k → k < 0 + n → ¬ course.Settles k := fun k _ hk hs =>
    absurd (h.2 hs) (by omega)
  rw [← report_from_zero]
  exact run_from_place budget budget hlast hbefore

/-- Either there is a first check with which a wait settles, or the wait never settles. -/
theorem last_or_never (course : Course σ α) :
    (∃ n, IsLeast {k | course.Settles k} n) ∨ ∀ k, ¬ course.Settles k := by
  classical
  by_cases h : ∃ k, course.Settles k
  · exact .inl ⟨Nat.find h, Nat.isLeast_find h⟩
  · exact .inr (not_exists.mp h)

/-- A wait that never settles has no report. -/
theorem run_eq_none (h : ∀ k, ¬ course.Settles k) (budget : Nat) : course.run budget = none :=
  run_from_place_eq_none budget budget fun k _ => h k

end Course

end StorageBackend.Poll

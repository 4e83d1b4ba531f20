import StorageBackend.Proofs.Activity.Alike

/-!
# The same activity in another world at another time

A run of an activity is followed by one in another world if this one begins as long after its own
base, goes through the same trace in the same time, and ends with the same error or a related value.
Unlike activities that look alike, the worlds need to agree only while the first run lasts and only
for as many reads as it makes.

A wait can be moved from one base to another if both bases stand at the same place of the
millisecond grid, and if nothing that it adds to an instant runs into the end of the clock in one
world and not in the other. `bind_follows` and `await_follows` carry all this to whole activities.
-/

namespace StorageBackend

variable {σ τ α β γ δ : Type}

/-! ## The clock never goes back -/

namespace Activity

/-- An activity never ends before it begins. -/
def Forward (activity : Activity σ α) : Prop :=
  ∀ budget now state outcome, activity budget now state = some outcome → now ≤ outcome.now

/-- Ending at once takes no time. -/
theorem done_forward (result : Except Error α) : (done result : Activity σ α).Forward := by
  rintro budget now state outcome ⟨⟩
  exact Nat.le_refl now

/-- Writing to the log takes no time. -/
theorem log_forward (event : Log.Event) : (log event : Activity σ Unit).Forward := by
  rintro budget now state outcome ⟨⟩
  exact Nat.le_refl now

/-- A read ends when it begins or later. -/
theorem reading_forward (object : ObjectRef) (answer : Instant → σ → Cluster.Answer σ α) :
    Forward (Cluster.reading object answer) := by
  rintro budget now state outcome ⟨⟩
  exact Nat.le_add_right now _

/-- Two activities that do not turn the clock back do not do so one after the other. -/
theorem bind_forward {first : Activity σ α} {second : α → Activity σ β} (h : Forward first)
    (hsecond : ∀ value, Forward (second value)) : Forward (first >>= second) := by
  intro budget now state outcome houtcome
  obtain ⟨before, hbefore, ⟨error, -, rfl⟩ | ⟨value, rest, -, hrest, rfl⟩⟩ := bind_eq_some houtcome
  · exact h _ _ _ _ hbefore
  · have hlast : before.now ≤ rest.now := hsecond value _ _ _ _ hrest
    exact Nat.le_trans (h _ _ _ _ hbefore) hlast

end Activity

namespace Poll

/-- A wait ends after it begins, if its checks do. -/
theorem run_from_forward {wait : Wait σ α} (h : wait.check.Forward) (budget checks : Nat) :
    ∀ attempt now state report, wait.runFrom budget checks attempt now state = some report →
      now ≤ report.outcome.now := by
  induction checks with
  | zero =>
    intro attempt now state report hreport
    cases hreport
  | succ checks ih =>
    intro attempt now state report hreport
    obtain ⟨outcome, hcheck, ⟨result, event, -, rfl⟩ | ⟨rest, -, hrest, rfl⟩⟩ :=
      Wait.run_from_eq_some hreport
    · exact h _ _ _ _ hcheck
    · have hlast : Clock.wake outcome.now wait.policy.interval ≤ rest.outcome.now :=
        ih _ _ _ _ hrest
      exact Nat.le_trans (h _ _ _ _ hcheck) (Nat.le_trans (Clock.le_wake _ _) hlast)

/-- Waiting does not turn the clock back, if the checks do not. -/
theorem await_forward (policy : PollPolicy) (operation : String)
    {check : Activity σ (Option α)} (h : check.Forward) :
    (await policy operation check).Forward := by
  intro budget start state outcome houtcome
  obtain ⟨report, hreport, rfl⟩ := Option.map_eq_some_iff.mp houtcome
  have hcheck : (Wait.mk policy operation check start).check.Forward := h
  exact run_from_forward hcheck _ _ _ _ _ _ hreport

end Poll

/-! ## Runs that follow each other -/

/-- Two worlds, each of them seen from its own base on. -/
structure Worlds (σ τ : Type) where
  base : Instant
  otherBase : Instant
  /-- How long the worlds are looked at. -/
  length : Nat
  /-- States from which a number of reads are answered alike while the worlds are looked at. -/
  Related : Nat → σ → τ → Prop

/-- An outcome that follows another one a time after the bases, in states from which a number of
reads are still answered alike. -/
structure Outcome.Follows (worlds : Worlds σ τ) (Q : Nat → α → β → Prop) (reads elapsed : Nat)
    (first : Outcome σ α) (second : Outcome τ β) : Prop where
  now : first.now = worlds.base + elapsed
  otherNow : second.now = worlds.otherBase + elapsed
  result : ResultsAlike (Q elapsed) first.result second.result
  trace : first.trace = second.trace
  state : worlds.Related reads first.state second.state

/-- Outcomes that follow each other do so, too, when the same is seen before both. -/
theorem Outcome.Follows.after {worlds : Worlds σ τ} {Q : Nat → α → β → Prop} {reads elapsed : Nat}
    {first : Outcome σ α} {second : Outcome τ β}
    (h : first.Follows worlds Q reads elapsed second) (trace : List Step) :
    Outcome.Follows worlds Q reads elapsed { first with trace := trace ++ first.trace }
      { second with trace := trace ++ second.trace } :=
  ⟨h.now, h.otherNow, h.result, congrArg (trace ++ ·) h.trace, h.state⟩

namespace Activity

variable {worlds : Worlds σ τ}

/-- Begun a time after the bases, any run that ends while the worlds are looked at and makes no more
reads than are answered alike is followed by one in the other world. `Q` relates the values that the
runs give and knows when they do. -/
def Follows (worlds : Worlds σ τ) (Q : Nat → α → β → Prop) (elapsed : Nat) (first : Activity σ α)
    (second : Activity τ β) : Prop :=
  ∀ budget reads s t outcome, first budget (worlds.base + elapsed) s = some outcome →
    outcome.now ≤ worlds.base + worlds.length →
    worlds.Related (reads + (Activity.reads outcome.trace).length) s t →
    ∃ other later, second budget (worlds.otherBase + elapsed) t = some other ∧
      outcome.Follows worlds Q reads later other

/-- Activities that follow each other give values that are related in a wider sense, too. -/
theorem Follows.mono {Q P : Nat → α → β → Prop} {elapsed : Nat} {first : Activity σ α}
    {second : Activity τ β} (h : Follows worlds Q elapsed first second)
    (hvalues : ∀ later x y, Q later x y → P later x y) : Follows worlds P elapsed first second := by
  intro budget reads s t outcome houtcome hend hstate
  obtain ⟨other, later, hother, hfollows⟩ := h budget reads s t outcome houtcome hend hstate
  exact ⟨other, later, hother, hfollows.now, hfollows.otherNow,
    hfollows.result.mono (hvalues later), hfollows.trace, hfollows.state⟩

/-- Activities that end at once follow each other if their results are alike. -/
theorem done_follows {Q : Nat → α → β → Prop} {elapsed : Nat} {first : Except Error α}
    {second : Except Error β} (h : ResultsAlike (Q elapsed) first second) :
    Follows worlds Q elapsed (done first) (done second) := by
  rintro budget reads s t outcome ⟨⟩ - hstate
  exact ⟨_, elapsed, rfl, rfl, rfl, h, rfl, hstate⟩

/-- Writing the same event takes no time on either side. -/
theorem log_follows (event : Log.Event) (elapsed : Nat) :
    Follows worlds (fun later _ _ => later = elapsed) elapsed (log event) (log event) := by
  rintro budget reads s t outcome ⟨⟩ - hstate
  exact ⟨_, elapsed, rfl, rfl, rfl, .ok rfl, rfl, hstate⟩

/-- Runs follow each other if they begin so and go on so after related values. -/
theorem bind_follows {Q : Nat → α → β → Prop} {P : Nat → γ → δ → Prop} {elapsed : Nat}
    {first : Activity σ α} {second : Activity τ β} {next : α → Activity σ γ}
    {other : β → Activity τ δ} (h : Follows worlds Q elapsed first second)
    (hforward : ∀ x, Forward (next x))
    (hnext : ∀ later x y, Q later x y → Follows worlds P later (next x) (other y)) :
    Follows worlds P elapsed (first >>= next) (second >>= other) := by
  intro budget reads s t outcome houtcome hend hstate
  obtain ⟨before, hbefore, ⟨error, hresult, rfl⟩ | ⟨x, rest, hresult, hrest, rfl⟩⟩ :=
    bind_eq_some houtcome
  · obtain ⟨otherBefore, later, hotherBefore, hfollows⟩ := h _ _ _ _ _ hbefore hend hstate
    have halike := hfollows.result
    rw [hresult] at halike
    cases hotherResult : otherBefore.result with
    | ok y =>
      rw [hotherResult] at halike
      cases halike
    | error otherError =>
      rw [hotherResult] at halike
      cases halike
      exact ⟨_, later, bind_of_error hotherBefore hotherResult, hfollows.now, hfollows.otherNow,
        .error error, hfollows.trace, hfollows.state⟩
  · -- the reads of the rest are still to come when the first part has ended
    have hmid : before.now ≤ rest.now := hforward x _ _ _ _ hrest
    have hreads : reads + (Activity.reads (before.trace ++ rest.trace)).length =
        reads + (Activity.reads rest.trace).length + (Activity.reads before.trace).length := by
      rw [reads_append, List.length_append]
      omega
    obtain ⟨otherBefore, later, hotherBefore, hfollows⟩ :=
      h _ (reads + (Activity.reads rest.trace).length) _ _ _ hbefore (Nat.le_trans hmid hend)
        (hreads ▸ hstate)
    rcases hfollows.result.values_or_error with ⟨x', y, hx, hy, hxy⟩ | ⟨error, hx, -⟩
    · rw [hresult] at hx
      cases hx
      rw [hfollows.now] at hrest
      obtain ⟨otherRest, last, hotherRest, hlast⟩ :=
        hnext later x y hxy _ _ _ _ _ hrest hend hfollows.state
      refine ⟨_, last, ?_, hlast.after before.trace⟩
      rw [bind_of_ok hotherBefore hy, hfollows.otherNow, hotherRest, hfollows.trace]
      rfl
    · rw [hresult] at hx
      cases hx

end Activity

/-! ## Moving a wait -/

/-- From an instant both durations of a wait can be waited for that can be waited for at all. -/
structure PollPolicy.FitsAt (policy : PollPolicy) (now : Instant) : Prop where
  interval : Clock.Allows now policy.interval
  timeout : Clock.Allows now policy.timeout

namespace Poll

/-- Worlds between which a wait can be moved. -/
structure Movable (worlds : Worlds σ τ) (policy : PollPolicy) : Prop where
  phase : worlds.base % Duration.perMilli = worlds.otherBase % Duration.perMilli
  fits : policy.FitsAt (worlds.base + worlds.length)
  otherFits : policy.FitsAt (worlds.otherBase + worlds.length)

/-- Two waits that have begun the same time after the bases, with checks that follow each other. -/
structure WaitsFollow (worlds : Worlds σ τ) (Q : α → β → Prop) (began : Nat) (wait : Wait σ α)
    (other : Wait τ β) : Prop where
  policy : wait.policy = other.policy
  operation : wait.operation = other.operation
  start : wait.start = worlds.base + began
  otherStart : other.start = worlds.otherBase + began
  began_le : began ≤ worlds.length
  forward : wait.check.Forward
  check : ∀ elapsed, Activity.Follows worlds (fun _ => Option.Rel Q) elapsed wait.check other.check

variable {worlds : Worlds σ τ} {Q : α → β → Prop} {began elapsed : Nat} {wait : Wait σ α}
  {other : Wait τ β} {policy : PollPolicy}

/-- Both deadlines are past at the same time after the bases. -/
theorem is_past_shift (hmove : Movable worlds policy) (hbegan : began ≤ worlds.length)
    (helapsed : elapsed ≤ worlds.length) :
    isPast (Clock.after (worlds.base + began) policy.timeout) (worlds.base + elapsed)
        policy.interval =
      isPast (Clock.after (worlds.otherBase + began) policy.timeout) (worlds.otherBase + elapsed)
        policy.interval := by
  have hfits := hmove.fits
  have hotherFits := hmove.otherFits
  have hle {n : Nat} (h : n ≤ worlds.length) (base : Nat) : base + n ≤ base + worlds.length :=
    Nat.add_le_add_left h base
  unfold isPast Clock.after
  rw [if_congr (Clock.lt_horizon_iff_of_allows hfits.timeout (hle hbegan _)) rfl rfl,
    if_congr (Clock.lt_horizon_iff_of_allows hotherFits.timeout (hle hbegan _)) rfl rfl,
    if_congr (Clock.lt_horizon_iff_of_allows hfits.interval (hle helapsed _)) rfl rfl,
    if_congr (Clock.lt_horizon_iff_of_allows hotherFits.interval (hle helapsed _)) rfl rfl]
  by_cases htimeout : policy.timeout.nanos < Clock.horizon
  · by_cases hinterval : policy.interval.nanos < Clock.horizon
    · rw [if_pos htimeout, if_pos htimeout, if_pos hinterval, if_pos hinterval]
      simp only [decide_eq_decide, Instant]
      omega
    · rw [if_pos htimeout, if_pos htimeout, if_neg hinterval, if_neg hinterval]
  · rw [if_neg htimeout, if_neg htimeout]

/-- Either both waits go on, or both are over with the same event. -/
theorem WaitsFollow.verdicts (h : WaitsFollow worlds Q began wait other)
    (hmove : Movable worlds wait.policy) (helapsed : elapsed ≤ worlds.length) (attempt : UInt32)
    {found : Except Error (Option α)} {otherFound : Except Error (Option β)}
    (hfound : ResultsAlike (Option.Rel Q) found otherFound) :
    (wait.verdict attempt (worlds.base + elapsed) found = .goesOn ∧
        other.verdict attempt (worlds.otherBase + elapsed) otherFound = .goesOn) ∨
      ∃ result otherResult event,
        wait.verdict attempt (worlds.base + elapsed) found = .over result event ∧
        other.verdict attempt (worlds.otherBase + elapsed) otherFound = .over otherResult event ∧
        ResultsAlike Q result otherResult := by
  have hpast := is_past_shift hmove h.began_le helapsed
  have hlength : Clock.elapsed wait.start (worlds.base + elapsed) =
      Clock.elapsed other.start (worlds.otherBase + elapsed) := by
    rw [h.start, h.otherStart, Clock.elapsed, Clock.elapsed, Nat.add_sub_add_left,
      Nat.add_sub_add_left]
  rw [← h.start, ← h.otherStart] at hpast
  have hevents : wait.deadline = Clock.after wait.start wait.policy.timeout ∧
      other.deadline = Clock.after other.start wait.policy.timeout := ⟨rfl, by rw [h.policy]; rfl⟩
  cases hfound with
  | error error =>
    refine .inr ⟨_, _, _, rfl, ?_, .error error⟩
    rw [Wait.verdict, h.operation]
  | ok hfound =>
    cases hfound with
    | some hxy =>
      refine .inr ⟨_, _, _, rfl, ?_, .ok hxy⟩
      rw [Wait.verdict, h.operation, hlength]
    | none =>
      unfold Wait.verdict
      rw [hevents.1, hevents.2, ← h.policy, ← h.operation, ← hlength, hpast]
      cases isPast (Clock.after other.start wait.policy.timeout) (worlds.otherBase + elapsed)
        wait.policy.interval with
      | true => exact .inr ⟨_, _, _, rfl, rfl, .error _⟩
      | false => exact .inl ⟨rfl, rfl⟩

/-- Nothing is read between two checks. -/
theorem Wait.reads_note (wait : Wait σ α) (attempt : UInt32) :
    Activity.reads (wait.note attempt) = [] := by
  unfold Wait.note
  split
  · rfl
  · rfl

/-- Waits follow each other from any check on. -/
theorem WaitsFollow.run_from (h : WaitsFollow worlds Q began wait other)
    (hmove : Movable worlds wait.policy) (budget checks : Nat) :
    ∀ (attempt : UInt32) (elapsed reads : Nat) (s : σ) (t : τ) (report : Report σ α),
      wait.runFrom budget checks attempt (worlds.base + elapsed) s = some report →
      report.outcome.now ≤ worlds.base + worlds.length →
      worlds.Related (reads + (Activity.reads report.outcome.trace).length) s t →
      ∃ otherReport later,
        other.runFrom budget checks attempt (worlds.otherBase + elapsed) t = some otherReport ∧
        report.outcome.Follows worlds (fun _ => Q) reads later otherReport.outcome := by
  -- on the number of checks that may still be made, which is the same for both waits
  induction checks with
  | zero =>
    intro attempt elapsed reads s t report hreport
    cases hreport
  | succ checks ih =>
    intro attempt elapsed reads s t report hreport hend hstate
    obtain ⟨outcome, hcheck, hrest⟩ := Wait.run_from_eq_some hreport
    -- what is read after this check, and that the check ends in time for the verdict on it
    have hstep : ∀ still, outcome.now ≤ worlds.base + worlds.length →
        worlds.Related (still + (Activity.reads outcome.trace).length) s t →
        ∃ otherOutcome later, later ≤ worlds.length ∧
          other.check budget (worlds.otherBase + elapsed) t = some otherOutcome ∧
          outcome.Follows worlds (fun _ => Option.Rel Q) still later otherOutcome := by
      intro still hmid hstill
      obtain ⟨otherOutcome, later, hother, hfollows⟩ := h.check elapsed _ _ _ _ _ hcheck hmid hstill
      rw [hfollows.now] at hmid
      exact ⟨otherOutcome, later, Nat.le_of_add_le_add_left hmid, hother, hfollows⟩
    rcases hrest with ⟨result, event, hverdict, rfl⟩ | ⟨rest, hverdict, hrest, rfl⟩
    · have hreads : Activity.reads (outcome.trace ++ [.log event]) =
          Activity.reads outcome.trace := by
        rw [Activity.reads_append]
        exact List.append_nil _
      rw [hreads] at hstate
      obtain ⟨otherOutcome, later, hlater, hother, hfollows⟩ := hstep reads hend hstate
      rw [hfollows.now] at hverdict
      rcases h.verdicts hmove hlater (attempt + 1) hfollows.result with
        ⟨hgo, -⟩ | ⟨_, otherResult, _, hover, hotherOver, hresult⟩
      · rw [hverdict] at hgo
        cases hgo
      · rw [hverdict] at hover
        cases hover
        rw [← hfollows.otherNow] at hotherOver
        exact ⟨_, later, Wait.run_from_of_over hother hotherOver, hfollows.now, hfollows.otherNow,
          hresult, congrArg (· ++ [Step.log event]) hfollows.trace, hfollows.state⟩
    · have hlast : Clock.wake outcome.now wait.policy.interval ≤ rest.outcome.now :=
        run_from_forward h.forward _ _ _ _ _ _ hrest
      have hmid : outcome.now ≤ worlds.base + worlds.length :=
        Nat.le_trans (Nat.le_trans (Clock.le_wake _ _) hlast) hend
      have hreads : reads + (Activity.reads (outcome.trace ++ wait.note (attempt + 1) ++
          rest.outcome.trace)).length =
            reads + (Activity.reads rest.outcome.trace).length +
              (Activity.reads outcome.trace).length := by
        rw [Activity.reads_append, Activity.reads_append, Wait.reads_note, List.append_nil,
          List.length_append]
        omega
      obtain ⟨otherOutcome, later, hlater, hother, hfollows⟩ :=
        hstep (reads + (Activity.reads rest.outcome.trace).length) hmid (hreads ▸ hstate)
      rw [hfollows.now] at hverdict hrest hmid
      rcases h.verdicts hmove hlater (attempt + 1) hfollows.result with
        ⟨-, hotherGo⟩ | ⟨_, _, _, hover, -⟩
      · obtain ⟨next, hwake, hotherWake⟩ := Clock.wake_shift hmove.phase hmove.fits.interval hmid
          hmove.otherFits.interval (Nat.add_le_add_left hlater _)
        rw [hwake] at hrest
        obtain ⟨otherRest, last, hotherRest, hfollowsRest⟩ :=
          ih _ _ _ _ _ _ hrest hend hfollows.state
        have hnote : wait.note (attempt + 1) = other.note (attempt + 1) := by
          rw [Wait.note, h.operation]
          rfl
        rw [← hfollows.otherNow] at hotherGo
        have hrun : other.runFrom budget (checks + 1) attempt (worlds.otherBase + elapsed) t =
            some ⟨{ otherRest.outcome with
              trace := outcome.trace ++ wait.note (attempt + 1) ++ otherRest.outcome.trace },
              (worlds.otherBase + elapsed) :: otherRest.starts⟩ := by
          rw [Wait.run_from_of_goes_on hother hotherGo, ← h.policy, hfollows.otherNow, hotherWake,
            hotherRest, ← hfollows.trace, hnote]
          rfl
        exact ⟨_, last, hrun, hfollowsRest.after _⟩
      · rw [hverdict] at hover
        cases hover

/-- Waits of which one is moved to another world follow each other if their checks do. -/
theorem await_follows {operation : String} {check : Activity σ (Option α)}
    {otherCheck : Activity τ (Option β)} (hmove : Movable worlds policy) (hforward : check.Forward)
    (h : ∀ elapsed, Activity.Follows worlds (fun _ => Option.Rel Q) elapsed check otherCheck)
    (elapsed : Nat) :
    Activity.Follows worlds (fun _ => Q) elapsed (await policy operation check)
      (await policy operation otherCheck) := by
  intro budget reads s t outcome houtcome hend hstate
  have hbegan : elapsed ≤ worlds.length := by
    have hle := Nat.le_trans (await_forward policy operation hforward _ _ _ _ houtcome) hend
    exact Nat.le_of_add_le_add_left hle
  obtain ⟨report, hreport, rfl⟩ := Option.map_eq_some_iff.mp houtcome
  have hwaits : WaitsFollow worlds Q elapsed
      ⟨policy, operation, check, worlds.base + elapsed⟩
      ⟨policy, operation, otherCheck, worlds.otherBase + elapsed⟩ :=
    ⟨rfl, rfl, rfl, rfl, hbegan, hforward, h⟩
  obtain ⟨otherReport, later, hother, hfollows⟩ :=
    hwaits.run_from hmove budget budget 0 elapsed reads s t report hreport hend hstate
  exact ⟨otherReport.outcome, later, congrArg (Option.map Report.outcome) hother, hfollows⟩

end Poll

end StorageBackend

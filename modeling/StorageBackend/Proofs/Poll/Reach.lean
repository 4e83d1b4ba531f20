import StorageBackend.Proofs.Poll.Scenes

/-!
# The checks that a wait comes to

`Wait.Reaches` holds of the counter, the instant and the state with which the loop of a wait begins
a check, whether the wait ends some day or not. A run goes through every such place
(`run_of_reaches`), and in a course these are the places before which nothing settles the wait
(`Course.reaches_iff`). What holds at every check of a wait is shown of these places.
-/

namespace StorageBackend.Poll

variable {σ α : Type}

/-- A report behind checks that have been made before it: when they began, and what could be seen of
them. -/
def Report.behind (starts : List Instant) (trace : List Step) (report : Report σ α) :
    Report σ α where
  outcome := { report.outcome with trace := trace ++ report.outcome.trace }
  starts := starts ++ report.starts

/-- Behind nothing a report stays as it is. -/
theorem Report.behind_nil : Report.behind [] [] = (id : Report σ α → Report σ α) := rfl

/-- What is behind two parts is behind the first and then the second. -/
theorem Report.behind_behind (starts more : List Instant) (trace rest : List Step) :
    Report.behind starts trace ∘ Report.behind more rest =
      (Report.behind (starts ++ more) (trace ++ rest) : Report σ α → Report σ α) := by
  funext report
  simp [Report.behind]

/-- The loop of a wait comes to a check, after as many checks as the counter says, at an instant and
in a state of the world. -/
inductive Wait.Reaches (wait : Wait σ α) (budget : Nat) (initial : σ) :
    (attempt : UInt32) → Instant → σ → Prop where
  | first : wait.Reaches budget initial 0 wait.start initial
  | next {attempt : UInt32} {now : Instant} {state : σ} {outcome : Outcome σ (Option α)}
      (h : wait.Reaches budget initial attempt now state)
      (hcheck : wait.check budget now state = some outcome)
      (hverdict : wait.verdict (attempt + 1) outcome.now outcome.result = .goesOn) :
      wait.Reaches budget initial (attempt + 1)
        (Clock.wake outcome.now wait.policy.interval) outcome.state

/-- A run goes through every check that the loop comes to: it is the rest of the loop from there on,
behind what the checks before it have left. -/
theorem Wait.run_of_reaches {wait : Wait σ α} {budget : Nat} {initial state : σ}
    {attempt : UInt32} {now : Instant} (h : wait.Reaches budget initial attempt now state) :
    ∃ (starts : List Instant) (trace : List Step), ∀ checks,
      wait.runFrom budget (starts.length + checks) 0 wait.start initial =
        (wait.runFrom budget checks attempt now state).map (Report.behind starts trace) := by
  induction h with
  | first =>
    refine ⟨[], [], fun checks => ?_⟩
    rw [Report.behind_nil, Option.map_id, id, List.length_nil, Nat.zero_add]
  | @next attempt now state outcome _ hcheck hverdict ih =>
    obtain ⟨starts, trace, hrun⟩ := ih
    refine ⟨starts ++ [now], trace ++ (outcome.trace ++ wait.note (attempt + 1)), fun checks => ?_⟩
    have hlength : (starts ++ [now]).length + checks = starts.length + (checks + 1) := by
      simp only [List.length_append, List.length_singleton]
      omega
    rw [hlength, hrun, run_from_of_goes_on hcheck hverdict, Option.map_map,
      ← Report.behind_behind]
    rfl

/-- The loop comes to every check of a run. -/
theorem Wait.reaches_of_mem_starts {wait : Wait σ α} {budget : Nat} {initial : σ} {start : Instant}
    (checks : Nat) : ∀ {attempt : UInt32} {now : Instant} {state : σ} {report : Report σ α},
      wait.Reaches budget initial attempt now state →
      wait.runFrom budget checks attempt now state = some report → start ∈ report.starts →
      ∃ attempt state, wait.Reaches budget initial attempt start state := by
  induction checks with
  | zero =>
    intro attempt now state report _ hrun
    cases hrun
  | succ checks ih =>
    intro attempt now state report h hrun hmem
    obtain ⟨outcome, hcheck, ⟨result, event, -, rfl⟩ | ⟨rest, hgo, hrest, rfl⟩⟩ :=
      run_from_eq_some hrun
    · obtain rfl := List.mem_singleton.mp hmem
      exact ⟨attempt, state, h⟩
    · rcases List.mem_cons.mp hmem with rfl | hmem
      · exact ⟨attempt, state, h⟩
      · exact ih (.next h hcheck hgo) hrest hmem

/-! ## Courses -/

namespace Course

variable {course : Course σ α} {budget : Nat}

/-- The loop comes to exactly those places of a course before which no check settles the wait. -/
theorem reaches_iff {attempt : UInt32} {now : Instant} {state : σ} :
    course.wait.Reaches budget course.state attempt now state ↔
      ∃ k, (∀ j < k, ¬ course.Settles j) ∧ attempt = UInt32.ofNat k ∧
        course.place k = (now, state) := by
  constructor
  · intro h
    induction h with
    | first => exact ⟨0, nofun, rfl, rfl⟩
    | @next attempt now state outcome _ hcheck hverdict ih =>
      obtain ⟨k, hbefore, rfl, hplace⟩ := ih
      have houtcome : course.outcome k = outcome := by
        rw [Course.outcome, hplace]
        exact Option.some.inj hcheck
      subst houtcome
      have hk : ¬ course.Settles k := by
        intro hsettles
        have hover := verdict_of_settles hsettles
        rw [attempt_succ] at hover
        cases hover.symm.trans hverdict
      refine ⟨k + 1, fun j hj => ?_, (attempt_succ k).symm, rfl⟩
      rcases Nat.lt_succ_iff_lt_or_eq.mp hj with hj | rfl
      · exact hbefore j hj
      · exact hk
  · rintro ⟨k, hbefore, rfl, hplace⟩
    induction k generalizing now state with
    | zero =>
      cases hplace
      exact .first
    | succ k ih =>
      have hreached := ih (fun j hj => hbefore j (Nat.lt_succ_of_lt hj)) rfl
      have hgo := verdict_of_not_settles (hbefore k (Nat.lt_succ_self k)) (UInt32.ofNat k + 1)
      rw [attempt_succ]
      cases hplace
      exact .next hreached rfl hgo

/-- A wait has a report exactly if it settles some day and may make that many checks. -/
theorem run_eq_some_iff {report : Report σ α} :
    course.run budget = some report ↔
      ∃ n, IsLeast {k | course.Settles k} n ∧ n < budget ∧ report = course.report n := by
  constructor
  · intro h
    rcases last_or_never course with ⟨n, hn⟩ | hnever
    · rw [run_eq hn] at h
      by_cases hlt : n < budget
      · rw [if_pos hlt] at h
        exact ⟨n, hn, hlt, (Option.some.inj h).symm⟩
      · rw [if_neg hlt] at h
        cases h
    · rw [run_eq_none hnever] at h
      cases h
  · rintro ⟨n, hn, hlt, rfl⟩
    rw [run_eq hn, if_pos hlt]

/-- A report has the start of every check up to the last one. -/
theorem length_starts_report (n : Nat) : (course.report n).starts.length = n + 1 := by
  simp [report]

/-- A run goes through the place of every check before which nothing settles the wait, with the
number of the checks before it in its counter, and behind what these have left. -/
theorem run_from_of_not_settles (budget : Nat) {k : Nat} (h : ∀ j < k, ¬ course.Settles j)
    (checks : Nat) :
    course.wait.runFrom budget (k + checks) 0 course.start course.state =
      (course.wait.runFrom budget checks (UInt32.ofNat k) (course.place k).1
        (course.place k).2).map
          (Report.behind ((List.range k).map course.begins)
            ((List.range k).flatMap course.passage)) := by
  induction k generalizing checks with
  | zero =>
    rw [List.range_zero, List.map_nil, List.flatMap_nil, Report.behind_nil, Option.map_id, id,
      Nat.zero_add]
    rfl
  | succ k ih =>
    have hnext : _ = Option.map (Report.behind [course.begins k] (course.passage k)) _ :=
      run_from_place_succ (h k (Nat.lt_succ_self k)) budget checks
    rw [Nat.succ_add_eq_add_succ, ih (fun j hj => h j (Nat.lt_succ_of_lt hj)) (checks + 1), hnext,
      Option.map_map, Report.behind_behind, List.range_succ, List.map_append, List.flatMap_append,
      List.flatMap_singleton]
    rfl

end Course

/-! ## Scenes -/

namespace Scenes

variable (scenes : Scenes α) (policy : PollPolicy) (operation : String) (start : Instant)

/-- The wait over scenes. -/
def wait : Wait (List Instant) α := ⟨policy, operation, scenes.check, start⟩

/-- As long as nothing settles the wait, the loop comes to the next check of the schedule. -/
theorem reaches_of_not_settles (budget : Nat) {k : Nat}
    (h : ∀ j < k, ¬ (scenes.course policy operation start).Settles j) :
    (scenes.wait policy operation start).Reaches budget [] (UInt32.ofNat k)
      (scenes.begins policy start k) ((List.range k).map (scenes.begins policy start)) :=
  Course.reaches_iff.mpr ⟨k, h, rfl, scenes.course_place policy operation start k⟩

/-- The starts in a report are those of the schedule. -/
theorem starts_report (n : Nat) :
    ((scenes.course policy operation start).report n).starts =
      (List.range (n + 1)).map (scenes.begins policy start) :=
  List.map_congr_left fun k _ => scenes.course_begins policy operation start k

variable {scenes policy operation start}

/-- What the loop comes to over scenes: the checks of the schedule, with the instants of the checks
before them. -/
theorem place_of_reaches {budget : Nat} {attempt : UInt32} {now : Instant} {seen : List Instant}
    (h : (scenes.wait policy operation start).Reaches budget [] attempt now seen) :
    (∀ j < seen.length, ¬ (scenes.course policy operation start).Settles j) ∧
      attempt = UInt32.ofNat seen.length ∧ now = scenes.begins policy start seen.length ∧
      seen = (List.range seen.length).map (scenes.begins policy start) := by
  have hcourse : (scenes.course policy operation start).wait.Reaches budget [] attempt now seen := h
  obtain ⟨k, hbefore, rfl, hplace⟩ := Course.reaches_iff.mp hcourse
  rw [course_place] at hplace
  obtain ⟨rfl, rfl⟩ := Prod.mk.inj hplace
  rw [List.length_map, List.length_range]
  exact ⟨hbefore, rfl, rfl, rfl⟩

end Scenes

end StorageBackend.Poll

import StorageBackend.Proofs.Poll.Reach

/-!
# Waits with a longer timeout

Two waits that differ in their timeouts alone make the same checks as long as both go on: a pause
depends on the deadline only by ending the wait. So a longer timeout keeps every value and every
error that a check gives, and what runs out of time either does so in the same way or goes on with
another check (`longer_timeout_keeps`).
-/

namespace StorageBackend.Poll

variable {σ α : Type}

namespace Course

/-- The same course with another timeout. -/
def withTimeout (course : Course σ α) (timeout : Duration) : Course σ α :=
  { course with policy := { course.policy with timeout := timeout } }

variable {course : Course σ α} {longer : Duration}

/-- The places of the checks do not depend on the timeout. -/
theorem place_with_timeout (k : Nat) :
    (course.withTimeout longer).place k = course.place k := by
  induction k with
  | zero => rfl
  | succ k ih =>
    rw [place, place, ih]
    rfl

/-- Another timeout does not change when the checks begin. -/
theorem begins_with_timeout (k : Nat) :
    (course.withTimeout longer).begins k = course.begins k := by
  rw [begins, begins, place_with_timeout]

/-- Nor does it change their outcomes. -/
theorem outcome_with_timeout (k : Nat) :
    (course.withTimeout longer).outcome k = course.outcome k := by
  rw [outcome, outcome, place_with_timeout]
  rfl

/-- The checks find the same. -/
theorem found_with_timeout (k : Nat) :
    (course.withTimeout longer).found k = course.found k := by
  rw [found, found, outcome_with_timeout]

/-- They end at the same instants. -/
theorem ends_with_timeout (k : Nat) :
    (course.withTimeout longer).ends k = course.ends k := by
  rw [ends, ends, outcome_with_timeout]

/-- A wait that ends with the same check gives the same result. -/
theorem result_with_timeout (k : Nat) :
    (course.withTimeout longer).result k = course.result k := by
  rw [result, result, found_with_timeout, ends_with_timeout]
  rfl

/-- The same can be seen of a check and of the pause after it. -/
theorem passage_with_timeout (k : Nat) :
    (course.withTimeout longer).passage k = course.passage k := by
  rw [passage, passage, outcome_with_timeout]
  rfl

/-- The last event tells the timeout only if the wait runs out of time. -/
theorem closing_with_timeout {k : Nat} (h : course.found k ≠ .ok none) :
    (course.withTimeout longer).closing k = course.closing k := by
  rw [closing, closing, found_with_timeout, ends_with_timeout]
  cases hfound : course.found k with
  | error error => rfl
  | ok value? =>
    cases value? with
    | none => exact absurd hfound h
    | some value => rfl

/-- A wait that ends with the same check has made its checks at the same instants. -/
theorem starts_with_timeout (n : Nat) :
    ((course.withTimeout longer).report n).starts = (course.report n).starts := by
  show (List.range (n + 1)).map (course.withTimeout longer).begins =
    (List.range (n + 1)).map course.begins
  exact List.map_congr_left fun k _ => begins_with_timeout k

/-- A wait that ends with a value or an error of a check has the same report. -/
theorem report_with_timeout {n : Nat} (h : course.found n ≠ .ok none) :
    (course.withTimeout longer).report n = course.report n := by
  have hpassage : (course.withTimeout longer).passage = course.passage :=
    funext passage_with_timeout
  have hbegins : (course.withTimeout longer).begins = course.begins := funext begins_with_timeout
  rw [report, report, result_with_timeout, ends_with_timeout, outcome_with_timeout, hpassage,
    hbegins, farewell, farewell, outcome_with_timeout, closing_with_timeout h]

/-- Whatever settles a wait with a longer timeout settles the wait with the shorter one. -/
theorem settles_of_with_timeout (hle : course.policy.timeout.nanos ≤ longer.nanos) {k : Nat}
    (h : (course.withTimeout longer).Settles k) : course.Settles k := by
  rcases h with hfound | ⟨hbounded, hlate⟩
  · rw [found_with_timeout] at hfound
    exact .inl hfound
  · rw [ends_with_timeout] at hlate
    have hdeadline : course.start + course.policy.timeout.nanos ≤ course.start + longer.nanos :=
      Nat.add_le_add_left hle _
    exact .inr ⟨Nat.lt_of_le_of_lt hdeadline hbounded, Nat.lt_of_le_of_lt hdeadline hlate⟩

/-- The first check that settles a wait settles it with a longer timeout as well, or is followed by
another one. -/
theorem least_with_timeout (hle : course.policy.timeout.nanos ≤ longer.nanos) {n : Nat}
    (h : IsLeast {k | course.Settles k} n) :
    IsLeast {k | (course.withTimeout longer).Settles k} n ∨
      ∀ k ≤ n, ¬ (course.withTimeout longer).Settles k := by
  by_cases hn : (course.withTimeout longer).Settles n
  · exact .inl ⟨hn, fun k hk => h.2 (settles_of_with_timeout hle hk)⟩
  · refine .inr fun k hk hsettles => ?_
    have hfirst : n ≤ k := h.2 (settles_of_with_timeout hle hsettles)
    obtain rfl := Nat.le_antisymm hk hfirst
    exact hn hsettles

/-- The checks of a wait that goes on after the check number `n` begin like those of one that ends
with it. -/
theorem starts_of_later (course : Course σ α) {n m : Nat} (h : n < m) :
    ∃ more, more ≠ [] ∧ (course.report m).starts = (course.report n).starts ++ more := by
  obtain ⟨d, rfl⟩ := Nat.exists_eq_add_of_lt h
  refine ⟨((List.range (d + 1)).map (n + 1 + ·)).map course.begins, by simp, ?_⟩
  have hrange : n + d + 1 + 1 = n + 1 + (d + 1) := by omega
  show (List.range (n + d + 1 + 1)).map course.begins = (List.range (n + 1)).map course.begins ++ _
  rw [hrange, List.range_add, List.map_append]

end Course

/-- With a longer timeout, which may be so long that there is no deadline, a wait keeps every value
and every error that a check gives, with the same checks at the same instants and the same traces. A
wait that has run out of time makes the same checks, and then either runs out of time after them as
well, having waited as long, or goes on to another check. -/
theorem longer_timeout_keeps (scenes : Scenes α) (interval timeout longer : Duration)
    (operation : String) (start : Instant) (hle : timeout.nanos ≤ longer.nanos) (budget n : Nat)
    (report : Report (List Instant) α)
    (hrun : run ⟨interval, timeout⟩ operation scenes.check budget start [] = some report)
    (hlength : report.starts.length = n + 1) :
    ((scenes n).found ≠ .ok none →
      run ⟨interval, longer⟩ operation scenes.check budget start [] = some report) ∧
    ((scenes n).found = .ok none →
      ∃ waited, report.outcome.result = .error (.timeout operation waited) ∧
        ((∃ other, run ⟨interval, longer⟩ operation scenes.check budget start [] = some other ∧
            other.starts = report.starts ∧ other.outcome.result = report.outcome.result) ∨
          ((∃ attempt now, (scenes.wait ⟨interval, longer⟩ operation start).Reaches budget []
              attempt now report.starts) ∧
            ∀ budget other,
              run ⟨interval, longer⟩ operation scenes.check budget start [] = some other →
              ∃ more, more ≠ [] ∧ other.starts = report.starts ++ more))) := by
  let course := scenes.course ⟨interval, timeout⟩ operation start
  have hcourse : course.run budget = some report := hrun
  obtain ⟨last, hleast, hbudget, rfl⟩ := Course.run_eq_some_iff.mp hcourse
  obtain rfl : last = n := by
    rw [Course.length_starts_report] at hlength
    exact Nat.succ.inj hlength
  have hfoundAt : course.found last = (scenes last).found := Scenes.course_found _ _ _ _ _
  have hout : (scenes last).found = .ok none → (course.report last).outcome.result =
      .error (.timeout operation (Clock.elapsed start (course.ends last))) := by
    intro hfound
    show course.result last = _
    rw [Course.result, hfoundAt, hfound]
    rfl
  rcases Course.least_with_timeout hle hleast with hsame | hgo
  · have hother : (course.withTimeout longer).run budget =
        some ((course.withTimeout longer).report last) :=
      Course.run_eq_some_iff.mpr ⟨last, hsame, hbudget, rfl⟩
    refine ⟨fun hfound => ?_, fun hfound => ⟨_, hout hfound, .inl ⟨_, hother, ?_, ?_⟩⟩⟩
    · rw [← hfoundAt] at hfound
      rw [Course.report_with_timeout hfound] at hother
      exact hother
    · exact Course.starts_with_timeout last
    · exact Course.result_with_timeout last
  · have hpending : (scenes last).found = .ok none := by
      by_contra hfound
      refine hgo last (Nat.le_refl last) (.inl ?_)
      rwa [Course.found_with_timeout, hfoundAt]
    refine ⟨fun hfound => absurd hpending hfound, fun hfound => ⟨_, hout hfound, .inr ⟨?_, ?_⟩⟩⟩
    · have hreached := scenes.reaches_of_not_settles ⟨interval, longer⟩ operation start budget
        fun j hj => hgo j (Nat.le_of_lt_succ hj)
      have hstarts := (scenes.starts_report ⟨interval, longer⟩ operation start last).symm.trans
        (Course.starts_with_timeout last : _ = (course.report last).starts)
      rw [hstarts] at hreached
      exact ⟨_, _, hreached⟩
    · intro budget other hother
      have hother : (course.withTimeout longer).run budget = some other := hother
      obtain ⟨m, hm, -, rfl⟩ := Course.run_eq_some_iff.mp hother
      have hlt : last < m := Nat.lt_of_not_le fun hle => hgo m hle hm.1
      obtain ⟨more, hmore, hstarts⟩ := course.starts_of_later hlt
      refine ⟨more, hmore, ?_⟩
      rw [Course.starts_with_timeout, hstarts]

/-- Two checks that find nothing, the first of them slowly, and then checks that find something. -/
def lateScenes : Scenes Nat
  | 0 => ⟨.ok none, ⟨400000000⟩⟩
  | 1 => ⟨.ok none, ⟨0⟩⟩
  | _ + 2 => ⟨.ok (some 7), ⟨0⟩⟩

/-- The most whole seconds of a duration: so long that an end of the wait cannot be represented. -/
def endless : Duration := .ofSeconds (twoTo 64 - 1)

/-- The wait with the short timeout is over after one check, and the one without a deadline goes on
from there. -/
theorem endless_wait_goes_on :
    (Duration.ofSeconds 1).nanos ≤ endless.nanos ∧
      ∃ report other more,
        run ⟨.ofSeconds 1, .ofSeconds 1⟩ "value" lateScenes.check 3 0 [] = some report ∧
        report.starts = [0] ∧
        run ⟨.ofSeconds 1, endless⟩ "value" lateScenes.check 3 0 [] = some other ∧
        other.outcome.result = .ok 7 ∧ more ≠ [] ∧ other.starts = report.starts ++ more := by
  refine ⟨by decide, ?_⟩
  obtain ⟨waited, -, ⟨other, hother, hstarts, -⟩ | ⟨-, hlater⟩⟩ :=
    (longer_timeout_keeps lateScenes (.ofSeconds 1) (.ofSeconds 1) endless "value" 0 (by decide) 3 0
      _ rfl rfl).2 rfl
  · cases hother
    exact absurd hstarts (by decide)
  · obtain ⟨more, hmore, hstarts⟩ := hlater 3 _ rfl
    exact ⟨_, _, more, rfl, rfl, rfl, rfl, hmore, hstarts⟩

end StorageBackend.Poll

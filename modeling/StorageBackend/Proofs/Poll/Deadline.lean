import StorageBackend.Proofs.Poll.Reach

/-!
# Waits with a deadline

A wait that goes on after a check has time for another pause: the end of the pause is not after the
deadline, so it can be represented, and the sleep takes the whole pause. From this follow a lower
bound on the instants of the checks (`Course.le_begins`), an upper bound on their number
(`Course.exists_last`), and the statement of how well a wait keeps its deadline
(`scenes_keep_deadline`).
-/

namespace StorageBackend.Poll

variable {σ α : Type}

namespace Course

variable {course : Course σ α}

/-- A check that does not settle a wait with a deadline leaves time for a whole pause. -/
theorem pause_in_time (hbounded : course.IsBounded) {k : Nat} (h : ¬ course.Settles k) :
    course.ends k + course.policy.interval.nanos ≤ course.start + course.policy.timeout.nanos := by
  have hlate : ¬ course.IsLate k := (not_or.mp h).2
  refine Nat.le_of_not_lt fun hlt => ?_
  exact hlate ⟨hbounded, hlt⟩

/-- Before a check that does not settle the wait the end of the pause can be represented. -/
theorem pause_lt_horizon (hbounded : course.IsBounded) {k : Nat} (h : ¬ course.Settles k) :
    course.ends k + course.policy.interval.nanos < Clock.horizon :=
  Nat.lt_of_le_of_lt (pause_in_time hbounded h) hbounded

/-- The next check begins at the first whole millisecond after the pause. -/
theorem begins_succ_of_not_settles (hbounded : course.IsBounded) {k : Nat}
    (h : ¬ course.Settles k) :
    course.begins (k + 1) =
      Clock.ceilMilli (course.ends k + course.policy.interval.nanos) := by
  rw [begins_succ, Clock.wake_of_lt_horizon (pause_lt_horizon hbounded h)]

/-- Between two checks there is a whole pause. -/
theorem pause_before_begins (hbounded : course.IsBounded) {k : Nat} (h : ¬ course.Settles k) :
    course.ends k + course.policy.interval.nanos ≤ course.begins (k + 1) := by
  rw [begins_succ_of_not_settles hbounded h]
  exact Clock.le_ceil_milli _

/-- A check does not begin after a whole millisecond that is not before the deadline. -/
theorem begins_le (hbounded : course.IsBounded) {k : Nat} (h : ¬ course.Settles k) {t : Instant}
    (ht : Duration.perMilli ∣ t) (hdeadline : course.start + course.policy.timeout.nanos ≤ t) :
    course.begins (k + 1) ≤ t := by
  rw [begins_succ_of_not_settles hbounded h]
  exact Clock.ceil_milli_le ht (Nat.le_trans (pause_in_time hbounded h) hdeadline)

/-- A check begins less than a millisecond after the deadline, if at all. -/
theorem begins_lt (hbounded : course.IsBounded) {k : Nat} (h : ¬ course.Settles k) :
    course.begins (k + 1) <
      course.start + course.policy.timeout.nanos + Duration.perMilli :=
  Nat.lt_of_le_of_lt (begins_le hbounded h (Clock.dvd_ceil_milli _) (Clock.le_ceil_milli _))
    (Clock.ceil_milli_lt _)

/-- If the check number `k` begins `k` pauses after the start, the pause after it ends one later. -/
theorem add_pause_le (hforward : ∀ k, course.begins k ≤ course.ends k) {k : Nat}
    (h : course.start + k * course.policy.interval.nanos ≤ course.begins k) :
    course.start + (k + 1) * course.policy.interval.nanos ≤
      course.ends k + course.policy.interval.nanos := by
  rw [Nat.succ_mul, ← Nat.add_assoc]
  exact Nat.add_le_add_right (Nat.le_trans h (hforward k)) _

/-- With every check the clock has moved on by a pause at least. -/
theorem le_begins (hbounded : course.IsBounded) (hforward : ∀ k, course.begins k ≤ course.ends k)
    {k : Nat} (hbefore : ∀ j < k, ¬ course.Settles j) :
    course.start + k * course.policy.interval.nanos ≤ course.begins k := by
  induction k with
  | zero =>
    rw [Nat.zero_mul]
    exact Nat.le_refl _
  | succ k ih =>
    have hbegins := ih fun j hj => hbefore j (Nat.lt_succ_of_lt hj)
    have hpause := pause_before_begins hbounded (hbefore k (Nat.lt_succ_self k))
    exact Nat.le_trans (add_pause_le hforward hbegins) hpause

/-- No more checks go on than there are pauses in the timeout. -/
theorem le_timeout_div (hbounded : course.IsBounded)
    (hforward : ∀ k, course.begins k ≤ course.ends k)
    (hinterval : 0 < course.policy.interval.nanos) {k : Nat}
    (hbefore : ∀ j < k, ¬ course.Settles j) :
    k ≤ course.policy.timeout.nanos / course.policy.interval.nanos := by
  rw [Nat.le_div_iff_mul_le hinterval]
  cases k with
  | zero =>
    rw [Nat.zero_mul]
    exact Nat.zero_le _
  | succ k =>
    have hbegins := le_begins hbounded hforward fun j hj => hbefore j (Nat.lt_succ_of_lt hj)
    have htime := pause_in_time hbounded (hbefore k (Nat.lt_succ_self k))
    exact Nat.le_of_add_le_add_left (Nat.le_trans (add_pause_le hforward hbegins) htime)

/-- A wait with a deadline and a pause settles, after no more checks than there are pauses in the
timeout and one. -/
theorem exists_last (hbounded : course.IsBounded)
    (hforward : ∀ k, course.begins k ≤ course.ends k)
    (hinterval : 0 < course.policy.interval.nanos) :
    ∃ n, IsLeast {k | course.Settles k} n ∧
      n ≤ course.policy.timeout.nanos / course.policy.interval.nanos := by
  rcases last_or_never course with ⟨n, hn⟩ | hnever
  · refine ⟨n, hn, le_timeout_div hbounded hforward hinterval fun j hj hsettles => ?_⟩
    exact absurd (hn.2 hsettles) (Nat.not_le.mpr hj)
  · have hle := le_timeout_div hbounded hforward hinterval
      (k := course.policy.timeout.nanos / course.policy.interval.nanos + 1) fun j _ => hnever j
    omega

end Course

/-! ## Scenes -/

namespace Scenes

variable {scenes : Scenes α} {policy : PollPolicy} {operation : String} {start : Instant}

/-- Scenes take no negative time. -/
theorem course_forward (k : Nat) :
    (scenes.course policy operation start).begins k ≤
      (scenes.course policy operation start).ends k := by
  rw [course_begins, course_ends]
  exact Nat.le_add_right _ _

/-- The result of a wait that runs out of time, with bounds on how long it has lasted. -/
theorem result_of_run_out (hdeadline : start + policy.timeout.nanos < Clock.horizon) {n : Nat}
    (hleast : IsLeast {k | (scenes.course policy operation start).Settles k} n)
    (hfound : (scenes n).found = .ok none) :
    ∃ waited,
      (scenes.course policy operation start).result n = .error (.timeout operation ⟨waited⟩) ∧
      policy.timeout.nanos < waited + policy.interval.nanos ∧
      (0 < n → waited < policy.timeout.nanos + Duration.perMilli + (scenes n).takes.nanos) ∧
      (n = 0 → waited = (scenes n).takes.nanos) := by
  have hlate : (scenes.course policy operation start).IsLate n := by
    rcases hleast.1 with hother | hlate
    · rw [course_found] at hother
      exact absurd hfound hother
    · exact hlate
  have htime : start + policy.timeout.nanos <
      scenes.begins policy start n + (scenes n).takes.nanos + policy.interval.nanos := by
    have hafter := hlate.2
    rw [course_ends] at hafter
    exact hafter
  refine ⟨scenes.ends policy start n - start, ?_, ?_, fun hn => ?_, ?_⟩
  · rw [course_result, result, hfound]
  · simp only [ends, Instant] at htime ⊢
    omega
  · obtain ⟨k, rfl⟩ := Nat.exists_eq_add_of_lt hn
    rw [Nat.zero_add] at hleast ⊢
    have hgo : ¬ (scenes.course policy operation start).Settles k := fun hsettles =>
      absurd (hleast.2 hsettles) (Nat.not_succ_le_self k)
    have hbounded : (scenes.course policy operation start).IsBounded := hdeadline
    have hbegins : _ < start + policy.timeout.nanos + Duration.perMilli :=
      Course.begins_lt hbounded hgo
    rw [course_begins] at hbegins
    simp only [ends, Duration.perMilli, Instant] at hbegins ⊢
    omega
  · rintro rfl
    exact Nat.add_sub_cancel_left start _

end Scenes

/-- How well a wait keeps its deadline. Every check that its loop comes to, and so every check of a
run, except the first one begins no later than any whole millisecond that is not before the
deadline, and a whole pause after the end of the check before it. If the last check of a run finds
nothing, the wait has run out of time: another pause would not have been in time, and the wait has
lasted less than a millisecond longer than it may and than its last check takes, or just as long as
its only check. -/
theorem scenes_keep_deadline (scenes : Scenes α) (policy : PollPolicy) (operation : String)
    (start : Instant) (hdeadline : start + policy.timeout.nanos < Clock.horizon) (budget : Nat) :
    (∀ report, run policy operation scenes.check budget start [] = some report →
      ∀ now ∈ report.starts, ∃ attempt seen,
        (scenes.wait policy operation start).Reaches budget [] attempt now seen) ∧
    (∀ attempt now seen before,
      (scenes.wait policy operation start).Reaches budget [] attempt now (seen ++ [before]) →
      (∀ t, Duration.perMilli ∣ t → start + policy.timeout.nanos ≤ t → now ≤ t) ∧
        before + (scenes seen.length).takes.nanos + policy.interval.nanos ≤ now) ∧
    (∀ report n, run policy operation scenes.check budget start [] = some report →
      report.starts.length = n + 1 → (scenes n).found = .ok none →
      ∃ waited, report.outcome.result = .error (.timeout operation ⟨waited⟩) ∧
        policy.timeout.nanos < waited + policy.interval.nanos ∧
        (0 < n → waited < policy.timeout.nanos + Duration.perMilli + (scenes n).takes.nanos) ∧
        (n = 0 → waited = (scenes n).takes.nanos)) := by
  let course := scenes.course policy operation start
  have hbounded : course.IsBounded := hdeadline
  refine ⟨fun report hrun now hnow => ?_, fun attempt now seen before hreached => ?_,
    fun report n hrun hlength hfound => ?_⟩
  · exact Wait.reaches_of_mem_starts budget .first hrun hnow
  · obtain ⟨hbefore, -, rfl, hseen⟩ := Scenes.place_of_reaches hreached
    rw [List.length_append, List.length_singleton] at hbefore hseen ⊢
    have hgo : ¬ course.Settles seen.length := hbefore _ (Nat.lt_succ_self _)
    have hlast : before = course.begins seen.length := by
      rw [List.range_succ, List.map_append] at hseen
      have hsame := (List.append_inj' hseen rfl).2
      rw [Scenes.course_begins]
      exact List.head_eq_of_cons_eq hsame
    rw [← scenes.course_begins policy operation start]
    refine ⟨fun t ht hle => Course.begins_le hbounded hgo ht hle, ?_⟩
    have hpause := Course.pause_before_begins hbounded hgo
    rw [Scenes.course_ends] at hpause
    rw [hlast, Scenes.course_begins]
    exact hpause
  · have hcourse : course.run budget = some report := hrun
    obtain ⟨last, hleast, -, rfl⟩ := Course.run_eq_some_iff.mp hcourse
    obtain rfl : last = n := by
      rw [Course.length_starts_report] at hlength
      exact Nat.succ.inj hlength
    exact Scenes.result_of_run_out hdeadline hleast hfound

/-- A pause of a millisecond and a half, and two milliseconds in all. -/
def hastyPolicy : PollPolicy := ⟨⟨1500000⟩, ⟨2000000⟩⟩

/-- Checks that find nothing and take a fifth of a millisecond. -/
def shortScenes : Scenes Nat := fun _ => ⟨.ok none, ⟨200000⟩⟩

/-- From the middle of a millisecond on, the second check begins half a millisecond after the
deadline, at the first whole millisecond. -/
theorem late_check_on_grid :
    500000 + hastyPolicy.timeout.nanos < Clock.horizon ∧
      ∃ report, run hastyPolicy "value" shortScenes.check 2 500000 [] = some report ∧
        report.starts = [500000, 3000000] ∧
        ∃ waited, report.outcome.result = .error (.timeout "value" ⟨waited⟩) ∧
          2000000 < waited + 1500000 ∧ waited < 2000000 + Duration.perMilli + 200000 := by
  refine ⟨by decide, _, rfl, rfl, ?_⟩
  obtain ⟨waited, hresult, hearly, hlate, -⟩ :=
    (scenes_keep_deadline shortScenes hastyPolicy "value" 500000 (by decide) 2).2.2 _ 1 rfl rfl rfl
  exact ⟨waited, hresult, hearly, hlate Nat.zero_lt_one⟩

end StorageBackend.Poll

import StorageBackend.Proofs.CommandLine.Range
import StorageBackend.Proofs.Poll.Deadline

/-!
# The number of checks of a wait

A wait with a pause and a deadline ends, whatever its checks do: it makes no more checks than there
are pauses in its timeout, and one. So the counter of a wait that was asked for on a command line
never wraps around, and always says how many checks have been made (`bounded_wait_ends`).
-/

namespace StorageBackend.Poll

variable {α : Type} {scenes : Scenes α} {policy : PollPolicy} {operation : String} {start : Instant}

/-- In a timeout of a day there are no more pauses of a second than seconds. -/
theorem timeout_div_le (h : CommandLine.InLimits policy) :
    policy.timeout.nanos / policy.interval.nanos ≤ 86400 := by
  obtain ⟨pause, limit, rfl, ⟨hpause, -⟩, -, hlimit⟩ := h
  have hlongest : limit ≤ 86400 := hlimit
  have hinterval : Duration.perSecond ≤ pause * Duration.perSecond :=
    Nat.le_mul_of_pos_left _ hpause
  calc limit * Duration.perSecond / (pause * Duration.perSecond)
      ≤ limit * Duration.perSecond / Duration.perSecond :=
        Nat.div_le_div_left hinterval (by decide)
    _ = limit := Nat.mul_div_cancel _ (by decide)
    _ ≤ 86400 := hlongest

/-- As long as a wait goes on, its counter is the number of checks that have been made. -/
theorem counter_of_reaches (hinterval : 0 < policy.interval.nanos)
    (hdeadline : start + policy.timeout.nanos < Clock.horizon)
    (hfew : policy.timeout.nanos / policy.interval.nanos + 1 < UInt32.size) {budget : Nat}
    {attempt : UInt32} {now : Instant} {seen : List Instant}
    (h : (scenes.wait policy operation start).Reaches budget [] attempt now seen) :
    attempt.toNat = seen.length ∧ (attempt + 1).toNat = seen.length + 1 := by
  obtain ⟨hbefore, rfl, -, -⟩ := Scenes.place_of_reaches h
  have hbounded : (scenes.course policy operation start).IsBounded := hdeadline
  have hle : seen.length ≤ policy.timeout.nanos / policy.interval.nanos :=
    Course.le_timeout_div hbounded Scenes.course_forward hinterval hbefore
  rw [← Course.attempt_succ]
  constructor
  · exact UInt32.toNat_ofNat_of_lt (by omega)
  · exact UInt32.toNat_ofNat_of_lt (by omega)

/-- A report accounts for the loop of a wait: its checks began on schedule, the loop makes each of
them with the number of the checks before it in its counter, and comes to no other check. -/
structure Accounts (scenes : Scenes α) (policy : PollPolicy) (operation : String) (start : Instant)
    (report : Report (List Instant) α) : Prop where
  starts : report.starts = (List.range report.starts.length).map (scenes.begins policy start)
  /-- The check number `k` is the one of the schedule, from its start to its end. -/
  check : ∀ k < report.starts.length, ∀ budget,
    scenes.check budget (scenes.begins policy start k) (report.starts.take k) =
      some ⟨(scenes k).found, scenes.ends policy start k, report.starts.take (k + 1), []⟩
  /-- A run is the rest of the loop from the check number `k` on, behind the checks before it. -/
  passes : ∀ k < report.starts.length, ∃ trace, ∀ checks,
    run policy operation scenes.check (k + checks) start [] =
      ((scenes.wait policy operation start).runFrom (k + checks) checks (UInt32.ofNat k)
        (scenes.begins policy start k) (report.starts.take k)).map
          (Report.behind (report.starts.take k) trace)
  reaches : ∀ budget attempt now seen,
    (scenes.wait policy operation start).Reaches budget [] attempt now seen ↔
      ∃ k < report.starts.length, attempt = UInt32.ofNat k ∧ now = scenes.begins policy start k ∧
        seen = report.starts.take k

/-- The first starts of a report are those of the schedule. -/
theorem take_starts_report {n k : Nat} (hk : k ≤ n + 1) :
    ((scenes.course policy operation start).report n).starts.take k =
      (List.range k).map (scenes.begins policy start) := by
  rw [scenes.starts_report, ← List.map_take, List.take_range, Nat.min_eq_left hk]

/-- A run that comes to the check number `k` is the rest of the loop from there on, behind the
checks before it. -/
theorem run_behind {k : Nat}
    (hbefore : ∀ j < k, ¬ (scenes.course policy operation start).Settles j) (checks : Nat) :
    let before := (List.range k).map (scenes.begins policy start)
    run policy operation scenes.check (k + checks) start [] =
      ((scenes.wait policy operation start).runFrom (k + checks) checks (UInt32.ofNat k)
        (scenes.begins policy start k) before).map
          (Report.behind before
            ((List.range k).flatMap (scenes.course policy operation start).passage)) := by
  intro before
  have hbegins : (List.range k).map (scenes.course policy operation start).begins = before :=
    List.map_congr_left fun j _ => scenes.course_begins policy operation start j
  have hrun := Course.run_from_of_not_settles (k + checks) hbefore checks
  rw [scenes.course_place, hbegins] at hrun
  exact hrun

/-- The report of a wait that settles with the check number `n` accounts for it. -/
theorem accounts_of_least {n : Nat}
    (hn : IsLeast {k | (scenes.course policy operation start).Settles k} n) :
    Accounts scenes policy operation start ((scenes.course policy operation start).report n) := by
  let course := scenes.course policy operation start
  have hlength : (course.report n).starts.length = n + 1 := Course.length_starts_report n
  have hbefore : ∀ k < n + 1, ∀ j < k, ¬ course.Settles j := fun k hk j hj hsettles => by
    have hfirst : n ≤ j := hn.2 hsettles
    omega
  refine ⟨?_, fun k hk budget => ?_, fun k hk => ?_, fun budget attempt now seen => ⟨?_, ?_⟩⟩
  · rw [hlength]
    exact scenes.starts_report policy operation start n
  · rw [hlength] at hk
    rw [take_starts_report (Nat.le_of_lt hk), take_starts_report hk, Scenes.check,
      List.length_map, List.length_range, List.range_succ, List.map_append]
    rfl
  · rw [hlength] at hk
    rw [take_starts_report (Nat.le_of_lt hk)]
    exact ⟨(List.range k).flatMap course.passage, run_behind (hbefore k hk)⟩
  · intro hreached
    obtain ⟨hgo, hattempt, hnow, hseen⟩ := Scenes.place_of_reaches hreached
    have hk : seen.length < n + 1 :=
      Nat.lt_succ_of_le (Nat.le_of_not_lt fun hlt => hgo n hlt hn.1)
    refine ⟨seen.length, hlength ▸ hk, hattempt, hnow, ?_⟩
    rw [take_starts_report (Nat.le_of_lt hk)]
    exact hseen
  · rintro ⟨k, hk, rfl, rfl, rfl⟩
    rw [hlength] at hk
    rw [take_starts_report (Nat.le_of_lt hk)]
    exact scenes.reaches_of_not_settles policy operation start budget (hbefore k hk)

/-- A wait with a pause and a deadline ends, after no more checks than there are pauses in its
timeout, and one; its report accounts for all of its loop. As long as it goes on, the end of every
pause can be represented. A command line admits no wait with more than 86401 checks, and the counter
of such a wait is always the number of its checks: it does not wrap around. -/
theorem bounded_wait_ends (scenes : Scenes α) (policy : PollPolicy) (operation : String)
    (start : Instant) (hinterval : 0 < policy.interval.nanos)
    (hdeadline : start + policy.timeout.nanos < Clock.horizon) :
    ∃ report,
      (∀ budget, report.starts.length ≤ budget →
        run policy operation scenes.check budget start [] = some report) ∧
      Accounts scenes policy operation start report ∧
      report.starts.length ≤ policy.timeout.nanos / policy.interval.nanos + 1 ∧
      (∀ k, k + 1 < report.starts.length →
        (Clock.after (scenes.ends policy start k) policy.interval).isSome) ∧
      (CommandLine.Admits policy → CommandLine.InLimits policy) ∧
      (CommandLine.InLimits policy → report.starts.length ≤ 86401 ∧
        ∀ budget attempt now seen,
          (scenes.wait policy operation start).Reaches budget [] attempt now seen →
          attempt.toNat = seen.length ∧ (attempt + 1).toNat = seen.length + 1) := by
  let course := scenes.course policy operation start
  have hbounded : course.IsBounded := hdeadline
  obtain ⟨n, hn, hle⟩ : ∃ n, IsLeast {k | course.Settles k} n ∧
      n ≤ policy.timeout.nanos / policy.interval.nanos :=
    Course.exists_last hbounded Scenes.course_forward hinterval
  have hlength : (course.report n).starts.length = n + 1 := Course.length_starts_report n
  refine ⟨course.report n, fun budget hbudget => ?_, accounts_of_least hn, ?_, fun k hk => ?_,
    CommandLine.in_limits_of_admits,
    fun hlimits => ⟨?_, fun budget attempt now seen hreached => ?_⟩⟩
  · have hrun : course.run budget = some (course.report n) := by
      rw [Course.run_eq hn, if_pos (by omega)]
    exact hrun
  · rw [hlength]
    exact Nat.succ_le_succ hle
  · have hgo : ¬ course.Settles k := fun hsettles => by
      have hfirst : n ≤ k := hn.2 hsettles
      omega
    have hend : _ + policy.interval.nanos < Clock.horizon :=
      Course.pause_lt_horizon hbounded hgo
    rw [Scenes.course_ends] at hend
    simp [Clock.after, hend]
  · have hfew := timeout_div_le hlimits
    rw [hlength]
    omega
  · have hfew := timeout_div_le hlimits
    refine counter_of_reaches hinterval hdeadline ?_ hreached
    simp only [UInt32.size]
    omega

/-- Checks that never find anything and take three quarters of a second. -/
def vainScenes : Scenes Nat := fun _ => ⟨.ok none, ⟨750000000⟩⟩

/-- A wait of a command line: a pause of two seconds, and five seconds in all. -/
def briefPolicy : PollPolicy := ⟨.ofSeconds 2, .ofSeconds 5⟩

/-- A command line asks for this wait. -/
theorem admits_brief : CommandLine.Admits briefPolicy :=
  ⟨[], ["resolve", "--poll-interval-secs", "2", "--poll-timeout-secs=5"], _, _, rfl, .inl rfl, rfl⟩

/-- Three checks are the most that this wait may make, and the loop begins each of them with the
number of the checks before it. -/
theorem vain_wait_ends :
    0 < briefPolicy.interval.nanos ∧ 1 + briefPolicy.timeout.nanos < Clock.horizon ∧
      ∃ report, (∀ budget, report.starts.length ≤ budget →
          run briefPolicy "value" vainScenes.check budget 1 [] = some report) ∧
        Accounts vainScenes briefPolicy "value" 1 report ∧
        report.starts.length ≤ 3 ∧
        ∀ budget attempt now seen,
          (vainScenes.wait briefPolicy "value" 1).Reaches budget [] attempt now seen →
          attempt.toNat = seen.length := by
  obtain ⟨report, hrun, haccounts, hlength, -, hlimits, hcounter⟩ :=
    bounded_wait_ends vainScenes briefPolicy "value" 1 (by decide) (by decide)
  refine ⟨by decide, by decide, report, hrun, haccounts, hlength,
    fun budget attempt now seen hreached => ?_⟩
  exact ((hcounter (hlimits admits_brief)).2 budget attempt now seen hreached).1

end StorageBackend.Poll

import StorageBackend.Proofs.Activity
import StorageBackend.Proofs.Poll.Reach

/-!
# The log of a wait

A wait tells after its first attempt, and then after every sixtieth, that it goes on, and at its end
what has become of it. As long as the counter does not wrap around, `log_of_wait` gives the whole
log of a wait that ends: which attempts are told of, how many they are, and the one entry behind
them.
-/

namespace StorageBackend.Poll

open Activity (logged)
open Json (Value)

variable {α : Type}

/-! ## Attempts that are told of -/

/-- Those of the first `n` attempts after which it is told that the wait goes on. -/
def noted (n : Nat) : List Nat := (List.range' 1 n).filter fun a => a = 1 ∨ 60 ∣ a

/-- The first attempt and every sixtieth one are told of. -/
theorem mem_noted_iff {n a : Nat} : a ∈ noted n ↔ 1 ≤ a ∧ a ≤ n ∧ (a = 1 ∨ 60 ∣ a) := by
  simp only [noted, List.mem_filter, List.mem_range'_1, decide_eq_true_eq]
  omega

/-- The attempts are told of in order. -/
theorem noted_increasing (n : Nat) : (noted n).Pairwise (· < ·) :=
  List.Pairwise.filter _ List.pairwise_lt_range'

/-- One more attempt is told of, or not. -/
theorem noted_succ (n : Nat) :
    noted (n + 1) = noted n ++ if n + 1 = 1 ∨ 60 ∣ n + 1 then [n + 1] else [] := by
  have hconcat : List.range' 1 (n + 1) = List.range' 1 n ++ [n + 1] := by
    rw [List.range'_1_concat, Nat.add_comm]
  rw [noted, hconcat, List.filter_append, List.filter_cons, List.filter_nil]
  simp only [decide_eq_true_eq, noted]

/-- Every sixtieth attempt is told of, and the first one. -/
theorem length_noted (n : Nat) : (noted n).length = n / 60 + if n = 0 then 0 else 1 := by
  induction n with
  | zero => rfl
  | succ n ih =>
    rw [noted_succ, List.length_append, ih, if_neg n.succ_ne_zero]
    by_cases hnote : n + 1 = 1 ∨ 60 ∣ n + 1
    · rw [if_pos hnote, List.length_singleton]
      rcases hnote with hfirst | hsixtieth
      · obtain rfl := Nat.succ.inj hfirst
        rfl
      · rw [if_neg (by omega)]
        omega
    · rw [if_neg hnote, if_neg (by omega), List.length_nil]
      omega

/-- As long as the counter does not wrap around, it tells after which attempts something is told. -/
theorem is_noted_eq {a : Nat} (h : a < UInt32.size) :
    isNoted (UInt32.ofNat a) = decide (a = 1 ∨ 60 ∣ a) := by
  have hnat : (UInt32.ofNat a).toNat = a := UInt32.toNat_ofNat_of_lt h
  rw [Bool.eq_iff_iff, decide_eq_true_iff, isNoted, Bool.or_eq_true, beq_iff_eq, beq_iff_eq,
    ← UInt32.toNat_inj, ← UInt32.toNat_inj, UInt32.toNat_mod, hnat, Nat.dvd_iff_mod_eq_zero]
  rfl

/-! ## Entries of the log -/

/-- An entry of the log: how important it is, and its fields. -/
abbrev Entry := Log.Level × List (String × Value)

/-- What is written to the log for an event. -/
def written (event : Log.Event) : Entry := (event.level, event.fields)

/-- What a wait writes after an attempt. -/
def entry (level : Log.Level) (message operation : String) (attempt : Nat)
    (more : List (String × Value)) : Entry :=
  (level, ("message", .string message) :: ("operation", .string operation) ::
    ("attempt", .integer attempt) :: more)

/-- A wait goes on after an attempt. -/
def waiting (operation : String) (attempt : Nat) : Entry :=
  entry .debug "Still waiting" operation attempt []

/-- What the last check of a wait finds, what the wait gives then, and what it writes. -/
inductive Closes (policy : PollPolicy) (operation : String) (attempt elapsed : Nat) :
    Except Error (Option α) → Except Error α → Entry → Prop where
  /-- There is a value. -/
  | met (value : α) :
      Closes policy operation attempt elapsed (.ok (some value)) (.ok value)
        (entry .debug "Poll condition met" operation attempt
          [("elapsed_ms", .integer (elapsed / Duration.perMilli : Nat))])
  /-- The check fails. -/
  | aborted (error : Error) :
      Closes policy operation attempt elapsed (.error error) (.error error)
        (entry .warn "Poll aborted on non-retryable error" operation attempt
          [("error", .string error.message)])
  /-- There is nothing, and no time for another check. -/
  | timedOut :
      Closes policy operation attempt elapsed (.ok none) (.error (.timeout operation ⟨elapsed⟩))
        (entry .warn "Poll timed out" operation attempt
          [("timeout_secs", .integer (policy.timeout.nanos / Duration.perSecond : Nat))])

namespace Scenes

variable {scenes : Scenes α} {policy : PollPolicy} {operation : String} {start : Instant}

/-- No check begins before the wait. -/
theorem start_le_begins (k : Nat) : start ≤ scenes.begins policy start k := by
  induction k with
  | zero => exact Nat.le_refl start
  | succ k ih =>
    calc start ≤ scenes.begins policy start k := ih
      _ ≤ scenes.begins policy start k + (scenes k).takes.nanos := Nat.le_add_right _ _
      _ ≤ scenes.begins policy start (k + 1) := Clock.le_wake _ _

/-- What is written after a check with which the wait goes on. -/
theorem written_passage {k : Nat} (h : k + 1 < UInt32.size) :
    (logged ((scenes.course policy operation start).passage k)).map written =
      (if k + 1 = 1 ∨ 60 ∣ k + 1 then [k + 1] else []).map (waiting operation) := by
  have hnat : (UInt32.ofNat (k + 1)).toNat = k + 1 := UInt32.toNat_ofNat_of_lt h
  rw [Course.passage, course_outcome, List.nil_append, Wait.note, is_noted_eq h]
  by_cases hnote : k + 1 = 1 ∨ 60 ∣ k + 1
  · rw [if_pos hnote, if_pos (decide_eq_true hnote)]
    show [waiting operation (UInt32.ofNat (k + 1)).toNat] = [waiting operation (k + 1)]
    rw [hnat]
  · rw [if_neg hnote, if_neg (by simpa using hnote)]
    rfl

/-- What is written while the wait goes on. -/
theorem written_passages {n : Nat} (h : n < UInt32.size) :
    (logged ((List.range n).flatMap (scenes.course policy operation start).passage)).map written =
      (noted n).map (waiting operation) := by
  -- on the number of checks; each of them adds what is told after it
  induction n with
  | zero => rfl
  | succ n ih =>
    rw [List.range_succ, List.flatMap_append, List.flatMap_singleton, Activity.logged_append,
      List.map_append, ih (Nat.lt_of_succ_lt h), written_passage h, noted_succ, List.map_append]

/-- What is written at the end of a wait. -/
theorem closes_closing {k elapsed : Nat} (h : k + 1 < UInt32.size)
    (helapsed : scenes.ends policy start k = start + elapsed) :
    Closes policy operation (k + 1) elapsed (scenes k).found
      ((scenes.course policy operation start).result k)
      (written ((scenes.course policy operation start).closing k)) := by
  have hnat : (UInt32.ofNat (k + 1)).toNat = k + 1 := UInt32.toNat_ofNat_of_lt h
  have hclock : Clock.elapsed (scenes.course policy operation start).start
      (scenes.ends policy start k) = ⟨elapsed⟩ := by
    show Duration.mk (scenes.ends policy start k - start) = ⟨elapsed⟩
    rw [helapsed, Nat.add_sub_cancel_left]
  simp only [Course.result, Course.closing, course_found, course_ends, hclock]
  generalize UInt32.ofNat (k + 1) = attempt at hnat ⊢
  rw [← hnat]
  cases (scenes k).found with
  | error error => exact .aborted error
  | ok value? =>
    cases value? with
    | some value => exact .met value
    | none => exact .timedOut

end Scenes

/-- A wait that ends before its counter wraps around writes to the log after its first attempt and
after every sixtieth, unless the wait ends there, and then one entry more, for what has become of
it. -/
theorem log_of_wait {scenes : Scenes α} {policy : PollPolicy} {operation : String}
    {start : Instant} {budget : Nat} {report : Report (List Instant) α}
    (h : run policy operation scenes.check budget start [] = some report)
    (hfew : report.starts.length < UInt32.size) :
    ∃ (last elapsed : Nat) (attempts : List Nat) (closing : Entry),
      report.starts.length = last + 1 ∧ report.outcome.now = start + elapsed ∧
      (logged report.outcome.trace).map written = attempts.map (waiting operation) ++ [closing] ∧
      attempts.Pairwise (· < ·) ∧
      (∀ a, a ∈ attempts ↔ 1 ≤ a ∧ a < last + 1 ∧ (a = 1 ∨ 60 ∣ a)) ∧
      attempts.length = last / 60 + (if last = 0 then 0 else 1) ∧
      Closes policy operation (last + 1) elapsed (scenes last).found report.outcome.result
        closing := by
  let course := scenes.course policy operation start
  have hcourse : course.run budget = some report := h
  obtain ⟨last, -, -, rfl⟩ := Course.run_eq_some_iff.mp hcourse
  have hlength : (course.report last).starts.length = last + 1 := Course.length_starts_report last
  rw [hlength] at hfew
  have hstart : start ≤ scenes.ends policy start last :=
    Nat.le_trans (Scenes.start_le_begins last) (Nat.le_add_right _ _)
  obtain ⟨elapsed, helapsed⟩ := Nat.exists_eq_add_of_le hstart
  have hnow : (course.report last).outcome.now = start + elapsed :=
    (scenes.course_ends policy operation start last).trans helapsed
  have hfarewell : course.farewell last = [.log (course.closing last)] := by
    rw [Course.farewell, Scenes.course_outcome]
    rfl
  have hlog : (logged (course.report last).outcome.trace).map written =
      (noted last).map (waiting operation) ++ [written (course.closing last)] := by
    show (logged ((List.range last).flatMap course.passage ++ course.farewell last)).map written = _
    rw [Activity.logged_append, List.map_append, hfarewell,
      Scenes.written_passages (Nat.lt_of_succ_lt hfew)]
    rfl
  refine ⟨last, elapsed, noted last, written (course.closing last), hlength, hnow, hlog,
    noted_increasing last, fun a => ?_, length_noted last, Scenes.closes_closing hfew helapsed⟩
  rw [mem_noted_iff, Nat.lt_succ_iff]

/-- A pause of one second, and one minute in all. -/
def minutePolicy : PollPolicy := ⟨.ofSeconds 1, .ofSeconds 60⟩

/-- Checks that never find anything and take no time. -/
def emptyScenes : Scenes Nat := fun _ => ⟨.ok none, ⟨0⟩⟩

/-- A wait of a minute in vain ends with its check number 61, and tells of the first and of the
sixtieth one before. -/
theorem vain_minute_logged :
    ∃ (report : Report (List Instant) Nat) (attempts : List Nat),
      run minutePolicy "value" emptyScenes.check 61 0 [] = some report ∧
      report.starts.length < UInt32.size ∧
      (logged report.outcome.trace).map written = attempts.map (waiting "value") ++
        [entry .warn "Poll timed out" "value" 61 [("timeout_secs", .integer 60)]] ∧
      attempts.length = 2 ∧ ∀ a, a ∈ attempts ↔ a = 1 ∨ a = 60 := by
  have hchecks : (run minutePolicy "value" emptyScenes.check 61 0 []).map
      (fun report => report.starts.length) = some 61 := by decide +kernel
  obtain ⟨report, hrun, hlength⟩ := Option.map_eq_some_iff.mp hchecks
  have hfew : report.starts.length < UInt32.size := by rw [hlength]; decide
  obtain ⟨last, elapsed, attempts, closing, hlast, -, hlog, -, hmem, hcount, hcloses⟩ :=
    log_of_wait hrun hfew
  obtain rfl : last = 60 := by omega
  have hfound : (emptyScenes 60).found = .ok none := rfl
  rw [hfound] at hcloses
  generalize report.outcome.result = result at hcloses
  cases hcloses
  refine ⟨report, attempts, hrun, hfew, hlog, hcount, fun a => ?_⟩
  rw [hmem]
  omega

end StorageBackend.Poll

import StorageBackend.Poll.Rehearsal
import StorageBackend.Proofs.Poll.Course

/-!
# Waits over an endless sequence of checks

What a wait does, read off the sequence of its checks and not off the loop. Every check has an
outcome and a duration of its own; from these follow the instants at which the checks begin and end,
and the first check after which nothing is left to wait for. `run_scenes_eq_least` says that the
wait makes exactly the checks up to that one, and `Scenes.result` is what it gives.
-/

namespace StorageBackend.Poll

variable {α : Type}

/-- A scene for every check of a wait. Their numbers begin with zero. -/
abbrev Scenes (α : Type) := Nat → Scene α

namespace Scenes

variable (scenes : Scenes α) (policy : PollPolicy) (operation : String) (start : Instant)

/-- Plays the next scene. The state holds the instants at which the scenes before it were asked
for. -/
def check : Activity (List Instant) (Option α) := fun _ now seen =>
  let scene := scenes seen.length
  some ⟨scene.found, now + scene.takes.nanos, seen ++ [now], []⟩

/-- When the check number `k` begins: at the start, or at the end of the sleep after the check
before it. -/
def begins : Nat → Instant
  | 0 => start
  | k + 1 => Clock.wake (begins k + (scenes k).takes.nanos) policy.interval

/-- When the check number `k` ends. -/
def ends (k : Nat) : Instant := scenes.begins policy start k + (scenes k).takes.nanos

/-- There is nothing to wait for after the check number `k`: it has a value or an error, or there is
a deadline and the next check would begin after it. -/
def Decides (k : Nat) : Prop :=
  (scenes k).found ≠ .ok none ∨
    start + policy.timeout.nanos < Clock.horizon ∧
      start + policy.timeout.nanos < scenes.ends policy start k + policy.interval.nanos

/-- What a wait gives that ends with the check number `k`. -/
def result (k : Nat) : Except Error α :=
  match (scenes k).found with
  | .ok (some value) => .ok value
  | .error error => .error error
  | .ok none => .error (.timeout operation ⟨scenes.ends policy start k - start⟩)

/-- The course of a wait over scenes. -/
def course : Course (List Instant) α where
  policy := policy
  operation := operation
  probe := fun now seen =>
    ⟨(scenes seen.length).found, now + (scenes seen.length).takes.nanos, seen ++ [now], []⟩
  start := start
  state := []

/-- A check begins when it should and finds the instants of all checks before it. -/
theorem course_place (k : Nat) :
    (scenes.course policy operation start).place k =
      (scenes.begins policy start k, (List.range k).map (scenes.begins policy start)) := by
  induction k with
  | zero => rfl
  | succ k ih =>
    rw [Course.place, ih]
    simp [course, begins, List.range_succ]

/-- The checks of the course begin on schedule. -/
theorem course_begins (k : Nat) :
    (scenes.course policy operation start).begins k = scenes.begins policy start k := by
  rw [Course.begins, course_place]

/-- The outcome of a check is its scene, with the instants of the checks up to it. -/
theorem course_outcome (k : Nat) :
    (scenes.course policy operation start).outcome k =
      ⟨(scenes k).found, scenes.ends policy start k,
        (List.range (k + 1)).map (scenes.begins policy start), []⟩ := by
  rw [Course.outcome, course_place]
  simp [course, ends, List.range_succ]

/-- The checks of the course end on schedule. -/
theorem course_ends (k : Nat) :
    (scenes.course policy operation start).ends k = scenes.ends policy start k := by
  rw [Course.ends, course_outcome]

/-- A check finds what its scene says. -/
theorem course_found (k : Nat) :
    (scenes.course policy operation start).found k = (scenes k).found := by
  rw [Course.found, course_outcome]

/-- The wait ends with the checks that decide it. -/
theorem course_settles (k : Nat) :
    (scenes.course policy operation start).Settles k ↔ scenes.Decides policy start k := by
  simp only [Course.Settles, Course.IsLate, Course.IsBounded, course_found, course_ends]
  rfl

/-- Its result is the one that its last check decides. -/
theorem course_result (k : Nat) :
    (scenes.course policy operation start).result k =
      scenes.result policy operation start k := by
  simp only [Course.result, result, course_found, course_ends]
  cases (scenes k).found with
  | error error => rfl
  | ok value? => cases value? <;> rfl

end Scenes

/-- A wait makes its checks up to the first one that decides it, at the instants of the schedule and
at no others, and gives the result that this check decides. If there is no such check the wait never
ends. The schedule sleeps until the first whole millisecond at which a pause is over. -/
theorem run_scenes_eq_least (scenes : Scenes α) (policy : PollPolicy) (operation : String)
    (start : Instant) :
    (∀ n, IsLeast {k | scenes.Decides policy start k} n → ∀ budget,
      (budget ≤ n → run policy operation scenes.check budget start [] = none) ∧
      (n < budget → ∃ report,
        run policy operation scenes.check budget start [] = some report ∧
        report.starts = (List.range (n + 1)).map (scenes.begins policy start) ∧
        report.outcome.state = report.starts ∧
        report.outcome.now = scenes.ends policy start n ∧
        report.outcome.result = scenes.result policy operation start n)) ∧
    ((∀ k, ¬ scenes.Decides policy start k) →
      ∀ budget, run policy operation scenes.check budget start [] = none) ∧
    (scenes.begins policy start 0 = start ∧ ∀ k,
      IsLeast {t | Duration.perMilli ∣ t ∧
        Clock.sleepEnd (scenes.ends policy start k) policy.interval ≤ t}
        (scenes.begins policy start (k + 1))) := by
  let course := scenes.course policy operation start
  have hsettles : ∀ k, course.Settles k ↔ scenes.Decides policy start k :=
    scenes.course_settles policy operation start
  refine ⟨fun n hn budget => ?_, fun hnever budget => ?_, rfl, fun k => ?_⟩
  · have hleast : IsLeast {k | course.Settles k} n := by simpa only [hsettles] using hn
    have hrun : run policy operation scenes.check budget start [] = _ := course.run_eq hleast budget
    refine ⟨fun hle => ?_, fun hlt => ⟨course.report n, ?_, ?_, ?_, ?_, ?_⟩⟩
    · rw [hrun, if_neg (Nat.not_lt.mpr hle)]
    · rw [hrun, if_pos hlt]
    · exact List.map_congr_left fun k _ => scenes.course_begins policy operation start k
    · show (course.outcome n).state = (List.range (n + 1)).map course.begins
      rw [scenes.course_outcome policy operation start n]
      exact List.map_congr_left fun k _ => (scenes.course_begins policy operation start k).symm
    · exact scenes.course_ends policy operation start n
    · exact scenes.course_result policy operation start n
  · exact course.run_eq_none (fun k => mt (hsettles k).mp (hnever k)) budget
  · exact Clock.wake_is_least _ _

/-- A pause of one second, and one second in all. -/
def shortPolicy : PollPolicy := ⟨.ofSeconds 1, .ofSeconds 1⟩

/-- A check that finds nothing, and then checks that find something after ten seconds. -/
def slowScenes : Scenes Nat
  | 0 => ⟨.ok none, ⟨0⟩⟩
  | _ + 1 => ⟨.ok (some 7), .ofSeconds 10⟩

/-- The second check begins at the deadline and ends long after it, and its value counts. -/
theorem slow_value_found :
    ∃ report, run shortPolicy "value" slowScenes.check 2 0 [] = some report ∧
      report.starts = [0, 1000000000] ∧ report.outcome.now = 11000000000 ∧
      report.outcome.result = .ok 7 := by
  have hlast : IsLeast {k | slowScenes.Decides shortPolicy 0 k} 1 := by
    refine ⟨.inl nofun, fun k hk => ?_⟩
    cases k with
    | zero =>
      rcases hk with hfound | ⟨-, hlate⟩
      · exact absurd rfl hfound
      · exact absurd hlate (by decide)
    | succ k => exact Nat.le_add_left 1 k
  obtain ⟨report, hrun, hstarts, -, hnow, hresult⟩ :=
    ((run_scenes_eq_least slowScenes shortPolicy "value" 0).1 1 hlast 2).2 (by decide)
  exact ⟨report, hrun, hstarts, hnow, hresult⟩

end StorageBackend.Poll

import StorageBackend.Cluster.Timeline
import StorageBackend.Proofs.Credentials.Wait

/-!
# Waiting on a cluster that changes with the clock

Where the answer to a read depends on the clock alone and reads take no time, a wait for a secret
reads at instants that can be written down: the start, the first wake-up, and from there on in steps
of the pause rounded up to whole milliseconds. `wait_for_secret_closed_form` gives the last read,
the result, and for a start on the millisecond grid the greatest number of reads.
-/

namespace StorageBackend.Credentials

open Cluster (Client Secret Window)
open Clock (ceilMilli)
open Poll (Course)

/-- A wait for a secret whose presence depends on the clock alone. -/
structure Vigil where
  /-- What a read at an instant is answered. -/
  answer : Instant → Except Error (Option Secret)
  policy : PollPolicy
  start : Nat

namespace Vigil

variable (vigil : Vigil)

/-- The pause in nanoseconds. -/
def pause : Nat := vigil.policy.interval.nanos

/-- The pause rounded up to whole milliseconds. -/
def stride : Nat := ceilMilli vigil.pause

/-- The timeout in nanoseconds. -/
def limit : Nat := vigil.policy.timeout.nanos

/-- When the read number `k` is made. Numbers begin with zero. -/
def readAt : Nat → Nat
  | 0 => vigil.start
  | k + 1 => ceilMilli (vigil.start + vigil.pause) + k * vigil.stride

/-- The read number `k` is followed by another one: the secret is absent, and the pause after the
read is over before the deadline or at it. -/
def Continues (k : Nat) : Prop :=
  vigil.answer (vigil.readAt k) = .ok none ∧
    vigil.readAt k + vigil.pause ≤ vigil.start + vigil.limit

/-- The read number `k` is the last one. -/
def IsLast (n : Nat) : Prop := (∀ k < n, vigil.Continues k) ∧ ¬ vigil.Continues n

/-- What the wait gives if the read number `n` is the last one. -/
def result (ns name : String) (n : Nat) : Except Error Secret :=
  match vigil.answer (vigil.readAt n) with
  | .ok (some secret) => .ok secret
  | .error error => .error error
  | .ok none =>
    .error (.timeout ("secret " ++ (ns ++ "/" ++ name)) ⟨vigil.readAt n - vigil.start⟩)

/-- The greatest number of reads if the wait starts at a whole millisecond. -/
def bound : Nat :=
  if vigil.limit < vigil.pause then 1 else (vigil.limit - vigil.pause) / vigil.stride + 2

variable {vigil}

/-- Checks are some time apart. -/
theorem stride_pos (hpause : 0 < vigil.pause) : 0 < vigil.stride :=
  Nat.lt_of_lt_of_le hpause (Clock.le_ceil_milli _)

/-- Every wake-up is at a whole millisecond. -/
theorem dvd_read_at (k : Nat) : Duration.perMilli ∣ vigil.readAt (k + 1) :=
  Nat.dvd_add (Clock.dvd_ceil_milli _) (Nat.dvd_mul_left_of_dvd (Clock.dvd_ceil_milli _) k)

/-- Rounding the end of the pause after a read gives the next read. -/
theorem ceil_read_at_add (k : Nat) :
    ceilMilli (vigil.readAt k + vigil.pause) = vigil.readAt (k + 1) := by
  cases k with
  | zero => exact (Nat.add_zero _).symm.trans (by rw [readAt, readAt, Nat.zero_mul])
  | succ k =>
    rw [Clock.ceil_milli_add (dvd_read_at k)]
    show vigil.readAt (k + 1) + vigil.stride = vigil.readAt (k + 2)
    simp only [readAt, Nat.add_mul, Nat.one_mul, Nat.add_assoc]

/-- A read is at least as many nanoseconds after the start as there are reads before it. -/
theorem le_read_at (hpause : 0 < vigil.pause) (k : Nat) : vigil.start + k ≤ vigil.readAt k := by
  induction k with
  | zero => exact Nat.le_refl _
  | succ k ih =>
    have hnext : vigil.readAt k + vigil.pause ≤ vigil.readAt (k + 1) := by
      rw [← ceil_read_at_add]
      exact Clock.le_ceil_milli _
    omega

/-- With a pause and a deadline there is a last read. -/
theorem exists_is_last (hpause : 0 < vigil.pause) : ∃ n, vigil.IsLast n := by
  classical
  have hend : ∃ k, ¬ vigil.Continues k := by
    refine ⟨vigil.limit, fun h => ?_⟩
    have hle := le_read_at hpause vigil.limit
    have hgo := h.2
    omega
  exact ⟨Nat.find hend, fun k hk => not_not.mp (Nat.find_min hend hk), Nat.find_spec hend⟩

/-! ## The course of the wait -/

section Course

variable {σ : Type} {client : Client σ} {ns name : String}
  (hanswer : ∀ now state, (client.secret ns name now state).result = vigil.answer now)
  (htook : ∀ now state, (client.secret ns name now state).took = ⟨0⟩)
  (hdeadline : vigil.start + vigil.limit < Clock.horizon) (state : σ)

/-- The course of the wait on a client. -/
def course (vigil : Vigil) (client : Client σ) (ns name : String) (state : σ) :
    Course σ Secret :=
  secretCourse client vigil.policy ns name vigil.start state

include htook in
/-- Reads take no time. -/
theorem course_ends (k : Nat) :
    (vigil.course client ns name state).ends k = (vigil.course client ns name state).begins k := by
  show _ + (client.secret ns name _ _).took.nanos = _
  rw [htook]
  rfl

include hanswer in
/-- A check finds what the cluster answers at the instant at which it begins. -/
theorem course_found (k : Nat) :
    (vigil.course client ns name state).found k =
      vigil.answer ((vigil.course client ns name state).begins k) :=
  hanswer _ _

include htook hdeadline in
/-- As long as the wait goes on, the checks of the course are made at the instants of the reads. -/
theorem course_begins {k : Nat} (h : ∀ j < k, vigil.Continues j) :
    (vigil.course client ns name state).begins k = vigil.readAt k := by
  induction k with
  | zero => rfl
  | succ k ih =>
    have hk : (vigil.course client ns name state).begins k = vigil.readAt k :=
      ih fun j hj => h j (by omega)
    have hgo : vigil.readAt k + vigil.pause < Clock.horizon :=
      Nat.lt_of_le_of_lt (h k (Nat.lt_succ_self k)).2 hdeadline
    rw [Course.begins_succ, course_ends htook, hk, ← ceil_read_at_add]
    exact Clock.wake_of_lt_horizon hgo

include hanswer htook hdeadline in
/-- The course settles exactly with the last read. -/
theorem course_settles {k : Nat} (h : ∀ j < k, vigil.Continues j) :
    (vigil.course client ns name state).Settles k ↔ ¬ vigil.Continues k := by
  have hbounded : (vigil.course client ns name state).IsBounded := hdeadline
  rw [Course.Settles, course_found hanswer, Course.IsLate, course_ends htook,
    course_begins htook hdeadline state h, Continues, not_and_or, Nat.not_le]
  exact or_congr_right (and_iff_right hbounded)

include hanswer htook hdeadline in
/-- The last check is the first one that settles the wait. -/
theorem is_least_of_is_last {n : Nat} (h : vigil.IsLast n) :
    IsLeast {k | (vigil.course client ns name state).Settles k} n := by
  refine ⟨(course_settles hanswer htook hdeadline state h.1).mpr h.2, fun k hk => ?_⟩
  refine Nat.le_of_not_lt fun hlt => ?_
  have hbefore : ∀ j < k, vigil.Continues j := fun j hj => h.1 j (Nat.lt_trans hj hlt)
  exact (course_settles hanswer htook hdeadline state hbefore).mp hk (h.1 k hlt)

include hanswer htook hdeadline in
/-- The result of the wait is that of its last check. -/
theorem course_result {n : Nat} (h : vigil.IsLast n) :
    (vigil.course client ns name state).result n = vigil.result ns name n := by
  have hbegins : (vigil.course client ns name state).begins n = vigil.readAt n :=
    course_begins htook hdeadline state h.1
  unfold Course.result result
  rw [course_found hanswer, course_ends htook, hbegins]
  cases vigil.answer (vigil.readAt n) with
  | error error => rfl
  | ok secret? => cases secret? <;> rfl

end Course

/-! ## The number of reads -/

/-- From a whole millisecond on, reads are made at equal distances. -/
theorem read_at_of_dvd (hstart : Duration.perMilli ∣ vigil.start) (k : Nat) :
    vigil.readAt k = vigil.start + k * vigil.stride := by
  cases k with
  | zero => rw [readAt, Nat.zero_mul, Nat.add_zero]
  | succ k =>
    rw [readAt, Clock.ceil_milli_add hstart, Nat.add_mul, Nat.one_mul]
    show vigil.start + vigil.stride + k * vigil.stride = _
    omega

/-- At least one read is allowed for. -/
theorem bound_pos : 0 < vigil.bound := by
  unfold bound
  split <;> exact Nat.succ_pos _

/-- There is time for another read exactly if the bound is not reached. -/
theorem in_time_iff (hstart : Duration.perMilli ∣ vigil.start) (hpause : 0 < vigil.pause)
    (k : Nat) :
    vigil.readAt k + vigil.pause ≤ vigil.start + vigil.limit ↔ k + 1 < vigil.bound := by
  rw [read_at_of_dvd hstart, bound]
  have hdiv := Nat.le_div_iff_mul_le (x := k) (y := vigil.limit - vigil.pause)
    (stride_pos hpause)
  split <;> omega

/-- No more reads are made than the bound says, and exactly as many if all reads before the last one
find nothing. -/
theorem reads_le_bound (hstart : Duration.perMilli ∣ vigil.start) (hpause : 0 < vigil.pause)
    {n : Nat} (h : vigil.IsLast n) :
    n + 1 ≤ vigil.bound ∧
      (n + 1 = vigil.bound ↔
        ∀ k, k + 1 < vigil.bound → vigil.answer (vigil.readAt k) = .ok none) := by
  have hle : n + 1 ≤ vigil.bound := by
    refine Nat.le_of_not_lt fun hlt => ?_
    cases n with
    | zero => exact absurd bound_pos (Nat.not_lt.mpr (Nat.le_of_lt_succ hlt))
    | succ n =>
      -- the read before the last one has left time for it
      have htime := (in_time_iff hstart hpause n).mp (h.1 n (Nat.lt_succ_self n)).2
      omega
  refine ⟨hle, fun heq k hk => (h.1 k (by omega)).1, fun hnone => ?_⟩
  refine Nat.le_antisymm hle (Nat.le_of_not_lt fun hlt => h.2 ?_)
  exact ⟨hnone n hlt, (in_time_iff hstart hpause n).mpr hlt⟩

/-- A secret that is there during a window of time only is found exactly if a read falls into the
window. -/
theorem result_eq_ok_iff (hstart : Duration.perMilli ∣ vigil.start) (hpause : 0 < vigil.pause)
    {n : Nat} (h : vigil.IsLast n) {secret : Secret} {window : Window}
    (hwindow : ∀ t, vigil.answer t = .ok (if window.contains t then some secret else none))
    (ns name : String) :
    vigil.result ns name n = .ok secret ↔
      ∃ k < vigil.bound, window.contains (vigil.start + k * vigil.stride) = true := by
  obtain ⟨hle, heq⟩ := reads_le_bound hstart hpause h
  have hread : ∀ k, vigil.answer (vigil.readAt k) =
      .ok (if window.contains (vigil.start + k * vigil.stride) then some secret else none) :=
    fun k => by rw [hwindow, read_at_of_dvd hstart]
  unfold result
  rw [hread n]
  constructor
  · intro hresult
    refine ⟨n, hle, ?_⟩
    by_contra hclosed
    rw [if_neg hclosed] at hresult
    cases hresult
  · rintro ⟨k, hk, hopen⟩
    -- the read number `k` would have ended the wait, so it is not before the last one
    have hnk : n ≤ k := by
      refine Nat.le_of_not_lt fun hlt => ?_
      have habsent := (h.1 k hlt).1
      rw [hread k, if_pos hopen] at habsent
      cases habsent
    by_cases hlast : window.contains (vigil.start + n * vigil.stride) = true
    · rw [if_pos hlast]
    · have habsent : vigil.answer (vigil.readAt n) = .ok none := by rw [hread n, if_neg hlast]
      have hlate : ¬ n + 1 < vigil.bound := fun hlt =>
        h.2 ⟨habsent, (in_time_iff hstart hpause n).mpr hlt⟩
      obtain rfl : n = k := by omega
      exact absurd hopen hlast

end Vigil

/-- A wait for a secret on a cluster that changes with the clock alone reads at the instants
`readAt`, up to the first one at which the secret is there, a read fails or the next pause would go
past the deadline, and gives what the last read finds. A wait that starts at a whole millisecond
makes at most `bound` reads, and as many only if no read before the last one of them finds anything;
so it finds a secret that comes and goes exactly if one of these reads falls into its window. -/
theorem wait_for_secret_closed_form {σ : Type} (vigil : Vigil) (client : Client σ)
    (ns name : String)
    (hanswer : ∀ now state, (client.secret ns name now state).result = vigil.answer now)
    (htook : ∀ now state, (client.secret ns name now state).took = ⟨0⟩)
    (hpause : 0 < vigil.pause) (hdeadline : vigil.start + vigil.limit < Clock.horizon) :
    ∃ n, vigil.IsLast n ∧
      (∀ budget state,
        (budget ≤ n →
          waitForSecret client vigil.policy ns name budget vigil.start state = none) ∧
        (n < budget → ∃ report,
          Poll.run vigil.policy (waitOperation ns name) (client.readSecret ns name) budget
            vigil.start state = some report ∧
          waitForSecret client vigil.policy ns name budget vigil.start state =
            some report.outcome ∧
          report.starts = (List.range (n + 1)).map vigil.readAt ∧
          Activity.reads report.outcome.trace = List.replicate (n + 1) (secretRef ns name) ∧
          report.outcome.now = vigil.readAt n ∧
          report.outcome.result = vigil.result ns name n)) ∧
      (Duration.perMilli ∣ vigil.start →
        n + 1 ≤ vigil.bound ∧
        (n + 1 = vigil.bound ↔
          ∀ k, k + 1 < vigil.bound → vigil.answer (vigil.readAt k) = .ok none) ∧
        ∀ (secret : Secret) (window : Window),
          (∀ t, vigil.answer t = .ok (if window.contains t then some secret else none)) →
          (vigil.result ns name n = .ok secret ↔
            ∃ k < vigil.bound, window.contains (vigil.start + k * vigil.stride) = true)) := by
  obtain ⟨n, hlast⟩ := Vigil.exists_is_last hpause
  refine ⟨n, hlast, fun budget state => ?_, fun hstart => ?_⟩
  · let course := vigil.course client ns name state
    have hrun : course.run budget = if n < budget then some (course.report n) else none :=
      course.run_eq (Vigil.is_least_of_is_last hanswer htook hdeadline state hlast) budget
    have hbegins : ∀ k ≤ n, course.begins k = vigil.readAt k := fun k hk =>
      Vigil.course_begins htook hdeadline state fun j hj => hlast.1 j (Nat.lt_of_lt_of_le hj hk)
    have hwait : waitForSecret client vigil.policy ns name budget vigil.start state =
        (course.run budget).map Report.outcome :=
      wait_for_secret_apply client vigil.policy ns name vigil.start state budget
    refine ⟨fun hle => ?_, fun hlt => ⟨course.report n, ?_, ?_, ?_, ?_, ?_, ?_⟩⟩
    · rw [hwait, hrun, if_neg (Nat.not_lt.mpr hle)]
      rfl
    · exact hrun.trans (if_pos hlt)
    · rw [hwait, hrun, if_pos hlt]
      rfl
    · exact List.map_congr_left fun k hk =>
        hbegins k (Nat.le_of_lt_succ (List.mem_range.mp hk))
    · exact reads_report client vigil.policy ns name vigil.start state n
    · exact (Vigil.course_ends htook state n).trans (hbegins n (Nat.le_refl n))
    · exact Vigil.course_result hanswer htook hdeadline state hlast
  · obtain ⟨hle, heq⟩ := Vigil.reads_le_bound hstart hpause hlast
    exact ⟨hle, heq, fun _ _ hwindow => Vigil.result_eq_ok_iff hstart hpause hlast hwindow ns name⟩

/-- A secret that is there for a millisecond only. -/
def briefWindow : Window := ⟨some 1500000, some 2500000⟩

/-- A wait whose pause is shorter than a millisecond, for a secret that is there for a millisecond
only. -/
def briefVigil : Vigil where
  answer t := .ok (if briefWindow.contains t then some default else none)
  policy := ⟨⟨700000⟩, ⟨3000000⟩⟩
  start := 0

/-- A cluster that answers like `briefVigil`. -/
def briefClient : Client Unit where
  configMap _ _ _ state := ⟨.ok none, ⟨0⟩, state, []⟩
  secret _ _ now state := ⟨briefVigil.answer now, ⟨0⟩, state, []⟩

/-- The reads of this wait are a millisecond apart, and the third one finds the secret. -/
theorem brief_secret_found :
    ∃ n, briefVigil.IsLast n ∧ n + 1 ≤ 4 ∧ briefVigil.result "ns" "name" n = .ok default := by
  obtain ⟨n, hlast, -, hwhole⟩ :=
    wait_for_secret_closed_form briefVigil briefClient "ns" "name" (fun _ _ => rfl)
      (fun _ _ => rfl) (by decide) (by decide)
  obtain ⟨hbound, -, hwindow⟩ := hwhole ⟨0, rfl⟩
  exact ⟨n, hlast, hbound,
    (hwindow default briefWindow fun _ => rfl).mpr ⟨2, by decide, by decide⟩⟩

end StorageBackend.Credentials

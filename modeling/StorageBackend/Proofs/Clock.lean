import Mathlib.Order.Bounds.Defs
import StorageBackend.Clock

/-!
# Wake-ups on the millisecond grid

`ceilMilli t` is the least whole millisecond that is not before `t`, so a sleep ends at the first
point of the grid at which its length is over (`wake_is_least`). Rounding commutes with adding whole
milliseconds (`ceil_milli_add`), which gives the closed form of repeated sleeps.
-/

namespace StorageBackend.Clock

/-- Rounding up never gives an earlier instant. -/
theorem le_ceil_milli (t : Instant) : t ≤ ceilMilli t := by
  simp only [ceilMilli, Duration.perMilli, Instant]
  omega

/-- Rounding up gives a whole millisecond. -/
theorem dvd_ceil_milli (t : Instant) : Duration.perMilli ∣ ceilMilli t :=
  Nat.dvd_mul_left _ _

/-- Rounding up takes less than a millisecond. -/
theorem ceil_milli_lt (t : Instant) : ceilMilli t < t + Duration.perMilli := by
  simp only [ceilMilli, Duration.perMilli, Instant]
  omega

/-- A whole millisecond that is not before `t` is not before `ceilMilli t` either. -/
theorem ceil_milli_le {t u : Instant} (hu : Duration.perMilli ∣ u) (h : t ≤ u) :
    ceilMilli t ≤ u := by
  obtain ⟨m, rfl⟩ := hu
  simp only [ceilMilli, Duration.perMilli, Instant] at *
  omega

/-- `ceilMilli t` is the first whole millisecond that is not before `t`. -/
theorem ceil_milli_is_least (t : Instant) :
    IsLeast {u : Instant | Duration.perMilli ∣ u ∧ t ≤ u} (ceilMilli t) :=
  ⟨⟨dvd_ceil_milli t, le_ceil_milli t⟩, fun _ hu => ceil_milli_le hu.1 hu.2⟩

/-- Whole milliseconds can be taken out of the rounding. -/
theorem ceil_milli_add {s : Instant} (hs : Duration.perMilli ∣ s) (t : Instant) :
    ceilMilli (s + t) = s + ceilMilli t := by
  obtain ⟨m, rfl⟩ := hs
  simp only [ceilMilli, Duration.perMilli, Instant]
  omega

/-- The instant at which the length `d` of a sleep begun at `now` is over; where it cannot be
represented the sleep lasts for thirty years. -/
def sleepEnd (now : Instant) (d : Duration) : Instant :=
  if now + d.nanos < horizon then now + d.nanos else now + farFuture.nanos

/-- Waking up is rounding the end of the sleep. -/
theorem wake_eq (now : Instant) (d : Duration) : wake now d = ceilMilli (sleepEnd now d) := by
  unfold wake after sleepEnd
  split <;> rfl

/-- A sleep ends at the first whole millisecond at which its length is over. -/
theorem wake_is_least (now : Instant) (d : Duration) :
    IsLeast {u : Instant | Duration.perMilli ∣ u ∧ sleepEnd now d ≤ u} (wake now d) := by
  rw [wake_eq]
  exact ceil_milli_is_least _

/-- A sleep whose end can be represented. -/
theorem wake_of_lt_horizon {now : Instant} {d : Duration} (h : now + d.nanos < horizon) :
    wake now d = ceilMilli (now + d.nanos) := by
  rw [wake_eq, sleepEnd, if_pos h]

/-- Waking up comes after falling asleep. -/
theorem le_wake (now : Instant) (d : Duration) : now ≤ wake now d := by
  have hend : now ≤ sleepEnd now d := by
    unfold sleepEnd
    split
    · exact Nat.le_add_right now _
    · exact Nat.le_add_right now _
  rw [wake_eq]
  exact Nat.le_trans hend (le_ceil_milli _)

/-! ## Sleeps from another base -/

/-- From an instant a duration can be waited for, unless it is too long from any. -/
def Allows (now : Instant) (d : Duration) : Prop := d.nanos < horizon → now + d.nanos < horizon

/-- Up to an instant that allows a sleep, whether its end can be represented depends on its length
alone. -/
theorem lt_horizon_iff_of_allows {now last : Instant} {d : Duration} (h : Allows last d)
    (hnow : now ≤ last) : now + d.nanos < horizon ↔ d.nanos < horizon := by
  unfold Allows at h
  constructor
  · intro hsum
    exact Nat.lt_of_le_of_lt (Nat.le_add_left d.nanos now) hsum
  · intro hd
    exact Nat.lt_of_le_of_lt (Nat.add_le_add_right hnow d.nanos) (h hd)

/-- From two bases at the same place of the grid, whole milliseconds come after the same time. -/
theorem ceil_milli_shift {base other : Instant}
    (hphase : base % Duration.perMilli = other % Duration.perMilli) (elapsed : Nat) :
    ∃ later, ceilMilli (base + elapsed) = base + later ∧
      ceilMilli (other + elapsed) = other + later := by
  refine ⟨ceilMilli (base + elapsed) - base, ?_, ?_⟩
  · have hle : base + elapsed ≤ ceilMilli (base + elapsed) := le_ceil_milli _
    simp only [Instant] at *
    omega
  · simp only [ceilMilli, Duration.perMilli, Instant] at *
    omega

/-- From two bases at the same place of the grid, sleeps end after the same time. -/
theorem wake_shift {base other last otherLast : Instant} {d : Duration} {elapsed : Nat}
    (hphase : base % Duration.perMilli = other % Duration.perMilli)
    (h : Allows last d) (hlast : base + elapsed ≤ last)
    (hother : Allows otherLast d) (hotherLast : other + elapsed ≤ otherLast) :
    ∃ later, wake (base + elapsed) d = base + later ∧ wake (other + elapsed) d = other + later := by
  rw [wake_eq, wake_eq, sleepEnd, sleepEnd]
  simp only [lt_horizon_iff_of_allows h hlast, lt_horizon_iff_of_allows hother hotherLast]
  split
  · rw [Nat.add_assoc, Nat.add_assoc]
    exact ceil_milli_shift hphase _
  · rw [Nat.add_assoc, Nat.add_assoc]
    exact ceil_milli_shift hphase _

end StorageBackend.Clock

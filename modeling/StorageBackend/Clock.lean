import StorageBackend.Basic
import StorageBackend.Duration

/-!
# The clock

Instants are nanoseconds since the clock was started. Only instants below `horizon` can be
represented, so adding a duration may fail. Sleeping ends on the millisecond grid: `wake` gives
the first whole millisecond that is not before the end of the sleep.
-/

namespace StorageBackend

/-- A point in time: nanoseconds since the clock was started. -/
abbrev Instant := Nat

namespace Clock

/-- The first instant that cannot be represented: the seconds are a signed 64-bit number. -/
def horizon : Instant := twoTo 63 * Duration.perSecond

/-- The instant `d` after `now`, unless it cannot be represented. -/
def after (now : Instant) (d : Duration) : Option Instant :=
  if now + d.nanos < horizon then some (now + d.nanos) else none

/-- How long a sleep lasts whose end cannot be represented: thirty years of 365 days. -/
def farFuture : Duration := .ofSeconds (30 * 365 * 24 * 60 * 60)

/-- The first whole millisecond that is not before `t`. -/
def ceilMilli (t : Instant) : Instant :=
  (t + (Duration.perMilli - 1)) / Duration.perMilli * Duration.perMilli

/-- The instant at which a sleep of length `d` begun at `now` ends. -/
def wake (now : Instant) (d : Duration) : Instant :=
  ceilMilli ((after now d).getD (now + farFuture.nanos))

/-- The time from `start` to `now`. -/
def elapsed (start now : Instant) : Duration := ⟨now - start⟩

end Clock

end StorageBackend

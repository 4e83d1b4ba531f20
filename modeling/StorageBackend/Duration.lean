import StorageBackend.Basic

/-!
# Durations

A duration is a whole number of nanoseconds. `Duration.text` writes it in the largest unit that
it fills, with an exact decimal fraction and no zero at the end: `1.5s`, `120ns`, `300s`.
-/

namespace StorageBackend

/-- A length of time, counted in nanoseconds. -/
structure Duration where
  nanos : Nat
deriving DecidableEq, Inhabited

namespace Duration

/-- Nanoseconds in a second. -/
abbrev perSecond : Nat := 1000000000

/-- Nanoseconds in a millisecond. -/
abbrev perMilli : Nat := 1000000

/-- Nanoseconds in a microsecond. -/
abbrev perMicro : Nat := 1000

/-- The duration of `seconds` whole seconds. -/
def ofSeconds (seconds : Nat) : Duration := ⟨seconds * perSecond⟩

/-- Whole seconds and a number of nanoseconds below one second; a larger number of nanoseconds is
taken modulo one second. -/
def ofParts (seconds nanos : Nat) : Duration := ⟨seconds * perSecond + nanos % perSecond⟩

/-- The whole seconds of a duration, rounded down. -/
def seconds (d : Duration) : Nat := d.nanos / perSecond

/-- The whole milliseconds of a duration, rounded down. -/
def millis (d : Duration) : Nat := d.nanos / perMilli

/-- The digits after the point of `value / tenTo places`, for `value` below `10 ^ places`, without
the zeros at the end. -/
def fractionDigits : Nat → Nat → List Char
  | 0, _ => []
  | places + 1, value =>
    if value = 0 then []
    else Nat.digitChar (value / tenTo places) :: fractionDigits places (value % tenTo places)

/-- A number of `10 ^ places` parts, written as a decimal without zeros at the end. -/
def decimal (places value : Nat) : List Char :=
  Nat.toDigits 10 (value / tenTo places) ++
    match fractionDigits places (value % tenTo places) with
    | [] => []
    | fraction => '.' :: fraction

/-- The decimal places and the name of the largest unit that a duration fills. -/
def unit (d : Duration) : Nat × String :=
  if d.nanos ≥ perSecond then (9, "s")
  else if d.nanos ≥ perMilli then (6, "ms")
  else if d.nanos ≥ perMicro then (3, "µs")
  else (0, "ns")

/-- A duration as text, exact to the nanosecond. -/
def text (d : Duration) : String :=
  String.ofList (decimal d.unit.1 d.nanos) ++ d.unit.2

end Duration

end StorageBackend

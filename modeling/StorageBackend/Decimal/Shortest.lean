import StorageBackend.Basic
import StorageBackend.Decimal.Binary64

/-!
# The shortest decimal that reads back

`Shortest.ofMagnitude` finds the decimal with the fewest significant digits among those that round
to a given double, and of these the nearest one. `FloatStyle` holds the choices of one way of
writing it.
-/

namespace StorageBackend.Decimal

/-- A decimal in scientific form: its significant digits without zeros at the end, and the exponent
of the first digit. -/
structure Scientific where
  digits : List Char
  exponent : Int
deriving DecidableEq

namespace Shortest

/-- The exponent `k` with `10 ^ k ≤ num / den < 10 ^ (k + 1)`, for a positive quotient that is not
below `10 ^ (-330)`. -/
def leadingExponent (num den : Nat) : Int :=
  if den ≤ num then ((Nat.toDigits 10 (num / den)).length : Int) - 1
  else
    match (List.range 331).find? (fun j => den ≤ num * tenTo j) with
    | some j => -(j : Int)
    | none => -330

/-- A positive number of the grid with step `10 ^ (exponent + 1 - count)`, in scientific form. -/
def onGrid (count : Nat) (exponent : Int) (number : Nat) : Scientific :=
  let digits := Nat.toDigits 10 number
  ⟨(digits.reverse.dropWhile (· == '0')).reverse, exponent + digits.length - count⟩

/-- The shortest decimal for a positive finite magnitude. -/
def ofMagnitude (magnitude : Nat) : Scientific :=
  let (significand, exponent) := Binary64.parts magnitude
  -- the value and the ends of the interval that rounds to it, in quarters of the last bit
  let value := 4 * significand
  let upper := 4 * significand + 2
  let lower :=
    if significand = twoTo 52 ∧ exponent > 0 then 4 * significand - 1 else 4 * significand - 2
  let scale : Nat × Nat :=
    if exponent ≥ 1076 then (twoTo (exponent - 1076), 1) else (1, twoTo (1076 - exponent))
  let closed := significand % 2 == 0
  let first := leadingExponent (value * scale.1) scale.2
  let attempt (count : Nat) : Option Scientific :=
    -- a number `n` of the grid stands for `n * step.1 / step.2`
    let step : Int := first + 1 - count
    let up := tenTo step.toNat
    let down := tenTo (-step).toNat
    let position (quarters : Nat) : Nat := quarters * scale.1 * down
    let grid (n : Nat) : Nat := n * up * scale.2
    let inside (n : Nat) : Bool :=
      if closed then position lower ≤ grid n && grid n ≤ position upper
      else position lower < grid n && grid n < position upper
    let below := position value / (up * scale.2)
    let above := below + 1
    let distanceBelow := position value - grid below
    let distanceAbove := grid above - position value
    if inside below && (!inside above || distanceBelow < distanceAbove ||
        (distanceBelow == distanceAbove && below % 2 == 0)) then
      some (onGrid count first below)
    else if inside above then some (onGrid count first above)
    else none
  ((List.range 17).findSome? (fun n => attempt (n + 1))).getD ⟨['0'], 0⟩

end Shortest

/-- The choices of one way of writing doubles. -/
structure FloatStyle where
  /-- The exponents of the first digit for which no exponent is written. -/
  positional : Int → Bool
  /-- The fewest digits of a written exponent. -/
  exponentDigits : Nat

namespace FloatStyle

/-- A decimal without an exponent. There is always a digit on both sides of the point. -/
def plain (s : Scientific) : List Char :=
  if s.exponent < 0 then
    '0' :: '.' :: (List.replicate ((-s.exponent).toNat - 1) '0' ++ s.digits)
  else
    let whole := s.exponent.toNat + 1
    let digits := s.digits ++ List.replicate (whole - s.digits.length) '0'
    let fraction := digits.drop whole
    digits.take whole ++ '.' :: (if fraction.isEmpty then ['0'] else fraction)

/-- A decimal with an exponent and its sign. -/
def scientific (style : FloatStyle) (s : Scientific) : List Char :=
  let mantissa :=
    match s.digits with
    | first :: second :: rest => first :: '.' :: second :: rest
    | digits => digits
  let digits := Nat.toDigits 10 s.exponent.natAbs
  mantissa ++ 'e' :: (if s.exponent < 0 then '-' else '+') ::
    (List.replicate (style.exponentDigits - digits.length) '0' ++ digits)

/-- A double as text. -/
def write (style : FloatStyle) (x : Binary64) : String :=
  if x.magnitude > Binary64.infinity then "NaN"
  else
    let body :=
      if x.magnitude = Binary64.infinity then "inf".toList
      else if x.magnitude = 0 then "0.0".toList
      else
        let s := Shortest.ofMagnitude x.magnitude
        if style.positional s.exponent then plain s else style.scientific s
    String.ofList (if x.negative then '-' :: body else body)

end FloatStyle

end StorageBackend.Decimal

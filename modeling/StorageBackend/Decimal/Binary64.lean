import StorageBackend.Basic

/-!
# Double precision numbers

A double is its sign and the 63 bits below it, so that the order of the magnitudes is the order of
the numbers. `ofRatio` rounds a quotient of natural numbers to the nearest double, ties to the even
one; all arithmetic here is exact until that rounding.
-/

namespace StorageBackend.Decimal

/-- A double precision number: its sign and the 63 bits below the sign. -/
structure Binary64 where
  negative : Bool
  magnitude : Nat
deriving DecidableEq, Inhabited

namespace Binary64

/-- The magnitude of infinity. Larger ones are not numbers. -/
def infinity : Nat := 0x7ff0000000000000

/-- A quiet value that is not a number. -/
def notANumber : Binary64 := ⟨false, 0x7ff8000000000000⟩

/-- Whether a double is a finite number. -/
def isFinite (x : Binary64) : Bool := x.magnitude < infinity

/-- Whether a double is not a number. -/
def isNaN (x : Binary64) : Bool := infinity < x.magnitude

/-- All 64 bits. -/
def bits (x : Binary64) : Nat := (if x.negative then twoTo 63 else 0) + x.magnitude

/-- The significand and the exponent `e` of a finite magnitude `significand * 2 ^ (e - 1074)`. -/
def parts (magnitude : Nat) : Nat × Nat :=
  let exponent := magnitude / twoTo 52
  let fraction := magnitude % twoTo 52
  if exponent = 0 then (fraction, 0) else (twoTo 52 + fraction, exponent - 1)

/-- The value of a finite magnitude as a quotient. -/
def ratio (magnitude : Nat) : Nat × Nat :=
  let (significand, exponent) := parts magnitude
  if exponent ≥ 1074 then (significand * twoTo (exponent - 1074), 1)
  else (significand, twoTo (1074 - exponent))

/-- A quotient rounded to the nearest natural number, ties to the even one. -/
def roundDiv (num den : Nat) : Nat :=
  let q := num / den
  let r := num % den
  if 2 * r < den then q
  else if den < 2 * r then q + 1
  else q + q % 2

/-- The magnitude nearest to `num / den`, ties to the even one; infinity when it is too large. -/
def ofRatio (num den : Nat) : Nat :=
  if num = 0 ∨ den = 0 then 0
  else
    -- `num / den` lies strictly between `2 ^ (top - 1)` and `2 ^ (top + 1)`
    let top : Int := (Nat.log2 num : Int) - Nat.log2 den
    -- the weight `2 ^ (shift - 1074)` of the last bit: the significand needs 53 bits
    let shift (low : Int) : Nat := (low - 52 + 1074).toNat
    let scaled (e : Nat) : Nat × Nat :=
      if e ≥ 1074 then (num, den * twoTo (e - 1074)) else (num * twoTo (1074 - e), den)
    let first := shift top
    let (n, d) := scaled first
    let e := if n < twoTo 52 * d then shift (top - 1) else first
    let (n, d) := scaled e
    min infinity (e * twoTo 52 + roundDiv n d)

/-- The double nearest to a natural number. -/
def ofNat (n : Nat) : Binary64 := ⟨false, ofRatio n 1⟩

/-- The product of two finite magnitudes, rounded. -/
def mul (x y : Nat) : Nat :=
  let (a, b) := ratio x
  let (c, d) := ratio y
  ofRatio (a * c) (b * d)

/-- The quotient of two finite magnitudes, rounded. -/
def div (x y : Nat) : Nat :=
  let (a, b) := ratio x
  let (c, d) := ratio y
  ofRatio (a * d) (b * c)

/-- The magnitude nearest to `digits * 10 ^ exponent`. Exponents beyond the range of doubles are cut
off before any power is computed. -/
def ofDecimal (digits : Nat) (exponent : Int) : Nat :=
  if digits = 0 then 0
  else
    let order : Int := (Nat.toDigits 10 digits).length + exponent
    if order > 310 then infinity
    else if order < -330 then 0
    else if exponent ≥ 0 then ofRatio (digits * tenTo exponent.toNat) 1
    else ofRatio digits (tenTo (-exponent).toNat)

/-- The sixteen hexadecimal digits of the bits. -/
def hex (x : Binary64) : String :=
  let digits := Nat.toDigits 16 x.bits
  String.ofList (List.replicate (16 - digits.length) '0' ++ digits)

end Binary64

end StorageBackend.Decimal

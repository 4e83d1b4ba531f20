/-!
# Base64

The standard alphabet with padding. `Base64.decode` takes the canonical form only: no blank, no
missing padding, no bits set that padding leaves unused.
-/

namespace StorageBackend.Text.Base64

/-- The number that a digit stands for. -/
def digitValue? (c : Char) : Option Nat :=
  if 'A' ≤ c ∧ c ≤ 'Z' then some (c.toNat - 'A'.toNat)
  else if 'a' ≤ c ∧ c ≤ 'z' then some (c.toNat - 'a'.toNat + 26)
  else if '0' ≤ c ∧ c ≤ '9' then some (c.toNat - '0'.toNat + 52)
  else if c = '+' then some 62
  else if c = '/' then some 63
  else none

/-- The last group of a text that ends in padding: one byte from `ab==`, two from `abc=`. -/
def decodePadded (a b c : Char) : Option (List UInt8) := do
  let x ← digitValue? a
  let y ← digitValue? b
  if c = '=' then
    if y % 16 = 0 then some [UInt8.ofNat (x * 4 + y / 16)] else none
  else
    let z ← digitValue? c
    if z % 4 = 0 then some [UInt8.ofNat (x * 4 + y / 16), UInt8.ofNat (y % 16 * 16 + z / 4)]
    else none

/-- Three bytes from four digits. -/
def decodeGroup (a b c d : Char) : Option (List UInt8) := do
  let x ← digitValue? a
  let y ← digitValue? b
  let z ← digitValue? c
  let w ← digitValue? d
  some [UInt8.ofNat (x * 4 + y / 16), UInt8.ofNat (y % 16 * 16 + z / 4),
    UInt8.ofNat (z % 4 * 64 + w)]

/-- The bytes that a text stands for. -/
def decodeChars : List Char → Option (List UInt8)
  | [] => some []
  | a :: b :: c :: d :: rest =>
    if d = '=' then
      match rest with
      | [] => decodePadded a b c
      | _ :: _ => none
    else do
      let group ← decodeGroup a b c d
      let others ← decodeChars rest
      some (group ++ others)
  | _ => none

/-- The bytes that a text stands for. -/
def decode (text : String) : Option (List UInt8) := decodeChars text.toList

end StorageBackend.Text.Base64

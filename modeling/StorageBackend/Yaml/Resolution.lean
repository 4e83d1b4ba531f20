import StorageBackend.Basic
import StorageBackend.Schema.Shape
import StorageBackend.Text.Basic
import StorageBackend.Text.Utf8
import StorageBackend.Yaml.Event

/-!
# What scalars stand for

A plain scalar without a tag may be null, a boolean, an integer or a double; the standard tags ask
for one of these. Every other scalar is a string.
-/

namespace StorageBackend.Yaml

open Decimal (Binary64)
open Schema

/-- Whether a text is one of the names of null. -/
def isNullName (text : List Char) : Bool :=
  ["null".toList, "Null".toList, "NULL".toList, ['~']].contains text

/-- The boolean that a text names. -/
def boolean? (text : List Char) : Option Bool :=
  if ["true".toList, "True".toList, "TRUE".toList].contains text then some true
  else if ["false".toList, "False".toList, "FALSE".toList].contains text then some false
  else none

/-! ## Integers -/

/-- Digits of a base, at least one. -/
def digits? (base : Nat) (text : List Char) : Option Nat :=
  if text.isEmpty then none
  else do
    let values ← text.mapM Text.hexValue?
    if values.all (· < base) then some (Text.ofDigits base values) else none

/-- What follows a sign, if there is one. -/
def dropSign (text : List Char) : List Char :=
  match text with
  | '+' :: rest => rest
  | '-' :: rest => rest
  | _ => text

/-- Whether a text has a leading zero and digits only: it is no number. -/
def isZeroPadded (text : List Char) : Bool :=
  match dropSign text with
  | '0' :: rest => !rest.isEmpty && rest.all Text.isDigit
  | _ => false

/-- The base and the digits of a text with a base mark. -/
def baseMark? (text : List Char) : Option (Nat × List Char) :=
  match text with
  | '0' :: 'x' :: rest => some (16, rest)
  | '0' :: 'o' :: rest => some (8, rest)
  | '0' :: 'b' :: rest => some (2, rest)
  | _ => none

/-- The integer that a text stands for, in decimal or with a base mark. -/
def integer? (text : List Char) : Option Int :=
  let (negative, unsigned) :=
    match text with
    | '-' :: rest => (true, rest)
    | '+' :: rest => (false, rest)
    | _ => (false, text)
  let magnitude :=
    match baseMark? unsigned with
    | some (base, rest) => digits? base rest
    | none => if isZeroPadded text then none else digits? 10 unsigned
  magnitude.map fun n => if negative then -(n : Int) else n

/-- An integer by its size: up to 64 bits, up to 128 bits, or neither. -/
def foundInteger? (n : Int) : Option Found :=
  if -(twoTo 63 : Int) ≤ n ∧ n < twoTo 64 then some (.integer n)
  else if -(twoTo 127 : Int) ≤ n ∧ n < twoTo 128 then some (.wideInteger n)
  else none

/-! ## Doubles -/

/-- The magnitude of a decimal with a point or an exponent: digits, with at least one on either side
of the point. -/
def decimal? (text : List Char) : Option Nat := do
  let whole := text.takeWhile Text.isDigit
  let rest := text.dropWhile Text.isDigit
  let (fraction, rest) :=
    match rest with
    | '.' :: rest => (rest.takeWhile Text.isDigit, rest.dropWhile Text.isDigit)
    | _ => ([], rest)
  if whole.isEmpty && fraction.isEmpty then none
  else
    let exponent : Int ←
      match rest with
      | [] => some 0
      | c :: rest =>
        if c = 'e' ∨ c = 'E' then
          let digits := dropSign rest
          if digits.isEmpty || !digits.all Text.isDigit then none
          else
            let n := Text.ofDigits 10 (digits.map Text.digitValue)
            some (if rest.head? = some '-' then -(n : Int) else n)
        else none
    let significand := Text.ofDigits 10 ((whole ++ fraction).map Text.digitValue)
    some (Binary64.ofDecimal significand (exponent - fraction.length))

/-- The double that a text stands for. A number too large for a double is none. -/
def real? (text : List Char) : Option Binary64 :=
  let unsigned := dropSign text
  let negative := text.head? = some '-'
  if [".inf".toList, ".Inf".toList, ".INF".toList].contains unsigned then
    some ⟨negative, Binary64.infinity⟩
  else if [".nan".toList, ".NaN".toList, ".NAN".toList].contains text then some Binary64.notANumber
  else
    match decimal? unsigned with
    | some magnitude => if magnitude < Binary64.infinity then some ⟨negative, magnitude⟩ else none
    | none => none

/-! ## Scalars -/

/-- What a plain scalar without a tag stands for. -/
def foundPlain (text : List Char) : Found :=
  if text.isEmpty || isNullName text then .unit
  else
    match boolean? text with
    | some value => .boolean value
    | none =>
      match (integer? text).bind foundInteger? with
      | some found => found
      | none =>
        match if isZeroPadded text then none else real? text with
        | some value => .real value
        | none => .string (String.ofList text)

/-- The standard tag with the given name. -/
def standardTag (name : String) : Tag := asciiBytes ("tag:yaml.org,2002:" ++ name).toList

/-- Whether a tag is one of the document's own. -/
def isLocalTag (tag : Tag) : Bool :=
  let name := if tag.length > 1 then tag.tail else tag
  tag.head? = some 33 && (Text.Utf8.decode name).toOption.isSome

namespace Scalar

/-- What a scalar stands for. A standard tag asks for a value of its type; a tag that begins with an
exclamation mark changes nothing. -/
def found (scalar : Scalar) : Except ShapeError Found :=
  let string : Found := .string (String.ofList scalar.text)
  let wanted (value : Option Found) (expected : String) : Except ShapeError Found :=
    match value with
    | some found => .ok found
    | none => .error (.invalidValue string expected)
  let untagged := if scalar.plain then foundPlain scalar.text else string
  match scalar.tag with
  | none => .ok untagged
  | some tag =>
    if tag = standardTag "bool" then wanted ((boolean? scalar.text).map .boolean) "a boolean"
    else if tag = standardTag "int" then
      wanted ((integer? scalar.text).bind foundInteger?) "an integer"
    else if tag = standardTag "float" then wanted ((real? scalar.text).map .real) "a float"
    else if tag = standardTag "null" then
      wanted (if isNullName scalar.text then some .unit else none) "null"
    else .ok (if tag.head? = some 33 then untagged else string)

/-- Whether a scalar is null where a value is optional. -/
def isNull (scalar : Scalar) : Except ShapeError Bool :=
  if !scalar.plain then .ok false
  else
    match scalar.tag with
    | none => .ok (scalar.text.isEmpty || isNullName scalar.text)
    | some tag =>
      if tag = standardTag "null" then
        if isNullName scalar.text then .ok true
        else .error (.invalidValue (.string (String.ofList scalar.text)) "null")
      else .ok false

end Scalar

end StorageBackend.Yaml

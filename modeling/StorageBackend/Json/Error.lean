import StorageBackend.Schema.Shape

/-!
# Errors of the JSON reader
-/

namespace StorageBackend.Json

open Schema

/-- Doubles in messages about JSON: an exponent is written from `1e+16` on and below `1e-5`, with
its sign and at least two digits. -/
def wording : Wording where
  unit := "null"
  real := { positional := fun exponent => -5 ≤ exponent && exponent ≤ 15, exponentDigits := 2 }

/-- Why a text is not the JSON that is asked for. -/
inductive Error where
  /-- The text ends where a value, a string, a list or an object is not complete. -/
  | endOfValue
  | endOfString
  | endOfList
  | endOfObject
  | expectedColon
  | expectedListCommaOrEnd
  | expectedObjectCommaOrEnd
  /-- A word that is none of the three names. -/
  | expectedName
  | expectedValue
  | invalidEscape
  | invalidNumber
  | numberOutOfRange
  /-- Half of a surrogate pair, written as an escape. -/
  | loneSurrogate
  /-- A first half of a surrogate pair that no escape follows. -/
  | unexpectedEndOfHexEscape
  | controlCharacter
  | keyMustBeString
  | trailingComma
  | trailingCharacters
  | recursionLimit
  /-- Well-formed so far, but not of the expected shape. -/
  | shape (error : ShapeError)
  /-- A value that its reader refuses for a reason of its own. -/
  | refused

/-- The reason in words. -/
def Error.message : Error → String
  | .endOfValue => "EOF while parsing a value"
  | .endOfString => "EOF while parsing a string"
  | .endOfList => "EOF while parsing a list"
  | .endOfObject => "EOF while parsing an object"
  | .expectedColon => "expected `:`"
  | .expectedListCommaOrEnd => "expected `,` or `]`"
  | .expectedObjectCommaOrEnd => "expected `,` or `\x7d`"
  | .expectedName => "expected ident"
  | .expectedValue => "expected value"
  | .invalidEscape => "invalid escape"
  | .invalidNumber => "invalid number"
  | .numberOutOfRange => "number out of range"
  | .loneSurrogate => "lone leading surrogate in hex escape"
  | .unexpectedEndOfHexEscape => "unexpected end of hex escape"
  | .controlCharacter => "control character (\\u0000-\\u001F) found while parsing a string"
  | .keyMustBeString => "key must be a string"
  | .trailingComma => "trailing comma"
  | .trailingCharacters => "trailing characters"
  | .recursionLimit => "recursion limit exceeded"
  | .shape error => error.text wording
  | .refused => "value refused"

end StorageBackend.Json

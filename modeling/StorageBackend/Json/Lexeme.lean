import StorageBackend.Basic
import StorageBackend.Json.Error
import StorageBackend.Json.Value
import StorageBackend.Text.Basic

/-!
# JSON lexemes

Names, strings and numbers. Each reader takes the text after the character that shows what is
coming and gives what is left behind it. Every lexeme has a second reader for values that nobody
asks for: it checks the form only, so it takes numbers of any size and unpaired surrogates.
-/

namespace StorageBackend.Json

open Decimal (Binary64)
open Text (isDigit digitValue hexValue?)

/-- Whether a character may stand between any two lexemes. -/
def isSpace (c : Char) : Bool := c == ' ' || c == '\n' || c == '\t' || c == '\r'

/-- Drops the space before the next lexeme. -/
def skipSpace (text : List Char) : List Char := text.dropWhile isSpace

/-! ## Names -/

/-- Reads the rest of a name, character by character. -/
def nameTail : (name text : List Char) → Except Error (List Char)
  | [], text => .ok text
  | _ :: _, [] => .error .endOfValue
  | expected :: name, c :: text =>
    if c = expected then nameTail name text else .error .expectedName

/-! ## Strings -/

/-- The number that four hexadecimal digits stand for. -/
def hexEscape (a b c d : Char) : Except Error Nat :=
  match hexValue? a, hexValue? b, hexValue? c, hexValue? d with
  | some a, some b, some c, some d => .ok (((a * 16 + b) * 16 + c) * 16 + d)
  | _, _, _, _ => .error .invalidEscape

/-- The error for an escape with fewer than four characters behind it. With four bytes or more it is
the escape that is wrong, else the string is cut short. -/
def shortHexEscape (text : List Char) : Error :=
  if text.foldl (fun size c => size + c.utf8Size) 0 < 4 then .endOfString else .invalidEscape

/-- The character that a one-letter escape stands for. -/
def shortEscape? (c : Char) : Option Char :=
  if c = '"' then some '"'
  else if c = '\\' then some '\\'
  else if c = '/' then some '/'
  else if c = 'b' then some '\x08'
  else if c = 'f' then some '\x0c'
  else if c = 'n' then some '\n'
  else if c = 'r' then some '\r'
  else if c = 't' then some '\t'
  else none

/-- Whether a number is the first half of a surrogate pair. -/
def isLeadingSurrogate (n : Nat) : Bool := 0xd800 ≤ n && n ≤ 0xdbff

/-- Whether a number is the second half of a surrogate pair. -/
def isTrailingSurrogate (n : Nat) : Bool := 0xdc00 ≤ n && n ≤ 0xdfff

/-- The character that a surrogate pair stands for. -/
def surrogatePair (leading trailing : Nat) : Char :=
  Char.ofNat ((leading - 0xd800) * 0x400 + (trailing - 0xdc00) + 0x10000)

/-- Puts a character in front of the text that was read. -/
def withChar (c : Char) :
    Except Error (List Char × List Char) → Except Error (List Char × List Char)
  | .ok (content, rest) => .ok (c :: content, rest)
  | .error e => .error e

/-- Reads the rest of a string after its opening quote: its content, and the text behind it. -/
def stringTail : List Char → Except Error (List Char × List Char)
  | [] => .error .endOfString
  | c :: text =>
    if c = '"' then .ok ([], text)
    else if c = '\\' then
      match text with
      | [] => .error .endOfString
      | e :: text =>
        match shortEscape? e with
        | some escaped => withChar escaped (stringTail text)
        | none =>
          if e = 'u' then
            match text with
            | h₁ :: h₂ :: h₃ :: h₄ :: text =>
              match hexEscape h₁ h₂ h₃ h₄ with
              | .error error => .error error
              | .ok n =>
                if isTrailingSurrogate n then .error .loneSurrogate
                else if isLeadingSurrogate n then
                  match text with
                  | [] => .error .endOfString
                  | b :: text =>
                    if b ≠ '\\' then .error .unexpectedEndOfHexEscape
                    else
                      match text with
                      | [] => .error .endOfString
                      | u :: text =>
                        if u ≠ 'u' then .error .unexpectedEndOfHexEscape
                        else
                          match text with
                          | h₅ :: h₆ :: h₇ :: h₈ :: text =>
                            match hexEscape h₅ h₆ h₇ h₈ with
                            | .error error => .error error
                            | .ok m =>
                              if isTrailingSurrogate m then
                                withChar (surrogatePair n m) (stringTail text)
                              else .error .loneSurrogate
                          | text => .error (shortHexEscape text)
                else withChar (Char.ofNat n) (stringTail text)
            | text => .error (shortHexEscape text)
          else .error .invalidEscape
    else if c.val < 0x20 then .error .controlCharacter
    else withChar c (stringTail text)

/-- Passes over the rest of a string after its opening quote. -/
def skipString : List Char → Except Error (List Char)
  | [] => .error .endOfString
  | c :: text =>
    if c = '"' then .ok text
    else if c = '\\' then
      match text with
      | [] => .error .endOfString
      | e :: text =>
        if (shortEscape? e).isSome then skipString text
        else if e = 'u' then
          match text with
          | h₁ :: h₂ :: h₃ :: h₄ :: text =>
            match hexEscape h₁ h₂ h₃ h₄ with
            | .error error => .error error
            | .ok _ => skipString text
          | text => .error (shortHexEscape text)
        else .error .invalidEscape
    else if c.val < 0x20 then .error .controlCharacter
    else skipString text

/-! ## Numbers -/

/-- The largest unsigned 64-bit number. -/
def maxUnsigned : Nat := twoTo 64 - 1

/-- Appends decimal digits to a number as long as it stays below `2 ^ 64`. Once a digit does not
fit, it and all later ones are left out; the second component counts them. -/
def appendDigits (number : Nat) : List Char → Nat × Nat
  | [] => (number, 0)
  | c :: digits =>
    let next := number * 10 + digitValue c
    if next > maxUnsigned then (number, digits.length + 1) else appendDigits next digits

/-- Multiplies a finite magnitude by a power of ten, in double arithmetic: one multiplication by a
power up to `1e308`, or divisions by `1e308` and one by a smaller power. -/
def scale (magnitude : Nat) (exponent : Int) : (fuel : Nat) → Except Error Nat
  | 0 => .ok 0
  | fuel + 1 =>
    if exponent.natAbs ≤ 308 then
      let power := Binary64.ofDecimal 1 exponent.natAbs
      if exponent < 0 then .ok (Binary64.div magnitude power)
      else
        let product := Binary64.mul magnitude power
        if product < Binary64.infinity then .ok product else .error .numberOutOfRange
    else if magnitude = 0 then .ok 0
    else if exponent ≥ 0 then .error .numberOutOfRange
    else scale (Binary64.div magnitude (Binary64.ofDecimal 1 308)) (exponent + 308) fuel

/-- The double for `significand * 10 ^ exponent`. Three divisions by `1e308` bring every significand
below `2 ^ 64` to zero. -/
def toReal (negative : Bool) (significand : Nat) (exponent : Int) : Except Error Number := do
  let magnitude ← scale (Binary64.ofNat significand).magnitude exponent 4
  .ok (.real ⟨negative, magnitude⟩)

/-- Exponents from here on are not added up digit by digit. -/
def maxExponent : Nat := twoTo 31 - 1

/-- Reads what follows the letter of an exponent. -/
def exponentTail (negative : Bool) (significand : Nat) (exponent : Int) (text : List Char) :
    Except Error (Number × List Char) :=
  let (down, text) :=
    match text with
    | '+' :: text => (false, text)
    | '-' :: text => (true, text)
    | text => (false, text)
  match text with
  | [] => .error .endOfValue
  | c :: _ =>
    if !isDigit c then .error .invalidNumber
    else
      let digits := text.takeWhile isDigit
      let rest := text.dropWhile isDigit
      let written :=
        digits.foldl (fun n c => if n > maxExponent then n else n * 10 + digitValue c) 0
      if written > maxExponent then
        if significand ≠ 0 ∧ !down then .error .numberOutOfRange
        else .ok (.real ⟨negative, 0⟩, rest)
      else do
        let exponent := if down then exponent - written else exponent + written
        let number ← toReal negative significand exponent
        .ok (number, rest)

/-- Reads what may follow the digits of a number that is not an integer: an exponent. -/
def afterDigits (negative : Bool) (significand : Nat) (exponent : Int) (text : List Char) :
    Except Error (Number × List Char) :=
  match text with
  | c :: rest =>
    if c = 'e' ∨ c = 'E' then exponentTail negative significand exponent rest
    else do .ok (← toReal negative significand exponent, text)
  | [] => do .ok (← toReal negative significand exponent, [])

/-- Reads what follows the point of a number. -/
def fractionTail (negative : Bool) (significand : Nat) (exponent : Int) (text : List Char) :
    Except Error (Number × List Char) :=
  let digits := text.takeWhile isDigit
  let rest := text.dropWhile isDigit
  if digits.isEmpty then .error (if rest.isEmpty then .endOfValue else .invalidNumber)
  else
    let (significand, left) := appendDigits significand digits
    afterDigits negative significand (exponent - (digits.length - left : Nat)) rest

/-- Reads what follows the integer digits of a number. A negative zero and integers of more than 64
bits are doubles. -/
def afterInteger (negative : Bool) (significand left : Nat) (text : List Char) :
    Except Error (Number × List Char) :=
  match text with
  | '.' :: rest => fractionTail negative significand left rest
  | text =>
    if left = 0 ∧ !(text.head? == some 'e' || text.head? == some 'E') then
      if !negative then .ok (.integer significand, text)
      else if significand = 0 ∨ significand > twoTo 63 then
        .ok (.real ⟨true, (Binary64.ofNat significand).magnitude⟩, text)
      else .ok (.integer (-significand), text)
    else afterDigits negative significand left text

/-- Reads a number after its sign. -/
def number (negative : Bool) (text : List Char) : Except Error (Number × List Char) :=
  match text with
  | [] => .error .endOfValue
  | c :: rest =>
    if c = '0' then
      if (rest.head?.map isDigit).getD false then .error .invalidNumber
      else afterInteger negative 0 0 rest
    else if isDigit c then
      let (significand, left) := appendDigits 0 (text.takeWhile isDigit)
      afterInteger negative significand left (text.dropWhile isDigit)
    else .error .invalidNumber

/-- Passes over what follows the letter of an exponent. -/
def skipExponent (text : List Char) : Except Error (List Char) :=
  let text :=
    match text with
    | '+' :: text => text
    | '-' :: text => text
    | text => text
  match text with
  | [] => .error .invalidNumber
  | c :: _ => if isDigit c then .ok (text.dropWhile isDigit) else .error .invalidNumber

/-- Passes over the exponent that may come next. -/
def skipAfterDigits (text : List Char) : Except Error (List Char) :=
  match text with
  | c :: rest => if c = 'e' ∨ c = 'E' then skipExponent rest else .ok text
  | [] => .ok []

/-- Passes over the fraction and the exponent that may come next. -/
def skipAfterInteger (text : List Char) : Except Error (List Char) :=
  match text with
  | '.' :: rest =>
    if (rest.takeWhile isDigit).isEmpty then .error .invalidNumber
    else skipAfterDigits (rest.dropWhile isDigit)
  | text => skipAfterDigits text

/-- Passes over a number after its sign. -/
def skipNumber (text : List Char) : Except Error (List Char) :=
  match text with
  | [] => .error .invalidNumber
  | c :: rest =>
    if c = '0' then
      if (rest.head?.map isDigit).getD false then .error .invalidNumber else skipAfterInteger rest
    else if isDigit c then skipAfterInteger (text.dropWhile isDigit)
    else .error .invalidNumber

end StorageBackend.Json

import StorageBackend.Text.Basic

/-!
# Names of hosts

A host is known by a domain name or by a number of version 4 or 6. `isHost` tells whether a text is
one of the three. The last label of a domain name is not a number, so no text is two of them.
-/

namespace StorageBackend.Text.Host

/-! ## Domain names -/

/-- Whether a character may begin or end a label of a domain name. -/
def isLabelChar (c : Char) : Bool :=
  ('a' ≤ c && c ≤ 'z') || ('A' ≤ c && c ≤ 'Z') || isDigit c || c == '_'

/-- Whether a text is a label of a domain name: at most 63 characters, and hyphens inside only. -/
def isLabel (text : List Char) : Bool :=
  match text with
  | [] => false
  | c :: _ =>
    isLabelChar c && (text.getLast?.map isLabelChar).getD false && text.length ≤ 63 &&
      text.all fun c => isLabelChar c || c == '-'

/-- The parts of a text between the characters `c`. -/
def splitAt (c : Char) : List Char → List (List Char)
  | [] => [[]]
  | d :: rest =>
    if d = c then [] :: splitAt c rest
    else
      match splitAt c rest with
      | [] => [[d]]
      | part :: parts => (d :: part) :: parts

/-- Whether a text is a domain name of at most 253 characters. A dot may stand behind the last
label. -/
def isDomain (text : List Char) : Bool :=
  let labels := splitAt '.' text
  let labels := if labels.length > 1 && labels.getLast? = some [] then labels.dropLast else labels
  text.length ≤ 253 && labels.all isLabel && !(labels.getLast?.map (·.all isDigit)).getD true

/-! ## Numbers -/

/-- Whether a text is a number below 256 without a leading zero. -/
def isByte (text : List Char) : Bool :=
  let isPadded := text.length > 1 && text.head? = some '0'
  !text.isEmpty && text.length ≤ 3 && text.all isDigit && !isPadded &&
    ofDigits 10 (text.map digitValue) < 256

/-- Whether a text is four bytes with dots between them. -/
def isVersion4 (text : List Char) : Bool :=
  let parts := splitAt '.' text
  parts.length = 4 && parts.all isByte

/-- The number of groups of 16 bits that the parts between colons stand for. The last part may be
written as four bytes, which are two groups, if `dotted` allows it. -/
def groups? (dotted : Bool) : List (List Char) → Option Nat
  | [] => some 0
  | part :: parts =>
    if dotted && parts.isEmpty && isVersion4 part then some 2
    else if !part.isEmpty && part.length ≤ 4 && part.all (fun c => (hexValue? c).isSome) then
      (groups? dotted parts).map (· + 1)
    else none

/-- The text before the first two colons that stand together, and the text behind them. -/
def atDoubleColon? : List Char → Option (List Char × List Char)
  | [] => none
  | [_] => none
  | c :: d :: rest =>
    if c = ':' ∧ d = ':' then some ([], rest)
    else (atDoubleColon? (d :: rest)).map fun (before, behind) => (c :: before, behind)

/-- The number of groups in a text, which may be empty. -/
def groupsIn? (dotted : Bool) (text : List Char) : Option Nat :=
  if text.isEmpty then some 0 else groups? dotted (splitAt ':' text)

/-- Whether a text is eight groups of 16 bits with colons between them. Two colons stand for the
groups that are left out, at least one. -/
def isVersion6 (text : List Char) : Bool :=
  match atDoubleColon? text with
  | none => groupsIn? true text = some 8
  | some (before, behind) =>
    match groupsIn? false before, groupsIn? true behind with
    | some m, some n => m + n ≤ 7
    | _, _ => false

/-- Whether a text is the name of a host. -/
def isHost (text : String) : Bool :=
  let text := text.toList
  isDomain text || isVersion4 text || isVersion6 text

end StorageBackend.Text.Host

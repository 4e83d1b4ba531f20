import StorageBackend.Yaml.Scalar

/-!
# YAML tokens

A token is a scalar, an indicator, or the beginning or end of a block collection, which has no
character of its own. Tags keep the bytes that their escapes stand for.
-/

namespace StorageBackend.Yaml

/-- A token of a YAML text. -/
inductive Token where
  /-- A directive that gives the version of YAML. -/
  | version (major minor : Nat)
  /-- A directive that lets tags be abbreviated: `handle` stands for `stem`. -/
  | tagHandle (handle : List Char) (stem : List UInt8)
  | documentStart
  | documentEnd
  | blockSequenceStart
  | blockMappingStart
  /-- The end of a block sequence or a block mapping. -/
  | blockEnd
  | flowSequenceStart
  | flowSequenceEnd
  | flowMappingStart
  | flowMappingEnd
  /-- The hyphen before an item of a block sequence. -/
  | blockEntry
  /-- The comma between the parts of a flow collection. -/
  | flowEntry
  /-- The beginning of a key, with or without an indicator. -/
  | key
  /-- The colon before a value. -/
  | value
  | alias (name : List Char)
  | anchor (name : List Char)
  | tag (handle : List Char) (rest : List UInt8)
  /-- A scalar, and whether it is plain. -/
  | scalar (text : List Char) (plain : Bool)
  /-- The end of the text. -/
  | streamEnd
deriving DecidableEq

/-! ## Anchors and aliases -/

/-- The indicators that may follow the name of an anchor or an alias. -/
def namesEnd : List Char := ['?', ':', ',', ']', '\x7d', '%', '@', '\x60']

/-- Reads the name of an anchor or an alias. A gap or an indicator of `namesEnd` has to follow. -/
def anchorName (cursor : Cursor) : Option (List Char × Cursor) :=
  let name := cursor.text.takeWhile isWordChar
  let behind := cursor.right name.length
  let closed :=
    atGap behind.text || (behind.text.head?.map fun c => namesEnd.contains c).getD false
  if name.isEmpty || !closed then none else some (name, behind)

/-! ## Tags -/

/-- Whether a character may stand in a tag. Inside `<` and `>` the flow indicators may too, but for
the braces. -/
def isUriChar (verbatim : Bool) (c : Char) : Bool :=
  isWordChar c || ";/?:@&=+$.%!~*'()".toList.contains c ||
    (verbatim && (c == ',' || c == '[' || c == ']'))

/-- How many bytes continue a sequence that begins with a byte, if a sequence may begin so. -/
def continuations? (byte : Nat) : Option Nat :=
  if byte < 0x80 then some 0
  else if byte / 32 = 6 then some 1
  else if byte / 16 = 14 then some 2
  else if byte / 8 = 30 then some 3
  else none

/-- Reads the characters of a tag. Escaped bytes have to come in groups that have the form of UTF-8;
`pending` more bytes belong to the current group. -/
def uriFrom (verbatim : Bool) (pending : Nat) : List Char → Option (List UInt8 × List Char)
  | [] => if pending = 0 then some ([], []) else none
  | c :: text =>
    if c = '%' then
      match text with
      | a :: b :: text => do
        let byte := (← Text.hexValue? a) * 16 + (← Text.hexValue? b)
        let pending ←
          if pending = 0 then continuations? byte
          else if byte / 64 = 2 then some (pending - 1)
          else none
        let (bytes, rest) ← uriFrom verbatim pending text
        some (UInt8.ofNat byte :: bytes, rest)
      | _ => none
    else if pending > 0 then none
    else if isUriChar verbatim c then do
      let (bytes, rest) ← uriFrom verbatim 0 text
      some (UInt8.ofNat c.toNat :: bytes, rest)
    else some ([], c :: text)

/-- The part of a tag before its first zero byte, where a tag ends. -/
def beforeZero (bytes : List UInt8) : List UInt8 := bytes.takeWhile (· ≠ 0)

/-- Reads the characters of a tag, and moves on the line. -/
def uri (verbatim : Bool) (cursor : Cursor) : Option (List UInt8 × Cursor) := do
  let (bytes, rest) ← uriFrom verbatim 0 cursor.text
  some (bytes, cursor.right (cursor.text.length - rest.length))

/-- Reads an exclamation mark, the word behind it, and a second exclamation mark if there is one. -/
def tagHandle (cursor : Cursor) : Option (List Char × Cursor) :=
  match cursor.text with
  | '!' :: rest =>
    let word := rest.takeWhile isWordChar
    let behind := cursor.right (1 + word.length)
    if behind.text.head? = some '!' then some ('!' :: (word ++ ['!']), behind.right 1)
    else some ('!' :: word, behind)
  | _ => none

/-- The bytes of an ASCII text. -/
def asciiBytes (text : List Char) : List UInt8 := text.map fun c => UInt8.ofNat c.toNat

/-- Reads a tag. It is verbatim between `<` and `>`, or a handle and the rest, where the handle may
be a single exclamation mark. -/
def tag (flow : Bool) (cursor : Cursor) : Option (Token × Cursor) := do
  let (token, behind) ←
    if (cursor.text.drop 1).head? = some '<' then do
      let (bytes, behind) ← uri true (cursor.right 2)
      if bytes.isEmpty || behind.text.head? ≠ some '>' then none
      else some (Token.tag [] (beforeZero bytes), behind.right 1)
    else do
      let (handle, behind) ← tagHandle cursor
      if handle.length > 1 && handle.getLast? = some '!' then
        let (bytes, behind) ← uri false behind
        if bytes.isEmpty then none else some (.tag handle (beforeZero bytes), behind)
      else
        let (bytes, behind) ← uri false behind
        let bytes := beforeZero (asciiBytes handle.tail ++ bytes)
        if bytes.isEmpty then some (.tag [] (asciiBytes ['!']), behind)
        else some (.tag ['!'] bytes, behind)
  if atGap behind.text || (flow && behind.text.head? = some ',') then some (token, behind) else none

/-! ## Directives -/

/-- Reads a number of one to nine digits. -/
def versionNumber (cursor : Cursor) : Option (Nat × Cursor) :=
  let digits := cursor.text.takeWhile Text.isDigit
  if digits.isEmpty || digits.length > 9 then none
  else some (Text.ofDigits 10 (digits.map Text.digitValue), cursor.right digits.length)

/-- Reads a directive after its percent sign, with the rest of its line. -/
def directive (cursor : Cursor) : Option (Token × Cursor) := do
  let name := cursor.text.takeWhile isWordChar
  let behind := cursor.right name.length
  let value := behind.skipWhile isBlank
  if name.isEmpty || !atGap behind.text then none
  else if name = "YAML".toList then
    let (major, behind) ← versionNumber value
    if behind.text.head? ≠ some '.' then none
    else
      let (minor, behind) ← versionNumber (behind.right 1)
      some (.version major minor, ← restOfLine behind)
  else if name = "TAG".toList then
    let (handle, behind) ← tagHandle value
    let wellFormed := handle.length = 1 || handle.getLast? = some '!'
    if !wellFormed || (behind.text.head?.map isBlank) ≠ some true then none
    else
      let (stem, behind) ← uri true (behind.skipWhile isBlank)
      if stem.isEmpty || !atGap behind.text then none
      else some (.tagHandle handle (beforeZero stem), ← restOfLine behind)
  else none

end StorageBackend.Yaml

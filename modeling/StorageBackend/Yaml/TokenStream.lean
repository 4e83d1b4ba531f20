import StorageBackend.Yaml.Mark
import StorageBackend.Yaml.Token

/-!
# From characters to tokens

A key without an indicator is known to be one only when its colon is met. `Scanner` therefore holds
back the tokens from the first place where such a key may still turn out to have begun. When the
text is found to be malformed or cannot be read any further, the tokens that are held back are lost,
and the stream breaks off.

Main definition: `tokens`.
-/

namespace StorageBackend.Yaml

/-- A place where a key without an indicator may have begun. -/
structure KeyPlace where
  /-- The number of the token that begins there. -/
  number : Nat
  mark : Mark
  /-- Whether there has to be a key: the place continues a block mapping. -/
  required : Bool
deriving Inhabited

/-- A key may be at most this many bytes before its colon. -/
def longestKey : Nat := 1024

/-- Whether a place is too far behind: on an earlier line, or more than `longestKey` bytes. -/
def KeyPlace.isStale (place : KeyPlace) (mark : Mark) : Bool :=
  place.mark.line < mark.line || place.mark.offset + longestKey < mark.offset

/-- A text that is being cut into tokens. -/
structure Scanner where
  cursor : Cursor
  /-- Whether the text ends where the cursor's text ends. If not, the rest cannot be read. -/
  whole : Bool
  /-- The tokens that are certain, last one first. -/
  certain : List Token
  /-- How many tokens are certain. -/
  count : Nat
  /-- The tokens that are held back, in order. -/
  held : List Token
  /-- The indentation of the innermost block collection; `-1` outside of all. -/
  indent : Int
  /-- The indentations around it, innermost first. -/
  outer : List Int
  /-- For the text outside of flow collections and for every open flow collection, innermost first,
  the place where a key may have begun. -/
  places : List (Option KeyPlace)
  /-- Whether a key without an indicator may begin here. -/
  keyAllowed : Bool
  /-- Whether the whole text has been cut. -/
  ended : Bool
deriving Inhabited

namespace Scanner

/-- A text before its first token. -/
def start (text : List Char) (whole : Bool) : Scanner where
  cursor := ⟨text, Mark.start⟩
  whole := whole
  certain := []
  count := 0
  held := []
  indent := -1
  outer := []
  places := [none]
  keyAllowed := true
  ended := false

/-- Whether a flow collection is open. -/
def inFlow (s : Scanner) : Bool := s.places.length > 1

/-- The first column at which the text belongs to the innermost block collection. -/
def margin (s : Scanner) : Nat := (s.indent + 1).toNat

/-- Adds a token at the end. -/
def push (s : Scanner) (token : Token) : Scanner := { s with held := s.held ++ [token] }

/-- Adds a token that is next but one to the place with the given number. -/
def insertAt (s : Scanner) (number : Nat) (token : Token) : Scanner :=
  let before := s.held.take (number - s.count)
  { s with held := before ++ token :: s.held.drop before.length }

/-- The number of the next token. -/
def nextNumber (s : Scanner) : Nat := s.count + s.held.length

/-! ## Places of keys -/

/-- Gives up the place of a key in the innermost collection. A required key is missing then. -/
def dropPlace (s : Scanner) : Option Scanner :=
  match s.places with
  | some place :: places =>
    if place.required then none else some { s with places := none :: places }
  | _ => some s

/-- Notes that a key may begin here, if that is allowed. -/
def notePlace (s : Scanner) : Option Scanner :=
  if s.keyAllowed then do
    let s ← s.dropPlace
    let place : KeyPlace :=
      ⟨s.nextNumber, s.cursor.mark, !s.inFlow && s.indent == (s.cursor.mark.column : Int)⟩
    some { s with places := some place :: s.places.tail }
  else some s

/-- Gives up the places that are too far behind. -/
def dropStale (s : Scanner) : Option Scanner := do
  let places ← s.places.mapM fun
    | none => some none
    | some place =>
      if place.isStale s.cursor.mark then (if place.required then none else some none)
      else some (some place)
  some { s with places := places }

/-! ## Indentation -/

/-- Opens a block collection if the column is further to the right than the innermost one. Its token
is put at the place with the given number, or at the end. -/
def openBlock (s : Scanner) (column : Nat) (number : Option Nat) (token : Token) : Scanner :=
  if s.inFlow || (column : Int) ≤ s.indent then s
  else
    let s := { s with indent := column, outer := s.indent :: s.outer }
    match number with
    | none => s.push token
    | some number => s.insertAt number token

/-- Closes the block collections that are further to the right than the column. -/
def closeBlocks (s : Scanner) (column : Int) : Scanner :=
  if s.inFlow then s else go s column s.outer
where
  /-- Closes the blocks inside `outer`. -/
  go (s : Scanner) (column : Int) : List Int → Scanner
    | [] => s
    | indent :: outer =>
      if s.indent > column then
        go { s.push .blockEnd with indent := indent, outer := outer } column outer
      else s

/-! ## Space between tokens -/

/-- Passes over blanks, comments and line breaks. A tab is no indentation, so it is only passed over
where no key may begin. A byte order mark is passed over at the beginning of a line, and takes a
column of its own. Outside of flow collections a key may begin on every new line. -/
def skipSpace (keyAllowed inFlow : Bool) (comment : Bool) (mark : Mark) :
    List Char → Bool × Cursor
  | [] => (keyAllowed, ⟨[], mark⟩)
  | c :: rest =>
    if isBreak c then
      let keyAllowed := keyAllowed || !inFlow
      match c, rest with
      | '\r', '\n' :: rest => skipSpace keyAllowed inFlow false (mark.newLine 2) rest
      | _, rest => skipSpace keyAllowed inFlow false (mark.newLine c.utf8Size) rest
    else if comment || c == ' ' || (c == '\t' && (inFlow || !keyAllowed)) ||
        (c == byteOrderMark && mark.column == 0) then
      skipSpace keyAllowed inFlow comment (mark.right c) rest
    else if c == '#' then skipSpace keyAllowed inFlow true (mark.right c) rest
    else (keyAllowed, ⟨c :: rest, mark⟩)

/-! ## Tokens -/

/-- Moves on the line and adds a token. -/
def take (s : Scanner) (count : Nat) (token : Token) : Scanner :=
  { s.push token with cursor := s.cursor.right count }

/-- The end of the text. It is on a line of its own. -/
def takeEnd (s : Scanner) : Option Scanner := do
  let mark := s.cursor.mark
  let mark := if mark.column = 0 then mark else mark.newLine 0
  let s := { s with cursor := ⟨[], mark⟩ }
  let s ← (s.closeBlocks (-1)).dropPlace
  some { s.push .streamEnd with keyAllowed := false, ended := true }

/-- A directive. -/
def takeDirective (s : Scanner) : Option Scanner := do
  let s ← (s.closeBlocks (-1)).dropPlace
  let (token, cursor) ← directive (s.cursor.right 1)
  some { s.push token with cursor := cursor, keyAllowed := false }

/-- A line that separates documents. -/
def takeSeparator (s : Scanner) (token : Token) : Option Scanner := do
  let s ← (s.closeBlocks (-1)).dropPlace
  some { s.take 3 token with keyAllowed := false }

/-- The opening bracket of a flow collection. -/
def takeFlowStart (s : Scanner) (token : Token) : Option Scanner := do
  let s ← s.notePlace
  some { s.take 1 token with places := none :: s.places, keyAllowed := true }

/-- The closing bracket of a flow collection. -/
def takeFlowEnd (s : Scanner) (token : Token) : Option Scanner := do
  let s ← s.dropPlace
  let places := if s.inFlow then s.places.tail else s.places
  some { s.take 1 token with places := places, keyAllowed := false }

/-- A comma inside a flow collection. -/
def takeFlowEntry (s : Scanner) : Option Scanner := do
  let s ← s.dropPlace
  some { s.take 1 .flowEntry with keyAllowed := true }

/-- The hyphen of an item. -/
def takeBlockEntry (s : Scanner) : Option Scanner := do
  let s ←
    if s.inFlow then some s
    else if s.keyAllowed then some (s.openBlock s.cursor.mark.column none .blockSequenceStart)
    else none
  let s ← s.dropPlace
  some { s.take 1 .blockEntry with keyAllowed := true }

/-- The indicator of a key. -/
def takeKey (s : Scanner) : Option Scanner := do
  let s ←
    if s.inFlow then some s
    else if s.keyAllowed then some (s.openBlock s.cursor.mark.column none .blockMappingStart)
    else none
  let s ← s.dropPlace
  some { s.take 1 .key with keyAllowed := !s.inFlow }

/-- The colon before a value. It shows that a key began at the place that was noted. -/
def takeValue (s : Scanner) : Option Scanner := do
  match s.places with
  | some place :: places =>
    let s := s.insertAt place.number .key
    let s := s.openBlock place.mark.column (some place.number) .blockMappingStart
    some { s.take 1 .value with places := none :: places, keyAllowed := false }
  | _ =>
    let s ←
      if s.inFlow then some s
      else if s.keyAllowed then some (s.openBlock s.cursor.mark.column none .blockMappingStart)
      else none
    some { s.take 1 .value with keyAllowed := !s.inFlow }

/-- An anchor or an alias. -/
def takeAnchor (s : Scanner) (token : List Char → Token) : Option Scanner := do
  let s ← s.notePlace
  let (name, cursor) ← anchorName (s.cursor.right 1)
  some { s.push (token name) with cursor := cursor, keyAllowed := false }

/-- A tag. -/
def takeTag (s : Scanner) : Option Scanner := do
  let s ← s.notePlace
  let (token, cursor) ← tag s.inFlow s.cursor
  some { s.push token with cursor := cursor, keyAllowed := false }

/-- A literal or a folded block scalar. -/
def takeBlockScalar (s : Scanner) (literal : Bool) : Option Scanner := do
  let s ← s.dropPlace
  let (text, cursor) ← blockScalar literal s.margin (s.cursor.right 1)
  some { s.push (.scalar text false) with cursor := cursor, keyAllowed := true }

/-- A scalar in quotes. -/
def takeQuoted (s : Scanner) (read : Cursor → Option (List Char × Cursor)) : Option Scanner := do
  let s ← s.notePlace
  let (text, cursor) ← read (s.cursor.right 1)
  some { s.push (.scalar text false) with cursor := cursor, keyAllowed := false }

/-- A plain scalar. Behind a line break a key may begin. -/
def takePlain (s : Scanner) : Option Scanner := do
  let s ← s.notePlace
  let (text, cursor, broken) ← plain s.inFlow s.margin s.cursor
  some { s.push (.scalar text true) with cursor := cursor, keyAllowed := broken }

/-- Whether a character begins something else than a plain scalar wherever it stands. -/
def isIndicator (c : Char) : Bool := "-?:,[]\x7b\x7d#&*!|>'\"%@\x60".toList.contains c

/-- Whether `count` characters can be looked at. Behind the end of a whole text there is nothing,
which can be looked at as well. -/
def sees (s : Scanner) (count : Nat) : Bool :=
  s.whole || !(s.cursor.text.drop (count - 1)).isEmpty

/-- Reads the token at the cursor. -/
def takeToken (s : Scanner) : Option Scanner :=
  match s.cursor.text with
  | [] => s.takeEnd
  | c :: rest =>
    if c = '%' ∧ s.cursor.mark.column = 0 then s.takeDirective
    else if atDocumentLine '-' s.cursor.text s.cursor.mark then s.takeSeparator .documentStart
    else if atDocumentLine '.' s.cursor.text s.cursor.mark then s.takeSeparator .documentEnd
    else if c = '[' then s.takeFlowStart .flowSequenceStart
    else if c = '\x7b' then s.takeFlowStart .flowMappingStart
    else if c = ']' then s.takeFlowEnd .flowSequenceEnd
    else if c = '\x7d' then s.takeFlowEnd .flowMappingEnd
    else if c = ',' then s.takeFlowEntry
    else if c = '-' ∧ atGap rest then s.takeBlockEntry
    else if c = '?' ∧ (s.inFlow ∨ atGap rest) then s.takeKey
    else if c = ':' ∧ (s.inFlow ∨ atGap rest) then s.takeValue
    else if c = '*' then s.takeAnchor .alias
    else if c = '&' then s.takeAnchor .anchor
    else if c = '!' then s.takeTag
    else if c = '|' ∧ !s.inFlow then s.takeBlockScalar true
    else if c = '>' ∧ !s.inFlow then s.takeBlockScalar false
    else if c = '\x27' then s.takeQuoted singleQuoted
    else if c = '"' then s.takeQuoted doubleQuoted
    else if isIndicator c then
      if c = '-' ∨ c = '?' ∨ c = ':' then s.takePlain else none
    else if isBlank c then none
    else s.takePlain

/-- A token is not begun unless this many characters can be looked at. -/
def lookahead : Nat := 4

/-- Reads the next token, with the beginnings and ends of block collections before it. The character
behind the token has to be looked at as well. -/
def next (s : Scanner) : Option Scanner := do
  let (keyAllowed, cursor) :=
    skipSpace s.keyAllowed s.inFlow false s.cursor.mark s.cursor.text
  let s ← dropStale { s with cursor := cursor, keyAllowed := keyAllowed }
  let s := s.closeBlocks cursor.mark.column
  if s.sees lookahead then
    let s ← s.takeToken
    if s.sees 1 then some s else none
  else none

/-- The number of tokens that can be released: those before every place where a key may begin. -/
def releasable (s : Scanner) : Nat :=
  s.places.foldl (fun n place => match place with
    | none => n
    | some place => min n (place.number - s.count)) s.held.length

/-- Releases the tokens that have become certain. -/
def release (s : Scanner) : Option Scanner := do
  let s ← s.dropStale
  let n := s.releasable
  some { s with
    certain := (s.held.take n).reverse ++ s.certain, count := s.count + n, held := s.held.drop n }

/-- The certain tokens of a text. Every token but the last has at least one character, so a `fuel`
above the length of the text is enough. -/
def run : (fuel : Nat) → Scanner → List Token
  | 0, s => s.certain.reverse
  | fuel + 1, s =>
    if s.ended then s.certain.reverse
    else
      match s.next.bind release with
      | none => s.certain.reverse
      | some s => run fuel s

end Scanner

/-- The tokens of a text, up to the first place where it is malformed or cannot be read any further.
Only a text that is well-formed to its end has the token `streamEnd`. -/
def tokens (text : List Char) : List Token :=
  let (text, whole) := readable text
  (Scanner.start text whole).run (text.length + 2)

end StorageBackend.Yaml

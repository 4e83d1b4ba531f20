import StorageBackend.Text.Basic
import StorageBackend.Yaml.Mark

/-!
# The text of YAML scalars

The scalars of YAML in their five styles: plain, in single or double quotes, and the literal and the
folded block. White space inside the first three is folded: a line break becomes a space, further
ones stay. Every reader gives the text of the scalar, what is left of the document, and its place.
-/

namespace StorageBackend.Yaml

/-- Text with the place at which it begins. -/
structure Cursor where
  text : List Char
  mark : Mark
deriving DecidableEq, Inhabited

/-- Passes over `count` characters of a line. -/
def Cursor.right (cursor : Cursor) (count : Nat) : Cursor :=
  ⟨cursor.text.drop count, (cursor.text.take count).foldl Mark.right cursor.mark⟩

/-- Passes over the characters of a line that satisfy `p`. -/
def Cursor.skipWhile (cursor : Cursor) (p : Char → Bool) : Cursor :=
  cursor.right (cursor.text.takeWhile p).length

/-! ## White space inside scalars -/

/-- White space inside a scalar: blanks on one line, or line breaks. -/
structure Gap where
  /-- The blanks, last one first, as long as there is no line break. -/
  blanks : List Char
  /-- The first line break. -/
  first : List Char
  /-- The other line breaks, last one first. -/
  others : List Char
  /-- Whether a line has ended. -/
  broken : Bool
deriving Inhabited

namespace Gap

/-- No white space. -/
def none : Gap := ⟨[], [], [], false⟩

/-- A line that has ended without a trace. -/
def escaped : Gap := ⟨[], [], [], true⟩

/-- Adds a blank. Blanks behind a line break are not kept. -/
def blank (gap : Gap) (c : Char) : Gap :=
  if gap.broken then gap else { gap with blanks := c :: gap.blanks }

/-- Adds a line break. -/
def newLine (gap : Gap) (c : Char) : Gap :=
  if gap.broken then { gap with others := breakText c :: gap.others }
  else ⟨[], [breakText c], [], true⟩

/-- What the white space stands for, in reverse: a single line feed becomes a space. -/
def reversed (gap : Gap) : List Char :=
  if !gap.broken then gap.blanks
  else if gap.first = ['\n'] then (if gap.others.isEmpty then [' '] else gap.others)
  else gap.others ++ gap.first

end Gap

/-! ## Plain scalars -/

/-- Whether a plain scalar ends before the character at the beginning of the text. -/
def endsPlain (flow : Bool) : List Char → Bool
  | [] => true
  | c :: rest => (c == ':' && atGap rest) || (flow && isFlowIndicator c)

/-- Whether a colon inside a flow collection is followed by a character that makes it ambiguous. -/
def ambiguousColon (flow : Bool) : List Char → Bool
  | ':' :: c :: _ => flow && (isFlowIndicator c || c == '?')
  | _ => false

/-- Reads a plain scalar. `done` holds the characters read so far in reverse, and `gap` the white
space that may turn out to be inside the scalar. Outside flow collections the scalar ends on a line
that is indented by less than `margin`, where tabs do not count as indentation. The last component
tells whether the scalar was left behind a line break. -/
def plainFrom (flow : Bool) (margin : Nat) (done : List Char) (gap : Option Gap) (mark : Mark) :
    List Char → Option (List Char × Cursor × Bool)
  | [] => some (stop [] mark)
  | c :: rest =>
    if isBlank c then
      let gap := gap.getD Gap.none
      if gap.broken && mark.column < margin && c == '\t' then none
      else plainFrom flow margin done (some (gap.blank c)) (mark.right c) rest
    else if isBreak c then
      let gap := (gap.getD Gap.none).newLine c
      match c, rest with
      | '\r', '\n' :: rest => plainFrom flow margin done (some gap) (mark.newLine 2) rest
      | _, rest => plainFrom flow margin done (some gap) (mark.newLine c.utf8Size) rest
    else if gap.isSome &&
        ((!flow && mark.column < margin) || atSeparator (c :: rest) mark || c == '#') then
      some (stop (c :: rest) mark)
    else if ambiguousColon flow (c :: rest) then none
    else if endsPlain flow (c :: rest) then some (stop (c :: rest) mark)
    else
      let done := ((gap.map Gap.reversed).getD []) ++ done
      plainFrom flow margin (c :: done) Option.none (mark.right c) rest
where
  /-- Ends the scalar before the rest of the text. -/
  stop (rest : List Char) (mark : Mark) : List Char × Cursor × Bool :=
    (done.reverse, ⟨rest, mark⟩, (gap.map Gap.broken).getD false)

/-- Reads a plain scalar. -/
def plain (flow : Bool) (margin : Nat) (cursor : Cursor) : Option (List Char × Cursor × Bool) :=
  plainFrom flow margin [] none cursor.mark cursor.text

/-! ## Quoted scalars -/

/-- The character that a one-letter escape stands for. -/
def shortEscape? (c : Char) : Option Char :=
  match c with
  | '0' => some '\x00'
  | 'a' => some '\x07'
  | 'b' => some '\x08'
  | 't' => some '\t'
  | '\t' => some '\t'
  | 'n' => some '\n'
  | 'v' => some '\x0b'
  | 'f' => some '\x0c'
  | 'r' => some '\r'
  | 'e' => some '\x1b'
  | ' ' => some ' '
  | '"' => some '"'
  | '/' => some '/'
  | '\\' => some '\\'
  | 'N' => some '\u0085'
  | '_' => some '\u00a0'
  | 'L' => some '\u2028'
  | 'P' => some '\u2029'
  | _ => none

/-- The number of hexadecimal digits behind the letter of an escape. -/
def escapeWidth? (c : Char) : Option Nat :=
  match c with
  | 'x' => some 2
  | 'u' => some 4
  | 'U' => some 8
  | _ => none

/-- The character with the number that hexadecimal digits stand for. Surrogates and numbers above
`0x10ffff` are none. -/
def hexChar? (digits : List Char) : Option Char := do
  let n := Text.ofDigits 16 (← digits.mapM Text.hexValue?)
  if h : n.isValidChar then some (Char.ofNatAux n h) else none

/-- Reads a scalar in double quotes, after the opening one. `done` holds the characters read so far
in reverse, and `gap` the white space before the text. -/
def doubleQuotedFrom : (fuel : Nat) → (done : List Char) → (gap : Gap) → Cursor →
    Option (List Char × Cursor)
  | 0, _, _, _ => none
  | fuel + 1, done, gap, ⟨text, mark⟩ =>
    match text with
    | [] => none
    | c :: rest =>
      if isBlank c then doubleQuotedFrom fuel done (gap.blank c) ⟨rest, mark.right c⟩
      else if isBreak c then
        let (_, rest, next) := lineBreak text mark
        doubleQuotedFrom fuel done (gap.newLine c) ⟨rest, next⟩
      else if atSeparator text mark then none
      else
        let done := gap.reversed ++ done
        if c = '"' then some (done.reverse, ⟨rest, mark.right c⟩)
        else if c = '\\' then
          match rest with
          | [] => none
          | e :: others =>
            if isBreak e then
              let (_, rest, next) := lineBreak rest (mark.right c)
              doubleQuotedFrom fuel done Gap.escaped ⟨rest, next⟩
            else
              match shortEscape? e with
              | some escaped =>
                doubleQuotedFrom fuel (escaped :: done) Gap.none ⟨others, (mark.right c).right e⟩
              | none => do
                let width ← escapeWidth? e
                let digits := others.take width
                if digits.length = width then
                  let escaped ← hexChar? digits
                  doubleQuotedFrom fuel (escaped :: done) Gap.none
                    ⟨others.drop width, (c :: e :: digits).foldl Mark.right mark⟩
                else none
        else doubleQuotedFrom fuel (c :: done) Gap.none ⟨rest, mark.right c⟩

/-- Reads a scalar in double quotes, after the opening one. -/
def doubleQuoted (cursor : Cursor) : Option (List Char × Cursor) :=
  doubleQuotedFrom (cursor.text.length + 1) [] Gap.none cursor

/-- Reads a scalar in single quotes, after the opening one. -/
def singleQuotedFrom : (fuel : Nat) → (done : List Char) → (gap : Gap) → Cursor →
    Option (List Char × Cursor)
  | 0, _, _, _ => none
  | fuel + 1, done, gap, ⟨text, mark⟩ =>
    match text with
    | [] => none
    | c :: rest =>
      if isBlank c then singleQuotedFrom fuel done (gap.blank c) ⟨rest, mark.right c⟩
      else if isBreak c then
        let (_, rest, next) := lineBreak text mark
        singleQuotedFrom fuel done (gap.newLine c) ⟨rest, next⟩
      else if atSeparator text mark then none
      else
        let done := gap.reversed ++ done
        if c = '\x27' then
          match rest with
          | '\x27' :: rest =>
            singleQuotedFrom fuel ('\x27' :: done) Gap.none ⟨rest, (mark.right c).right c⟩
          | rest => some (done.reverse, ⟨rest, mark.right c⟩)
        else singleQuotedFrom fuel (c :: done) Gap.none ⟨rest, mark.right c⟩

/-- Reads a scalar in single quotes, after the opening one. -/
def singleQuoted (cursor : Cursor) : Option (List Char × Cursor) :=
  singleQuotedFrom (cursor.text.length + 1) [] Gap.none cursor

/-! ## Block scalars -/

/-- What becomes of the line breaks at the end of a block scalar. -/
inductive Chomping where
  | strip
  | clip
  | keep
deriving DecidableEq

/-- The sign that chooses what becomes of the line breaks at the end. -/
def Chomping.ofSign? (c : Char) : Option Chomping :=
  if c = '+' then some .keep else if c = '-' then some .strip else none

/-- Reads the sign and the indentation digit of a block scalar, in either order; zero is not an
indentation. -/
def blockHeader (text : List Char) : Option (Chomping × Nat × List Char) :=
  let indentation (text : List Char) : Option (Nat × List Char) :=
    match text with
    | [] => some (0, [])
    | c :: rest =>
      if c = '0' then none
      else if Text.isDigit c then some (Text.digitValue c, rest)
      else some (0, text)
  let sign (text : List Char) : Option (Chomping × List Char) :=
    match text with
    | [] => none
    | c :: rest => (Chomping.ofSign? c).map fun chomping => (chomping, rest)
  match sign text with
  | some (chomping, rest) => do
    let (increment, rest) ← indentation rest
    some (chomping, increment, rest)
  | none => do
    let (increment, rest) ← indentation text
    if increment = 0 then some (.clip, 0, rest)
    else
      match sign rest with
      | some (chomping, rest) => some (chomping, increment, rest)
      | none => some (.clip, increment, rest)

/-- Passes over blanks and a comment up to the end of a line, and over its line break. -/
def restOfLine (cursor : Cursor) : Option Cursor :=
  let cursor := cursor.skipWhile isBlank
  let cursor :=
    if cursor.text.head? = some '#' then cursor.skipWhile fun c => !isBreak c else cursor
  if atLineEnd cursor.text then
    let (_, text, mark) := lineBreak cursor.text cursor.mark
    some ⟨text, mark⟩
  else none

/-- The empty lines before a line of a block scalar: what their line breaks stand for, the
indentation of the scalar, and the text of the line. An `indent` of zero is not known yet; it
becomes the largest indentation of these lines, at least `margin` and at least one. -/
def emptyLines (margin : Nat) (indent widest : Nat) (done : List Char) (mark : Mark) :
    List Char → Option (List Char × Nat × Cursor)
  | [] =>
    let widest := max widest mark.column
    some (done.reverse, if indent = 0 then max widest (max margin 1) else indent, ⟨[], mark⟩)
  | c :: rest =>
    let open? := indent = 0 ∨ mark.column < indent
    if open? ∧ c = ' ' then emptyLines margin indent widest done (mark.right c) rest
    else
      let widest := max widest mark.column
      if open? ∧ c = '\t' then none
      else if isBreak c then
        match c, rest with
        | '\r', '\n' :: rest => emptyLines margin indent widest ('\n' :: done) (mark.newLine 2) rest
        | _, rest =>
          emptyLines margin indent widest (breakText c :: done) (mark.newLine c.utf8Size) rest
      else
        some (done.reverse, if indent = 0 then max widest (max margin 1) else indent,
          ⟨c :: rest, mark⟩)

/-- Reads the lines of a block scalar. `done` holds the characters read so far in reverse, `last`
the line break behind them, `empties` the breaks of the empty lines since, and `blankBefore` whether
the line before began with a blank. Between two lines of a folded scalar that begin with no blank a
single line feed becomes a space. -/
def blockLines (literal : Bool) (chomping : Chomping) (margin indent : Nat) :
    (fuel : Nat) → (done last empties : List Char) → (blankBefore : Bool) → Cursor →
    Option (List Char × Cursor)
  | 0, _, _, _, _, _ => none
  | fuel + 1, done, last, empties, blankBefore, cursor =>
    match cursor.text with
    | c :: _ =>
      if cursor.mark.column = indent then
        let folds := !literal && last = ['\n'] && !blankBefore && !isBlank c
        let joint := if folds then (if empties.isEmpty then [' '] else []) else last
        let line := cursor.text.takeWhile fun c => !isBreak c
        let behind := cursor.right line.length
        let (last, text, mark) := lineBreak behind.text behind.mark
        match emptyLines margin indent 0 [] mark text with
        | none => none
        | some (next, _, following) =>
          blockLines literal chomping margin indent fuel
            (line.reverse ++ (joint ++ empties).reverse ++ done) last next (isBlank c) following
      else finish done last empties cursor
    | [] => finish done last empties cursor
where
  /-- Ends the scalar with the line breaks that are kept. -/
  finish (done last empties : List Char) (cursor : Cursor) : Option (List Char × Cursor) :=
    let kept :=
      match chomping with
      | .strip => []
      | .clip => last
      | .keep => last ++ empties
    some (done.reverse ++ kept, cursor)

/-- Reads a block scalar after its indicator, inside a block that is indented by `margin - 1`. -/
def blockScalar (literal : Bool) (margin : Nat) (cursor : Cursor) :
    Option (List Char × Cursor) := do
  let (chomping, increment, rest) ← blockHeader cursor.text
  let cursor ← restOfLine (cursor.right (cursor.text.length - rest.length))
  let indent := if increment = 0 then 0 else (margin - 1) + increment
  let (empties, indent, cursor) ← emptyLines margin indent 0 [] cursor.mark cursor.text
  blockLines literal chomping margin indent (cursor.text.length + 2) [] [] empties false cursor

end StorageBackend.Yaml

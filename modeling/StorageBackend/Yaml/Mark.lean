/-!
# Positions and character classes of YAML

A `Mark` counts bytes, lines and columns. A column is a number of characters; only the distance from
the beginning of the text is measured in the bytes of its UTF-8 form. Five characters end a line; a
carriage return and a line feed behind it end one line together.

A text is read in portions of a fixed size, and a portion can be read only if YAML allows all of its
characters. What comes before the first portion that cannot be read still counts.
-/

namespace StorageBackend.Yaml

/-- A position in a text: the bytes before it, the lines before it, and the characters before it on
its line. -/
structure Mark where
  offset : Nat
  line : Nat
  column : Nat
deriving DecidableEq, Inhabited

namespace Mark

/-- The beginning of a text. -/
def start : Mark := ⟨0, 0, 0⟩

/-- The position behind a character on the same line. -/
def right (mark : Mark) (c : Char) : Mark :=
  { mark with offset := mark.offset + c.utf8Size, column := mark.column + 1 }

/-- The beginning of the next line, behind a line break of `size` bytes. -/
def newLine (mark : Mark) (size : Nat) : Mark := ⟨mark.offset + size, mark.line + 1, 0⟩

end Mark

/-- Whether a character may stand in a YAML text at all. -/
def isAllowed (c : Char) : Bool :=
  let n := c.toNat
  n == 0x09 || n == 0x0a || n == 0x0d || (0x20 ≤ n && n ≤ 0x7e) || n == 0x85 ||
    (0xa0 ≤ n && n ≤ 0xd7ff) || (0xe000 ≤ n && n ≤ 0xfffd) || 0x10000 ≤ n

/-- The mark that some editors write in front of a text. -/
def byteOrderMark : Char := '\ufeff'

/-- Whether a character is a space or a tab. -/
def isBlank (c : Char) : Bool := c == ' ' || c == '\t'

/-- Whether a character ends a line. -/
def isBreak (c : Char) : Bool :=
  c == '\n' || c == '\r' || c == '\u0085' || c == '\u2028' || c == '\u2029'

/-- What a line break stands for: a line feed, but the two separators of Unicode stay themselves. -/
def breakText (c : Char) : Char := if c == '\u2028' || c == '\u2029' then c else '\n'

/-- Whether a character may stand in an anchor or in the name of a directive. -/
def isWordChar (c : Char) : Bool :=
  ('0' ≤ c && c ≤ '9') || ('A' ≤ c && c ≤ 'Z') || ('a' ≤ c && c ≤ 'z') || c == '_' || c == '-'

/-- Whether a character is one of the brackets and the comma of flow collections. -/
def isFlowIndicator (c : Char) : Bool :=
  c == ',' || c == '[' || c == ']' || c == '\x7b' || c == '\x7d'

/-- Whether a line break or the end comes next. -/
def atLineEnd : List Char → Bool
  | [] => true
  | c :: _ => isBreak c

/-- Whether a blank, a line break or the end comes next. -/
def atGap : List Char → Bool
  | [] => true
  | c :: _ => isBlank c || isBreak c

/-- Reads one line break, if there is one: what it stands for, the text behind it and its place. -/
def lineBreak (text : List Char) (mark : Mark) : List Char × List Char × Mark :=
  match text with
  | '\r' :: '\n' :: rest => (['\n'], rest, mark.newLine 2)
  | c :: rest =>
    if isBreak c then ([breakText c], rest, mark.newLine c.utf8Size) else ([], text, mark)
  | [] => ([], [], mark)

/-- Whether a line begins with three times the character `c` and a gap: the form of the lines that
separate documents. -/
def atDocumentLine (c : Char) (text : List Char) (mark : Mark) : Bool :=
  mark.column == 0 && text.take 3 == [c, c, c] && atGap (text.drop 3)

/-- Whether a line that separates documents comes next. -/
def atSeparator (text : List Char) (mark : Mark) : Bool :=
  atDocumentLine '-' text mark || atDocumentLine '.' text mark

/-! ## What can be read of a text -/

/-- The most bytes of a portion. Only whole characters belong to it. -/
def portionSize : Nat := 16384

/-- What can be read of a text, and whether that is all of it. `done` holds the portions read so far
and `portion` the current one, both in reverse; the latter has `size` bytes. -/
def readableFrom (done portion : List Char) (size : Nat) : List Char → List Char × Bool
  | [] => ((portion ++ done).reverse, true)
  | c :: rest =>
    let width := c.utf8Size
    if size + width ≤ portionSize then
      if isAllowed c then readableFrom done (c :: portion) (size + width) rest
      else (done.reverse, false)
    else if isAllowed c then readableFrom (portion ++ done) [c] width rest
    else ((portion ++ done).reverse, false)

/-- What can be read of a text, and whether that is all of it. -/
def readable (text : List Char) : List Char × Bool := readableFrom [] [] 0 text

end StorageBackend.Yaml

import StorageBackend.Json.Lexeme

/-!
# Lists, objects and values that nobody asks for

`items` and `members` read the parts of a list or an object with a reader for the parts. A member's
reader is chosen by its key, and may refuse the key before its value is looked at. `skipValue`
passes over a value of any nesting depth; it checks the form only.
-/

namespace StorageBackend.Json

open Text (isDigit)

/-- Reads something from the beginning of a text, and gives what is left. -/
abbrev Scan (α : Type) := List Char → Except Error (α × List Char)

/-! ## Separators -/

/-- Looks for the next item of a list: the text at its beginning, or nothing when the list ends. -/
def nextItem (first : Bool) (text : List Char) : Except Error (Option (List Char)) :=
  match skipSpace text with
  | [] => .error .endOfList
  | c :: rest =>
    if c = ']' then .ok none
    else if first then .ok (some (c :: rest))
    else if c = ',' then
      match skipSpace rest with
      | [] => .error .endOfValue
      | d :: rest => if d = ']' then .error .trailingComma else .ok (some (d :: rest))
    else .error .expectedListCommaOrEnd

/-- Reads the end of a list. -/
def listEnd (text : List Char) : Except Error (List Char) :=
  match skipSpace text with
  | [] => .error .endOfList
  | c :: rest =>
    if c = ']' then .ok rest
    else if c = ',' then
      .error (if (skipSpace rest).head? = some ']' then .trailingComma else .trailingCharacters)
    else .error .trailingCharacters

/-- Looks for the next key of an object: the text behind its opening quote, or nothing when the
object ends. -/
def nextKey (first : Bool) (text : List Char) : Except Error (Option (List Char)) :=
  match skipSpace text with
  | [] => .error .endOfObject
  | c :: rest =>
    if c = '\x7d' then .ok none
    else if first then
      if c = '"' then .ok (some rest) else .error .keyMustBeString
    else if c = ',' then
      match skipSpace rest with
      | [] => .error .endOfValue
      | d :: rest =>
        if d = '"' then .ok (some rest)
        else if d = '\x7d' then .error .trailingComma
        else .error .keyMustBeString
    else .error .expectedObjectCommaOrEnd

/-- Reads the end of an object. -/
def objectEnd (text : List Char) : Except Error (List Char) :=
  match skipSpace text with
  | [] => .error .endOfObject
  | c :: rest =>
    if c = '\x7d' then .ok rest
    else if c = ',' then .error .trailingComma
    else .error .trailingCharacters

/-- Reads the colon between a key and its value. -/
def colon (text : List Char) : Except Error (List Char) :=
  match skipSpace text with
  | [] => .error .endOfObject
  | c :: rest => if c = ':' then .ok rest else .error .expectedColon

/-! ## Parts -/

/-- Reads the items of a list and its end. Every item has at least one character, so a `fuel` above
the length of the text is enough. -/
def itemsFrom (item : Scan α) : (fuel : Nat) → (first : Bool) → Scan (List α)
  | 0, _, _ => .error .endOfList
  | fuel + 1, first, text => do
    match ← nextItem first text with
    | none => .ok ([], ← listEnd text)
    | some text =>
      let (value, text) ← item text
      let (values, text) ← itemsFrom item fuel false text
      .ok (value :: values, text)

/-- Reads a list after its opening bracket. -/
def items (item : Scan α) : Scan (List α) :=
  fun text => itemsFrom item (text.length + 1) true text

/-- Reads the members of an object and its end, and folds them into `state`. The key of a member
chooses the reader of its value; it may be refused before the colon is looked for. Every member has
at least one character, so a `fuel` above the length of the text is enough. -/
def membersFrom (member : σ → String → Except Error (Scan σ)) :
    (fuel : Nat) → (first : Bool) → (state : σ) → Scan σ
  | 0, _, _, _ => .error .endOfObject
  | fuel + 1, first, state, text => do
    match ← nextKey first text with
    | none => .ok (state, ← objectEnd text)
    | some text =>
      let (key, text) ← stringTail text
      let read ← member state (String.ofList key)
      let (state, text) ← read (← colon text)
      membersFrom member fuel false state text

/-- Reads an object after its opening brace. -/
def members (member : σ → String → Except Error (Scan σ)) (initial : σ) : Scan σ :=
  fun text => membersFrom member (text.length + 1) true initial text

/-! ## Values that nobody asks for -/

/-- A list or an object that is not closed yet. -/
inductive Frame where
  | list
  | object

/-- The character that closes a frame. -/
def Frame.closing : Frame → Char
  | .list => ']'
  | .object => '\x7d'

/-- The error for a text that ends inside a frame. -/
def Frame.cutShort : Frame → Error
  | .list => .endOfList
  | .object => .endOfObject

/-- The error for a part that neither a comma nor the end of the frame follows. -/
def Frame.commaOrEnd : Frame → Error
  | .list => .expectedListCommaOrEnd
  | .object => .expectedObjectCommaOrEnd

/-- Passes over the key and the colon in front of a part of a frame, if it has one. -/
def Frame.skipKey (frame : Frame) (text : List Char) : Except Error (List Char) :=
  match frame with
  | .list => .ok text
  | .object =>
    match skipSpace text with
    | [] => .error .endOfObject
    | c :: rest =>
      if c = '"' then do colon (← skipString rest) else .error .keyMustBeString

/-- What comes next while a value is passed over. -/
inductive Stage where
  /-- A value. -/
  | value
  /-- The first part of a frame, or its end. -/
  | opened
  /-- A comma and another part of a frame, or its end. -/
  | after

/-- Passes over the rest of a value that is inside `frames`, innermost first. Every two steps take a
character, so a `fuel` above twice the length of the text is enough. -/
def skipFrom : (fuel : Nat) → Stage → List Frame → List Char → Except Error (List Char)
  | 0, _, _, _ => .error .endOfValue
  | fuel + 1, .value, frames, text =>
    match skipSpace text with
    | [] => .error .endOfValue
    | c :: rest =>
      if c = 'n' then do skipFrom fuel .after frames (← nameTail ['u', 'l', 'l'] rest)
      else if c = 't' then do skipFrom fuel .after frames (← nameTail ['r', 'u', 'e'] rest)
      else if c = 'f' then do skipFrom fuel .after frames (← nameTail ['a', 'l', 's', 'e'] rest)
      else if c = '-' then do skipFrom fuel .after frames (← skipNumber rest)
      else if isDigit c then do skipFrom fuel .after frames (← skipNumber (c :: rest))
      else if c = '"' then do skipFrom fuel .after frames (← skipString rest)
      else if c = '[' then skipFrom fuel .opened (.list :: frames) rest
      else if c = '\x7b' then skipFrom fuel .opened (.object :: frames) rest
      else .error .expectedValue
  | fuel + 1, .opened, frames, text =>
    match frames with
    | [] => .ok text
    | frame :: outer =>
      match skipSpace text with
      | [] => .error frame.cutShort
      | c :: rest =>
        if c = frame.closing then skipFrom fuel .after outer rest
        else do skipFrom fuel .value frames (← frame.skipKey (c :: rest))
  | fuel + 1, .after, frames, text =>
    match frames with
    | [] => .ok text
    | frame :: outer =>
      match skipSpace text with
      | [] => .error frame.cutShort
      | c :: rest =>
        if c = ',' then do skipFrom fuel .value frames (← frame.skipKey rest)
        else if c = frame.closing then skipFrom fuel .after outer rest
        else .error frame.commaOrEnd

/-- Passes over a value. -/
def skipValue (text : List Char) : Except Error (List Char) :=
  skipFrom (2 * text.length + 2) .value [] text

end StorageBackend.Json

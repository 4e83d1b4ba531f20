import StorageBackend.Json.Structure
import StorageBackend.Schema.Format

/-!
# Reading documents in JSON

`Reader` is JSON as a document format. A reader is told how many lists and objects may still be
opened around what it reads. A value of the wrong shape is refused as soon as it is met, so it is
reported rather than a malformed text behind it.
-/

namespace StorageBackend.Json

open Text (isDigit)

open Schema

/-- Lists and objects that are read may be nested this deep; what is passed over may be nested at
will. -/
def maxNesting : Nat := 127

/-- The error for a value of the wrong type at the beginning of a text: the value is read far enough
to name it, so it has to be well-formed. -/
def mismatch (expected : String) (text : List Char) : Error :=
  let wrong (found : Found) : Error := .shape (.invalidType found expected)
  let orElse {α : Type} (result : Except Error α) (found : α → Found) : Error :=
    match result with
    | .ok value => wrong (found value)
    | .error error => error
  let ofNumber : Number × List Char → Found
    | (.integer value, _) => .integer value
    | (.real value, _) => .real value
  match text with
  | [] => .endOfValue
  | c :: rest =>
    if c = 'n' then orElse (nameTail ['u', 'l', 'l'] rest) fun _ => .unit
    else if c = 't' then orElse (nameTail ['r', 'u', 'e'] rest) fun _ => .boolean true
    else if c = 'f' then orElse (nameTail ['a', 'l', 's', 'e'] rest) fun _ => .boolean false
    else if c = '-' then orElse (number true rest) ofNumber
    else if isDigit c then orElse (number false text) ofNumber
    else if c = '"' then
      orElse (stringTail rest) fun (content, _) => .string (String.ofList content)
    else if c = '[' then wrong .sequence
    else if c = '\x7b' then wrong .map
    else .expectedValue

/-- Reads an explicit null, or else what `read` reads. -/
def scanOptional (read : Scan α) : Scan (Option α) := fun text =>
  match skipSpace text with
  | [] => do
    let (value, rest) ← read []
    .ok (some value, rest)
  | c :: rest =>
    if c = 'n' then do .ok (none, ← nameTail ['u', 'l', 'l'] rest)
    else do
      let (value, rest) ← read (c :: rest)
      .ok (some value, rest)

/-- Reads a string; `expected` says in words what it is for. -/
def scanString (expected : String) : Scan String := fun text =>
  match skipSpace text with
  | [] => .error .endOfValue
  | c :: rest =>
    if c = '"' then do
      let (content, rest) ← stringTail rest
      .ok (String.ofList content, rest)
    else .error (mismatch expected (c :: rest))

/-! ## Values of any shape -/

/-- Reads a value whose lists and objects hold what `inner` reads; without it none may be opened. -/
def valueWith (inner : Option (Scan Value)) : Scan Value := fun text =>
  match skipSpace text with
  | [] => .error .endOfValue
  | c :: rest =>
    if c = 'n' then do .ok (.null, ← nameTail ['u', 'l', 'l'] rest)
    else if c = 't' then do .ok (.boolean true, ← nameTail ['r', 'u', 'e'] rest)
    else if c = 'f' then do .ok (.boolean false, ← nameTail ['a', 'l', 's', 'e'] rest)
    else if c = '-' then do
      let (n, rest) ← number true rest
      .ok (n.toValue, rest)
    else if isDigit c then do
      let (n, rest) ← number false (c :: rest)
      .ok (n.toValue, rest)
    else if c = '"' then do
      let (content, rest) ← stringTail rest
      .ok (.string (String.ofList content), rest)
    else if c = '[' then
      match inner with
      | none => .error .recursionLimit
      | some inner => do
        let (values, rest) ← items inner rest
        .ok (.array values, rest)
    else if c = '\x7b' then
      match inner with
      | none => .error .recursionLimit
      | some inner => do
        let member (entries : Entries Value) (key : String) : Except Error (Scan (Entries Value)) :=
          .ok fun text => do
            let (value, text) ← inner text
            .ok (entries.insert key value, text)
        let (entries, rest) ← members member [] rest
        .ok (.object entries, rest)
    else .error .expectedValue

/-- Reads a value with at most `nesting` lists and objects around one another. -/
def value : (nesting : Nat) → Scan Value
  | 0 => valueWith none
  | nesting + 1 => valueWith (some (value nesting))

/-! ## Records -/

/-- The field with a given key. -/
def findField {R : Type → Type} (fields : List (Field R σ)) (key : String) : Option (Field R σ) :=
  fields.find? fun field => field.key == key

/-- The JSON text at hand, seen as something of type `α` inside a number of lists and objects. -/
def Reader (α : Type) : Type := (nesting : Nat) → Scan α

/-- Reads a member of a record whose fields in `given` have been read. -/
def recordMember (fields : List (Field Reader σ)) (nesting : Nat) (state : σ × List String)
    (key : String) : Except Error (Scan (σ × List String)) :=
  match findField fields key with
  | none => .ok fun text => do .ok (state, ← skipValue text)
  | some field =>
    if state.2.contains key then .error (.shape (.duplicateField key))
    else .ok fun text => do
      let (change, text) ← field.read nesting text
      .ok ((change state.1, key :: state.2), text)

/-- Reads a record that is written as a list of its fields in order, after the opening bracket.
Fields may be missing at the end. -/
def recordItems (nesting : Nat) : (fields : List (Field Reader σ)) → (first : Bool) → σ → Scan σ
  | [], _, state, text => do .ok (state, ← listEnd text)
  | field :: fields, first, state, text => do
    match ← nextItem first text with
    | none => .ok (state, ← listEnd text)
    | some text =>
      let (change, text) ← field.read nesting text
      recordItems nesting fields false (change state) text

/-- Reads a record, written as an object or as a list. -/
def record (name : String) (initial : σ) (fields : List (Field Reader σ)) : Reader σ :=
  fun nesting text =>
    match skipSpace text with
    | [] => .error .endOfValue
    | c :: rest =>
      if c = '[' then
        match nesting with
        | 0 => .error .recursionLimit
        | nesting + 1 => recordItems nesting fields true initial rest
      else if c = '\x7b' then
        match nesting with
        | 0 => .error .recursionLimit
        | nesting + 1 => do
          let (state, rest) ← members (recordMember fields nesting) (initial, []) rest
          .ok (state.1, rest)
      else .error (mismatch ("struct " ++ name) (c :: rest))

instance : Format Reader where
  map f read := fun nesting text => do
    let (value, rest) ← read nesting text
    .ok (f value, rest)
  text := fun _ => scanString "a string"
  free := value
  optional read := fun nesting => scanOptional (read nesting)
  record := record

/-- Reads a whole text. -/
def Reader.run (read : Reader α) (text : List Char) : Except Error α := do
  let (value, rest) ← read maxNesting text
  if (skipSpace rest).isEmpty then .ok value else .error .trailingCharacters

end StorageBackend.Json

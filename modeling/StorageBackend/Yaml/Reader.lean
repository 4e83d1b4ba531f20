import StorageBackend.Schema.Format
import StorageBackend.Yaml.Document
import StorageBackend.Yaml.Resolution

/-!
# Reading documents in YAML

`Reader` is YAML as a document format. Events are read one after the other, so a value of the wrong
shape is reported even if the document is malformed further on. An alias is read at the node that it
stands for; how often aliases may be followed is limited by the size of the document.
-/

namespace StorageBackend.Yaml

open Schema (Found ShapeError Wording Format Field)
open Json (Value)

/-- Doubles in messages about YAML are written without an exponent. -/
def wording : Wording where
  unit := "unit value"
  real := { positional := fun _ => true, exponentDigits := 1 }

/-! ## Places -/

/-- A step from a node to a part of it. -/
inductive Segment where
  /-- The value of a key. -/
  | key (name : String)
  /-- The value of a key that is not written as a scalar of its own. -/
  | unknown
  /-- An item. -/
  | index (number : Nat)

/-- A place in a document: the steps from the root, last one first. -/
abbrev Path := List Segment

/-- A place in words; nothing at the root. -/
def Path.text : Path → String
  | [] => ""
  | .index number :: parent => Path.text parent ++ "[" ++ toString number ++ "]"
  | .key name :: parent => dotted parent (Path.text parent) ++ name
  | .unknown :: parent => dotted parent (Path.text parent) ++ "?"
where
  /-- A parent with the dot behind it. -/
  dotted (parent : Path) (text : String) : String := if parent.isEmpty then "" else text ++ "."

/-- Why a text is not the YAML that is asked for. -/
inductive Error where
  /-- The text is malformed, or something in it is beyond a limit. -/
  | malformed
  /-- Something is of another shape than expected. The place is not known everywhere. -/
  | shape (place : Option Path) (error : ShapeError)

/-- The reason in words; nothing for a malformed text. -/
def Error.message? : Error → Option String
  | .malformed => none
  | .shape place error =>
    let text := error.text wording
    match place with
    | none => some text
    | some [] => some text
    | some path => some (Path.text path ++ ": " ++ text)

/-- Adds a place to an error that has none. -/
def located (path : Path) : Except Error α → Except Error α
  | .error (.shape none error) => .error (.shape (some path) error)
  | result => result

/-! ## Reading nodes -/

/-- What stays the same while a document is read. -/
structure Context where
  /-- All events of the document, where the nodes of aliases are looked up. -/
  document : Events
  /-- How often aliases may be followed. -/
  limit : Nat

/-- The events that are left, and how often aliases have been followed. -/
structure Position where
  events : Events
  followed : Nat

/-- Reads something at a place of a document, with a number of collections that may still be
opened. -/
def Reader (α : Type) : Type :=
  Context → (nesting : Nat) → Path → Position → Except Error (α × Position)

/-- Reads at the node that an alias stands for, or else at the node itself. -/
def resolving (read : Reader α) : Reader α := fun context nesting path position =>
  match position.events with
  | .alias number :: rest =>
    if position.followed + 1 > context.limit then .error .malformed
    else
      match anchored number context.document with
      | none => .error .malformed
      | some events => do
        let (value, after) ← read context nesting path ⟨events, position.followed + 1⟩
        .ok (value, ⟨rest, after.followed⟩)
  | _ => read context nesting path position

/-- The error for a node of the wrong type. -/
def mismatch (expected : String) : Event Nat → Error
  | .scalar _ content =>
    match content.found with
    | .ok found => .shape none (.invalidType found expected)
    | .error error => .shape none error
  | .sequenceStart _ _ => .shape none (.invalidType .sequence expected)
  | .mappingStart _ _ => .shape none (.invalidType .map expected)
  | _ => .malformed

/-- Reads the text of a scalar; `expected` says in words what it is for. -/
def scalarText (expected : String) : Reader String := fun context nesting path position =>
  located path <| (resolving fun _ _ _ position =>
    match position.events with
    | [] => .error .malformed
    | .scalar _ content :: rest => .ok (String.ofList content.text, ⟨rest, position.followed⟩)
    | event :: _ => .error (mismatch expected event)) context nesting path position

/-- Reads a null, or else what `read` reads. -/
def optional (read : Reader α) : Reader (Option α) :=
  resolving fun context nesting path position =>
    let present : Except Error (Option α × Position) := do
      let (value, position) ← read context nesting path position
      .ok (some value, position)
    match position.events with
    | .nothing :: rest => .ok (none, ⟨rest, position.followed⟩)
    | .scalar _ content :: rest =>
      match content.isNull with
      | .error error => .error (.shape none error)
      | .ok true => .ok (none, ⟨rest, position.followed⟩)
      | .ok false => present
    | .sequenceStart _ _ :: _ => present
    | .mappingStart _ _ :: _ => present
    | _ => .error .malformed

/-- The step to the value of a key: its name, if it is a scalar. -/
def keySegment : Events → Segment
  | .scalar _ content :: _ => .key (String.ofList content.text)
  | _ => .unknown

/-! ## Collections -/

/-- Reads the items of a sequence and its end. Every item has at least one event, so a `fuel` above
their number is enough. -/
def itemsFrom (item : Reader α) (context : Context) (nesting : Nat) (path : Path) :
    (fuel : Nat) → (index : Nat) → Position → Except Error (List α × Position)
  | 0, _, _ => .error .malformed
  | fuel + 1, index, position =>
    match position.events with
    | [] => .error .malformed
    | .sequenceEnd :: rest => .ok ([], ⟨rest, position.followed⟩)
    | _ => do
      let (value, position) ← item context nesting (.index index :: path) position
      let (values, position) ← itemsFrom item context nesting path fuel (index + 1) position
      .ok (value :: values, position)

/-- Reads the entries of a mapping and its end, and folds them into `state`. The text of a key
chooses the reader of its value; it may be refused before the value is looked at. `expected` says in
words what the keys are for. Every entry has at least one event, so a `fuel` above their number is
enough. -/
def entriesFrom (expected : (first : Bool) → String) (entry : σ → String → Except Error (Reader σ))
    (context : Context) (nesting : Nat) (path : Path) :
    (fuel : Nat) → (first : Bool) → σ → Position → Except Error (σ × Position)
  | 0, _, _, _ => .error .malformed
  | fuel + 1, first, state, position =>
    match position.events with
    | [] => .error .malformed
    | .mappingEnd :: rest => .ok (state, ⟨rest, position.followed⟩)
    | events => do
      let (key, position) ← scalarText (expected first) context nesting path position
      let read ← entry state key
      let (state, position) ← read context nesting (keySegment events :: path) position
      entriesFrom expected entry context nesting path fuel false state position

/-! ## Values of any shape -/

/-- A scalar as a value. Integers of more than 64 bits have no place in one; a double that is not
finite becomes null. -/
def valueOfFound : Found → Except Error Value
  | .boolean value => .ok (.boolean value)
  | .integer value => .ok (.integer value)
  | .real value => .ok (if value.isFinite then .real value else .null)
  | .string value => .ok (.string value)
  | .wideInteger _ => .error .malformed
  | _ => .ok .null

/-- Reads a value whose collections hold what `inner` reads; without it none may be opened. Of a key
that a mapping has twice, the last value counts. -/
def valueWith (inner : Option (Reader Value)) : Reader Value :=
  fun context nesting path position =>
    let refuseTag (tag : Option Tag) (continued : Except Error (Value × Position)) :
        Except Error (Value × Position) :=
      if (tag.map isLocalTag).getD false then
        .error (.shape none (.invalidType .tagged "any valid JSON value"))
      else continued
    located path <| (resolving fun context nesting path position =>
      match position.events with
      | .scalar _ content :: rest =>
        refuseTag content.tag <|
          match content.found with
          | .error error => .error (.shape none error)
          | .ok found => do .ok (← valueOfFound found, ⟨rest, position.followed⟩)
      | .sequenceStart _ tag :: rest =>
        refuseTag tag <|
          match inner with
          | none => .error .malformed
          | some inner => do
            let (values, position) ←
              itemsFrom inner context nesting path (rest.length + 1) 0
                ⟨rest, position.followed⟩
            .ok (.array values, position)
      | .mappingStart _ tag :: rest =>
        refuseTag tag <|
          match inner with
          | none => .error .malformed
          | some inner => do
            let entry (entries : Entries Value) (key : String) :
                Except Error (Reader (Entries Value)) :=
              .ok fun context nesting path position => do
                let (value, position) ← inner context nesting path position
                .ok (entries.insert key value, position)
            let (entries, position) ←
              entriesFrom (fun first => if first then "a string key" else "a string") entry context
                nesting path (rest.length + 1) true [] ⟨rest, position.followed⟩
            .ok (.object entries, position)
      | .nothing :: rest => .ok (.null, ⟨rest, position.followed⟩)
      | _ => .error .malformed) context nesting path position

/-- Reads a value with at most `nesting` collections around one another. -/
def valueWithin : (nesting : Nat) → Reader Value
  | 0 => valueWith none
  | nesting + 1 => valueWith (some (valueWithin nesting))

/-- Reads a value of any shape. -/
def value : Reader Value := fun context nesting => valueWithin nesting context nesting

/-! ## Records -/

/-- Reads an entry of a record whose fields in `given` have been read. -/
def recordEntry (fields : List (Field Reader σ)) (state : σ × List String) (key : String) :
    Except Error (Reader (σ × List String)) :=
  match fields.find? fun field => field.key == key with
  | none => .ok fun _ _ _ position =>
    match skipNode 0 position.events with
    | none => .error .malformed
    | some rest => .ok (state, ⟨rest, position.followed⟩)
  | some field =>
    if state.2.contains key then .error (.shape none (.duplicateField key))
    else .ok fun context nesting path position => do
      let (change, position) ← field.read context nesting path position
      .ok ((change state.1, key :: state.2), position)

/-- Reads a record, written as a mapping. An empty plain scalar is a record without fields. -/
def record (name : String) (initial : σ) (fields : List (Field Reader σ)) : Reader σ :=
  fun context nesting path position =>
    located path <| (resolving fun context nesting path position =>
      match position.events with
      | [] => .error .malformed
      | .nothing :: rest => .ok (initial, ⟨rest, position.followed⟩)
      | .mappingStart _ _ :: rest =>
        match nesting with
        | 0 => .error .malformed
        | nesting + 1 => do
          let (state, position) ←
            entriesFrom (fun _ => "field identifier") (recordEntry fields) context nesting path
              (rest.length + 1) true (initial, []) ⟨rest, position.followed⟩
          .ok (state.1, position)
      | event :: rest =>
        match event with
        | .scalar _ content =>
          if content.plain ∧ content.text.isEmpty then .ok (initial, ⟨rest, position.followed⟩)
          else .error (mismatch ("struct " ++ name) event)
        | event => .error (mismatch ("struct " ++ name) event))
      context nesting path position

instance : Format Reader where
  map f read := fun context nesting path position => do
    let (value, position) ← read context nesting path position
    .ok (f value, position)
  text := scalarText "a string"
  free := value
  optional := optional
  record := record

/-- Collections that are read may be nested this deep; what is passed over may be nested at will. -/
def maxNesting : Nat := 128

/-- Aliases may be followed this often for every event of a document. -/
def followsPerEvent : Nat := 100

/-- Reads a document, which has to be complete. -/
def Reader.runDocument (read : Reader α) (document : Document) : Except Error α := do
  let context : Context := ⟨document.events, document.events.length * followsPerEvent⟩
  let (value, _) ← read context maxNesting [] ⟨document.events, 0⟩
  if document.complete then .ok value else .error .malformed

/-- Reads a whole text, which has to be a single document. -/
def Reader.run (read : Reader α) (text : List Char) : Except Error α :=
  match Document.ofText text with
  | [] => .error .malformed
  | [document] => read.runDocument document
  | document :: _ => do
    let _ ← read.runDocument document
    .error .malformed

end StorageBackend.Yaml

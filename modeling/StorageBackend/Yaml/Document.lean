import StorageBackend.Yaml.Event

/-!
# Documents with numbered anchors

The anchors of a document are numbered, and an alias stands for the node whose number it has. The
number of an anchor is the number of different names before it, so an anchor that is declared again
shares its number with the next new name; of two nodes with one number the later one counts.
-/

namespace StorageBackend.Yaml

/-- The events of a document with numbered anchors. -/
abbrev Events := List (Event Nat)

/-- A document. -/
structure Document where
  events : Events
  /-- Whether the document is well-formed to its end. -/
  complete : Bool

/-- The number of an anchor, and the known anchors with it. -/
def numberAnchor (known : List (List Char × Nat)) :
    Option (List Char) → Option Nat × List (List Char × Nat)
  | none => (none, known)
  | some name =>
    let number := known.length
    (some number, (name, number) :: known.filter fun entry => entry.1 ≠ name)

/-- Numbers the anchors of events, up to the first alias without an anchor. -/
def numberEvents (known : List (List Char × Nat)) : List (Event (List Char)) → Events × Bool
  | [] => ([], true)
  | event :: rest =>
    let following (event : Event Nat) (known : List (List Char × Nat)) : Events × Bool :=
      let (events, complete) := numberEvents known rest
      (event :: events, complete)
    match event with
    | .scalar anchor content =>
      let (anchor, known) := numberAnchor known anchor
      following (.scalar anchor content) known
    | .sequenceStart anchor tag =>
      let (anchor, known) := numberAnchor known anchor
      following (.sequenceStart anchor tag) known
    | .mappingStart anchor tag =>
      let (anchor, known) := numberAnchor known anchor
      following (.mappingStart anchor tag) known
    | .sequenceEnd => following .sequenceEnd known
    | .mappingEnd => following .mappingEnd known
    | .nothing => following .nothing known
    | .alias name =>
      match known.lookup name with
      | none => ([], false)
      | some number => following (.alias number) known

/-- A document with its anchors numbered. -/
def Document.ofRaw (raw : RawDocument) : Document :=
  let (events, complete) := numberEvents [] raw.events
  ⟨events, complete && raw.complete⟩

/-- The documents of a text. -/
def Document.ofText (text : List Char) : List Document := (documents text).map Document.ofRaw

/-- The number of the anchor of the first event. -/
def Event.anchor? : Event Nat → Option Nat
  | .scalar anchor _ => anchor
  | .sequenceStart anchor _ => anchor
  | .mappingStart anchor _ => anchor
  | _ => none

/-- The events from the node on that an alias with the given number stands for. -/
def anchored (number : Nat) : Events → Option Events
  | [] => none
  | event :: rest =>
    match anchored number rest with
    | some events => some events
    | none => if event.anchor? = some number then some (event :: rest) else none

/-- Passes over a node; `depth` collections inside it are open. Aliases are not followed. -/
def skipNode (depth : Nat) : Events → Option Events
  | [] => none
  | event :: rest =>
    match event with
    | .sequenceStart _ _ => skipNode (depth + 1) rest
    | .mappingStart _ _ => skipNode (depth + 1) rest
    | .sequenceEnd => if depth ≤ 1 then some rest else skipNode (depth - 1) rest
    | .mappingEnd => if depth ≤ 1 then some rest else skipNode (depth - 1) rest
    | _ => if depth = 0 then some rest else skipNode depth rest

end StorageBackend.Yaml

import StorageBackend.Yaml.Reader

/-!
# Nodes

A node is what a document holds, with nothing lost that tells two documents apart: the keys of a
mapping are nodes themselves, and the document's own tags are kept. `Node.reader` reads one; a
mapping must not have the same key twice.
-/

namespace StorageBackend.Yaml

open Decimal (Binary64)
open Schema (Found)

/-- A node of a document. -/
inductive Node where
  | null
  | boolean (value : Bool)
  | integer (value : Int)
  | real (value : Binary64)
  | string (value : String)
  | sequence (items : List Node)
  /-- A mapping, in the order of its text. -/
  | mapping (entries : List (Node × Node))
  /-- A node with a tag of the document's own. The name of the tag has no exclamation mark in front
  of it, if there is more to it. -/
  | tagged (name : String) (node : Node)
deriving Inhabited

namespace Node

/-- Whether two doubles are the same key. There is one value that is not a number, and one zero. -/
def sameReal (a b : Binary64) : Bool :=
  a == b || (a.isNaN && b.isNaN) || (a.magnitude == 0 && b.magnitude == 0)

mutual

/-- Whether two nodes are the same key. The order of the entries of a mapping does not count. -/
def same : Node → Node → Bool
  | .null, .null => true
  | .boolean a, .boolean b => a == b
  | .integer a, .integer b => a == b
  | .real a, .real b => sameReal a b
  | .string a, .string b => a == b
  | .sequence a, .sequence b => sameItems a b
  | .mapping a, .mapping b => a.length == b.length && sameEntries a b
  | .tagged a x, .tagged b y => a == b && same x y
  | _, _ => false

/-- Whether two lists have the same items. -/
def sameItems : List Node → List Node → Bool
  | [], [] => true
  | a :: as, b :: bs => same a b && sameItems as bs
  | _, _ => false

/-- Whether every entry of a list is in another list. -/
def sameEntries : List (Node × Node) → List (Node × Node) → Bool
  | [], _ => true
  | (key, value) :: rest, others =>
    (others.any fun other => same key other.1 && same value other.2) && sameEntries rest others

end

/-- A node without the tags in front of it. -/
def untagged : Node → Node
  | .tagged _ node => node.untagged
  | node => node

end Node

/-! ## Reading nodes -/

/-- A scalar as a node. Integers of more than 64 bits have no place in one. -/
def nodeOfFound : Found → Except Error Node
  | .boolean value => .ok (.boolean value)
  | .integer value => .ok (.integer value)
  | .real value => .ok (.real value)
  | .string value => .ok (.string value)
  | .wideInteger _ => .error .malformed
  | _ => .ok .null

/-- The name of a tag of the document's own. -/
def localName? (tag : Tag) : Option String :=
  let withoutMark (bytes : List UInt8) : List UInt8 :=
    if bytes.length > 1 && bytes.head? = some 33 then bytes.tail else bytes
  if isLocalTag tag then
    (Text.Utf8.decode (withoutMark (withoutMark tag))).toOption
  else none

/-- Reads the entries of a mapping and its end behind the entries `done`, last one first. Every
entry has at least two events, so a `fuel` above their number is enough. -/
def nodeEntries (inner : Reader Node) (context : Context) (nesting : Nat) (path : Path) :
    (fuel : Nat) → (done : List (Node × Node)) → Position →
    Except Error (List (Node × Node) × Position)
  | 0, _, _ => .error .malformed
  | fuel + 1, done, position =>
    match position.events with
    | [] => .error .malformed
    | .mappingEnd :: rest => .ok (done.reverse, ⟨rest, position.followed⟩)
    | events => do
      let (key, position) ← inner context nesting path position
      if done.any fun entry => entry.1.same key then .error .malformed
      else
        let (value, position) ←
          inner context nesting (keySegment events :: path) position
        nodeEntries inner context nesting path fuel ((key, value) :: done) position

/-- Reads a node whose collections hold what `inner` reads; without it none may be opened. -/
def nodeWith (inner : Option (Reader Node)) : Reader Node :=
  resolving fun context nesting path position =>
    let withTag (tag : Option Tag) (node : Node) : Node :=
      match tag.bind localName? with
      | some name => .tagged name node
      | none => node
    match position.events, inner with
    | .scalar _ content :: rest, _ =>
      match content.found with
      | .error error => .error (.shape none error)
      | .ok found => do
        let node ← nodeOfFound found
        .ok (withTag content.tag node, ⟨rest, position.followed⟩)
    | .sequenceStart _ tag :: rest, some inner => do
      let (items, position) ←
        itemsFrom inner context nesting path (rest.length + 1) 0 ⟨rest, position.followed⟩
      .ok (withTag tag (.sequence items), position)
    | .mappingStart _ tag :: rest, some inner => do
      let (entries, position) ←
        nodeEntries inner context nesting path (rest.length + 1) [] ⟨rest, position.followed⟩
      .ok (withTag tag (.mapping entries), position)
    | .nothing :: rest, _ => .ok (.null, ⟨rest, position.followed⟩)
    | _, _ => .error .malformed

/-- Reads a node with at most `nesting` collections around one another. -/
def nodeWithin : (nesting : Nat) → Reader Node
  | 0 => nodeWith none
  | nesting + 1 => nodeWith (some (nodeWithin nesting))

/-- Reads a node. -/
def Node.reader : Reader Node := fun context nesting => nodeWithin nesting context nesting

end StorageBackend.Yaml

import Mathlib.Data.List.Forall2
import StorageBackend.Schema.Format

/-!
# Trees of members

A tree is what a document says, apart from the format that it is written in: nulls, texts, and
blocks of members in the order in which they are written. Where a format leaves a choice, as between
several words for null, the tree holds the choice.

`Tree.Reader` reads trees by the description of a configuration, like the readers of both formats
read their texts. It is the middle on which these readers are compared.
-/

namespace StorageBackend.Tree

open Schema (Field Format)

/-- The words for null. -/
inductive NullWord where
  | lower
  | capital
  | upper
  | tilde
  /-- No word at all. -/
  | nothing

/-- A word for null as it is written. -/
def NullWord.text : NullWord → List Char
  | .lower => ['n', 'u', 'l', 'l']
  | .capital => ['N', 'u', 'l', 'l']
  | .upper => ['N', 'U', 'L', 'L']
  | .tilde => ['~']
  | .nothing => []

/-- A text, and whether it is in quotes where it need not be. -/
structure Phrase where
  text : List Char
  quoted : Bool

/-- The text of a phrase. -/
def Phrase.string (phrase : Phrase) : String := String.ofList phrase.text

/-- A tree. -/
inductive Node where
  | null (word : NullWord)
  | text (phrase : Phrase)
  | block (members : List (Phrase × Node))

/-- Whether a tree is a text. -/
def Node.isText : Node → Bool
  | .text _ => true
  | _ => false

/-- A member of a block. -/
abbrev Member := Phrase × Node

/-! ## Reading trees -/

/-- Why a tree is not what is asked for. -/
inductive Refusal where
  /-- It has another shape. -/
  | misfit
  /-- A field of a record is given twice. -/
  | repeated (key : String)

/-- Reads something from a tree. -/
def Reader (α : Type) : Type := Node → Except Refusal α

/-- Reads the members of a record whose fields in `state.2` have been read. What is under an unknown
key has to be a text. -/
def members {σ : Type} (fields : List (Field Reader σ)) :
    σ × List String → List Member → Except Refusal (σ × List String)
  | state, [] => .ok state
  | state, (key, node) :: rest =>
    match fields.find? fun field => field.key == key.string with
    | none => if node.isText then members fields state rest else .error .misfit
    | some field =>
      if state.2.contains key.string then .error (.repeated key.string)
      else do
        let change ← field.read node
        members fields (change state.1, key.string :: state.2) rest

/-- Reads a record. -/
def record {σ : Type} (initial : σ) (fields : List (Field Reader σ)) : Reader σ
  | .block block => Prod.fst <$> members fields (initial, []) block
  | _ => .error .misfit

instance : Format Reader where
  map f read := fun node => f <$> read node
  text
    | .text phrase => .ok phrase.string
    | _ => .error .misfit
  free
    | .block [] => .ok (.object [])
    | _ => .error .misfit
  optional read
    | .null _ => .ok none
    | node => some <$> read node
  record _ := record

/-! ## Fields of records in two formats -/

/-- Fields with the same keys in the same order, whose readers `P` relates. -/
def FieldsRelated {R : Type → Type} {σ : Type} (P : R (σ → σ) → Reader (σ → σ) → Prop) :
    List (Field R σ) → List (Field Reader σ) → Prop :=
  List.Forall₂ fun field tree => field.key = tree.key ∧ P field.read tree.read

/-- Related fields are found under the same keys. -/
theorem FieldsRelated.find {R : Type → Type} {σ : Type} {P : R (σ → σ) → Reader (σ → σ) → Prop}
    {fields : List (Field R σ)} {trees : List (Field Reader σ)} (h : FieldsRelated P fields trees)
    (key : String) :
    (fields.find? (fun field => field.key == key) = none ∧
        trees.find? (fun tree => tree.key == key) = none) ∨
      ∃ field tree, fields.find? (fun field => field.key == key) = some field ∧
        trees.find? (fun tree => tree.key == key) = some tree ∧ P field.read tree.read := by
  induction h with
  | nil => exact .inl ⟨rfl, rfl⟩
  | @cons field tree fields trees hrelated _ ih =>
    rw [List.find?_cons, List.find?_cons, hrelated.1]
    cases tree.key == key with
    | true => exact .inr ⟨field, tree, rfl, rfl, hrelated.2⟩
    | false => exact ih

/-- A relation between the readers of a format and the readers of trees that everything keeps that
formats offer, where so many blocks may still be opened. It relates the two readers of whatever is
described for all formats. -/
structure Correspondence (R : Type → Type) [Format R] where
  Follows {α : Type} : (depth : Nat) → R α → Reader α → Prop
  map {α β : Type} {depth : Nat} {read : R α} {tree : Reader α} (h : Follows depth read tree)
    (f : α → β) : Follows depth (Format.map f read) (Format.map f tree)
  text {depth : Nat} : Follows depth Format.text Format.text
  free {depth : Nat} : Follows (depth + 1) Format.free Format.free
  optional {α : Type} {depth : Nat} {read : R α} {tree : Reader α} (h : Follows depth read tree) :
    Follows depth (Format.optional read) (Format.optional tree)
  record {σ : Type} {depth : Nat} {fields : List (Field R σ)} {trees : List (Field Reader σ)}
    (h : FieldsRelated (Follows depth) fields trees) (name : String) (initial : σ) :
    Follows (depth + 1) (Format.record name initial fields) (Format.record name initial trees)

end StorageBackend.Tree

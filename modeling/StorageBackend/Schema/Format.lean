import StorageBackend.Json.Value

/-!
# Document formats

A configuration is described once, by what it needs of the format it is written in: texts,
free-form values, optional values, and records with named fields. `Format R` says that `R α` reads
an `α` from documents of one format.
-/

namespace StorageBackend.Schema

/-- A field of a record of type `σ`: its key, and a way of reading its value that tells how the
record is changed by it. -/
structure Field (R : Type → Type) (σ : Type) where
  key : String
  read : R (σ → σ)

/-- What a format offers to those who describe documents. -/
class Format (R : Type → Type) where
  /-- Reads something and applies a function to it. -/
  map {α β : Type} : (α → β) → R α → R β
  /-- A text. -/
  text : R String
  /-- A value of any shape. -/
  free : R Json.Value
  /-- A value, or nothing where the document has an explicit null. -/
  optional {α : Type} : R α → R (Option α)
  /-- A record with a name for messages. Fields that are not given keep their initial values,
  unknown fields are passed over, and a field may not be given twice. -/
  record {σ : Type} (name : String) (initial : σ) (fields : List (Field R σ)) : R σ

namespace Format

variable {R : Type → Type} [Format R]

/-- A value for which an explicit null means the default. -/
def defaulted {α : Type} [Inhabited α] (read : R α) : R α :=
  map (fun value => value.getD default) (optional read)

/-- A field that sets a part of a record. -/
def field {σ α : Type} (key : String) (read : R α) (set : α → σ → σ) : Field R σ :=
  ⟨key, map set read⟩

end Format

end StorageBackend.Schema

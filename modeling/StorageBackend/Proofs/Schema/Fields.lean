import Mathlib.Data.List.Forall2
import StorageBackend.Schema.Format

/-!
# Fields and their descriptions

A description of the fields of a record is a table that goes along with them: what it has under a
key belongs to the field with this key (`find_field`).
-/

namespace StorageBackend.Schema

variable {β : Type} {table : List (String × β)}

/-- A table has nothing exactly under the keys that it does not list. -/
theorem lookup_eq_none_iff {key : String} :
    table.lookup key = none ↔ key ∉ table.map Prod.fst := by
  rw [List.lookup_eq_none_iff, List.mem_map, not_exists]
  refine forall_congr' fun described => ?_
  rw [bne_iff_ne, not_and]
  exact imp_congr_right fun _ => ne_comm

/-- A field and what belongs to it are found under the same keys. -/
theorem find_field {R : Type → Type} {σ : Type} {P : Field R σ → String × β → Prop}
    (hkey : ∀ field described, P field described → field.key = described.1)
    {fields : List (Field R σ)} (h : List.Forall₂ P fields table) (key : String) :
    (fields.find? (fun field => field.key == key) = none ∧ table.lookup key = none) ∨
      ∃ field found, fields.find? (fun field => field.key == key) = some field ∧
        table.lookup key = some found ∧ P field (key, found) := by
  induction h with
  | nil => exact .inl ⟨rfl, rfl⟩
  | @cons field described fields table hfield _ ih =>
    obtain ⟨name, found⟩ := described
    obtain rfl : field.key = name := hkey _ _ hfield
    rw [List.find?_cons, List.lookup_cons]
    by_cases hname : field.key = key
    · subst hname
      rw [beq_self_eq_true]
      exact .inr ⟨field, found, rfl, rfl, hfield⟩
    · have hne : key ≠ field.key := fun h => hname h.symm
      rw [beq_false_of_ne hname, beq_false_of_ne hne]
      exact ih

end StorageBackend.Schema

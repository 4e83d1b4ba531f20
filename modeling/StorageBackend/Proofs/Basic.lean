import Mathlib.Data.List.Basic
import StorageBackend.Basic

/-!
# Results and entries

What a result in several steps says about its steps: proofs about readers use these lemmas and do
not open `bind`. An entry is found under its key until another one is put there, so of the pairs
with a key the last one is found (`Entries.find_of_list`).
-/

namespace StorageBackend

/-! ## Results that are put together -/

section

variable {α β ε : Type} {first : Except ε α}

/-- What is given first, and what is given for it. -/
theorem exists_of_bind_eq_ok {second : α → Except ε β} {result : β}
    (h : (first >>= second) = .ok result) :
    ∃ value, first = .ok value ∧ second value = .ok result := by
  cases first with
  | error error => cases h
  | ok value => exact ⟨value, rfl, h⟩

/-- Going on behind something that was given. -/
theorem bind_of_eq_ok {value : α} (h : first = .ok value) (second : α → Except ε β) :
    (first >>= second) = second value := by
  rw [h]
  rfl

/-- Errors that are told in another way leave a value as it is. -/
theorem map_error_eq_ok_iff {δ : Type} {change : ε → δ} {value : α} :
    first.mapError change = .ok value ↔ first = .ok value := by
  cases first with
  | error error => exact ⟨nofun, nofun⟩
  | ok found =>
    show Except.ok found = Except.ok value ↔ _
    rw [Except.ok.injEq, Except.ok.injEq]

end

/-! ## What is found under a key -/

namespace Entries

variable {α : Type}

/-- What was put under a key last is found there. -/
theorem find_insert (entries : Entries α) (key : String) (value : α) :
    (insert entries key value).find? key = some value := by
  induction entries with
  | nil => simp [insert, find?]
  | cons entry entries ih =>
    obtain ⟨name, found⟩ := entry
    rw [insert]
    by_cases hbefore : key < name
    · rw [if_pos hbefore, find?, if_pos rfl]
    · rw [if_neg hbefore]
      by_cases hname : key = name
      · rw [if_pos hname, find?, if_pos rfl]
      · rw [if_neg hname, find?, if_neg (Ne.symm hname)]
        exact ih

/-- What is under other keys stays there. -/
theorem find_insert_of_ne (entries : Entries α) {key other : String} (h : other ≠ key) (value : α) :
    (insert entries other value).find? key = entries.find? key := by
  induction entries with
  | nil => simp [insert, find?, h]
  | cons entry entries ih =>
    obtain ⟨name, found⟩ := entry
    rw [insert]
    by_cases hbefore : other < name
    · rw [if_pos hbefore, find?, if_neg h]
    · rw [if_neg hbefore]
      by_cases hname : other = name
      · subst hname
        rw [if_pos rfl, find?, if_neg h, find?, if_neg h]
      · rw [if_neg hname, find?, find?, ih]

/-- Other pairs do not change what is found under a key. -/
theorem find_of_not_mem {pairs : List (String × α)} {key : String}
    (h : key ∉ pairs.map Prod.fst) (entries : Entries α) :
    (pairs.foldl (fun entries (key, value) => insert entries key value) entries).find? key =
      entries.find? key := by
  induction pairs generalizing entries with
  | nil => rfl
  | cons pair pairs ih =>
    rw [List.map_cons, List.mem_cons, not_or] at h
    exact (ih h.2 _).trans (find_insert_of_ne entries (Ne.symm h.1) pair.2)

/-- Of the pairs with a key the last one is found. -/
theorem find_of_list (before after : List (String × α)) {key : String} (value : α)
    (h : key ∉ after.map Prod.fst) :
    (ofList (before ++ (key, value) :: after)).find? key = some value := by
  rw [ofList, List.foldl_append, List.foldl_cons, find_of_not_mem h]
  exact find_insert _ key value

end Entries

end StorageBackend

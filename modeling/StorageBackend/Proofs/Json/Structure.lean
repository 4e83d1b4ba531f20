import Mathlib.Data.List.TakeWhile
import StorageBackend.Json.Reader
import StorageBackend.Proofs.Basic
import StorageBackend.Proofs.Json.Spelling

/-!
# Lists and objects between their parts

What stands between the parts of lists and objects is read as what it is, however much space there
is: `next_item_lead` and `next_key_lead` find the next part, `list_end_close` and
`object_end_close` the end. The equations for the loops over items and members follow from these
(`items_close`, `items_item`, `members_close`, `members_member`). Behind a whole text there may be
nothing but space (`run_eq_ok_iff`).
-/

namespace StorageBackend.Json

/-- Whether a text is nothing but space. -/
def IsSpace (text : List Char) : Prop := ∀ c ∈ text, isSpace c = true

/-- What stands in front of an item or of the key of a member: space, and behind another one a
comma. -/
inductive Lead : (first : Bool) → List Char → Prop where
  | first (space : List Char) (h : IsSpace space) : Lead true space
  | next (before after : List Char) (hbefore : IsSpace before) (hafter : IsSpace after) :
      Lead false (before ++ ',' :: after)

/-- Nothing at all is white space. -/
theorem space_nil : IsSpace [] := nofun

/-- Space in front of something else is dropped. -/
theorem skip_space_append {space : List Char} (h : IsSpace space) {c : Char}
    (hc : isSpace c = false) (text : List Char) : skipSpace (space ++ c :: text) = c :: text := by
  induction space with
  | nil => exact List.dropWhile_cons_of_neg (by rw [hc]; exact Bool.false_ne_true)
  | cons d space ih =>
    have hd : isSpace d = true := h d List.mem_cons_self
    have hrest : IsSpace space := fun e he => h e (List.mem_cons_of_mem d he)
    exact (List.dropWhile_cons_of_pos hd).trans (ih hrest)

/-! ## Lists -/

/-- The end of a list is found behind any space. -/
theorem next_item_close {space : List Char} (h : IsSpace space) (first : Bool)
    (rest : List Char) : nextItem first (space ++ ']' :: rest) = .ok none := by
  rw [nextItem, skip_space_append h rfl]
  rfl

/-- The bracket ends a list, with any space in front of it. -/
theorem list_end_close {space : List Char} (h : IsSpace space) (rest : List Char) :
    listEnd (space ++ ']' :: rest) = .ok rest := by
  rw [listEnd, skip_space_append h rfl]
  rfl

/-- An item is found behind what stands in front of it. -/
theorem next_item_lead {first : Bool} {lead : List Char} (h : Lead first lead) {c : Char}
    (hspace : isSpace c = false) (hend : c ≠ ']') (text : List Char) :
    nextItem first (lead ++ c :: text) = .ok (some (c :: text)) := by
  cases h with
  | first space hlead =>
    rw [nextItem, skip_space_append hlead hspace]
    simp only [if_neg hend, if_true]
  | next before after hbefore hafter =>
    rw [nextItem, List.append_assoc, List.cons_append, skip_space_append hbefore rfl]
    simp only [if_false, if_true, Bool.false_eq_true, Char.reduceEq]
    rw [skip_space_append hafter hspace]
    simp only [if_neg hend]

/-- Where a list has another item, it does not end. -/
theorem list_end_lead {first : Bool} {lead : List Char} (h : Lead first lead) {c : Char}
    (hspace : isSpace c = false) (hend : c ≠ ']') (text : List Char) :
    ∃ error, listEnd (lead ++ c :: text) = .error error := by
  cases h with
  | first space hlead =>
    rw [listEnd, skip_space_append hlead hspace]
    simp only [if_neg hend]
    by_cases hcomma : c = ','
    · exact ⟨_, if_pos hcomma⟩
    · exact ⟨_, if_neg hcomma⟩
  | next before after hbefore hafter =>
    rw [listEnd, List.append_assoc, List.cons_append, skip_space_append hbefore rfl]
    exact ⟨_, rfl⟩

/-- So there are no more items. -/
theorem items_close (item : Scan α) {space : List Char} (h : IsSpace space) (fuel : Nat)
    (first : Bool) (rest : List Char) :
    itemsFrom item (fuel + 1) first (space ++ ']' :: rest) = .ok ([], rest) := by
  rw [itemsFrom, next_item_close h, list_end_close h]
  rfl

/-- An item is read, and then the ones behind it. -/
theorem items_item (item : Scan α) {first : Bool} {lead : List Char} (hlead : Lead first lead)
    {c : Char} (hspace : isSpace c = false) (hend : c ≠ ']') (fuel : Nat) (text : List Char) :
    itemsFrom item (fuel + 1) first (lead ++ c :: text) =
      (do
        let (value, text) ← item (c :: text)
        let (values, text) ← itemsFrom item fuel false text
        .ok (value :: values, text)) := by
  rw [itemsFrom, next_item_lead hlead hspace hend]
  rfl

/-! ## Objects -/

/-- The end of an object is found behind any space. -/
theorem next_key_close {space : List Char} (h : IsSpace space) (first : Bool) (rest : List Char) :
    nextKey first (space ++ '\x7d' :: rest) = .ok none := by
  rw [nextKey, skip_space_append h rfl]
  rfl

/-- The brace ends an object, with any space in front of it. -/
theorem object_end_close {space : List Char} (h : IsSpace space) (rest : List Char) :
    objectEnd (space ++ '\x7d' :: rest) = .ok rest := by
  rw [objectEnd, skip_space_append h rfl]
  rfl

/-- The key of a member is found behind what stands in front of it. -/
theorem next_key_lead {first : Bool} {lead : List Char} (h : Lead first lead) (text : List Char) :
    nextKey first (lead ++ '"' :: text) = .ok (some text) := by
  cases h with
  | first space hspace =>
    rw [nextKey, skip_space_append hspace rfl]
    rfl
  | next before after hbefore hafter =>
    rw [nextKey, List.append_assoc, List.cons_append, skip_space_append hbefore rfl]
    simp only [if_false, if_true, Bool.false_eq_true, Char.reduceEq]
    rw [skip_space_append hafter rfl]
    rfl

/-- The colon is found behind any space. -/
theorem colon_append {space : List Char} (h : IsSpace space) (text : List Char) :
    colon (space ++ ':' :: text) = .ok text := by
  rw [colon, skip_space_append h rfl]
  rfl

/-- Behind the brace there are no more members. -/
theorem members_close {member : σ → String → Except Error (Scan σ)} {space : List Char}
    (h : IsSpace space) (fuel : Nat) (first : Bool) (state : σ) (rest : List Char) :
    membersFrom member (fuel + 1) first state (space ++ '\x7d' :: rest) = .ok (state, rest) := by
  rw [membersFrom, next_key_close h, object_end_close h]
  rfl

/-- A member is read, and then the ones behind it. -/
theorem members_member (member : σ → String → Except Error (Scan σ)) {first : Bool}
    {lead before key spelling : List Char} (hlead : Lead first lead) (hkey : Spells key spelling)
    (hbefore : IsSpace before) (fuel : Nat) (state : σ) (text : List Char) :
    membersFrom member (fuel + 1) first state
        (lead ++ '"' :: (spelling ++ '"' :: (before ++ ':' :: text))) =
      (do
        let read ← member state (String.ofList key)
        let (state, text) ← read text
        membersFrom member fuel false state text) := by
  rw [membersFrom, next_key_lead hlead]
  show (stringTail _ >>= _) = _
  rw [string_tail_spells hkey]
  show (member state (String.ofList key) >>= _) = _
  simp only [colon_append hbefore]
  rfl

/-! ## Whole texts -/

section

variable {α : Type} {read : Reader α} {text : List Char}

/-- Nothing but white space is left exactly if all of it is white space. -/
theorem is_empty_skip_space_iff : (skipSpace text).isEmpty = true ↔ IsSpace text := by
  rw [List.isEmpty_iff]
  exact List.dropWhile_eq_nil_iff

/-- A whole text is read if nothing but space is left of it. -/
theorem run_eq_ok_iff {value : α} :
    read.run text = .ok value ↔
      ∃ rest, read maxNesting text = .ok (value, rest) ∧ IsSpace rest := by
  unfold Reader.run
  constructor
  · intro h
    obtain ⟨⟨found, rest⟩, hread, hfound⟩ := exists_of_bind_eq_ok h
    by_cases hempty : (skipSpace rest).isEmpty = true
    · cases (if_pos hempty).symm.trans hfound
      exact ⟨rest, hread, is_empty_skip_space_iff.mp hempty⟩
    · cases (if_neg hempty).symm.trans hfound
  · rintro ⟨rest, hread, hspace⟩
    rw [bind_of_eq_ok hread]
    exact if_pos (is_empty_skip_space_iff.mpr hspace)

/-- An error at the beginning of a text is the error of the whole text. -/
theorem run_of_eq_error {error : Error} (h : read maxNesting text = .error error) :
    read.run text = .error error := by
  unfold Reader.run
  rw [h]
  rfl

end

end StorageBackend.Json

import StorageBackend.Proofs.Text.Delimited
import StorageBackend.Text.Layout

/-!
# Layouts that can be read back

Two values have the same frame if they differ in their quoted texts only. A way of writing is
readable if values with the same frame can be told apart by what is written, whatever stands behind
it, and if every value begins with its name. Both ways are: on one line (`inline_readable`) and on
many (`indented_readable`).
-/

namespace StorageBackend.Text.Layout

mutual

/-- Values that differ in their quoted texts only. -/
inductive SameFrame : Layout → Layout → Prop where
  | text (first second : String) : SameFrame (.text first) (.text second)
  | atom (text : String) : SameFrame (.atom text) (.atom text)
  | wrapped (name : String) {first second : Layout} (h : SameFrame first second) :
      SameFrame (.wrapped name first) (.wrapped name second)
  | record (name : String) {first second : List (String × Layout)} (h : SameFields first second) :
      SameFrame (.record name first) (.record name second)

/-- Fields with the same keys, whose values differ in their quoted texts only. -/
inductive SameFields : List (String × Layout) → List (String × Layout) → Prop where
  | nil : SameFields [] []
  | cons (key : String) {first second : Layout} {rest others : List (String × Layout)}
      (h : SameFrame first second) (hrest : SameFields rest others) :
      SameFields ((key, first) :: rest) ((key, second) :: others)

end

/-- A quoted text can be read back. -/
theorem text_inj {text other : String} {s t : List Char}
    (h : quotedChars text.toList ++ s = quotedChars other.toList ++ t) :
    Layout.text text = Layout.text other ∧ s = t := by
  obtain ⟨rfl, rfl⟩ := quoted_self_delimiting h
  exact ⟨rfl, rfl⟩

/-- A quoted text on one line is the text in quotes. -/
@[simp] theorem inline_text (text : String) : (Layout.text text).inline = quotedChars text.toList :=
  String.toList_ofList

/-- So it is at every level. -/
@[simp] theorem indented_text (level : Nat) (text : String) :
    (Layout.text text).indentedAt level = quotedChars text.toList :=
  String.toList_ofList

/-! ## On one line -/

mutual

/-- A value on one line can be read back by one who knows its frame. -/
theorem SameFrame.inline_inj {s t : List Char} {first second : Layout}
    (h : SameFrame first second) (heq : first.inline ++ s = second.inline ++ t) :
    first = second ∧ s = t := by
  cases h with
  | text text other => exact text_inj (by simpa only [inline_text] using heq)
  | atom text => exact ⟨rfl, List.append_cancel_left heq⟩
  | wrapped name h =>
    simp only [inline, List.append_assoc, List.cons_append, List.append_cancel_left_eq,
      List.cons.injEq, true_and] at heq
    obtain ⟨rfl, hrest⟩ := h.inline_inj heq
    exact ⟨rfl, (List.cons.inj hrest).2⟩
  | record name h =>
    simp only [inline, List.append_assoc, List.append_cancel_left_eq] at heq
    obtain ⟨rfl, hrest⟩ := h.inline_inj heq
    exact ⟨rfl, List.append_cancel_left hrest⟩

/-- Fields on one line can be read back by one who knows their frame. -/
theorem SameFields.inline_inj {s t : List Char} {fields others : List (String × Layout)}
    (h : SameFields fields others)
    (heq : inlineFields fields ++ s = inlineFields others ++ t) : fields = others ∧ s = t := by
  cases h with
  | nil => exact ⟨rfl, heq⟩
  | cons key h hrest =>
    cases hrest with
    | nil =>
      simp only [inlineFields, List.append_assoc, List.append_cancel_left_eq] at heq
      obtain ⟨rfl, rfl⟩ := h.inline_inj heq
      exact ⟨rfl, rfl⟩
    | cons next hnext hrest =>
      simp only [inlineFields, List.append_assoc, List.append_cancel_left_eq] at heq
      obtain ⟨rfl, hcomma⟩ := h.inline_inj heq
      obtain ⟨hsame, rfl⟩ :=
        (SameFields.cons next hnext hrest).inline_inj (List.append_cancel_left hcomma)
      exact ⟨congrArg _ hsame, rfl⟩

end

/-! ## On many lines -/

mutual

/-- A value on many lines can be read back by one who knows its frame. -/
theorem SameFrame.indented_inj {s t : List Char} {first second : Layout} (level : Nat)
    (h : SameFrame first second)
    (heq : first.indentedAt level ++ s = second.indentedAt level ++ t) :
    first = second ∧ s = t := by
  cases h with
  | text text other => exact text_inj (by simpa only [indented_text] using heq)
  | atom text => exact ⟨rfl, List.append_cancel_left heq⟩
  | wrapped name h =>
    simp only [indentedAt, List.append_assoc, List.append_cancel_left_eq] at heq
    obtain ⟨rfl, hrest⟩ := h.indented_inj (level + 1) heq
    exact ⟨rfl, by simpa only [List.append_cancel_left_eq] using hrest⟩
  | record name h =>
    simp only [indentedAt, List.append_assoc, List.append_cancel_left_eq] at heq
    obtain ⟨rfl, hrest⟩ := h.indented_inj (level + 1) heq
    exact ⟨rfl, by simpa only [List.append_cancel_left_eq] using hrest⟩

/-- Fields on many lines can be read back by one who knows their frame. -/
theorem SameFields.indented_inj {s t : List Char} {fields others : List (String × Layout)}
    (level : Nat) (h : SameFields fields others)
    (heq : indentedFields level fields ++ s = indentedFields level others ++ t) :
    fields = others ∧ s = t := by
  cases h with
  | nil => exact ⟨rfl, heq⟩
  | cons key h hrest =>
    simp only [indentedFields, List.append_assoc, List.append_cancel_left_eq] at heq
    obtain ⟨rfl, hcomma⟩ := h.indented_inj level heq
    obtain ⟨rfl, rfl⟩ := hrest.indented_inj level (List.append_cancel_left hcomma)
    exact ⟨rfl, rfl⟩

end

/-! ## Names -/

/-- The text that a value begins with, however it is written. -/
def heading : Layout → String
  | .atom text => text
  | .wrapped name _ | .record name _ => name

/-- On one line a value begins with its heading. -/
theorem inline_heading (layout : Layout) :
    ∃ rest, layout.inline = layout.heading.toList ++ rest := by
  cases layout with
  | atom text => exact ⟨[], (List.append_nil _).symm⟩
  | wrapped name content => exact ⟨_, rfl⟩
  | record name fields => exact ⟨_, by simp only [inline, List.append_assoc]; rfl⟩

/-- So it does on many lines. -/
theorem indented_heading (level : Nat) (layout : Layout) :
    ∃ rest, layout.indentedAt level = layout.heading.toList ++ rest := by
  cases layout with
  | atom text => exact ⟨[], (List.append_nil _).symm⟩
  | wrapped name content => exact ⟨_, by simp only [indentedAt, List.append_assoc]; rfl⟩
  | record name fields => exact ⟨_, by simp only [indentedAt, List.append_assoc]; rfl⟩

/-! ## Ways of writing -/

/-- What can be read back of a value that is written in some way: the text that it begins with, and
all of it by one who knows its frame. -/
structure Readable (write : Layout → List Char) : Prop where
  begins : ∀ layout, ∃ rest, write layout = layout.heading.toList ++ rest
  inj : ∀ ⦃first second : Layout⦄ ⦃s t : List Char⦄, SameFrame first second →
    write first ++ s = write second ++ t → first = second ∧ s = t

/-- On one line, all of a value can be read back by one who knows its frame. -/
theorem inline_readable : Readable inline where
  begins := inline_heading
  inj _ _ _ _ h := h.inline_inj

/-- So it can on many lines. -/
theorem indented_readable (level : Nat) : Readable (indentedAt level) where
  begins := indented_heading level
  inj _ _ _ _ h := h.indented_inj level

end StorageBackend.Text.Layout

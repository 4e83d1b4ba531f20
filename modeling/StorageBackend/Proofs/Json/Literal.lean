import StorageBackend.Json.Printer
import StorageBackend.Proofs.Json.Spelling

/-!
# String literals

What is written as a JSON string is read back, because every character is either written as it is or
as an escape that stands for it (`escaped_spells`). `string_tail_literal` is for a reader that wants
the text, `skip_string_literal` for one that passes over it.
-/

namespace StorageBackend.Json

/-! ## Single characters -/

/-- A character is written as an escape of one letter, as an escape with its number, or as it is. -/
theorem escaped_char_cases (c : Char) :
    (∃ e, (e, c) ∈ escapeLetters ∧ escapedChar c = ['\\', e]) ∨
      (c.val < 0x20 ∧ escapedChar c =
        ['\\', 'u', '0', '0', Nat.digitChar (c.toNat / 16), Nat.digitChar (c.toNat % 16)]) ∨
      (c ≠ '"' ∧ c ≠ '\\' ∧ ¬ c.val < 0x20 ∧ escapedChar c = [c]) := by
  by_cases hshort : c ∈ ['"', '\\', '\x08', '\x0c', '\n', '\r', '\t']
  · left
    simp only [List.mem_cons, List.not_mem_nil, or_false] at hshort
    rcases hshort with rfl | rfl | rfl | rfl | rfl | rfl | rfl
    · exact ⟨'"', by decide, rfl⟩
    · exact ⟨'\\', by decide, rfl⟩
    · exact ⟨'b', by decide, rfl⟩
    · exact ⟨'f', by decide, rfl⟩
    · exact ⟨'n', by decide, rfl⟩
    · exact ⟨'r', by decide, rfl⟩
    · exact ⟨'t', by decide, rfl⟩
  · simp only [List.mem_cons, List.not_mem_nil, or_false, not_or] at hshort
    obtain ⟨hquote, hslash, hb, hf, hn, hr, ht⟩ := hshort
    unfold escapedChar
    rw [if_neg hquote, if_neg hslash, if_neg hb, if_neg hf, if_neg hn, if_neg hr, if_neg ht]
    by_cases hcontrol : c.val < 0x20
    · exact .inr (.inl ⟨hcontrol, if_pos hcontrol⟩)
    · exact .inr (.inr ⟨hquote, hslash, hcontrol, if_neg hcontrol⟩)

/-- The escape of a control character holds its number. -/
theorem four_digits_control {n : Nat} (h : n < 32) :
    FourDigits n '0' '0' (Nat.digitChar (n / 16)) (Nat.digitChar (n % 16)) := by
  have hfirst : n / 4096 = 0 := by omega
  have hsecond : n / 256 % 16 = 0 := by omega
  have hthird : n / 16 % 16 = n / 16 := by omega
  refine ⟨⟨by omega, .inl ?_⟩, ⟨by omega, .inl ?_⟩, ⟨by omega, .inl ?_⟩, ⟨by omega, .inl rfl⟩⟩
  · rw [hfirst]
    rfl
  · rw [hsecond]
    rfl
  · rw [hthird]

/-! ## Whole strings -/

/-- A string is a text between quotes. -/
theorem string_literal_append (text rest : List Char) :
    stringLiteral text ++ rest = '"' :: (text.flatMap escapedChar ++ '"' :: rest) := by
  simp [stringLiteral]

/-- What is written stands for the text. -/
theorem escaped_spells (text : List Char) : Spells text (text.flatMap escapedChar) := by
  induction text with
  | nil => exact .nil
  | cons c text ih =>
    rw [List.flatMap_cons]
    rcases escaped_char_cases c with ⟨e, he, hescaped⟩ | ⟨hcontrol, hescaped⟩ |
      ⟨hquote, hslash, hcontrol, hescaped⟩
    · rw [hescaped]
      exact .letter e c text _ he ih
    · rw [hescaped]
      exact .number c text _ _ _ _ _ (four_digits_control hcontrol) ih
    · rw [hescaped]
      exact .plain c text _ hquote hslash hcontrol ih

/-- A text is read back behind the opening quote. -/
theorem string_tail_literal (text rest : List Char) :
    stringTail (text.flatMap escapedChar ++ '"' :: rest) = .ok (text, rest) :=
  string_tail_spells (escaped_spells text) rest

/-- A text is passed over behind the opening quote. -/
theorem skip_string_literal (text rest : List Char) :
    skipString (text.flatMap escapedChar ++ '"' :: rest) = .ok rest :=
  skip_string_spells (escaped_spells text) rest

end StorageBackend.Json

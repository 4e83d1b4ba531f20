import StorageBackend.Json.Lexeme

/-!
# Spellings of strings

`Spells` says which texts may stand between the quotes of a JSON string for a given content: a
character may be written as it is, as an escape of one letter, by its number, or as the two halves
of a surrogate pair. The reader of strings gives the content back (`string_tail_spells`), and the
one that passes over strings finds their end (`skip_string_spells`).
-/

namespace StorageBackend.Json

open Text (hexValue?)

/-! ## Escapes -/

/-- The letters of escapes, with the characters that they stand for. -/
def escapeLetters : List (Char × Char) :=
  [('"', '"'), ('\\', '\\'), ('/', '/'), ('b', '\x08'), ('f', '\x0c'), ('n', '\n'), ('r', '\r'),
    ('t', '\t')]

/-- A hexadecimal digit, in upper or lower case. -/
def HexDigit (value : Nat) (c : Char) : Prop :=
  value < 16 ∧ (c = Nat.digitChar value ∨ c = (Nat.digitChar value).toUpper)

/-- The four hexadecimal digits of a number, the most significant one first. -/
structure FourDigits (n : Nat) (a b c d : Char) : Prop where
  first : HexDigit (n / 4096) a
  second : HexDigit (n / 256 % 16) b
  third : HexDigit (n / 16 % 16) c
  fourth : HexDigit (n % 16) d

/-- The texts that stand for a content between quotes. -/
inductive Spells : (content text : List Char) → Prop where
  | nil : Spells [] []
  | plain (c : Char) (content text : List Char) (hquote : c ≠ '"') (hslash : c ≠ '\\')
      (hcontrol : ¬ c.val < 0x20) (hrest : Spells content text) :
      Spells (c :: content) (c :: text)
  | letter (e c : Char) (content text : List Char) (h : (e, c) ∈ escapeLetters)
      (hrest : Spells content text) :
      Spells (c :: content) ('\\' :: e :: text)
  | number (c : Char) (content text : List Char) (d₁ d₂ d₃ d₄ : Char)
      (h : FourDigits c.toNat d₁ d₂ d₃ d₄) (hrest : Spells content text) :
      Spells (c :: content) ('\\' :: 'u' :: d₁ :: d₂ :: d₃ :: d₄ :: text)
  /-- A character beyond the first 65536, by ten bits in each half. -/
  | pair (c : Char) (content text : List Char) (high low : Nat) (d₁ d₂ d₃ d₄ d₅ d₆ d₇ d₈ : Char)
      (hhigh : high < 0x400) (hlow : low < 0x400) (hc : c.toNat = 0x10000 + high * 0x400 + low)
      (hleading : FourDigits (0xd800 + high) d₁ d₂ d₃ d₄)
      (htrailing : FourDigits (0xdc00 + low) d₅ d₆ d₇ d₈) (hrest : Spells content text) :
      Spells (c :: content)
        ('\\' :: 'u' :: d₁ :: d₂ :: d₃ :: d₄ :: '\\' :: 'u' :: d₅ :: d₆ :: d₇ :: d₈ :: text)

/-- Every letter of an escape stands for its character. -/
theorem short_escape_of_mem : ∀ entry ∈ escapeLetters, shortEscape? entry.1 = some entry.2 := by
  decide

/-- A digit stands for its value in either case. -/
theorem HexDigit.hex_value {value : Nat} {c : Char} (h : HexDigit value c) :
    hexValue? c = some value := by
  have hlower : ∀ value < 16, hexValue? (Nat.digitChar value) = some value := by decide
  have hupper : ∀ value < 16, hexValue? (Nat.digitChar value).toUpper = some value := by decide
  obtain ⟨hvalue, rfl | rfl⟩ := h
  · exact hlower value hvalue
  · exact hupper value hvalue

/-- The digits of a number are read as the number. -/
theorem FourDigits.hex_escape {n : Nat} {a b c d : Char} (h : FourDigits n a b c d) :
    hexEscape a b c d = .ok n := by
  have hsum : ((n / 4096 * 16 + n / 256 % 16) * 16 + n / 16 % 16) * 16 + n % 16 = n := by omega
  rw [hexEscape, h.first.hex_value, h.second.hex_value, h.third.hex_value, h.fourth.hex_value]
  exact congrArg Except.ok hsum

/-- No character has the number of a surrogate. -/
theorem not_surrogate (c : Char) :
    isTrailingSurrogate c.toNat = false ∧ isLeadingSurrogate c.toNat = false := by
  have hvalid : c.toNat < 0xd800 ∨ 0xdfff < c.toNat ∧ c.toNat < 0x110000 := c.valid
  simp only [isTrailingSurrogate, isLeadingSurrogate, Bool.and_eq_false_iff,
    decide_eq_false_iff_not]
  omega

/-- The character that its two halves stand for. -/
theorem surrogate_pair_halves {c : Char} {high low : Nat}
    (hc : c.toNat = 0x10000 + high * 0x400 + low) :
    surrogatePair (0xd800 + high) (0xdc00 + low) = c := by
  have hsum : (0xd800 + high - 0xd800) * 0x400 + (0xdc00 + low - 0xdc00) + 0x10000 = c.toNat := by
    omega
  rw [surrogatePair, hsum, Char.ofNat_toNat]

/-! ## Readers -/

/-- A string is read from each of its spellings behind the opening quote. -/
theorem string_tail_spells {content text : List Char} (h : Spells content text)
    (rest : List Char) : stringTail (text ++ '"' :: rest) = .ok (content, rest) := by
  have hu : shortEscape? 'u' = none := by decide
  induction h with
  | nil =>
    rw [stringTail.eq_def]
    rfl
  | plain c content text hquote hslash hcontrol _ ih =>
    rw [List.cons_append, stringTail.eq_def]
    simp only [if_neg hquote, if_neg hslash, if_neg hcontrol, ih]
    rfl
  | letter e c content text hmem _ ih =>
    have he : shortEscape? e = some c := short_escape_of_mem (e, c) hmem
    simp only [List.cons_append]
    rw [stringTail.eq_def]
    simp [he, ih, withChar]
  | number c content text d₁ d₂ d₃ d₄ hdigits _ ih =>
    obtain ⟨htrailing, hleading⟩ := not_surrogate c
    simp only [List.cons_append]
    rw [stringTail.eq_def]
    simp [hu, hdigits.hex_escape, htrailing, hleading, ih, withChar, Char.ofNat_toNat]
  | pair c content text high low d₁ d₂ d₃ d₄ d₅ d₆ d₇ d₈ hhigh hlow hc hfirst hsecond _ ih =>
    have hfirstTrailing : isTrailingSurrogate (0xd800 + high) = false := by
      simp only [isTrailingSurrogate, Bool.and_eq_false_iff, decide_eq_false_iff_not]
      omega
    have hfirstLeading : isLeadingSurrogate (0xd800 + high) = true := by
      simp only [isLeadingSurrogate, Bool.and_eq_true, decide_eq_true_eq]
      omega
    have hsecondTrailing : isTrailingSurrogate (0xdc00 + low) = true := by
      simp only [isTrailingSurrogate, Bool.and_eq_true, decide_eq_true_eq]
      omega
    simp only [List.cons_append]
    rw [stringTail.eq_def]
    simp [hu, hfirst.hex_escape, hsecond.hex_escape, hfirstTrailing, hfirstLeading,
      hsecondTrailing, surrogate_pair_halves hc, ih, withChar]

/-- A string is passed over in each of its spellings behind the opening quote. -/
theorem skip_string_spells {content text : List Char} (h : Spells content text)
    (rest : List Char) : skipString (text ++ '"' :: rest) = .ok rest := by
  have hu : shortEscape? 'u' = none := by decide
  induction h with
  | nil =>
    rw [skipString.eq_def]
    rfl
  | plain c content text hquote hslash hcontrol _ ih =>
    rw [List.cons_append, skipString.eq_def]
    simp only [if_neg hquote, if_neg hslash, if_neg hcontrol, ih]
  | letter e c content text hmem _ ih =>
    have he : shortEscape? e = some c := short_escape_of_mem (e, c) hmem
    simp only [List.cons_append]
    rw [skipString.eq_def]
    simp [he, ih]
  | number c content text d₁ d₂ d₃ d₄ hdigits _ ih =>
    simp only [List.cons_append]
    rw [skipString.eq_def]
    simp [hu, hdigits.hex_escape, ih]
  | pair c content text high low d₁ d₂ d₃ d₄ d₅ d₆ d₇ d₈ _ _ _ hfirst hsecond _ ih =>
    -- Either half is an escape of its own for this reader.
    simp only [List.cons_append]
    rw [skipString.eq_def]
    simp only [Char.reduceEq, if_false, if_true, hu, Option.isSome_none, Bool.false_eq_true,
      hfirst.hex_escape]
    rw [skipString.eq_def]
    simp [hu, hsecond.hex_escape, ih]

end StorageBackend.Json

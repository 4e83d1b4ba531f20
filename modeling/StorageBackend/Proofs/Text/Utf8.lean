import Mathlib.Tactic.SplitIfs
import StorageBackend.Text.Utf8

/-!
# Decoding inverts encoding

A sequence of bytes decodes to a text exactly if it is the encoding of this text
(`decode_eq_ok_iff`), so the decoder accepts neither overlong forms nor surrogates, numbers above
`0x10ffff` or sequences that are cut short. Both directions go by the length of a sequence: the
`encode` lemmas give the bytes of an assembled character, the `decode_from` lemmas the step that the
decoder takes on such bytes.
-/

namespace StorageBackend.Text.Utf8

/-! ## Bytes as numbers -/

/-- The bytes behind the first one of a character lie in a range of their own. -/
theorem is_continuation_iff {b : UInt8} :
    isContinuation b = true ↔ 0x80 ≤ b.toNat ∧ b.toNat ≤ 0xbf := by
  simp [isContinuation, UInt8.le_iff_toNat_le]

/-- The second byte is a continuation byte, within a smaller range after four of the first bytes. -/
theorem is_second_iff {a b : UInt8} :
    isSecond a b = true ↔
      (0x80 ≤ b.toNat ∧ b.toNat ≤ 0xbf) ∧ (a.toNat = 0xe0 → 0xa0 ≤ b.toNat) ∧
        (a.toNat = 0xed → b.toNat ≤ 0x9f) ∧ (a.toNat = 0xf0 → 0x90 ≤ b.toNat) ∧
        (a.toNat = 0xf4 → b.toNat ≤ 0x8f) := by
  have heq (n : UInt8) : a = n ↔ a.toNat = n.toNat := UInt8.toNat_inj.symm
  unfold isSecond secondRange
  simp only [heq, Bool.and_eq_true, decide_eq_true_eq, UInt8.le_iff_toNat_le]
  split_ifs <;> simp_all <;> omega

/-- The number of a character that is made from a number. -/
theorem val_char_of_nat {n : Nat} (h : n.isValidChar) : (Char.ofNat n).val.toNat = n := by
  rw [Char.ofNat, dif_pos h]
  rfl

/-- A byte holds every number below 256. -/
theorem byte_toNat {n : Nat} (h : n < 256) : (UInt8.ofNat n).toNat = n :=
  UInt8.toNat_ofNat_of_lt h

/-! ## The bytes of an assembled character -/

/-- A character that was assembled from one byte has this byte. -/
theorem encode_one {a : UInt8} (ha : a.toNat < 0x80) :
    String.utf8EncodeChar (Char.ofNat a.toNat) = [a] := by
  rw [String.utf8EncodeChar, val_char_of_nat (Or.inl (by omega)), if_pos (by omega),
    UInt8.ofNat_toNat]

/-- A character that was assembled from two bytes has these bytes. -/
theorem encode_two {a b : UInt8} (ha : 0xc2 ≤ a.toNat ∧ a.toNat ≤ 0xdf)
    (hb : isContinuation b = true) :
    String.utf8EncodeChar (Char.ofNat (a.toNat % 32 * 64 + payload b)) = [a, b] := by
  rw [is_continuation_iff] at hb
  unfold payload
  rw [String.utf8EncodeChar, val_char_of_nat (Or.inl (by omega)), if_neg (by omega),
    if_pos (by omega)]
  simp only [List.cons.injEq, and_true, ← UInt8.toNat_inj, UInt8.toNat_ofNat']
  omega

/-- A character that was assembled from three bytes has these bytes. -/
theorem encode_three {a b c : UInt8} (ha : 0xe0 ≤ a.toNat ∧ a.toNat ≤ 0xef)
    (hb : isSecond a b = true) (hc : isContinuation c = true) :
    String.utf8EncodeChar (Char.ofNat ((a.toNat % 16 * 64 + payload b) * 64 + payload c)) =
      [a, b, c] := by
  rw [is_continuation_iff] at hc
  rw [is_second_iff] at hb
  unfold payload
  have hvalid : ((a.toNat % 16 * 64 + b.toNat % 64) * 64 + c.toNat % 64).isValidChar := by
    unfold Nat.isValidChar
    omega
  rw [String.utf8EncodeChar, val_char_of_nat hvalid, if_neg (by omega), if_neg (by omega),
    if_pos (by omega)]
  simp only [List.cons.injEq, and_true, ← UInt8.toNat_inj, UInt8.toNat_ofNat']
  omega

/-- A character that was assembled from four bytes has these bytes. -/
theorem encode_four {a b c d : UInt8} (ha : 0xf0 ≤ a.toNat ∧ a.toNat ≤ 0xf4)
    (hb : isSecond a b = true) (hc : isContinuation c = true) (hd : isContinuation d = true) :
    String.utf8EncodeChar
        (Char.ofNat (((a.toNat % 8 * 64 + payload b) * 64 + payload c) * 64 + payload d)) =
      [a, b, c, d] := by
  rw [is_continuation_iff] at hc hd
  rw [is_second_iff] at hb
  unfold payload
  have hvalid : (((a.toNat % 8 * 64 + b.toNat % 64) * 64 + c.toNat % 64) * 64 +
      d.toNat % 64).isValidChar := by
    unfold Nat.isValidChar
    omega
  rw [String.utf8EncodeChar, val_char_of_nat hvalid, if_neg (by omega), if_neg (by omega),
    if_neg (by omega)]
  simp only [List.cons.injEq, and_true, ← UInt8.toNat_inj, UInt8.toNat_ofNat']
  omega

/-! ## One step of the decoder -/

/-- A byte below 128 is a character. -/
theorem decode_from_one {a : UInt8} (ha : a.toNat < 0x80) (index : Nat) (rest : List UInt8) :
    decodeFrom index (a :: rest) =
      (Char.ofNat a.toNat :: ·) <$> decodeFrom (index + 1) rest := by
  rw [decodeFrom.eq_def]
  exact if_pos ha

/-- Two bytes that go together are a character. -/
theorem decode_from_two {a b : UInt8} (ha : 0xc2 ≤ a.toNat ∧ a.toNat ≤ 0xdf)
    (hb : isContinuation b = true) (index : Nat) (rest : List UInt8) :
    decodeFrom index (a :: b :: rest) =
      (Char.ofNat (a.toNat % 32 * 64 + payload b) :: ·) <$> decodeFrom (index + 2) rest := by
  have hone : ¬ a < 0x80 := by simp [UInt8.lt_iff_toNat_lt]; omega
  have htwo : 0xc2 ≤ a ∧ a ≤ 0xdf := by simpa [UInt8.le_iff_toNat_le] using ha
  rw [decodeFrom.eq_def]
  simp [hone, htwo, hb]

/-- Three bytes that go together are a character. -/
theorem decode_from_three {a b c : UInt8} (ha : 0xe0 ≤ a.toNat ∧ a.toNat ≤ 0xef)
    (hb : isSecond a b = true) (hc : isContinuation c = true) (index : Nat)
    (rest : List UInt8) :
    decodeFrom index (a :: b :: c :: rest) =
      (Char.ofNat ((a.toNat % 16 * 64 + payload b) * 64 + payload c) :: ·) <$>
        decodeFrom (index + 3) rest := by
  have hone : ¬ a < 0x80 := by simp [UInt8.lt_iff_toNat_lt]; omega
  have htwo : ¬ (0xc2 ≤ a ∧ a ≤ 0xdf) := by simp [UInt8.le_iff_toNat_le]; omega
  have hthree : 0xe0 ≤ a ∧ a ≤ 0xef := by simpa [UInt8.le_iff_toNat_le] using ha
  rw [decodeFrom.eq_def]
  simp [hone, htwo, hthree, hb, hc]

/-- Four bytes that go together are a character. -/
theorem decode_from_four {a b c d : UInt8} (ha : 0xf0 ≤ a.toNat ∧ a.toNat ≤ 0xf4)
    (hb : isSecond a b = true) (hc : isContinuation c = true) (hd : isContinuation d = true)
    (index : Nat) (rest : List UInt8) :
    decodeFrom index (a :: b :: c :: d :: rest) =
      (Char.ofNat (((a.toNat % 8 * 64 + payload b) * 64 + payload c) * 64 + payload d) :: ·) <$>
        decodeFrom (index + 4) rest := by
  have hone : ¬ a < 0x80 := by simp [UInt8.lt_iff_toNat_lt]; omega
  have htwo : ¬ (0xc2 ≤ a ∧ a ≤ 0xdf) := by simp [UInt8.le_iff_toNat_le]; omega
  have hthree : ¬ (0xe0 ≤ a ∧ a ≤ 0xef) := by simp [UInt8.le_iff_toNat_le]; omega
  have hfour : 0xf0 ≤ a ∧ a ≤ 0xf4 := by simpa [UInt8.le_iff_toNat_le] using ha
  rw [decodeFrom.eq_def]
  simp [hone, htwo, hthree, hfour, hb, hc, hd]

/-- The bytes of a character are read as this character, whatever follows them. -/
theorem decode_from_encode_char (c : Char) (index : Nat) (rest : List UInt8) :
    decodeFrom index (String.utf8EncodeChar c ++ rest) =
      (c :: ·) <$> decodeFrom (index + (String.utf8EncodeChar c).length) rest := by
  have hvalid : c.val.toNat.isValidChar := c.valid
  have hchar : Char.ofNat c.val.toNat = c := Char.ofNat_toNat c
  unfold String.utf8EncodeChar
  generalize c.val.toNat = v at *
  subst hchar
  unfold Nat.isValidChar at hvalid
  -- on the ranges of the encoding; in each of them the payloads add up to the number again
  by_cases hone : v ≤ 0x7f
  · have ha := byte_toNat (n := v) (by omega)
    simp only [if_pos hone, List.cons_append, List.nil_append]
    rw [decode_from_one (by omega), ha]
    rfl
  by_cases htwo : v ≤ 0x7ff
  · have ha := byte_toNat (n := v / 64 % 32 + 0xc0) (by omega)
    have hb := byte_toNat (n := v % 64 + 0x80) (by omega)
    simp only [if_neg hone, if_pos htwo, List.cons_append, List.nil_append]
    rw [decode_from_two (by omega) (is_continuation_iff.mpr (by omega)), payload, ha, hb,
      show (v / 64 % 32 + 0xc0) % 32 * 64 + (v % 64 + 0x80) % 64 = v by omega]
    rfl
  by_cases hthree : v ≤ 0xffff
  · have ha := byte_toNat (n := v / 4096 % 16 + 0xe0) (by omega)
    have hb := byte_toNat (n := v / 64 % 64 + 0x80) (by omega)
    have hc := byte_toNat (n := v % 64 + 0x80) (by omega)
    simp only [if_neg hone, if_neg htwo, if_pos hthree, List.cons_append, List.nil_append]
    rw [decode_from_three (by omega) (is_second_iff.mpr (by omega))
        (is_continuation_iff.mpr (by omega)), payload, payload, ha, hb, hc,
      show ((v / 4096 % 16 + 0xe0) % 16 * 64 + (v / 64 % 64 + 0x80) % 64) * 64 +
        (v % 64 + 0x80) % 64 = v by omega]
    rfl
  · have ha := byte_toNat (n := v / 262144 % 8 + 0xf0) (by omega)
    have hb := byte_toNat (n := v / 4096 % 64 + 0x80) (by omega)
    have hc := byte_toNat (n := v / 64 % 64 + 0x80) (by omega)
    have hd := byte_toNat (n := v % 64 + 0x80) (by omega)
    simp only [if_neg hone, if_neg htwo, if_neg hthree, List.cons_append, List.nil_append]
    rw [decode_from_four (by omega) (is_second_iff.mpr (by omega))
        (is_continuation_iff.mpr (by omega)) (is_continuation_iff.mpr (by omega)), payload,
      payload, payload, ha, hb, hc, hd,
      show (((v / 262144 % 8 + 0xf0) % 8 * 64 + (v / 4096 % 64 + 0x80) % 64) * 64 +
        (v / 64 % 64 + 0x80) % 64) * 64 + (v % 64 + 0x80) % 64 = v by omega]
    rfl

/-! ## Whole texts -/

/-- The encoding of a text is read as this text. -/
theorem decode_from_encode (text : List Char) (index : Nat) :
    decodeFrom index (text.flatMap String.utf8EncodeChar) = .ok text := by
  induction text generalizing index with
  | nil => rfl
  | cons c text ih =>
    rw [List.flatMap_cons, decode_from_encode_char, ih]
    rfl

/-- A text that begins with a character that was put in front. -/
theorem eq_cons_of_map_cons {ε : Type} {c : Char} {read : Except ε (List Char)}
    {text : List Char} (h : (c :: ·) <$> read = .ok text) :
    ∃ tail, read = .ok tail ∧ text = c :: tail := by
  cases read with
  | error error => cases h
  | ok tail =>
    cases h
    exact ⟨tail, rfl, rfl⟩

/-- Bytes that are read as a text are the encoding of this text. -/
theorem encode_of_decode_from {index : Nat} {bytes : List UInt8} {text : List Char}
    (h : decodeFrom index bytes = .ok text) :
    text.flatMap String.utf8EncodeChar = bytes := by
  fun_induction decodeFrom index bytes generalizing text with
  | case1 =>
    cases h
    rfl
  | case2 index a rest ha ih =>
    obtain ⟨tail, htail, rfl⟩ := eq_cons_of_map_cons h
    have ha : a.toNat < 0x80 := by simpa [UInt8.lt_iff_toNat_lt] using ha
    rw [List.flatMap_cons, ih htail, encode_one ha]
    rfl
  | case5 index a _ ha b rest hb ih =>
    obtain ⟨tail, htail, rfl⟩ := eq_cons_of_map_cons h
    simp [UInt8.le_iff_toNat_le] at ha hb
    rw [List.flatMap_cons, ih htail, encode_two ha hb]
    rfl
  | case10 index a _ _ ha b hb c rest hc ih =>
    obtain ⟨tail, htail, rfl⟩ := eq_cons_of_map_cons h
    simp [UInt8.le_iff_toNat_le] at ha hb hc
    rw [List.flatMap_cons, ih htail, encode_three ha hb hc]
    rfl
  | case17 index a _ _ _ ha b hb c hc d rest hd ih =>
    obtain ⟨tail, htail, rfl⟩ := eq_cons_of_map_cons h
    simp [UInt8.le_iff_toNat_le] at ha hb hc hd
    rw [List.flatMap_cons, ih htail, encode_four ha hb hc hd]
    rfl
  -- all other ways through the decoder end in an error
  | _ => cases h

/-- Bytes are read as a text exactly if they are its encoding. -/
theorem decode_eq_ok_iff {bytes : List UInt8} {text : String} :
    decode bytes = .ok text ↔ encode text = bytes := by
  constructor
  · intro h
    unfold decode at h
    cases hchars : decodeFrom 0 bytes with
    | error error =>
      rw [hchars] at h
      cases h
    | ok chars =>
      rw [hchars] at h
      cases h
      rw [encode, String.toList_ofList]
      exact encode_of_decode_from hchars
  · rintro rfl
    rw [decode, encode, decode_from_encode]
    exact congrArg Except.ok String.ofList_toList

/-- Texts with the same bytes are the same. -/
theorem encode_injective {text other : String} (h : encode text = encode other) : text = other := by
  have htext := decode_eq_ok_iff.mpr h
  rw [decode_eq_ok_iff.mpr (rfl : encode other = encode other)] at htext
  exact (Except.ok.inj htext).symm

/-- Bytes are refused exactly if they are the encoding of no text. -/
theorem decode_eq_error_iff {bytes : List UInt8} :
    (∃ malformed, decode bytes = .error malformed) ↔ ∀ text, encode text ≠ bytes := by
  constructor
  · rintro ⟨malformed, h⟩ text htext
    rw [decode_eq_ok_iff.mpr htext] at h
    cases h
  · intro h
    cases hd : decode bytes with
    | error malformed => exact ⟨malformed, rfl⟩
    | ok text => exact absurd (decode_eq_ok_iff.mp hd) (h text)

/-- Only the empty text is encoded with no bytes. -/
theorem encode_eq_nil_iff {text : String} : encode text = [] ↔ text = "" := by
  constructor
  · intro h
    have hdecode : decode [] = .ok text := decode_eq_ok_iff.mpr h
    exact (Except.ok.inj hdecode).symm
  · rintro rfl
    rfl

end StorageBackend.Text.Utf8

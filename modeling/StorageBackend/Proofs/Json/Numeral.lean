import StorageBackend.Json.Lexeme

/-!
# Numerals

A number in a JSON text is an integer, with a fraction and an exponent if it has any. The reader
that passes over numbers finds the end of every numeral, however large it is (`skip_number_text`).
An integer in the range of a signed or an unsigned 64-bit number is read as what it is
(`number_text`). Both need to see where the numeral ends (`Apart`).
-/

namespace StorageBackend.Json

open Text (isDigit digitValue)

/-! ## Texts of numerals -/

/-- One digit or more. -/
structure Digits where
  first : Fin 10
  rest : List (Fin 10)

/-- Digits as they are written. -/
def Digits.text (digits : Digits) : List Char :=
  (digits.first :: digits.rest).map fun digit : Fin 10 => Nat.digitChar digit

/-- The sign of an exponent. -/
inductive ExponentSign where
  | none
  | plus
  | minus

/-- The sign of an exponent as it is written. -/
def ExponentSign.text : ExponentSign → List Char
  | .none => []
  | .plus => ['+']
  | .minus => ['-']

/-- An exponent, with its letter in upper or lower case. -/
structure Exponent where
  upper : Bool
  sign : ExponentSign
  digits : Digits

/-- An exponent as it is written. -/
def Exponent.text (exponent : Exponent) : List Char :=
  (if exponent.upper then 'E' else 'e') :: (exponent.sign.text ++ exponent.digits.text)

/-- A number in a JSON text. -/
structure Numeral where
  negative : Bool
  whole : Nat
  fraction : Option Digits
  exponent : Option Exponent

namespace Numeral

/-- The fraction and the exponent as they are written. -/
def tail (numeral : Numeral) : List Char :=
  (numeral.fraction.elim [] fun digits => '.' :: digits.text) ++
    numeral.exponent.elim [] Exponent.text

/-- A numeral as it is written, without its sign. -/
def magnitude (numeral : Numeral) : List Char := Nat.toDigits 10 numeral.whole ++ numeral.tail

/-- A numeral as it is written. -/
def text (numeral : Numeral) : List Char :=
  if numeral.negative then '-' :: numeral.magnitude else numeral.magnitude

/-- The integer that a numeral stands for if it has neither a fraction nor an exponent. -/
def toInt (numeral : Numeral) : Int :=
  if numeral.negative then -numeral.whole else numeral.whole

/-- Whether a numeral is an integer in the range of a signed or an unsigned 64-bit number, and not
a negative zero. -/
structure IsInteger (numeral : Numeral) : Prop where
  fraction : numeral.fraction = none
  exponent : numeral.exponent = none
  negative : numeral.negative = true → 0 < numeral.whole ∧ numeral.whole ≤ twoTo 63
  unsigned : numeral.negative = false → numeral.whole < twoTo 64

end Numeral

/-- Texts that may stand right behind a value: there is nothing, or space, or a comma or the end of
a list or an object. -/
def Apart (text : List Char) : Prop :=
  ∀ c ∈ text.head?, isSpace c = true ∨ c ∈ [',', ']', '\x7d']

/-! ## Digits -/

/-- Digits are the digits of the library. -/
theorem is_digit_eq (c : Char) : isDigit c = c.isDigit := rfl

/-- Digits are written with digits. -/
theorem Digits.is_digit (digits : Digits) : ∀ c ∈ digits.text, isDigit c = true := by
  have hdigit : ∀ digit : Fin 10, isDigit (Nat.digitChar digit) = true := by decide
  intro c hc
  obtain ⟨digit, -, rfl⟩ := List.mem_map.mp hc
  exact hdigit digit

/-- A number is written with digits. -/
theorem to_digits_is_digit (n : Nat) : ∀ c ∈ Nat.toDigits 10 n, isDigit c = true := by
  intro c hc
  rw [is_digit_eq]
  exact Nat.isDigit_of_mem_toDigits (by omega) (by omega) hc

/-- Only zero is written with a zero in front. -/
theorem to_digits_head {n : Nat} (h : 0 < n) :
    ∃ c digits, Nat.toDigits 10 n = c :: digits ∧ c ≠ '0' := by
  induction n using Nat.strongRecOn with
  | ind n ih =>
    by_cases hsmall : n < 10
    · have hdigit : ∀ m < 10, 0 < m → Nat.digitChar m ≠ '0' := by decide
      exact ⟨_, [], Nat.toDigits_of_lt_base hsmall, hdigit n hsmall h⟩
    · obtain ⟨c, digits, hdigits, hc⟩ := ih (n / 10) (by omega) (by omega)
      refine ⟨c, digits ++ [Nat.digitChar (n % 10)], ?_, hc⟩
      rw [Nat.toDigits_eq_if (by omega), if_neg hsmall, hdigits, List.cons_append]

/-- The digits at the beginning of a text are told apart from what is behind them. -/
theorem span_digits {digits rest : List Char} (h : ∀ c ∈ digits, isDigit c = true)
    (hrest : ∀ c ∈ rest.head?, isDigit c = false) :
    (digits ++ rest).takeWhile isDigit = digits ∧ (digits ++ rest).dropWhile isDigit = rest := by
  rw [List.takeWhile_append_of_pos h, List.dropWhile_append_of_pos h]
  cases rest with
  | nil => exact ⟨List.append_nil digits, rfl⟩
  | cons c rest =>
    have hc : isDigit c = false := hrest c rfl
    simp [hc]

/-- What stands behind a value does not continue a number. -/
theorem Apart.head {text : List Char} (h : Apart text) :
    ∀ c ∈ text.head?, isDigit c = false ∧ c ≠ '.' ∧ c ≠ 'e' ∧ c ≠ 'E' := by
  intro c hc
  rcases h c hc with hspace | hmark
  · simp only [isSpace, Bool.or_eq_true, beq_iff_eq] at hspace
    rcases hspace with ((rfl | rfl) | rfl) | rfl
    all_goals exact ⟨rfl, nofun, nofun, nofun⟩
  · simp only [List.mem_cons, List.not_mem_nil, or_false] at hmark
    rcases hmark with rfl | rfl | rfl
    all_goals exact ⟨rfl, nofun, nofun, nofun⟩

/-! ## Passing over numerals -/

section

variable {rest : List Char}

/-- Digits behind the letter of an exponent are passed over. -/
theorem skip_exponent_digits (sign : ExponentSign) (digits : Digits) (h : Apart rest) :
    skipExponent (sign.text ++ digits.text ++ rest) = .ok rest := by
  obtain ⟨c, others, hdigits⟩ : ∃ c others, digits.text = c :: others := ⟨_, _, rfl⟩
  have hc : isDigit c = true := digits.is_digit c (by rw [hdigits]; exact List.mem_cons_self)
  have hdrop := (span_digits digits.is_digit fun c hc => (h.head c hc).1).2
  have hplus : c ≠ '+' := by
    rintro rfl
    cases hc
  have hminus : c ≠ '-' := by
    rintro rfl
    cases hc
  rw [hdigits] at hdrop ⊢
  cases sign with
  | none => simpa [skipExponent, ExponentSign.text, hplus, hminus, hc] using hdrop
  | plus => simpa [skipExponent, ExponentSign.text, hc] using hdrop
  | minus => simpa [skipExponent, ExponentSign.text, hc] using hdrop

/-- An exponent is passed over if there is one. -/
theorem skip_after_digits_text (exponent : Option Exponent) (h : Apart rest) :
    skipAfterDigits (exponent.elim [] Exponent.text ++ rest) = .ok rest := by
  cases exponent with
  | none =>
    cases rest with
    | nil => rfl
    | cons c rest =>
      obtain ⟨-, -, hlower, hupper⟩ := h.head c rfl
      simp [skipAfterDigits, hlower, hupper]
  | some exponent =>
    have hskip := skip_exponent_digits exponent.sign exponent.digits h
    obtain ⟨upper, sign, digits⟩ := exponent
    cases upper with
    | true => simpa [skipAfterDigits, Exponent.text] using hskip
    | false => simpa [skipAfterDigits, Exponent.text] using hskip

/-- What is behind the fraction of a numeral does not continue its digits. -/
theorem exponent_head (exponent : Option Exponent) (h : Apart rest) :
    ∀ c ∈ (exponent.elim [] Exponent.text ++ rest).head?, isDigit c = false ∧ c ≠ '.' := by
  intro c hc
  cases exponent with
  | none => exact ⟨(h.head c hc).1, (h.head c hc).2.1⟩
  | some exponent =>
    obtain ⟨upper, sign, digits⟩ := exponent
    cases upper with
    | true =>
      cases hc
      exact ⟨rfl, nofun⟩
    | false =>
      cases hc
      exact ⟨rfl, nofun⟩

/-- What is behind the integer of a numeral does not continue its digits. -/
theorem Numeral.tail_head (numeral : Numeral) (h : Apart rest) :
    ∀ c ∈ (numeral.tail ++ rest).head?, isDigit c = false := by
  intro c hc
  rw [Numeral.tail, List.append_assoc] at hc
  cases hfraction : numeral.fraction with
  | none =>
    rw [hfraction] at hc
    exact (exponent_head numeral.exponent h c hc).1
  | some digits =>
    rw [hfraction] at hc
    cases hc
    rfl

/-- A fraction and an exponent are passed over if there are any. -/
theorem skip_after_integer_tail (numeral : Numeral) (h : Apart rest) :
    skipAfterInteger (numeral.tail ++ rest) = .ok rest := by
  have hexponent := skip_after_digits_text numeral.exponent h
  have hhead := exponent_head numeral.exponent h
  rw [Numeral.tail, List.append_assoc]
  generalize numeral.exponent.elim [] Exponent.text ++ rest = behind at hexponent hhead ⊢
  cases numeral.fraction with
  | none =>
    show skipAfterInteger behind = .ok rest
    unfold skipAfterInteger
    split
    · exact absurd rfl (hhead '.' rfl).2
    · exact hexponent
  | some digits =>
    obtain ⟨htake, hdrop⟩ := span_digits digits.is_digit fun c hc => (hhead c hc).1
    show skipAfterInteger ('.' :: (digits.text ++ behind)) = .ok rest
    simp only [skipAfterInteger, htake, hdrop]
    exact hexponent

/-- A numeral is passed over behind its sign. -/
theorem skip_number_magnitude (numeral : Numeral) (h : Apart rest) :
    skipNumber (numeral.magnitude ++ rest) = .ok rest := by
  have htail := skip_after_integer_tail numeral h
  have hhead := numeral.tail_head h
  rw [Numeral.magnitude, List.append_assoc]
  generalize numeral.tail ++ rest = behind at htail hhead ⊢
  rcases Nat.eq_zero_or_pos numeral.whole with hzero | hpos
  · rw [hzero, Nat.toDigits_zero]
    show skipNumber ('0' :: behind) = .ok rest
    cases behind with
    | nil => exact htail
    | cons c behind =>
      have hc : isDigit c = false := hhead c rfl
      simpa [skipNumber, hc] using htail
  · obtain ⟨c, digits, hdigits, hc⟩ := to_digits_head hpos
    have hall := to_digits_is_digit numeral.whole
    obtain ⟨-, hdrop⟩ := span_digits hall hhead
    rw [hdigits] at hall hdrop ⊢
    have hdigit : isDigit c = true := hall c List.mem_cons_self
    rw [List.cons_append] at hdrop ⊢
    simp only [skipNumber, if_neg hc, hdigit, if_true, hdrop]
    exact htail

/-! ## Reading integers -/

/-- More digits do not make a number smaller. -/
theorem le_of_digit_chars (digits : List Char) (n : Nat) : n ≤ Nat.ofDigitChars 10 digits n := by
  induction digits generalizing n with
  | nil => exact Nat.le_refl n
  | cons c digits ih =>
    rw [Nat.ofDigitChars_cons]
    exact Nat.le_trans (by omega) (ih _)

/-- Digits are appended as long as the number has at most 64 bits. -/
theorem append_digits_eq {digits : List Char} {n : Nat}
    (h : Nat.ofDigitChars 10 digits n < twoTo 64) :
    appendDigits n digits = (Nat.ofDigitChars 10 digits n, 0) := by
  induction digits generalizing n with
  | nil => rfl
  | cons c digits ih =>
    have hnext : n * 10 + digitValue c = 10 * n + (c.toNat - '0'.toNat) := by
      rw [digitValue, Nat.mul_comm]
    rw [Nat.ofDigitChars_cons, ← hnext] at h ⊢
    have hmax : maxUnsigned = twoTo 64 - 1 := rfl
    have hle := le_of_digit_chars digits (n * 10 + digitValue c)
    have hfits : ¬ n * 10 + digitValue c > maxUnsigned := by omega
    rw [appendDigits]
    simp only [if_neg hfits]
    exact ih h

/-- The digits of a number of at most 64 bits give this number, and none of them is left out. -/
theorem append_digits_to_digits {n : Nat} (h : n < twoTo 64) :
    appendDigits 0 (Nat.toDigits 10 n) = (n, 0) := by
  have hvalue : Nat.ofDigitChars 10 (Nat.toDigits 10 n) 0 = n :=
    Nat.ofDigitChars_toDigits (by omega) (by omega)
  rw [append_digits_eq (by rwa [hvalue]), hvalue]

/-- An integer of at most 64 bits ends where its digits end. -/
theorem after_integer_apart {numeral : Numeral} (hinteger : numeral.IsInteger) (h : Apart rest) :
    afterInteger numeral.negative numeral.whole 0 rest =
      .ok (.integer numeral.toInt, rest) := by
  have hexponent : (rest.head? == some 'e' || rest.head? == some 'E') = false := by
    cases rest with
    | nil => rfl
    | cons c rest =>
      obtain ⟨-, -, hlower, hupper⟩ := h.head c rfl
      simp [hlower, hupper]
  unfold afterInteger
  split
  · exact absurd rfl (h.head '.' rfl).2.1
  · rw [hexponent]
    cases hnegative : numeral.negative with
    | false => simp [Numeral.toInt, hnegative]
    | true =>
      obtain ⟨hpos, hle⟩ := hinteger.negative hnegative
      have hrange : ¬ (numeral.whole = 0 ∨ numeral.whole > twoTo 63) := by omega
      simp [Numeral.toInt, hnegative, hrange]

/-- An integer is read behind its sign. -/
theorem number_magnitude {numeral : Numeral} (hinteger : numeral.IsInteger) (h : Apart rest) :
    number numeral.negative (numeral.magnitude ++ rest) = .ok (.integer numeral.toInt, rest) := by
  have hafter := after_integer_apart hinteger h
  have hhead : ∀ c ∈ rest.head?, isDigit c = false := fun c hc => (h.head c hc).1
  have hmagnitude : numeral.magnitude = Nat.toDigits 10 numeral.whole := by
    rw [Numeral.magnitude, Numeral.tail, hinteger.fraction, hinteger.exponent]
    exact List.append_nil _
  have hbound : numeral.whole < twoTo 64 := by
    cases hnegative : numeral.negative with
    | false => exact hinteger.unsigned hnegative
    | true =>
      have hle := (hinteger.negative hnegative).2
      have hmore : twoTo 63 < twoTo 64 := by decide
      exact Nat.lt_of_le_of_lt hle hmore
  rw [hmagnitude]
  rcases Nat.eq_zero_or_pos numeral.whole with hzero | hpos
  · rw [hzero] at hafter ⊢
    rw [Nat.toDigits_zero]
    cases rest with
    | nil => exact hafter
    | cons c rest =>
      have hc : isDigit c = false := hhead c rfl
      simpa [number, hc] using hafter
  · obtain ⟨c, digits, hdigits, hc⟩ := to_digits_head hpos
    have hall := to_digits_is_digit numeral.whole
    have hvalue := append_digits_to_digits hbound
    obtain ⟨htake, hdrop⟩ := span_digits hall hhead
    rw [hdigits] at hall hvalue htake hdrop ⊢
    have hdigit : isDigit c = true := hall c List.mem_cons_self
    rw [List.cons_append] at htake hdrop ⊢
    simp only [number, if_neg hc, hdigit, if_true, htake, hdrop, hvalue]
    exact hafter

end

end StorageBackend.Json

import Mathlib.Data.List.Infix
import Mathlib.Tactic.SplitIfs
import StorageBackend.Json.Structure
import StorageBackend.Proofs.Basic

/-!
# How far a reader looks

A reader decides by what it takes and at most one character behind it: with more text behind what
it leaves it reads the same. A number at the very end of a text could go on, so something has to be
left (`Steady`); a list or an object shows its own end, so nothing has to be (`Closes`). The readers
of names, strings and numbers look no further than this, and so do those that pass over them; the
main statements are `string_tail_closes`, `number_steady` and `skip_number_passes`.
-/

namespace StorageBackend.Json

open Text (isDigit digitValue)

/-! ## What readers leave -/

/-- A way of passing over something that leaves a part of the text, and leaves the same part with
more text behind it if it leaves anything. -/
def Passes (pass : List Char → Except Error (List Char)) : Prop :=
  ∀ ⦃text rest⦄, pass text = .ok rest →
    rest <:+ text ∧ (rest ≠ [] → ∀ more, pass (text ++ more) = .ok (rest ++ more))

/-- A reader that leaves a part of the text, and reads the same with more text behind it if it
leaves anything. -/
def Steady (read : Scan α) : Prop :=
  ∀ ⦃text value rest⦄, read text = .ok (value, rest) →
    rest <:+ text ∧ (rest ≠ [] → ∀ more, read (text ++ more) = .ok (value, rest ++ more))

/-- A reader that ends with the character `mark` and reads the same with more text behind it. -/
def Closes (mark : Char) (read : Scan α) : Prop :=
  ∀ ⦃text value rest⦄, read text = .ok (value, rest) →
    mark :: rest <:+ text ∧ ∀ more, read (text ++ more) = .ok (value, rest ++ more)

variable {α β : Type}

/-- A reader that ends with a mark looks no further than to this mark. -/
theorem Closes.steady {mark : Char} {read : Scan α} (h : Closes mark read) : Steady read :=
  fun _ _ _ hread => ⟨(List.suffix_cons mark _).trans (h hread).1, fun _ => (h hread).2⟩

/-! ## Space -/

/-- Where space ends, it ends with more text behind as well. -/
theorem skip_space_more {text rest : List Char} {c : Char} (h : skipSpace text = c :: rest)
    (more : List Char) : skipSpace (text ++ more) = c :: (rest ++ more) := by
  rw [skipSpace] at h ⊢
  rw [List.dropWhile_append, h]
  rfl

/-- What is left behind white space is a part of the text. -/
theorem suffix_of_skip_space {text rest : List Char} {c : Char} (h : skipSpace text = c :: rest) :
    c :: rest <:+ text := by
  rw [← h]
  exact List.dropWhile_suffix isSpace

/-- Digits that something follows end there with more text behind as well. -/
theorem span_more {text : List Char} (h : text.dropWhile isDigit ≠ []) (more : List Char) :
    (text ++ more).takeWhile isDigit = text.takeWhile isDigit ∧
      (text ++ more).dropWhile isDigit = text.dropWhile isDigit ++ more := by
  have hlength : (text.takeWhile isDigit).length ≠ text.length := by
    have hsplit := congrArg List.length (List.takeWhile_append_dropWhile (p := isDigit) (l := text))
    have hrest := List.length_pos_iff.mpr h
    rw [List.length_append] at hsplit
    omega
  have hempty : (text.dropWhile isDigit).isEmpty = false := List.isEmpty_eq_false_iff.mpr h
  rw [List.takeWhile_append, if_neg hlength, List.dropWhile_append, hempty]
  exact ⟨rfl, rfl⟩

/-! ## Names and strings -/

/-- A name is what is written. -/
theorem name_tail_eq_ok_iff {name text rest : List Char} :
    nameTail name text = .ok rest ↔ text = name ++ rest := by
  induction name generalizing text with
  | nil => simp [nameTail]
  | cons c name ih =>
    cases text with
    | nil => simp [nameTail]
    | cons d text =>
      by_cases hd : d = c
      · simp [nameTail, hd, ih]
      · simp [nameTail, hd]

/-- The rest of a word is passed over the same with more text behind it. -/
theorem name_tail_passes (name : List Char) : Passes (nameTail name) := by
  intro text rest h
  rw [name_tail_eq_ok_iff] at h
  refine ⟨⟨name, h.symm⟩, fun _ more => ?_⟩
  rw [name_tail_eq_ok_iff, h, List.append_assoc]

/-- A character in front of what is read stays in front of it. -/
theorem with_char_eq_ok {c : Char} {read : Except Error (List Char × List Char)}
    {content rest : List Char} (h : withChar c read = .ok (content, rest)) :
    ∃ tail, read = .ok (tail, rest) ∧ content = c :: tail := by
  cases read with
  | error error => cases h
  | ok result =>
    cases h
    exact ⟨_, rfl, rfl⟩

/-- A string ends with its closing quote. -/
theorem string_tail_closes : Closes '"' stringTail := by
  intro text content rest h
  fun_induction stringTail text generalizing content with
  | case2 text =>
    cases h
    refine ⟨List.suffix_rfl, fun more => ?_⟩
    rw [List.cons_append, stringTail.eq_def]
    rfl
  | case4 e text escaped he _ ih =>
    obtain ⟨tail, htail, rfl⟩ := with_char_eq_ok h
    obtain ⟨hsuffix, hmore⟩ := ih htail
    refine ⟨hsuffix.trans (List.suffix_append ['\\', e] text), fun more => ?_⟩
    simp only [List.cons_append]
    rw [stringTail.eq_def]
    simp [he, hmore, withChar]
  | case12 d₁ d₂ d₃ d₄ n hfirst htrailing hleading b hb u hu d₅ d₆ d₇ d₈ text m hsecond hm _
      hshort ih =>
    obtain rfl := not_not.mp hb
    obtain rfl := not_not.mp hu
    obtain ⟨tail, htail, rfl⟩ := with_char_eq_ok h
    obtain ⟨hsuffix, hmore⟩ := ih htail
    refine ⟨hsuffix.trans (List.suffix_append
      ['\\', 'u', d₁, d₂, d₃, d₄, '\\', 'u', d₅, d₆, d₇, d₈] text), fun more => ?_⟩
    simp only [List.cons_append]
    rw [stringTail.eq_def]
    simp [hshort, hfirst, htrailing, hleading, hsecond, hm, hmore, withChar]
  | case15 d₁ d₂ d₃ d₄ text n hdigits htrailing hleading _ hshort ih =>
    obtain ⟨tail, htail, rfl⟩ := with_char_eq_ok h
    obtain ⟨hsuffix, hmore⟩ := ih htail
    refine ⟨hsuffix.trans (List.suffix_append ['\\', 'u', d₁, d₂, d₃, d₄] text), fun more => ?_⟩
    simp only [List.cons_append]
    rw [stringTail.eq_def]
    simp [hshort, hdigits, htrailing, hleading, hmore, withChar]
  | case19 c text hquote hslash hcontrol ih =>
    obtain ⟨tail, htail, rfl⟩ := with_char_eq_ok h
    obtain ⟨hsuffix, hmore⟩ := ih htail
    refine ⟨hsuffix.trans (List.suffix_cons c text), fun more => ?_⟩
    rw [List.cons_append, stringTail.eq_def]
    simp [hquote, hslash, hcontrol, hmore, withChar]
  -- all other ways end in an error
  | _ => cases h

/-- A string is passed over up to its closing quote. -/
theorem skip_string_passes : Passes skipString := by
  intro text rest h
  suffices hall : rest <:+ text ∧ ∀ more, skipString (text ++ more) = .ok (rest ++ more) from
    ⟨hall.1, fun _ => hall.2⟩
  fun_induction skipString text with
  | case2 text =>
    cases h
    refine ⟨List.suffix_cons _ _, fun more => ?_⟩
    rw [List.cons_append, skipString.eq_def]
    rfl
  | case4 e text he _ ih =>
    obtain ⟨hsuffix, hmore⟩ := ih h
    refine ⟨hsuffix.trans (List.suffix_append ['\\', e] text), fun more => ?_⟩
    simp only [List.cons_append]
    rw [skipString.eq_def]
    simp [he, hmore]
  | case6 d₁ d₂ d₃ d₄ text n hdigits _ hshort ih =>
    obtain ⟨hsuffix, hmore⟩ := ih h
    refine ⟨hsuffix.trans (List.suffix_append ['\\', 'u', d₁, d₂, d₃, d₄] text), fun more => ?_⟩
    simp only [List.cons_append]
    rw [skipString.eq_def]
    simp [hshort, hdigits, hmore]
  | case10 c text hquote hslash hcontrol ih =>
    obtain ⟨hsuffix, hmore⟩ := ih h
    refine ⟨hsuffix.trans (List.suffix_cons c text), fun more => ?_⟩
    rw [List.cons_append, skipString.eq_def]
    simp [hquote, hslash, hcontrol, hmore]
  -- all other ways end in an error
  | _ => cases h

/-! ## Numbers -/

/-- Something stands in a text if something of it is left. -/
theorem ne_nil_of_suffix {rest text : List Char} (h : rest <:+ text) (hrest : rest ≠ []) :
    text ≠ [] := by
  rintro rfl
  exact hrest (List.suffix_nil.mp h)

/-- Whether an exponent has a minus sign, and what is behind its sign. -/
def exponentSign : List Char → Bool × List Char
  | '+' :: text => (false, text)
  | '-' :: text => (true, text)
  | text => (false, text)

/-- Passes over the digits of an exponent. -/
def skipExponentDigits (text : List Char) : Except Error (List Char) :=
  match text with
  | [] => .error .invalidNumber
  | c :: _ => if isDigit c then .ok (text.dropWhile isDigit) else .error .invalidNumber

/-- Reads the digits of an exponent. -/
def exponentDigits (negative : Bool) (significand : Nat) (exponent : Int) (down : Bool)
    (text : List Char) : Except Error (Number × List Char) :=
  match text with
  | [] => .error .endOfValue
  | c :: _ =>
    if !isDigit c then .error .invalidNumber
    else
      let digits := text.takeWhile isDigit
      let rest := text.dropWhile isDigit
      let written :=
        digits.foldl (fun n c => if n > maxExponent then n else n * 10 + digitValue c) 0
      if written > maxExponent then
        if significand ≠ 0 ∧ !down then .error .numberOutOfRange
        else .ok (.real ⟨negative, 0⟩, rest)
      else do
        let exponent := if down then exponent - written else exponent + written
        let number ← toReal negative significand exponent
        .ok (number, rest)

/-- Passing over an exponent is passing over its sign and then its digits. -/
theorem skip_exponent_eq (text : List Char) :
    skipExponent text = skipExponentDigits (exponentSign text).2 := by
  cases text with
  | nil => rfl
  | cons c text =>
    by_cases hplus : c = '+'
    · subst hplus
      rfl
    · by_cases hminus : c = '-'
      · subst hminus
        rfl
      · simp [skipExponent, skipExponentDigits, exponentSign, hplus, hminus]

/-- Reading an exponent is reading its sign and then its digits. -/
theorem exponent_tail_eq (negative : Bool) (significand : Nat) (exponent : Int)
    (text : List Char) :
    exponentTail negative significand exponent text =
      exponentDigits negative significand exponent (exponentSign text).1
        (exponentSign text).2 := by
  cases text with
  | nil => rfl
  | cons c text =>
    by_cases hplus : c = '+'
    · subst hplus
      rfl
    · by_cases hminus : c = '-'
      · subst hminus
        rfl
      · simp [exponentTail, exponentDigits, exponentSign, hplus, hminus]

/-- What is behind the sign of an exponent is a part of the text. -/
theorem exponent_sign_suffix (text : List Char) : (exponentSign text).2 <:+ text := by
  unfold exponentSign
  split
  · exact List.suffix_cons _ _
  · exact List.suffix_cons _ _
  · exact List.suffix_rfl

/-- The sign of an exponent is the same with more text behind it, unless nothing is left. -/
theorem exponent_sign_more {text : List Char} (h : (exponentSign text).2 ≠ []) (more : List Char) :
    exponentSign (text ++ more) = ((exponentSign text).1, (exponentSign text).2 ++ more) := by
  cases text with
  | nil => exact absurd rfl h
  | cons c text =>
    by_cases hplus : c = '+'
    · subst hplus
      rfl
    · by_cases hminus : c = '-'
      · subst hminus
        rfl
      · simp [exponentSign, hplus, hminus]

/-- Digits are passed over up to the first character that is none. -/
theorem skip_exponent_digits_passes : Passes skipExponentDigits := by
  intro text rest h
  cases text with
  | nil => cases h
  | cons c text =>
    unfold skipExponentDigits at h
    by_cases hc : isDigit c = true
    · simp only [if_pos hc] at h
      cases h
      refine ⟨List.dropWhile_suffix isDigit, fun hrest more => ?_⟩
      rw [List.cons_append, skipExponentDigits]
      simp only [if_pos hc]
      rw [← List.cons_append, (span_more hrest more).2]
    · simp only [if_neg hc] at h
      cases h

/-- An exponent is passed over the same with more text behind it. -/
theorem skip_exponent_passes : Passes skipExponent := by
  intro text rest h
  rw [skip_exponent_eq] at h
  obtain ⟨hsuffix, hmore⟩ := skip_exponent_digits_passes h
  refine ⟨hsuffix.trans (exponent_sign_suffix text), fun hrest more => ?_⟩
  rw [skip_exponent_eq, exponent_sign_more (ne_nil_of_suffix hsuffix hrest)]
  exact hmore hrest more

/-- The digits of an exponent are read no further than to their end. -/
theorem exponent_digits_steady (negative : Bool) (significand : Nat) (exponent : Int)
    (down : Bool) : Steady (exponentDigits negative significand exponent down) := by
  intro text value rest h
  have hspan := @span_more text
  cases text with
  | nil => cases h
  | cons c text =>
    simp only [exponentDigits] at h
    split at h
    · cases h
    rename_i hc
    split at h
    · rename_i hlarge
      split at h
      · cases h
      rename_i hzero
      cases h
      refine ⟨List.dropWhile_suffix isDigit, fun hrest more => ?_⟩
      obtain ⟨htake, hdrop⟩ := hspan hrest more
      rw [List.cons_append] at htake hdrop
      simp only [List.cons_append, exponentDigits, htake, hdrop, if_neg hc, if_pos hlarge,
        if_neg hzero]
    · rename_i hsmall
      obtain ⟨number, hnumber, h⟩ := exists_of_bind_eq_ok h
      cases h
      refine ⟨List.dropWhile_suffix isDigit, fun hrest more => ?_⟩
      obtain ⟨htake, hdrop⟩ := hspan hrest more
      rw [List.cons_append] at htake hdrop
      simp only [List.cons_append, exponentDigits, htake, hdrop, if_neg hc, if_neg hsmall]
      exact bind_of_eq_ok hnumber _

/-- An exponent is read no further than to its end. -/
theorem exponent_tail_steady (negative : Bool) (significand : Nat) (exponent : Int) :
    Steady (exponentTail negative significand exponent) := by
  intro text value rest h
  rw [exponent_tail_eq] at h
  obtain ⟨hsuffix, hmore⟩ := exponent_digits_steady negative significand exponent _ h
  refine ⟨hsuffix.trans (exponent_sign_suffix text), fun hrest more => ?_⟩
  rw [exponent_tail_eq, exponent_sign_more (ne_nil_of_suffix hsuffix hrest)]
  exact hmore hrest more

/-- What may follow the digits of a fraction is passed over the same with more text behind it. -/
theorem skip_after_digits_passes : Passes skipAfterDigits := by
  intro text rest h
  cases text with
  | nil =>
    cases h
    exact ⟨List.suffix_rfl, fun hrest => absurd rfl hrest⟩
  | cons c text =>
    by_cases hletter : c = 'e' ∨ c = 'E'
    · rw [skipAfterDigits, if_pos hletter] at h
      obtain ⟨hsuffix, hmore⟩ := skip_exponent_passes h
      refine ⟨hsuffix.trans (List.suffix_cons c text), fun hrest more => ?_⟩
      rw [List.cons_append, skipAfterDigits, if_pos hletter]
      exact hmore hrest more
    · rw [skipAfterDigits, if_neg hletter] at h
      cases h
      refine ⟨List.suffix_rfl, fun _ more => ?_⟩
      rw [List.cons_append, skipAfterDigits, if_neg hletter]

/-- What may follow the digits of a fraction is read no further than to its end. -/
theorem after_digits_steady (negative : Bool) (significand : Nat) (exponent : Int) :
    Steady (afterDigits negative significand exponent) := by
  intro text value rest h
  cases text with
  | nil =>
    obtain ⟨number, -, h⟩ := exists_of_bind_eq_ok h
    cases h
    exact ⟨List.suffix_rfl, fun hrest => absurd rfl hrest⟩
  | cons c text =>
    by_cases hletter : c = 'e' ∨ c = 'E'
    · rw [afterDigits, if_pos hletter] at h
      obtain ⟨hsuffix, hmore⟩ := exponent_tail_steady negative significand exponent h
      refine ⟨hsuffix.trans (List.suffix_cons c text), fun hrest more => ?_⟩
      rw [List.cons_append, afterDigits, if_pos hletter]
      exact hmore hrest more
    · rw [afterDigits, if_neg hletter] at h
      obtain ⟨number, hnumber, h⟩ := exists_of_bind_eq_ok h
      cases h
      refine ⟨List.suffix_rfl, fun _ more => ?_⟩
      rw [List.cons_append, afterDigits, if_neg hletter, hnumber]
      rfl

/-- What may follow the digits before the point is passed over the same with more text behind it. -/
theorem skip_after_integer_passes : Passes skipAfterInteger := by
  intro text rest h
  unfold skipAfterInteger at h
  split at h
  · rename_i text
    split at h
    · cases h
    · rename_i hdigits
      obtain ⟨hsuffix, hmore⟩ := skip_after_digits_passes h
      refine ⟨(hsuffix.trans (List.dropWhile_suffix isDigit)).trans (List.suffix_cons '.' text),
        fun hrest more => ?_⟩
      obtain ⟨htake, hdrop⟩ := span_more (ne_nil_of_suffix hsuffix hrest) more
      simp only [List.cons_append, skipAfterInteger, htake, hdrop, if_neg hdigits]
      exact hmore hrest more
  · rename_i hpoint
    obtain ⟨hsuffix, hmore⟩ := skip_after_digits_passes h
    refine ⟨hsuffix, fun hrest more => ?_⟩
    obtain ⟨c, others, rfl⟩ := List.exists_cons_of_ne_nil (ne_nil_of_suffix hsuffix hrest)
    have hc : c ≠ '.' := fun hc => hpoint others (by rw [hc])
    rw [List.cons_append, skipAfterInteger.eq_2 _ (by simpa using hc)]
    exact hmore hrest more

/-- A fraction is read no further than to its end. -/
theorem fraction_tail_steady (negative : Bool) (significand : Nat) (exponent : Int) :
    Steady (fractionTail negative significand exponent) := by
  intro text value rest h
  simp only [fractionTail] at h
  split at h
  · cases h
  rename_i hdigits
  obtain ⟨hsuffix, hmore⟩ := after_digits_steady _ _ _ h
  refine ⟨hsuffix.trans (List.dropWhile_suffix isDigit), fun hrest more => ?_⟩
  obtain ⟨htake, hdrop⟩ := span_more (ne_nil_of_suffix hsuffix hrest) more
  simp only [fractionTail, htake, hdrop, if_neg hdigits]
  exact hmore hrest more

/-- Without a fraction the number is known, unless an exponent follows. -/
theorem after_integer_eq (negative : Bool) (significand left : Nat) :
    ∃ number, ∀ text : List Char, text.head? ≠ some '.' →
      afterInteger negative significand left text =
        if left = 0 ∧ !(text.head? == some 'e' || text.head? == some 'E') then .ok (number, text)
        else afterDigits negative significand left text := by
  refine ⟨if !negative then .integer significand
    else if significand = 0 ∨ significand > twoTo 63 then
      .real ⟨true, (Decimal.Binary64.ofNat significand).magnitude⟩
    else .integer (-significand), fun text hpoint => ?_⟩
  unfold afterInteger
  split
  · exact absurd rfl hpoint
  · split_ifs <;> rfl

/-- What may follow the digits before the point is read no further than to its end. -/
theorem after_integer_steady (negative : Bool) (significand left : Nat) :
    Steady (afterInteger negative significand left) := by
  intro text value rest h
  obtain ⟨number, hnumber⟩ := after_integer_eq negative significand left
  by_cases hpoint : text.head? = some '.'
  · obtain ⟨fraction, rfl⟩ := List.head?_eq_some_iff.mp hpoint
    obtain ⟨hsuffix, hmore⟩ := fraction_tail_steady negative significand left h
    exact ⟨hsuffix.trans (List.suffix_cons '.' fraction), hmore⟩
  · rw [hnumber text hpoint] at h
    have hhead : ∀ more, text ≠ [] → (text ++ more).head? = text.head? := fun more htext =>
      List.head?_append_of_ne_nil text htext
    split at h
    · rename_i hwhole
      cases h
      refine ⟨List.suffix_rfl, fun hrest more => ?_⟩
      rw [hnumber _ (by rwa [hhead more hrest]), hhead more hrest, if_pos hwhole]
    · rename_i hwhole
      obtain ⟨hsuffix, hmore⟩ := after_digits_steady negative significand left h
      refine ⟨hsuffix, fun hrest more => ?_⟩
      have htext := ne_nil_of_suffix hsuffix hrest
      rw [hnumber _ (by rwa [hhead more htext]), hhead more htext, if_neg hwhole]
      exact hmore hrest more

/-- A number is passed over the same with more text behind it. -/
theorem skip_number_passes : Passes skipNumber := by
  intro text rest h
  cases text with
  | nil => cases h
  | cons c text =>
    rw [skipNumber] at h
    split at h
    · rename_i hzero
      split at h
      · cases h
      rename_i hdigit
      obtain ⟨hsuffix, hmore⟩ := skip_after_integer_passes h
      refine ⟨hsuffix.trans (List.suffix_cons c text), fun hrest more => ?_⟩
      have htext := ne_nil_of_suffix hsuffix hrest
      rw [List.cons_append, skipNumber, if_pos hzero, List.head?_append_of_ne_nil text htext,
        if_neg hdigit]
      exact hmore hrest more
    · rename_i hzero
      split at h
      · rename_i hdigit
        obtain ⟨hsuffix, hmore⟩ := skip_after_integer_passes h
        refine ⟨hsuffix.trans (List.dropWhile_suffix isDigit), fun hrest more => ?_⟩
        have hdrop := (span_more (ne_nil_of_suffix hsuffix hrest) more).2
        rw [List.cons_append] at hdrop
        rw [List.cons_append, skipNumber, if_neg hzero, if_pos hdigit, hdrop]
        exact hmore hrest more
      · cases h

/-- A number is read no further than to its end. -/
theorem number_steady (negative : Bool) : Steady (number negative) := by
  intro text value rest h
  cases text with
  | nil => cases h
  | cons c text =>
    rw [number] at h
    split at h
    · rename_i hzero
      split at h
      · cases h
      rename_i hdigit
      obtain ⟨hsuffix, hmore⟩ := after_integer_steady _ _ _ h
      refine ⟨hsuffix.trans (List.suffix_cons c text), fun hrest more => ?_⟩
      have htext := ne_nil_of_suffix hsuffix hrest
      rw [List.cons_append, number, if_pos hzero, List.head?_append_of_ne_nil text htext,
        if_neg hdigit]
      exact hmore hrest more
    · rename_i hzero
      split at h
      · rename_i hdigit
        obtain ⟨hsuffix, hmore⟩ := after_integer_steady _ _ _ h
        refine ⟨hsuffix.trans (List.dropWhile_suffix isDigit), fun hrest more => ?_⟩
        obtain ⟨htake, hdrop⟩ := span_more (ne_nil_of_suffix hsuffix hrest) more
        rw [List.cons_append] at htake hdrop
        rw [List.cons_append, number, if_neg hzero, if_pos hdigit, htake, hdrop]
        exact hmore hrest more
      · cases h

end StorageBackend.Json

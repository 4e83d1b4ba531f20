import Mathlib.Logic.Function.Defs
import StorageBackend.Text.Basic
import StorageBackend.Text.Quoted

/-!
# Texts that show where they end

A way of writing is self-delimiting if a text can be told apart from what stands behind it. Texts
written one after the other in such a way can be read back one by one, whatever they hold. The main
statement is `quoted_self_delimiting`: quoted texts are of this kind.
-/

namespace StorageBackend.Text

variable {α : Type}

/-- Whatever stands behind a text, both the value that was written and the rest can be told. -/
def SelfDelimiting (write : α → List Char) : Prop :=
  ∀ ⦃a b : α⦄ ⦃s t : List Char⦄, write a ++ s = write b ++ t → a = b ∧ s = t

section

variable {write : α → List Char}

/-- What shows its own end is told apart by its text. -/
theorem SelfDelimiting.injective (h : SelfDelimiting write) : Function.Injective write := by
  intro a b heq
  have hnil : write a ++ [] = write b ++ [] := by rw [heq]
  exact (h hnil).1

/-- What a reader gives back together with the rest of the text is self-delimiting. -/
theorem SelfDelimiting.of_reader (read : List Char → Option (α × List Char))
    (h : ∀ a rest, read (write a ++ rest) = some (a, rest)) : SelfDelimiting write := by
  intro a b s t heq
  have hread : some (a, s) = some (b, t) := by rw [← h a s, heq, h b t]
  exact Prod.mk.inj (Option.some.inj hread)

/-- Texts of which none is the beginning of another one are self-delimiting. -/
theorem SelfDelimiting.of_prefix_free (h : ∀ a b, write a <+: write b → a = b) :
    SelfDelimiting write := by
  intro a b s t heq
  have hsame : a = b := by
    have hfirst : write a <+: write b ++ t := ⟨s, heq⟩
    rcases List.prefix_or_prefix_of_prefix hfirst (List.prefix_append _ _) with hle | hge
    · exact h a b hle
    · exact (h b a hge).symm
  subst hsame
  exact ⟨rfl, List.append_cancel_left heq⟩

/-- Texts one after the other, behind them a mark with which none of them begins. -/
theorem SelfDelimiting.until_mark (h : SelfDelimiting write) {mark : Char}
    (hmark : ∀ a, ∃ c rest, write a = c :: rest ∧ c ≠ mark) :
    SelfDelimiting fun items : List α => items.flatMap write ++ [mark] := by
  intro items others s t heq
  simp only [List.append_assoc, List.singleton_append] at heq
  -- on the first list; the mark ends both lists at the same place
  induction items generalizing others with
  | nil =>
    cases others with
    | nil => exact ⟨rfl, (List.cons.inj heq).2⟩
    | cons b others =>
      obtain ⟨c, rest, hb, hc⟩ := hmark b
      rw [List.flatMap_cons, hb] at heq
      exact absurd (List.cons.inj heq).1.symm hc
  | cons a items ih =>
    cases others with
    | nil =>
      obtain ⟨c, rest, ha, hc⟩ := hmark a
      rw [List.flatMap_cons, ha] at heq
      exact absurd (List.cons.inj heq).1 hc
    | cons b others =>
      rw [List.flatMap_cons, List.flatMap_cons, List.append_assoc, List.append_assoc] at heq
      obtain ⟨rfl, hrest⟩ := h heq
      obtain ⟨rfl, rfl⟩ := ih hrest
      exact ⟨rfl, rfl⟩

/-- A mark in front and a mark behind change nothing. -/
theorem SelfDelimiting.cons (h : SelfDelimiting write) (mark : Char) :
    SelfDelimiting fun a => mark :: write a :=
  fun _ _ _ _ heq => h (List.cons.inj heq).2

end

/-- Characters of a kind are told apart from a text that begins with none of the kind. -/
theorem append_inj_of_span {p : Char → Bool} {first second s t : List Char}
    (hfirst : ∀ c ∈ first, p c = true) (hsecond : ∀ c ∈ second, p c = true)
    (hs : ∀ c ∈ s.head?, p c = false) (ht : ∀ c ∈ t.head?, p c = false)
    (h : first ++ s = second ++ t) : first = second ∧ s = t := by
  have htake : ∀ {digits rest : List Char}, (∀ c ∈ digits, p c = true) →
      (∀ c ∈ rest.head?, p c = false) → (digits ++ rest).takeWhile p = digits := by
    intro digits rest hdigits hrest
    rw [List.takeWhile_append_of_pos hdigits]
    cases rest with
    | nil => exact List.append_nil digits
    | cons c rest =>
      have hc : p c = false := hrest c rfl
      simp [hc]
  have hsame : first = second := by rw [← htake hfirst hs, h, htake hsecond ht]
  subst hsame
  exact ⟨rfl, List.append_cancel_left h⟩

/-! ## Numbers in hexadecimal digits -/

/-- The number that hexadecimal digits stand for. -/
def hexNumber (digits : List Char) : Nat := ofDigits 16 (digits.filterMap hexValue?)

/-- A hexadecimal digit stands for its number. -/
theorem hex_value_digit_char : ∀ n < 16, hexValue? (Nat.digitChar n) = some n := by decide

/-- Hexadecimal digits stand for the number that they were made of. -/
theorem hex_number_to_digits (n : Nat) : hexNumber (Nat.toDigits 16 n) = n := by
  induction n using Nat.strongRecOn with
  | ind n ih =>
    have hlast : n % 16 < 16 := Nat.mod_lt n (by decide)
    rw [Nat.toDigits_eq_if (by decide)]
    by_cases hsmall : n < 16
    · rw [if_pos hsmall]
      simp [hexNumber, ofDigits, hex_value_digit_char n hsmall]
    · have hfront := ih (n / 16) (by omega)
      rw [if_neg hsmall]
      simp only [hexNumber, ofDigits] at hfront ⊢
      rw [List.filterMap_append, List.foldl_append, hfront]
      simp [hex_value_digit_char _ hlast]
      omega

/-- No hexadecimal digit is the brace that ends an escape. -/
theorem to_digits_ne_brace (n : Nat) : ∀ c ∈ Nat.toDigits 16 n, c ≠ '\x7d' := by
  induction n using Nat.strongRecOn with
  | ind n ih =>
    have hdigit : ∀ m, Nat.digitChar m ≠ '\x7d' := fun m => Nat.digitChar_ne _ (by decide)
    rw [Nat.toDigits_eq_if (by decide)]
    by_cases hsmall : n < 16
    · rw [if_pos hsmall]
      intro c hc
      rw [List.mem_singleton.mp hc]
      exact hdigit n
    · rw [if_neg hsmall]
      intro c hc
      rcases List.mem_append.mp hc with hfront | hlast
      · exact ih (n / 16) (by omega) c hfront
      · rw [List.mem_singleton.mp hlast]
        exact hdigit (n % 16)

/-! ## Quoted texts -/

/-- The characters with a short escape, each behind the character that follows the backslash. -/
def shortEscapes : List (Char × Char) :=
  [('"', '"'), ('\\', '\\'), ('n', '\n'), ('r', '\r'), ('t', '\t'), ('0', '\x00')]

/-- A character is written as a short escape, by its number, or as it is. -/
theorem quoted_char_cases (c : Char) :
    (∃ e, (e, c) ∈ shortEscapes ∧ quotedChar c = ['\\', e]) ∨
      quotedChar c = '\\' :: 'u' :: '\x7b' :: (Nat.toDigits 16 c.toNat ++ ['\x7d']) ∨
      (c ≠ '"' ∧ c ≠ '\\' ∧ quotedChar c = [c]) := by
  by_cases hshort : c ∈ shortEscapes.map Prod.snd
  · left
    simp only [shortEscapes, List.map_cons, List.map_nil, List.mem_cons, List.not_mem_nil,
      or_false] at hshort
    rcases hshort with rfl | rfl | rfl | rfl | rfl | rfl
    · exact ⟨'"', by decide, rfl⟩
    · exact ⟨'\\', by decide, rfl⟩
    · exact ⟨'n', by decide, rfl⟩
    · exact ⟨'r', by decide, rfl⟩
    · exact ⟨'t', by decide, rfl⟩
    · exact ⟨'0', by decide, rfl⟩
  · right
    simp only [shortEscapes, List.map_cons, List.map_nil, List.mem_cons, List.not_mem_nil,
      or_false, not_or] at hshort
    obtain ⟨hquote, hslash, hn, hr, ht, hzero⟩ := hshort
    have hnull : c.toNat ≠ 0 := fun h => hzero (Char.toNat_inj.mp h)
    unfold quotedChar
    rw [if_neg hquote, if_neg hslash, if_neg hn, if_neg hr, if_neg ht, if_neg hnull]
    by_cases hunseen : isUnseen c = true
    · exact .inl (if_pos hunseen)
    · exact .inr ⟨hquote, hslash, if_neg hunseen⟩

/-- Reads one character of a quoted text. -/
def readQuotedChar : List Char → Option (Char × List Char)
  | [] => none
  | c :: rest =>
    if c = '\\' then
      match rest with
      | 'u' :: '\x7b' :: rest =>
        some (Char.ofNat (hexNumber (rest.takeWhile (· != '\x7d'))),
          (rest.dropWhile (· != '\x7d')).tail)
      | e :: rest => (shortEscapes.lookup e).map (·, rest)
      | [] => none
    else some (c, rest)

/-- Every character of a quoted text is read back. -/
theorem read_quoted_char (c : Char) (rest : List Char) :
    readQuotedChar (quotedChar c ++ rest) = some (c, rest) := by
  rcases quoted_char_cases c with ⟨e, he, hquoted⟩ | hquoted | ⟨-, hslash, hquoted⟩
  · rw [hquoted]
    simp only [shortEscapes, List.mem_cons, Prod.mk.injEq, List.not_mem_nil, or_false] at he
    rcases he with ⟨rfl, rfl⟩ | ⟨rfl, rfl⟩ | ⟨rfl, rfl⟩ | ⟨rfl, rfl⟩ | ⟨rfl, rfl⟩ | ⟨rfl, rfl⟩
    all_goals rfl
  · have hdigits : ∀ d ∈ Nat.toDigits 16 c.toNat, (d != '\x7d') = true := fun d hd =>
      bne_iff_ne.mpr (to_digits_ne_brace c.toNat d hd)
    rw [hquoted]
    simp only [readQuotedChar, List.cons_append, List.append_assoc, if_true]
    rw [List.takeWhile_append_of_pos hdigits, List.dropWhile_append_of_pos hdigits]
    simp [hex_number_to_digits]
  · rw [hquoted]
    simp [readQuotedChar, hslash]

/-- A quoted character shows its own end, and which character it is. -/
theorem quoted_char_self_delimiting : SelfDelimiting quotedChar :=
  .of_reader readQuotedChar read_quoted_char

/-- No character is written as something that begins with a quote. -/
theorem quoted_char_head (c : Char) : ∃ d rest, quotedChar c = d :: rest ∧ d ≠ '"' := by
  rcases quoted_char_cases c with ⟨e, -, hquoted⟩ | hquoted | ⟨hquote, -, hquoted⟩
  · exact ⟨'\\', _, hquoted, nofun⟩
  · exact ⟨'\\', _, hquoted, nofun⟩
  · exact ⟨c, _, hquoted, hquote⟩

/-- A quoted text ends with its closing quote, and every character in it can be told. -/
theorem quoted_self_delimiting : SelfDelimiting fun text : String => quotedChars text.toList := by
  intro text other s t heq
  obtain ⟨hsame, hrest⟩ :=
    (quoted_char_self_delimiting.until_mark quoted_char_head).cons '"' heq
  exact ⟨String.toList_inj.mp hsame, hrest⟩

/-- Different texts are different in quotes. -/
theorem quoted_injective : Function.Injective quoted := by
  intro text other heq
  exact quoted_self_delimiting.injective (String.ofList_injective heq)

end StorageBackend.Text

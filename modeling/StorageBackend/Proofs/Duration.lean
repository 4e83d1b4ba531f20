import StorageBackend.Duration
import StorageBackend.Proofs.Text.Delimited

/-!
# Durations as text

The text of a duration is a decimal numeral with the name of a unit behind it. The numeral is exact:
its digits stand for all nanoseconds of the duration (`decimal_exact`). So the text shows where it
ends, and no two durations share one (`text_self_delimiting`).
-/

namespace StorageBackend.Duration

open Text (SelfDelimiting append_inj_of_span isDigit)

/-- A decimal numeral with digits in front of the point and behind it. Without digits behind it
there is no point. -/
def pointed (whole : List Char) : List Char → List Char
  | [] => whole
  | fraction => whole ++ '.' :: fraction

/-- The digits of a numeral stand for `value` parts, `10 ^ places` of which make one unit. -/
structure Exact (whole fraction : List Char) (places value : Nat) : Prop where
  whole_digits : ∀ c ∈ whole, isDigit c = true
  fraction_digits : ∀ c ∈ fraction, isDigit c = true
  length_le : fraction.length ≤ places
  value_eq : Nat.ofDigitChars 10 (whole ++ fraction) 0 * tenTo (places - fraction.length) = value

/-! ## Digits behind the point -/

/-- A power of ten is positive. -/
theorem ten_to_pos (n : Nat) : 0 < tenTo n := Nat.pow_pos (by decide)

/-- One digit more makes ten times as many numbers. -/
theorem ten_to_succ (n : Nat) : tenTo (n + 1) = tenTo n * 10 := rfl

/-- There are no more digits behind the point than places. -/
theorem length_fraction_digits (places value : Nat) :
    (fractionDigits places value).length ≤ places := by
  induction places generalizing value with
  | zero => exact Nat.le_refl 0
  | succ places ih =>
    rw [fractionDigits]
    by_cases hzero : value = 0
    · rw [if_pos hzero]
      exact Nat.zero_le _
    · rw [if_neg hzero]
      exact Nat.succ_le_succ (ih _)

/-- The first digit of a fraction is a digit. -/
theorem leading_lt_ten {places value : Nat} (h : value < tenTo (places + 1)) :
    value / tenTo places < 10 := by
  rw [ten_to_succ] at h
  exact Nat.div_lt_of_lt_mul h

/-- What stands behind the point is digits. -/
theorem fraction_digits_is_digit {places value : Nat} (h : value < tenTo places) :
    ∀ c ∈ fractionDigits places value, isDigit c = true := by
  induction places generalizing value with
  | zero => exact nofun
  | succ places ih =>
    rw [fractionDigits]
    by_cases hzero : value = 0
    · rw [if_pos hzero]
      exact nofun
    · rw [if_neg hzero]
      intro c hc
      rcases List.mem_cons.mp hc with rfl | hc
      · show (Nat.digitChar _).isDigit = true
        rw [Nat.isDigit_digitChar]
        exact decide_eq_true (leading_lt_ten h)
      · exact ih (Nat.mod_lt _ (ten_to_pos places)) c hc

/-- Digits behind others go on with the number that those stand for. -/
theorem value_fraction_digits {places value : Nat} (h : value < tenTo places) (number : Nat) :
    Nat.ofDigitChars 10 (fractionDigits places value) number *
        tenTo (places - (fractionDigits places value).length) =
      number * tenTo places + value := by
  induction places generalizing value number with
  | zero =>
    obtain rfl : value = 0 := Nat.lt_one_iff.mp h
    rfl
  | succ places ih =>
    rw [fractionDigits]
    by_cases hzero : value = 0
    · rw [if_pos hzero, hzero]
      rfl
    · have hfirst := leading_lt_ten h
      have hrest := ih (Nat.mod_lt value (ten_to_pos places)) (10 * number + value / tenTo places)
      rw [if_neg hzero, Nat.ofDigitChars_cons, List.length_cons, Nat.add_sub_add_right]
      have hdigit : (Nat.digitChar (value / tenTo places)).toNat - '0'.toNat =
          value / tenTo places := Nat.toNat_digitChar_sub_48_of_lt_ten hfirst
      rw [hdigit, hrest]
      calc (10 * number + value / tenTo places) * tenTo places + value % tenTo places
          = number * (tenTo places * 10) +
              (tenTo places * (value / tenTo places) + value % tenTo places) := by
            rw [Nat.add_mul, Nat.mul_comm (value / tenTo places), Nat.mul_comm 10, Nat.mul_assoc,
              Nat.mul_comm 10, Nat.add_assoc]
        _ = number * tenTo (places + 1) + value := by rw [Nat.div_add_mod, ten_to_succ]

/-! ## Decimals -/

/-- Nothing is lost when a number of parts is written as a decimal. -/
theorem decimal_exact (places value : Nat) :
    ∃ whole fraction, decimal places value = pointed whole fraction ∧
      Exact whole fraction places value := by
  have hrest : value % tenTo places < tenTo places := Nat.mod_lt value (ten_to_pos places)
  refine ⟨Nat.toDigits 10 (value / tenTo places), fractionDigits places (value % tenTo places),
    ?_, ⟨?_, fraction_digits_is_digit hrest, length_fraction_digits _ _, ?_⟩⟩
  · rw [decimal]
    cases fractionDigits places (value % tenTo places) with
    | nil => exact List.append_nil _
    | cons c fraction => rfl
  · exact fun c hc => Nat.isDigit_of_mem_toDigits (by decide) (by decide) hc
  · rw [Nat.ofDigitChars_append, Nat.ofDigitChars_toDigits (by decide) (by decide),
      value_fraction_digits hrest, Nat.mul_comm, Nat.div_add_mod]

/-- A numeral consists of digits and points. -/
def isNumeralChar (c : Char) : Bool := isDigit c || c == '.'

/-- An exact decimal is made of digits and a point. -/
theorem Exact.numeral_char {whole fraction : List Char} {places value : Nat}
    (h : Exact whole fraction places value) :
    ∀ c ∈ pointed whole fraction, isNumeralChar c = true := by
  have hdigit : ∀ c, isDigit c = true → isNumeralChar c = true := by
    intro c hc
    rw [isNumeralChar, hc, Bool.true_or]
  intro c hc
  cases fraction with
  | nil => exact hdigit c (h.whole_digits c hc)
  | cons d fraction =>
    rcases List.mem_append.mp hc with hwhole | hfraction
    · exact hdigit c (h.whole_digits c hwhole)
    · rcases List.mem_cons.mp hfraction with rfl | hfraction
      · rfl
      · exact hdigit c (h.fraction_digits c hfraction)

/-- The digits of a numeral can be read off it. -/
theorem Exact.of_pointed_eq {whole fraction whole' fraction' : List Char}
    {places value value' : Nat} (h : Exact whole fraction places value)
    (h' : Exact whole' fraction' places value')
    (heq : pointed whole fraction = pointed whole' fraction') : value = value' := by
  have htail : ∀ whole fraction, pointed whole fraction =
      whole ++ if fraction = [] then [] else '.' :: fraction := by
    intro whole fraction
    cases fraction with
    | nil => exact (List.append_nil whole).symm
    | cons c fraction => rfl
  have hpoint : ∀ fraction : List Char,
      ∀ c ∈ (if fraction = [] then [] else '.' :: fraction).head?, isDigit c = false := by
    intro fraction c hc
    cases fraction with
    | nil => cases hc
    | cons d fraction =>
      cases hc
      rfl
  rw [htail, htail] at heq
  obtain ⟨rfl, htails⟩ := append_inj_of_span h.whole_digits h'.whole_digits (hpoint fraction)
    (hpoint fraction') heq
  obtain rfl : fraction = fraction' := by
    cases fraction with
    | nil =>
      cases fraction' with
      | nil => rfl
      | cons d fraction' => cases htails
    | cons c fraction =>
      cases fraction' with
      | nil => cases htails
      | cons d fraction' => exact (List.cons.inj htails).2
  rw [← h.value_eq, h'.value_eq]

/-! ## Units -/

/-- The units: how many decimal places a nanosecond takes in each, and its name. -/
def units : List (Nat × String) := [(9, "s"), (6, "ms"), (3, "µs"), (0, "ns")]

/-- The unit of a duration is one of the four. -/
theorem unit_mem_units (d : Duration) : d.unit ∈ units := by
  unfold unit
  split
  · decide
  · split
    · decide
    · split
      · decide
      · decide

/-- The first letter of its name tells the unit. -/
theorem unit_of_head : ∀ u ∈ units, ∀ v ∈ units, u.2.toList.head? = v.2.toList.head? → u = v := by
  decide

/-- The name of a unit does not begin like a number, so one sees where the number ends. -/
theorem unit_head : ∀ u ∈ units, ∃ c, u.2.toList.head? = some c ∧ isNumeralChar c = false := by
  intro u hu
  simp only [units, List.mem_cons, List.not_mem_nil, or_false] at hu
  rcases hu with rfl | rfl | rfl | rfl
  · exact ⟨'s', rfl, rfl⟩
  · exact ⟨'m', rfl, rfl⟩
  · exact ⟨'µ', rfl, rfl⟩
  · exact ⟨'n', rfl, rfl⟩

/-- The text of a duration shows where it ends, and tells the duration to the nanosecond. -/
theorem text_self_delimiting : SelfDelimiting fun d : Duration => d.text.toList := by
  intro d e s t heq
  obtain ⟨whole, fraction, hd, hdExact⟩ := decimal_exact d.unit.1 d.nanos
  obtain ⟨whole', fraction', he, heExact⟩ := decimal_exact e.unit.1 e.nanos
  simp only [text, String.toList_append, String.toList_ofList, List.append_assoc, hd, he] at heq
  have hend : ∀ (d : Duration) (rest : List Char),
      (d.unit.2.toList ++ rest).head? = d.unit.2.toList.head? ∧
        ∀ c ∈ d.unit.2.toList.head?, isNumeralChar c = false := by
    intro d rest
    obtain ⟨c, hc, hother⟩ := unit_head d.unit (unit_mem_units d)
    rw [List.head?_append, hc]
    exact ⟨rfl, fun c' hc' => Option.some.inj hc' ▸ hother⟩
  obtain ⟨hnumeral, hrest⟩ := append_inj_of_span hdExact.numeral_char heExact.numeral_char
    ((hend d s).1 ▸ (hend d s).2) ((hend e t).1 ▸ (hend e t).2) heq
  have hunit : d.unit = e.unit := by
    refine unit_of_head _ (unit_mem_units d) _ (unit_mem_units e) ?_
    rw [← (hend d s).1, hrest, (hend e t).1]
  rw [hunit] at hdExact hrest
  have hnanos : d.nanos = e.nanos := hdExact.of_pointed_eq heExact hnumeral
  exact ⟨congrArg Duration.mk hnanos, List.append_cancel_left hrest⟩

end StorageBackend.Duration

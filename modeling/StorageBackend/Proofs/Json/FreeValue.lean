import StorageBackend.Json.Reader
import StorageBackend.Proofs.Json.Passing

/-!
# Values of any shape

A term stands for a value (`Term.value`) if all its numbers are integers of at most 64 bits. The
reader of values gives it from every text of the term, as long as no more lists and objects are
around one another than may be opened (`value_reads`).
-/

namespace StorageBackend.Json

open Text (isDigit)

/-! ## What terms stand for -/

mutual

/-- How many lists and objects are around one another in a term. -/
def Term.depth : Term → Nat
  | .array items => depthOfItems items + 1
  | .object members => depthOfMembers members + 1
  | _ => 0

/-- The depth of the deepest item. -/
def depthOfItems : List Term → Nat
  | [] => 0
  | term :: items => max term.depth (depthOfItems items)

/-- The depth of the deepest member. -/
def depthOfMembers : List (String × Term) → Nat
  | [] => 0
  | (_, term) :: members => max term.depth (depthOfMembers members)

end

mutual

/-- Whether all numbers in a term are integers of at most 64 bits. -/
def Term.Integral : Term → Prop
  | .number numeral => numeral.IsInteger
  | .array items => IntegralItems items
  | .object members => IntegralMembers members
  | _ => True

/-- Whether all numbers in items are integers of at most 64 bits. -/
def IntegralItems : List Term → Prop
  | [] => True
  | term :: items => term.Integral ∧ IntegralItems items

/-- Whether all numbers in members are integers of at most 64 bits. -/
def IntegralMembers : List (String × Term) → Prop
  | [] => True
  | (_, term) :: members => term.Integral ∧ IntegralMembers members

end

mutual

/-- The value that a term with integers of at most 64 bits stands for. Of a key given twice in an
object the last value counts. -/
def Term.value : Term → Value
  | .null => .null
  | .boolean value => .boolean value
  | .number numeral => .integer numeral.toInt
  | .string content => .string content
  | .array items => .array (valuesOfItems items)
  | .object members => .object (Entries.ofList (valuesOfMembers members))

/-- The values that items stand for. -/
def valuesOfItems : List Term → List Value
  | [] => []
  | term :: items => term.value :: valuesOfItems items

/-- The values that members stand for, with their keys. -/
def valuesOfMembers : List (String × Term) → List (String × Value)
  | [] => []
  | (key, term) :: members => (key, term.value) :: valuesOfMembers members

end

/-! ## Reading them -/

/-- A reader of values that gives what a term stands for, where this many lists and objects may
still be opened. -/
def ReadsValues (nesting : Nat) (read : Scan Value) : Prop :=
  ∀ term text, Renders term text → term.depth ≤ nesting → term.Integral →
    ∀ space rest, IsSpace space → Apart rest →
      read (space ++ (text ++ rest)) = .ok (term.value, rest)

/-- Reads a member of an object and keeps its value. -/
def insertMember (read : Scan Value) (entries : Entries Value) (key : String) :
    Except Error (Scan (Entries Value)) :=
  .ok fun text => do
    let (value, text) ← read text
    .ok (entries.insert key value, text)

/-- Reads a member of an object and adds its value to what has been read. -/
def foldMember {σ : Type} (add : σ → String → Value → σ) (read : Scan Value) (state : σ)
    (key : String) : Except Error (Scan σ) :=
  .ok fun text => do
    let (value, text) ← read text
    .ok (add state key value, text)

section

variable {read : Scan Value} {nesting : Nat} {σ : Type}

/-- The items of a list are read one after the other. -/
theorem items_read (h : ReadsValues nesting read) (items : List Term) {first : Bool}
    {text : List Char} (hrenders : RendersItems first items text)
    (hdepth : depthOfItems items ≤ nesting) (hintegral : IntegralItems items) {fuel : Nat}
    {rest : List Char} (hfuel : (text ++ rest).length < fuel) :
    itemsFrom read fuel first (text ++ rest) = .ok (valuesOfItems items, rest) := by
  induction items generalizing first text fuel with
  | nil => exact hrenders.read_nil read hfuel
  | cons term items ih =>
    obtain ⟨hterm, hitems⟩ := Nat.max_le.mp hdepth
    obtain ⟨hintegralTerm, hintegralItems⟩ := hintegral
    obtain ⟨value, behind, less, hvalue, hrest, hless, hstep⟩ := hrenders.read_cons read hfuel
    have hfirst := h term value hvalue hterm hintegralTerm [] (behind ++ rest) space_nil
      (hrest.apart rest)
    rw [List.nil_append] at hfirst
    rw [hstep, hfirst]
    show (itemsFrom read less false (behind ++ rest) >>= _) = _
    rw [ih hrest hitems hintegralItems hless]
    rfl

/-- The members of an object are read one after the other, whatever is done with their values. -/
theorem members_fold (add : σ → String → Value → σ) (h : ReadsValues nesting read)
    (members : List (String × Term)) {first : Bool} {text : List Char}
    (hrenders : RendersMembers first members text) (hdepth : depthOfMembers members ≤ nesting)
    (hintegral : IntegralMembers members) (state : σ) {fuel : Nat} {rest : List Char}
    (hfuel : (text ++ rest).length < fuel) :
    membersFrom (foldMember add read) fuel first state (text ++ rest) =
      .ok ((valuesOfMembers members).foldl (fun state (key, value) => add state key value) state,
        rest) := by
  induction members generalizing first text state fuel with
  | nil => exact hrenders.read_nil _ state hfuel
  | cons member members ih =>
    obtain ⟨key, term⟩ := member
    obtain ⟨hterm, hmembers⟩ := Nat.max_le.mp hdepth
    obtain ⟨hintegralTerm, hintegralMembers⟩ := hintegral
    obtain ⟨space, value, behind, less, hspace, hvalue, hrest, hless, hstep⟩ :=
      hrenders.read_cons (foldMember add read) state hfuel
    have hfirst := h term value hvalue hterm hintegralTerm space (behind ++ rest) hspace
      (hrest.apart rest)
    rw [hstep]
    show ((read _ >>= _) >>= _) = _
    rw [hfirst]
    exact ih hrest hmembers hintegralMembers _ hless

/-- The values of an object's members are kept under their keys. -/
theorem members_read (h : ReadsValues nesting read) (members : List (String × Term)) {first : Bool}
    {text : List Char} (hrenders : RendersMembers first members text)
    (hdepth : depthOfMembers members ≤ nesting) (hintegral : IntegralMembers members)
    (entries : Entries Value) {fuel : Nat} {rest : List Char}
    (hfuel : (text ++ rest).length < fuel) :
    membersFrom (insertMember read) fuel first entries (text ++ rest) =
      .ok ((valuesOfMembers members).foldl (fun entries (key, value) => entries.insert key value)
        entries, rest) :=
  members_fold Entries.insert h members hrenders hdepth hintegral entries hfuel

/-- A value is read if the values inside it are. -/
theorem value_with_reads {inner : Option (Scan Value)}
    (h : ∀ below, nesting = below + 1 → ∃ read, inner = some read ∧ ReadsValues below read) :
    ReadsValues nesting (valueWith inner) := by
  intro term text hrenders hdepth hintegral space rest hspace hends
  have hquote : isDigit '"' = false := rfl
  have hbracket : isDigit '[' = false := rfl
  have hbrace : isDigit '\x7b' = false := rfl
  cases hrenders with
  | null =>
    rw [valueWith, List.cons_append, skip_space_append hspace rfl]
    rfl
  | yes =>
    rw [valueWith, List.cons_append, skip_space_append hspace rfl]
    rfl
  | no =>
    rw [valueWith, List.cons_append, skip_space_append hspace rfl]
    rfl
  | number numeral =>
    have hnumber := number_magnitude hintegral hends
    obtain ⟨c, digits, hmagnitude, hc⟩ := numeral.magnitude_head
    rw [Numeral.text]
    rw [hmagnitude] at hnumber ⊢
    cases hnegative : numeral.negative with
    | true =>
      rw [hnegative] at hnumber
      rw [valueWith, if_pos rfl, List.cons_append, skip_space_append hspace rfl]
      simp only [Char.reduceEq, if_false, if_true]
      rw [hnumber]
      rfl
    | false =>
      have hn : c ≠ 'n' := digit_ne hc rfl
      have ht : c ≠ 't' := digit_ne hc rfl
      have hf : c ≠ 'f' := digit_ne hc rfl
      have hsign : c ≠ '-' := digit_ne hc rfl
      rw [hnegative] at hnumber
      rw [valueWith, if_neg Bool.false_ne_true, List.cons_append,
        skip_space_append hspace (space_digit hc)]
      simp only [if_neg hn, if_neg ht, if_neg hf, if_neg hsign, hc, if_true]
      rw [← List.cons_append, hnumber]
      rfl
  | string content spelling hspells =>
    have htext : space ++ ('"' :: (spelling ++ ['"']) ++ rest) =
        space ++ '"' :: (spelling ++ '"' :: rest) := by simp
    rw [htext, valueWith, skip_space_append hspace rfl]
    simp only [Char.reduceEq, if_false, if_true, hquote, Bool.false_eq_true]
    rw [string_tail_spells hspells]
    show Except.ok (Value.string (String.ofList content.toList), rest) = _
    rw [String.ofList_toList]
    rfl
  | array items text hitems =>
    obtain ⟨below, rfl⟩ := Nat.exists_eq_add_of_le' (Nat.le_trans (Nat.le_add_left 1 _) hdepth)
    obtain ⟨read, rfl, hreads⟩ := h below rfl
    have hread := items_read hreads items hitems (Nat.le_of_succ_le_succ hdepth) hintegral
      (Nat.lt_succ_self (text ++ rest).length)
    rw [valueWith, List.cons_append, skip_space_append hspace rfl]
    simp only [Char.reduceEq, if_false, if_true, hbracket, Bool.false_eq_true, Json.items]
    rw [hread]
    rfl
  | object members text hmembers =>
    obtain ⟨below, rfl⟩ := Nat.exists_eq_add_of_le' (Nat.le_trans (Nat.le_add_left 1 _) hdepth)
    obtain ⟨read, rfl, hreads⟩ := h below rfl
    have hread := members_read hreads members hmembers (Nat.le_of_succ_le_succ hdepth) hintegral []
      (Nat.lt_succ_self (text ++ rest).length)
    rw [valueWith, List.cons_append, skip_space_append hspace rfl]
    simp only [Char.reduceEq, if_false, if_true, hbrace, Bool.false_eq_true, Json.members]
    show (membersFrom (insertMember read) _ true [] _ >>= _) = _
    rw [hread]
    rfl

end

/-- Values are read where this many lists and objects may be opened. -/
theorem value_reads (nesting : Nat) : ReadsValues nesting (value nesting) := by
  induction nesting with
  | zero => exact value_with_reads nofun
  | succ nesting ih =>
    refine value_with_reads fun below hbelow => ⟨value nesting, rfl, ?_⟩
    obtain rfl := Nat.succ.inj hbelow
    exact ih

/-- A whole text is read as the value that its term stands for. -/
theorem run_value {term : Term} {text : List Char} (h : Renders term text)
    (hdepth : term.depth ≤ maxNesting) (hintegral : term.Integral) :
    Reader.run value text = .ok term.value := by
  have hread := value_reads maxNesting term text h hdepth hintegral [] [] space_nil nofun
  rw [List.nil_append, List.append_nil] at hread
  exact run_eq_ok_iff.mpr ⟨[], hread, space_nil⟩

/-! ## Strings -/

/-- Where a string is asked for, its content is read. -/
theorem scan_string_renders {content : String} {text space : List Char}
    (h : Renders (.string content) text) (expected : String) (hspace : IsSpace space)
    (rest : List Char) :
    scanString expected (space ++ (text ++ rest)) = .ok (content, rest) := by
  obtain ⟨tail, rfl, htail⟩ := h.string_tail
  rw [scanString, List.cons_append, skip_space_append hspace rfl]
  simp only [if_true]
  rw [htail]
  show Except.ok (String.ofList content.toList, rest) = _
  rw [String.ofList_toList]

end StorageBackend.Json

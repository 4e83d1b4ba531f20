import StorageBackend.Json.Parts
import StorageBackend.Proofs.Basic
import StorageBackend.Proofs.Json.FreeValue
import StorageBackend.Proofs.Schema.Fields

/-!
# Objects that do not mind

What the readers for the objects of the cluster take. `Reader.Takes` says that a reader gives a
value for a term, however the term is spelled, and `Reader.Reads` that it gives some value for every
term of a shape. The readers for lists, dictionaries and lenient records take what their parts take:
`list_takes`, `dictionary_takes` and `lenient_record_takes`. What is under unknown keys may be
anything.
-/

namespace StorageBackend.Json

open Schema (Field Format)
open Text (isDigit)

variable {α β σ : Type} {depth : Nat}

/-- A reader that gives a value for every text of a term, where this many lists and objects may be
opened. -/
def Reader.Takes (read : Reader α) (depth : Nat) (term : Term) (value : α) : Prop :=
  ∀ text, Renders term text → ∀ nesting space rest, depth ≤ nesting → IsSpace space → Apart rest →
    read nesting (space ++ (text ++ rest)) = .ok (value, rest)

/-- A reader that takes all terms of a shape. -/
def Reader.Reads (read : Reader α) (depth : Nat) (shape : Term → Prop) : Prop :=
  ∀ term, shape term → ∃ value, read.Takes depth term value

/-- A term is taken where more lists and objects may be opened, too. -/
theorem Reader.Takes.mono {read : Reader α} {term : Term} {value : α} {more : Nat}
    (h : read.Takes depth term value) (hmore : depth ≤ more) : read.Takes more term value :=
  fun text hrenders nesting space rest hdepth =>
    h text hrenders nesting space rest (Nat.le_trans hmore hdepth)

/-- A whole text is read. -/
theorem Reader.Takes.run {read : Reader α} {term : Term} {value : α}
    (h : read.Takes depth term value) (hdepth : depth ≤ maxNesting) {text before after : List Char}
    (hrenders : Renders term text) (hbefore : IsSpace before) (hafter : IsSpace after) :
    read.run (before ++ (text ++ after)) = .ok value :=
  run_eq_ok_iff.mpr
    ⟨after, h text hrenders maxNesting before after hdepth hbefore (apart_of_is_space hafter),
      hafter⟩

/-! ## Plain parts -/

/-- A function may be applied to what is read. -/
theorem map_takes {read : Reader α} {term : Term} {value : α} (h : read.Takes depth term value)
    (f : α → β) : (Format.map f read : Reader β).Takes depth term (f value) := by
  intro text hrenders nesting space rest hdepth hspace hends
  show (read nesting _ >>= _) = _
  rw [h text hrenders nesting space rest hdepth hspace hends]
  rfl

/-- What is read may be looked at. -/
theorem refined_takes {read : Reader α} {term : Term} {value : α}
    (h : read.Takes depth term value) {refine : α → Option β} {found : β}
    (hrefine : refine value = some found) : (refined read refine).Takes depth term found := by
  intro text hrenders nesting space rest hdepth hspace hends
  show (read nesting _ >>= _) = _
  refine (bind_of_eq_ok (h text hrenders nesting space rest hdepth hspace hends) _).trans ?_
  simp only [hrefine]

/-- A text is taken from the string with this text. -/
theorem text_takes (content : String) :
    (Format.text : Reader String).Takes depth (.string content) content := by
  intro text hrenders nesting space rest _ hspace _
  exact scan_string_renders hrenders "a string" hspace rest

/-- Null stands for nothing. -/
theorem optional_takes_null (read : Reader α) :
    (Format.optional read : Reader (Option α)).Takes depth .null none := by
  intro text hrenders nesting space rest _ hspace _
  cases hrenders
  show scanOptional (read nesting) _ = _
  rw [scanOptional, List.cons_append, skip_space_append hspace rfl]
  rfl

/-- An optional value is taken from everything but null. -/
theorem optional_takes_some {read : Reader α} {term : Term} {value : α}
    (h : read.Takes depth term value) (hnull : term ≠ .null) :
    (Format.optional read : Reader (Option α)).Takes depth term (some value) := by
  intro text hrenders nesting space rest hdepth hspace hends
  have hread := h text hrenders nesting [] rest hdepth space_nil hends
  obtain ⟨c, others, rfl, hheads⟩ := hrenders.head
  have hname : ¬ c = 'n' := fun hc => hnull (hheads.null.mp hc)
  rw [List.nil_append, List.cons_append] at hread
  show scanOptional (read nesting) _ = _
  rw [scanOptional, List.cons_append, skip_space_append hspace hheads.notSpace]
  simp only [if_neg hname]
  rw [hread]
  rfl

/-- A truth value is taken from its word. -/
theorem boolean_takes (value : Bool) : boolean.Takes depth (.boolean value) value := by
  intro text hrenders nesting space rest _ hspace _
  cases hrenders with
  | yes =>
    rw [boolean, List.cons_append, skip_space_append hspace rfl]
    rfl
  | no =>
    rw [boolean, List.cons_append, skip_space_append hspace rfl]
    rfl

/-- An integer in the range is taken from its numeral. -/
theorem integer_takes {low high : Int} {numeral : Numeral} (hinteger : numeral.IsInteger)
    (hrange : low ≤ numeral.toInt ∧ numeral.toInt ≤ high) (expected : String) :
    (integerIn low high expected).Takes depth (.number numeral) numeral.toInt := by
  intro text hrenders nesting space rest _ hspace hends
  cases hrenders with
  | number numeral =>
    have hnumber := number_magnitude hinteger hends
    obtain ⟨c, digits, hmagnitude, hc⟩ := numeral.magnitude_head
    rw [Numeral.text]
    rw [hmagnitude] at hnumber ⊢
    cases hnegative : numeral.negative with
    | true =>
      rw [hnegative] at hnumber
      rw [integerIn, if_pos rfl, List.cons_append, skip_space_append hspace rfl]
      simp only [if_true]
      rw [hnumber]
      exact if_pos hrange
    | false =>
      have hsign : c ≠ '-' := digit_ne hc rfl
      rw [hnegative] at hnumber
      rw [integerIn, if_neg Bool.false_ne_true, List.cons_append,
        skip_space_append hspace (space_digit hc)]
      simp only [if_neg hsign, hc, if_true]
      rw [← List.cons_append, hnumber]
      exact if_pos hrange

/-- A value of any shape is taken from its term, if its numbers are integers. -/
theorem value_takes {term : Term} (hdepth : term.depth ≤ depth) (hintegral : term.Integral) :
    Reader.Takes value depth term term.value :=
  fun text hrenders nesting space rest hnesting hspace hends =>
    value_reads nesting term text hrenders (Nat.le_trans hdepth hnesting) hintegral space rest
      hspace hends

/-- A term that nobody asks for is passed over, whatever it is. -/
theorem anything_takes (term : Term) : anything.Takes depth term () := by
  intro text hrenders nesting space rest _ hspace hends
  rw [anything, skip_value_renders hrenders hspace hends]
  rfl

/-! ## Lists and objects -/

/-- The items of a list are read one after the other. -/
theorem items_from_takes {item : Reader α} {nesting : Nat} (hdepth : depth ≤ nesting)
    {items : List Term} {values : List α} (h : List.Forall₂ (item.Takes depth) items values)
    {first : Bool} {text : List Char} (hrenders : RendersItems first items text) {fuel : Nat}
    {rest : List Char} (hfuel : (text ++ rest).length < fuel) :
    itemsFrom (item nesting) fuel first (text ++ rest) = .ok (values, rest) := by
  induction h generalizing first text fuel with
  | nil => exact hrenders.read_nil _ hfuel
  | cons hterm _ ih =>
    obtain ⟨value, behind, less, hvalue, hrest, hless, hstep⟩ :=
      hrenders.read_cons (item nesting) hfuel
    have hfirst := hterm value hvalue nesting [] (behind ++ rest) hdepth space_nil
      (hrest.apart rest)
    rw [List.nil_append] at hfirst
    rw [hstep, hfirst]
    show (itemsFrom _ less false (behind ++ rest) >>= _) = _
    rw [ih hrest hless]
    rfl

/-- A list is taken item by item. -/
theorem list_takes {item : Reader α} {items : List Term} {values : List α}
    (h : List.Forall₂ (item.Takes depth) items values) :
    (list item).Takes (depth + 1) (.array items) values := by
  intro text hrenders nesting space rest hdepth hspace _
  obtain ⟨nesting, rfl⟩ := Nat.exists_eq_add_of_le' (Nat.le_trans (Nat.le_add_left 1 _) hdepth)
  cases hrenders with
  | array _ text hitems =>
    rw [list, List.cons_append, skip_space_append hspace rfl]
    exact items_from_takes (Nat.le_of_succ_le_succ hdepth) h hitems (Nat.lt_succ_self _)

/-- A member of an object and the change that its reader gives for it. -/
def MemberTakes (member : String → Reader (σ → σ)) (depth : Nat) (entry : String × Term)
    (change : σ → σ) : Prop :=
  (member entry.1).Takes depth entry.2 change

/-- Reads a member of an object, which changes the state. -/
def changeMember (member : String → Reader (σ → σ)) (nesting : Nat) (state : σ) (key : String) :
    Except Error (Scan σ) :=
  .ok fun text => do
    let (change, text) ← member key nesting text
    .ok (change state, text)

/-- The members of an object change the state one after the other. -/
theorem members_from_takes {member : String → Reader (σ → σ)} {nesting : Nat}
    (hdepth : depth ≤ nesting) {members : List (String × Term)} {changes : List (σ → σ)}
    (h : List.Forall₂ (MemberTakes member depth) members changes) {first : Bool}
    {text : List Char} (hrenders : RendersMembers first members text) (state : σ) {fuel : Nat}
    {rest : List Char} (hfuel : (text ++ rest).length < fuel) :
    membersFrom (changeMember member nesting) fuel first state (text ++ rest) =
      .ok (changes.foldl (fun state change => change state) state, rest) := by
  induction h generalizing first text state fuel with
  | nil => exact hrenders.read_nil _ state hfuel
  | @cons entry change members changes hentry _ ih =>
    obtain ⟨key, term⟩ := entry
    obtain ⟨space, value, behind, less, hspace, hvalue, hrest, hless, hstep⟩ :=
      hrenders.read_cons (changeMember member nesting) state hfuel
    rw [hstep]
    show ((member key nesting _ >>= _) >>= _) = _
    rw [hentry value hvalue nesting space (behind ++ rest) hdepth hspace (hrest.apart rest)]
    exact ih hrest (change state) hless

/-- An object is taken member by member, each of which changes the state. -/
theorem object_with_takes {member : String → Reader (σ → σ)} {members : List (String × Term)}
    {changes : List (σ → σ)} (h : List.Forall₂ (MemberTakes member depth) members changes)
    (expected : String) (initial : σ) :
    (objectWith expected initial member).Takes (depth + 1) (.object members)
      (changes.foldl (fun state change => change state) initial) := by
  intro text hrenders nesting space rest hdepth hspace _
  obtain ⟨nesting, rfl⟩ := Nat.exists_eq_add_of_le' (Nat.le_trans (Nat.le_add_left 1 _) hdepth)
  cases hrenders with
  | object _ text hmembers =>
    rw [objectWith, List.cons_append, skip_space_append hspace rfl]
    exact members_from_takes (Nat.le_of_succ_le_succ hdepth) h hmembers initial
      (Nat.lt_succ_self _)

/-- Values are read under keys of any name. -/
theorem dictionary_takes {value : Reader α} {members : List (String × Term)}
    {entries : List (String × α)}
    (h : List.Forall₂ (fun member entry => member.1 = entry.1 ∧
      value.Takes depth member.2 entry.2) members entries) :
    (dictionary value).Takes (depth + 1) (.object members) (Entries.ofList entries) := by
  let change (entry : String × α) (entries : Entries α) : Entries α :=
    entries.insert entry.1 entry.2
  have hmembers : List.Forall₂ (MemberTakes (fun key nesting text =>
      value nesting text >>= fun found =>
        .ok (fun entries : Entries α => entries.insert key found.1, found.2)) depth)
      members (entries.map change) := by
    refine List.forall₂_map_right_iff.mpr (h.imp fun member entry hentry => ?_)
    obtain ⟨hkey, htakes⟩ := hentry
    intro text hrenders nesting space rest hdepth hspace hends
    show (value nesting _ >>= _) = _
    rw [htakes text hrenders nesting space rest hdepth hspace hends, hkey]
    rfl
  have htakes := object_with_takes hmembers "a map" []
  rw [List.foldl_map] at htakes
  exact htakes

/-! ## Shapes -/

/-- A shape is read where more lists and objects may be opened, too. -/
theorem Reader.Reads.mono {read : Reader α} {shape : Term → Prop} {more : Nat}
    (h : read.Reads depth shape) (hmore : depth ≤ more) : read.Reads more shape :=
  fun term hterm => (h term hterm).imp fun _ htakes => htakes.mono hmore

/-- Parts that have a shape each are read together. -/
theorem exists_values {ι : Type} {R : ι → α → Prop} {parts : List ι}
    (h : ∀ part ∈ parts, ∃ value, R part value) : ∃ values, List.Forall₂ R parts values := by
  induction parts with
  | nil => exact ⟨[], .nil⟩
  | cons part parts ih =>
    obtain ⟨value, hvalue⟩ := h part List.mem_cons_self
    obtain ⟨values, hvalues⟩ := ih fun other hother => h other (List.mem_cons_of_mem _ hother)
    exact ⟨value :: values, .cons hvalue hvalues⟩

/-- A string. -/
def IsText (term : Term) : Prop := ∃ content, term = .string content

/-- A truth value. -/
def IsBoolean (term : Term) : Prop := ∃ value, term = .boolean value

/-- An integer of 64 bits. -/
def IsInt64 (term : Term) : Prop :=
  ∃ numeral : Numeral, term = .number numeral ∧ numeral.IsInteger ∧
    -(twoTo 63 : Int) ≤ numeral.toInt ∧ numeral.toInt ≤ twoTo 63 - 1

/-- Null, or something of a shape. -/
def NullOr (shape : Term → Prop) (term : Term) : Prop := term = .null ∨ term ≠ .null ∧ shape term

/-- A list of items of a shape. -/
def ListOf (shape : Term → Prop) (term : Term) : Prop :=
  ∃ items, term = .array items ∧ ∀ item ∈ items, shape item

/-- An object with values of a shape under keys of any name. -/
def DictionaryOf (shape : Term → Prop) (term : Term) : Prop :=
  ∃ members, term = .object members ∧ ∀ member ∈ members, shape member.2

/-- Members that are of the shape that belongs to their key, if one does. -/
def AreMembers (shapes : List (String × (Term → Prop))) (members : List (String × Term)) : Prop :=
  ∀ member ∈ members, ∀ shape, shapes.lookup member.1 = some shape → shape member.2

/-- An object whose members are of the shapes that belong to their keys. -/
def RecordOf (shapes : List (String × (Term → Prop))) (term : Term) : Prop :=
  ∃ members, term = .object members ∧ AreMembers shapes members

/-- Texts are read from strings. -/
theorem text_reads : (Format.text : Reader String).Reads depth IsText := by
  rintro term ⟨content, rfl⟩
  exact ⟨content, text_takes content⟩

/-- Truth values are read from their words. -/
theorem boolean_reads : boolean.Reads depth IsBoolean := by
  rintro term ⟨value, rfl⟩
  exact ⟨value, boolean_takes value⟩

/-- Integers of 64 bits are read from their numerals. -/
theorem int64_reads : int64.Reads depth IsInt64 := by
  rintro term ⟨numeral, rfl, hinteger, hrange⟩
  exact ⟨numeral.toInt, integer_takes hinteger hrange "i64"⟩

/-- Optional values are read from null and from the values. -/
theorem optional_reads {read : Reader α} {shape : Term → Prop} (h : read.Reads depth shape) :
    (Format.optional read : Reader (Option α)).Reads depth (NullOr shape) := by
  rintro term (rfl | ⟨hnull, hterm⟩)
  · exact ⟨none, optional_takes_null read⟩
  · obtain ⟨value, htakes⟩ := h term hterm
    exact ⟨some value, optional_takes_some htakes hnull⟩

/-- Lists are read from items that are read. -/
theorem list_reads {item : Reader α} {shape : Term → Prop} (h : item.Reads depth shape) :
    (list item).Reads (depth + 1) (ListOf shape) := by
  rintro term ⟨items, rfl, hitems⟩
  obtain ⟨values, hvalues⟩ := exists_values fun item hitem => h item (hitems item hitem)
  exact ⟨values, list_takes hvalues⟩

/-- Entries under any keys are read from values that are read. -/
theorem dictionary_reads {value : Reader α} {shape : Term → Prop} (h : value.Reads depth shape) :
    (dictionary value).Reads (depth + 1) (DictionaryOf shape) := by
  rintro term ⟨members, rfl, hmembers⟩
  obtain ⟨entries, hentries⟩ := exists_values (R := fun (member : String × Term)
      (entry : String × α) => member.1 = entry.1 ∧ value.Takes depth member.2 entry.2)
    fun member hmember => by
      obtain ⟨found, htakes⟩ := h member.2 (hmembers member hmember)
      exact ⟨(member.1, found), rfl, htakes⟩
  exact ⟨_, dictionary_takes hentries⟩

/-! ## Lenient records -/

/-- A field that reads the shape that is described for it, with changes of the state for which `P`
holds. -/
def FieldReads (P : String → (σ → σ) → Prop) (depth : Nat) (field : Field Reader σ)
    (described : String × (Term → Prop)) : Prop :=
  field.key = described.1 ∧
    ∀ term, described.2 term → ∃ change, field.read.Takes depth term change ∧ P field.key change

/-- How a lenient record reads a member. -/
def lenientMember (fields : List (Field Reader σ)) (key : String) : Reader (σ → σ) :=
  match findField fields key with
  | some field => field.read
  | none => fun nesting text => do
    let (_, rest) ← anything nesting text
    .ok (id, rest)

section

variable {P : String → (σ → σ) → Prop} {fields : List (Field Reader σ)}
  {shapes : List (String × (Term → Prop))}

/-- Members of the described shapes are taken. -/
theorem lenient_members_take (h : List.Forall₂ (FieldReads P depth) fields shapes)
    (hid : ∀ key, P key id) {members : List (String × Term)}
    (hmembers : AreMembers shapes members) :
    ∃ changes, List.Forall₂ (fun member change =>
      MemberTakes (lenientMember fields) depth member change ∧ P member.1 change) members
        changes := by
  refine exists_values fun member hmember => ?_
  unfold MemberTakes lenientMember findField
  rcases Schema.find_field (fun _ _ h => h.1) h member.1 with
    ⟨hfield, -⟩ | ⟨field, shape, hfield, hshape, hreads⟩
  · rw [hfield]
    refine ⟨id, fun text hrenders nesting space rest hdepth hspace hends => ?_, hid member.1⟩
    show (anything nesting _ >>= _) = _
    rw [anything_takes member.2 text hrenders nesting space rest hdepth hspace hends]
    rfl
  · rw [hfield]
    obtain ⟨hkey, htakes⟩ := hreads
    obtain ⟨change, hchange, hP⟩ := htakes member.2 (hmembers member hmember shape hshape)
    exact ⟨change, hchange, hkey ▸ hP⟩

/-- What a record becomes is what its members make of it, one after the other. -/
theorem lenient_record_takes {members : List (String × Term)} {changes : List (σ → σ)}
    (h : List.Forall₂ (MemberTakes (lenientMember fields) depth) members changes) (name : String)
    (initial : σ) :
    (lenientRecord name initial fields).Takes (depth + 1) (.object members)
      (changes.foldl (fun state change => change state) initial) :=
  object_with_takes h ("struct " ++ name) initial

/-- Records are read from objects in which every described member has its shape; other members do
not count. -/
theorem lenient_record_reads (h : List.Forall₂ (FieldReads (fun _ _ => True) depth) fields shapes)
    (name : String) (initial : σ) :
    (lenientRecord name initial fields).Reads (depth + 1) (RecordOf shapes) := by
  rintro term ⟨members, rfl, hmembers⟩
  obtain ⟨changes, hchanges⟩ := lenient_members_take h (fun _ => trivial) hmembers
  exact ⟨_, lenient_record_takes (hchanges.imp fun _ _ htakes => htakes.1) name initial⟩

end

end StorageBackend.Json

import StorageBackend.Proofs.Json.FreeValue

/-!
# What a description admits

A description of a configuration asks for a `Kind` of value at every place. `Admits` says which
terms are of a kind, and `Keeps` which values are kept as they are. A reader answers for a kind if
it reads every text of the admitted terms and refuses every text of the others (`Reader.Answers`);
it does not need to read null, which stands for nothing wherever it is admitted. The readers that
descriptions are made of answer for their kinds: `text_answers`, `free_answers`, `optional_answers`
and `map_answers`.
-/

namespace StorageBackend.Json

open Schema (Format)

/-! ## Kinds -/

/-- What a description asks for at a place: a text, a value of any shape, or a record with known
fields. -/
inductive Kind where
  | text
  | free
  | record (fields : List (String × Kind))

/-- The terms of a kind. A record is an object that gives each known field at most once, or a list
of its fields in order, which may end early. -/
inductive Admits : Kind → Term → Prop where
  | null (kind : Kind) : Admits kind .null
  | text (content : String) : Admits .text (.string content)
  | free (term : Term) : Admits .free term
  | object (fields : List (String × Kind)) (members : List (String × Term))
      (once : ∀ key kind, fields.lookup key = some kind → (members.map Prod.fst).count key ≤ 1)
      (each : ∀ key term kind, (key, term) ∈ members → fields.lookup key = some kind →
        Admits kind term) :
      Admits (.record fields) (.object members)
  | list (fields : List (String × Kind)) (items : List Term) (length : items.length ≤ fields.length)
      (each : ∀ key kind term, ((key, kind), term) ∈ fields.zip items → Admits kind term) :
      Admits (.record fields) (.array items)

/-- The values of any shape that stand in a term, and the number of lists and objects around
them. -/
inductive Keeps : Kind → Term → (around : Nat) → Term → Prop where
  | free (term : Term) : Keeps .free term 0 term
  | object (fields : List (String × Kind)) (members : List (String × Term)) (key : String)
      (term : Term) (kind : Kind) (around : Nat) (kept : Term) (hmember : (key, term) ∈ members)
      (hkind : fields.lookup key = some kind) (h : Keeps kind term around kept) :
      Keeps (.record fields) (.object members) (around + 1) kept
  | list (fields : List (String × Kind)) (items : List Term) (key : String) (term : Term)
      (kind : Kind) (around : Nat) (kept : Term) (hitem : ((key, kind), term) ∈ fields.zip items)
      (h : Keeps kind term around kept) :
      Keeps (.record fields) (.array items) (around + 1) kept

/-- Whether what is kept can be read where this many lists and objects may still be opened. -/
def Kept (nesting : Nat) (kind : Kind) (term : Term) : Prop :=
  ∀ around kept, Keeps kind term around kept → around + kept.depth ≤ nesting ∧ kept.Integral

/-- Nothing is kept of a text. -/
theorem kept_text (nesting : Nat) (term : Term) : Kept nesting .text term := nofun

/-- Nothing is kept of a record that is null. -/
theorem kept_null (nesting : Nat) (fields : List (String × Kind)) :
    Kept nesting (.record fields) .null := nofun

/-- A value of any shape is kept whole. -/
theorem kept_free_iff {nesting : Nat} {term : Term} :
    Kept nesting .free term ↔ term.depth ≤ nesting ∧ term.Integral := by
  constructor
  · intro h
    obtain ⟨hdepth, hintegral⟩ := h 0 term (.free term)
    exact ⟨by omega, hintegral⟩
  · rintro ⟨hdepth, hintegral⟩ around kept hkeeps
    cases hkeeps
    exact ⟨by omega, hintegral⟩

/-- What is kept of an object is kept of its fields. -/
theorem kept_object_iff {nesting : Nat} {fields : List (String × Kind)}
    {members : List (String × Term)} :
    Kept (nesting + 1) (.record fields) (.object members) ↔
      ∀ member ∈ members, ∀ kind, fields.lookup member.1 = some kind →
        Kept nesting kind member.2 := by
  constructor
  · rintro h ⟨key, term⟩ hmember kind hkind around kept hkeeps
    obtain ⟨hdepth, hintegral⟩ :=
      h _ _ (.object fields members key term kind around kept hmember hkind hkeeps)
    exact ⟨by omega, hintegral⟩
  · intro h around kept hkeeps
    cases hkeeps with
    | object _ _ key term kind around kept hmember hkind hkeeps =>
      obtain ⟨hdepth, hintegral⟩ := h (key, term) hmember kind hkind around kept hkeeps
      exact ⟨by omega, hintegral⟩

/-- What is kept of a list is kept of its fields. -/
theorem kept_list_iff {nesting : Nat} {fields : List (String × Kind)} {items : List Term} :
    Kept (nesting + 1) (.record fields) (.array items) ↔
      ∀ item ∈ fields.zip items, Kept nesting item.1.2 item.2 := by
  constructor
  · rintro h ⟨⟨key, kind⟩, term⟩ hitem around kept hkeeps
    obtain ⟨hdepth, hintegral⟩ :=
      h _ _ (.list fields items key term kind around kept hitem hkeeps)
    exact ⟨by omega, hintegral⟩
  · intro h around kept hkeeps
    cases hkeeps with
    | list _ _ key term kind around kept hitem hkeeps =>
      obtain ⟨hdepth, hintegral⟩ := h ((key, kind), term) hitem around kept hkeeps
      exact ⟨by omega, hintegral⟩

/-! ## What terms stand for -/

/-- The text that a term stands for. -/
def Term.text? : Term → Option String
  | .string content => some content
  | _ => none

/-- The value that a term stands for, if it is not null. -/
def Term.value? : Term → Option Value
  | .null => none
  | term => some term.value

/-- The fields of a term that is a record, with their keys. -/
def Term.fields? (keys : List String) : Term → Option (List (String × Term))
  | .object members => some members
  | .array items => some (keys.zip items)
  | _ => none

/-! ## Answers -/

/-- The result of a reader in front of a text: the value behind which `rest` is left if the term is
admitted, and an error if it is not. -/
inductive Answer {α : Type} (rest : List Char) :
    Prop → Option α → Except Error (α × List Char) → Prop where
  | accepted {admitted : Prop} (h : admitted) (value : α) :
      Answer rest admitted (some value) (.ok (value, rest))
  | refused {admitted : Prop} (h : ¬ admitted) (value : Option α) (error : Error) :
      Answer rest admitted value (.error error)

/-- A reader that gives what the terms of a kind stand for and refuses all others, where this many
lists and objects may be opened. It is not asked for null. -/
def Reader.Answers {α : Type} (kind : Kind) (depth : Nat) (read : Reader α)
    (view : Term → Option α) : Prop :=
  ∀ term text, Renders term text → term ≠ .null →
    ∀ nesting space rest, depth ≤ nesting → Kept nesting kind term → IsSpace space → Apart rest →
      Answer rest (Admits kind term) (view term) (read nesting (space ++ (text ++ rest)))

/-- A reader that answers for a kind and reads null, too. -/
def Reader.AnswersField {α : Type} (kind : Kind) (depth : Nat) (read : Reader α)
    (view : Term → α) : Prop :=
  ∀ term text, Renders term text →
    ∀ nesting space rest, depth ≤ nesting → Kept nesting kind term → IsSpace space → Apart rest →
      Answer rest (Admits kind term) (some (view term)) (read nesting (space ++ (text ++ rest)))

variable {α β : Type} {kind : Kind} {depth : Nat}

section

variable {rest middle : List Char} {admitted other : Prop}

/-- It does not matter how it is said what is admitted. -/
theorem Answer.congr {value : Option α} {result : Except Error (α × List Char)}
    (h : Answer rest admitted value result) (hiff : admitted ↔ other) :
    Answer rest other value result := by
  cases h with
  | accepted h value => exact .accepted (hiff.mp h) value
  | refused h value error => exact .refused (fun hother => h (hiff.mpr hother)) value error

/-- Both of two readers have to accept what they read. -/
theorem Answer.bind {value : α} {result : Except Error (α × List Char)}
    (h : Answer middle admitted (some value) result) {final : Option β}
    {next : α × List Char → Except Error (β × List Char)}
    (hnext : Answer rest other final (next (value, middle))) :
    Answer rest (admitted ∧ other) final (result >>= next) := by
  cases h with
  | accepted h value => exact hnext.congr ⟨fun hother => ⟨h, hother⟩, And.right⟩
  | refused h value error => exact .refused (fun hboth => h hboth.1) final error

/-- A function may be applied to what is read. -/
theorem Answer.map {value : Option α} {result : Except Error (α × List Char)}
    (h : Answer rest admitted value result) (f : α → β) :
    Answer rest admitted (value.map f) (result >>= fun (value, text) => .ok (f value, text)) := by
  cases h with
  | accepted h value => exact .accepted h (f value)
  | refused h value error => exact .refused h _ error

end

/-! ## Readers of descriptions -/

/-- Changing what has been read answers for the same kind. -/
theorem map_answers {read : Reader α} {view : Term → α} (h : read.AnswersField kind depth view)
    (f : α → β) :
    (Format.map f read : Reader β).AnswersField kind depth fun term => f (view term) :=
  fun term text hrenders nesting space rest hdepth hkept hspace hends =>
    (h term text hrenders nesting space rest hdepth hkept hspace hends).map f

/-- The reader of texts gives the contents of strings and refuses everything else. -/
theorem text_answers : (Format.text : Reader String).Answers .text depth Term.text? := by
  intro term text hrenders hnull nesting space rest _ _ hspace _
  show Answer rest _ _ (scanString "a string" _)
  by_cases hstring : ∃ content, term = .string content
  · obtain ⟨content, rfl⟩ := hstring
    rw [scan_string_renders hrenders "a string" hspace rest]
    exact .accepted (.text content) content
  · obtain ⟨c, others, rfl, hheads⟩ := hrenders.head
    have hquote : ¬ c = '"' := fun hc => hstring (hheads.string.mp hc)
    rw [scanString, List.cons_append, skip_space_append hspace hheads.notSpace]
    simp only [if_neg hquote]
    refine .refused (fun hadmits => ?_) _ _
    cases hadmits with
    | null => exact hnull rfl
    | text content => exact hstring ⟨content, rfl⟩

/-- The reader of values of any shape refuses nothing. -/
theorem free_answers : (Format.free : Reader Value).Answers .free depth Term.value? := by
  intro term text hrenders hnull nesting space rest _ hkept hspace hends
  obtain ⟨hdepth, hintegral⟩ := kept_free_iff.mp hkept
  have hread := value_reads nesting term text hrenders hdepth hintegral space rest hspace hends
  have hvalue : term.value? = some term.value := by
    cases term with
    | null => exact absurd rfl hnull
    | boolean | number | string | array | object => rfl
  show Answer rest _ _ (value nesting _)
  rw [hread, hvalue]
  exact .accepted (.free term) term.value

/-- Null stands for nothing, and everything else is left to the reader. -/
theorem optional_answers {read : Reader α} {view : Term → Option α}
    (h : read.Answers kind depth view) (hview : view .null = none) :
    (Format.optional read : Reader (Option α)).AnswersField kind depth view := by
  intro term text hrenders nesting space rest hdepth hkept hspace hends
  show Answer rest _ _ (scanOptional (read nesting) _)
  by_cases hnull : term = .null
  · subst hnull
    cases hrenders
    rw [hview, scanOptional, List.cons_append, skip_space_append hspace rfl]
    exact .accepted (.null kind) none
  · have hread := h term text hrenders hnull nesting [] rest hdepth hkept space_nil hends
    obtain ⟨c, others, rfl, hheads⟩ := hrenders.head
    have hname : ¬ c = 'n' := fun hc => hnull (hheads.null.mp hc)
    rw [scanOptional, List.cons_append, skip_space_append hspace hheads.notSpace]
    simp only [if_neg hname]
    rw [List.nil_append, List.cons_append] at hread
    generalize read nesting (c :: (others ++ rest)) = result at hread ⊢
    generalize view term = seen at hread ⊢
    cases hread with
    | accepted hadmits value => exact .accepted hadmits (some value)
    | refused hadmits value error => exact .refused hadmits _ error

/-! ## Whole texts -/

/-- A whole text is read if its term is admitted, and refused if it is not. -/
theorem run_answers {read : Reader α} {view : Term → Option α} (h : read.Answers kind depth view)
    (hdepth : depth ≤ maxNesting) {term : Term} {text after : List Char}
    (hrenders : Renders term text) (hnull : term ≠ .null) (hkept : Kept maxNesting kind term)
    (hafter : IsSpace after) :
    (Admits kind term → ∃ value, view term = some value ∧ read.run (text ++ after) = .ok value) ∧
      (¬ Admits kind term → ∃ error, read.run (text ++ after) = .error error) := by
  have hanswer := h term text hrenders hnull maxNesting [] after hdepth hkept space_nil
    (apart_of_is_space hafter)
  rw [List.nil_append] at hanswer
  generalize hread : read maxNesting (text ++ after) = result at hanswer
  generalize view term = seen at hanswer ⊢
  cases hanswer with
  | accepted hadmits value =>
    exact ⟨fun _ => ⟨value, rfl, run_eq_ok_iff.mpr ⟨after, hread, hafter⟩⟩,
      fun hrefused => absurd hadmits hrefused⟩
  | refused hrefused _ error =>
    exact ⟨fun hadmits => absurd hadmits hrefused, fun _ => ⟨error, run_of_eq_error hread⟩⟩

end StorageBackend.Json

import Mathlib.Data.List.Duplicate
import StorageBackend.Proofs.Schema.Fields
import StorageBackend.Proofs.Tree.Basic

/-!
# Trees that fit a description

A description of a configuration admits trees of a certain `Shape`. Reading a tree that fits can
only fail because a field is given twice in one of its records (`Repeats`). Otherwise the order of
the members does not matter: what is read is a function of the trees that are found under the keys
of the fields. `record_reads` shows this for a record from its fields.
-/

namespace StorageBackend.Tree

open Schema (Field Format)

/-! ## Shapes -/

/-- The shape of a tree that is not null. -/
inductive Shape where
  | text
  /-- A block without members. -/
  | empty
  /-- A block, with the shapes of its fields. -/
  | record (fields : List (String × Shape))

/-- Whether a tree is null. -/
def Node.isNull : Node → Bool
  | .null _ => true
  | _ => false

/-- Trees of a shape. A field may be null in any case, and what is under an unknown key is a
text. -/
inductive Fits : Shape → Node → Prop where
  | text (phrase : Phrase) : Fits .text (.text phrase)
  | empty : Fits .empty (.block [])
  | record (fields : List (String × Shape)) (block : List Member)
      (unknown : ∀ key node, (key, node) ∈ block → fields.lookup key.string = none →
        node.isText = true)
      (known : ∀ key node shape, (key, node) ∈ block → fields.lookup key.string = some shape →
        node.isNull = false → Fits shape node) :
      Fits (.record fields) (.block block)

/-- The keys of a block. -/
def keys (block : List Member) : List String := block.map fun member => member.1.string

/-- A field of a record in a tree is given more than once under this key. -/
inductive Repeats : Shape → Node → String → Prop where
  | here (fields : List (String × Shape)) (block : List Member) (key : String)
      (known : (fields.lookup key).isSome) (twice : (keys block).Duplicate key) :
      Repeats (.record fields) (.block block) key
  | inside (fields : List (String × Shape)) (block : List Member) (key : Phrase) (node : Node)
      (shape : Shape) (name : String) (member : (key, node) ∈ block)
      (known : fields.lookup key.string = some shape) (h : Repeats shape node name) :
      Repeats (.record fields) (.block block) name

/-- The tree under a key of a block. -/
def lookup (block : List Member) (key : String) : Option Node :=
  (block.find? fun member => member.1.string == key).map Prod.snd

/-- Nothing is found under a key that is not there. -/
theorem lookup_eq_none {block : List Member} {key : String} (h : key ∉ keys block) :
    lookup block key = none := by
  rw [lookup, Option.map_eq_none_iff, List.find?_eq_none]
  intro member hmember
  simp only [beq_iff_eq]
  rintro rfl
  exact h (List.mem_map_of_mem hmember)

/-- A member at the end of a block is found if there is no other one with its key. -/
theorem lookup_concat (block : List Member) (member : Member) (key : String) :
    lookup (block ++ [member]) key =
      (lookup block key).or (if member.1.string = key then some member.2 else none) := by
  rw [lookup, lookup, List.find?_append]
  cases block.find? fun member => member.1.string == key with
  | some found => rfl
  | none =>
    by_cases hkey : member.1.string = key
    · simp [hkey]
    · simp [hkey]

/-- A member that is no field does not change what is found under the keys of fields. -/
theorem lookup_concat_unknown {shapes : List (String × Shape)} {key : Phrase}
    (h : shapes.lookup key.string = none) (block : List Member) (node : Node) {field : String}
    (hfield : field ∈ shapes.map Prod.fst) :
    lookup (block ++ [(key, node)]) field = lookup block field := by
  have hne : ¬ key.string = field := fun heq => Schema.lookup_eq_none_iff.mp h (heq ▸ hfield)
  rw [lookup_concat, if_neg hne, Option.or_none]

/-- A tree of a shape in which no field is given twice. -/
def Proper (shape : Shape) (node : Node) : Prop := Fits shape node ∧ ∀ key, ¬ Repeats shape node key

/-- A text gives nothing twice. -/
theorem proper_text (phrase : Phrase) : Proper .text (.text phrase) := ⟨.text phrase, nofun⟩

/-- A block without members gives nothing twice. -/
theorem proper_empty : Proper .empty (.block []) := ⟨.empty, nofun⟩

/-- A block of members with different keys: texts, and fields that are of their shape or null. -/
theorem proper_record {fields : List (String × Shape)} {block : List Member}
    (hkeys : (keys block).Nodup)
    (h : ∀ member ∈ block,
      (fields.lookup member.1.string = none ∧ member.2.isText = true) ∨
        ∃ shape, fields.lookup member.1.string = some shape ∧
          (member.2.isNull = false → Proper shape member.2)) :
    Proper (.record fields) (.block block) := by
  have hfield : ∀ key node shape, (key, node) ∈ block → fields.lookup key.string = some shape →
      node.isNull = false → Proper shape node := by
    intro key node shape hmember hknown
    rcases h (key, node) hmember with ⟨hunknown, -⟩ | ⟨other, hother, hproper⟩
    · rw [hknown] at hunknown
      cases hunknown
    · obtain rfl := Option.some.inj (hknown.symm.trans hother)
      exact hproper
  refine ⟨.record fields block ?_ fun key node shape hmember hknown hnull =>
    (hfield key node shape hmember hknown hnull).1, ?_⟩
  · intro key node hmember hunknown
    rcases h (key, node) hmember with ⟨-, htext⟩ | ⟨other, hother, -⟩
    · exact htext
    · rw [hunknown] at hother
      cases hother
  · intro name hrepeats
    cases hrepeats with
    | here _ _ _ _ htwice => exact htwice.not_nodup hkeys
    | inside _ _ key node shape _ hmember hknown hinside =>
      have hnull : node.isNull = false := by
        cases hinside <;> rfl
      exact (hfield key node shape hmember hknown hnull).2 name hinside

/-! ## Blocks with a member for each field -/

/-- Members with these keys and values, in this order. -/
def entries (fields : List (String × Node)) : List Member :=
  fields.map fun field => (⟨field.1.toList, false⟩, field.2)

/-- The keys of the members for some fields are those of the fields. -/
theorem keys_entries (fields : List (String × Node)) :
    keys (entries fields) = fields.map Prod.fst := by
  rw [keys, entries, List.map_map]
  exact List.map_congr_left fun field _ => String.ofList_toList

/-- What is found in members for fields is what the first field with the key has. -/
theorem lookup_entries_cons (key : String) (node : Node) (rest : List (String × Node))
    (name : String) :
    lookup (entries ((key, node) :: rest)) name =
      if key = name then some node else lookup (entries rest) name := by
  have hkey : Phrase.string ⟨key.toList, false⟩ = key := String.ofList_toList
  rw [lookup, entries, List.map_cons, List.find?_cons, hkey]
  by_cases hname : key = name
  · simp [hname]
  · rw [if_neg hname, beq_false_of_ne hname]
    rfl

/-- A member for each field, in the order of the description. -/
theorem proper_entries {fields : List (String × Node)} {shapes : List (String × Shape)}
    (hkeys : (shapes.map Prod.fst).Nodup)
    (h : List.Forall₂ (fun field described =>
      field.1 = described.1 ∧ (field.2.isNull = false → Proper described.2 field.2)) fields
        shapes) :
    Proper (.record shapes) (.block (entries fields)) := by
  have hsame : fields.map Prod.fst = shapes.map Prod.fst := by
    rw [← List.forall₂_eq_eq_eq, List.forall₂_map_left_iff, List.forall₂_map_right_iff]
    exact h.imp fun _ _ hfield => hfield.1
  refine proper_record (by rwa [keys_entries, hsame]) fun member hmember => .inr ?_
  obtain ⟨field, hfield, rfl⟩ := List.mem_map.mp hmember
  rw [show Phrase.string ⟨field.1.toList, false⟩ = field.1 from String.ofList_toList]
  -- The keys are different, so the field is found under its key where it is described.
  clear hsame hmember
  induction h with
  | nil => cases hfield
  | @cons first described fields shapes hfirst _ ih =>
    obtain ⟨key, shape⟩ := described
    obtain ⟨hnew, hrest⟩ := List.nodup_cons.mp hkeys
    rw [List.lookup_cons]
    rcases List.mem_cons.mp hfield with rfl | hfield
    · rw [hfirst.1, beq_self_eq_true]
      exact ⟨shape, rfl, hfirst.2⟩
    · obtain ⟨other, hlookup, hproper⟩ := ih hrest hfield
      have hne : field.1 ≠ key := by
        intro hkey
        rw [hkey, Schema.lookup_eq_none_iff.mpr hnew] at hlookup
        cases hlookup
      rw [beq_false_of_ne hne]
      exact ⟨other, hlookup, hproper⟩

/-! ## Reading trees that fit -/

/-- The result of reading a tree: a value, unless a field is given twice. -/
def Answers {α : Type} (shape : Shape) (node : Node) (result : Except Refusal α) (value : α) :
    Prop :=
  (result = .ok value ∧ ∀ key, ¬ Repeats shape node key) ∨
    ∃ key, Repeats shape node key ∧ result = .error (.repeated key)

/-- A reader that reads the trees of a shape, with the values that they stand for. Null stands for
nothing. -/
def Reads {α : Type} (shape : Shape) (read : Reader α) (value : Node → Option α) : Prop :=
  (∀ word, value (.null word) = none) ∧
    ∀ node, Fits shape node → ∃ result, value node = some result ∧
      Answers shape node (read node) result

/-- A reader that reads the trees of a shape and nulls. -/
def ReadsField {α : Type} (shape : Shape) (read : Reader α) (value : Node → α) : Prop :=
  ∀ node, (node.isNull = false → Fits shape node) → Answers shape node (read node) (value node)

variable {α β σ : Type} {shape : Shape}

/-- A function may be applied to what is read. -/
theorem Answers.map {node : Node} {result : Except Refusal α} {value : α}
    (h : Answers shape node result value) (f : α → β) :
    Answers shape node (f <$> result) (f value) := by
  rcases h with ⟨rfl, hclean⟩ | ⟨key, hrepeats, rfl⟩
  · exact .inl ⟨rfl, hclean⟩
  · exact .inr ⟨key, hrepeats, rfl⟩

/-- Changing what has been read reads the same trees. -/
theorem map_reads {read : Reader α} {value : Node → α} (h : ReadsField shape read value)
    (f : α → β) : ReadsField shape (Format.map f read) fun node => f (value node) :=
  fun node hfits => (h node hfits).map f

/-- An optional value is read where the value is, and from null. -/
theorem optional_reads {read : Reader α} {value : Node → Option α} (h : Reads shape read value) :
    ReadsField shape (Format.optional read) value := by
  intro node hfits
  cases hnull : node.isNull with
  | true =>
    cases node with
    | null word =>
      rw [h.1 word]
      exact .inl ⟨rfl, nofun⟩
    | text phrase => cases hnull
    | block block => cases hnull
  | false =>
    have hread : (Format.optional read : Reader (Option α)) node = some <$> read node := by
      cases node with
      | null word => cases hnull
      | text phrase => rfl
      | block block => rfl
    obtain ⟨result, hvalue, hanswers⟩ := h.2 node (hfits hnull)
    rw [hread, hvalue]
    exact hanswers.map some

/-- The text of a tree that is one. -/
def Node.text? : Node → Option String
  | .text phrase => some phrase.string
  | _ => none

/-- The members of a tree that is a block. -/
def Node.block? : Node → Option (List Member)
  | .block members => some members
  | _ => none

/-- Texts are read from the texts of nodes. -/
theorem text_reads : Reads .text Format.text Node.text? := by
  refine ⟨fun _ => rfl, fun node hfits => ?_⟩
  cases hfits with
  | text phrase => exact ⟨phrase.string, rfl, .inl ⟨rfl, nofun⟩⟩

/-- A value of any shape is read from a block without members. -/
theorem free_reads :
    Reads .empty Format.free fun node => node.block?.map fun _ => Json.Value.object [] := by
  refine ⟨fun _ => rfl, fun node hfits => ?_⟩
  cases hfits with
  | empty => exact ⟨.object [], rfl, .inl ⟨rfl, nofun⟩⟩

/-! ## Reading records -/

/-- A field whose reader turns what the members so far stand for into what they stand for together
with a member under the key of the field. -/
def FieldReads (view : List Member → σ) (field : Field Reader σ) (described : String × Shape) :
    Prop :=
  field.key = described.1 ∧ ∃ change : Node → σ → σ,
    ReadsField described.2 field.read change ∧
      ∀ done key node, Phrase.string key = described.1 → lookup done described.1 = none →
        change node (view done) = view (done ++ [(key, node)])

/-- Described fields are found under their keys. -/
theorem find_described {view : List Member → σ} {fields : List (Field Reader σ)}
    {shapes : List (String × Shape)} (h : List.Forall₂ (FieldReads view) fields shapes)
    (key : String) :
    (fields.find? (fun field => field.key == key) = none ∧ shapes.lookup key = none) ∨
      ∃ field shape, fields.find? (fun field => field.key == key) = some field ∧
        shapes.lookup key = some shape ∧ FieldReads view field (key, shape) :=
  Schema.find_field (fun _ _ h => h.1) h key

/-- The keys of two blocks come one after the other. -/
theorem keys_append (first second : List Member) :
    keys (first ++ second) = keys first ++ keys second := List.map_append

/-- No field is given twice with one more member, if the member is of another field than those
before and no field is given twice inside it. -/
theorem clean_concat {shapes : List (String × Shape)} {done : List Member} {key : Phrase}
    {node : Node} (hdone : ∀ name, ¬ Repeats (.record shapes) (.block done) name)
    (hmember : ∀ shape, shapes.lookup key.string = some shape →
      key.string ∉ keys done ∧ ∀ name, ¬ Repeats shape node name) (name : String) :
    ¬ Repeats (.record shapes) (.block (done ++ [(key, node)])) name := by
  intro h
  cases h with
  | here _ _ _ hknown htwice =>
    -- With the last key not among those before, the other keys alone hold every repetition.
    rw [List.duplicate_iff_two_le_count, keys_append, List.count_append] at htwice
    by_cases hname : key.string = name
    · subst hname
      obtain ⟨shape, hshape⟩ := Option.isSome_iff_exists.mp hknown
      have hlast : (keys [(key, node)]).count key.string ≤ 1 := List.count_le_length
      rw [List.count_eq_zero.mpr (hmember shape hshape).1] at htwice
      omega
    · have hcount : (keys [(key, node)]).count name = 0 :=
        List.count_eq_zero.mpr fun hmem => hname (List.mem_singleton.mp hmem).symm
      rw [hcount, Nat.add_zero, ← List.duplicate_iff_two_le_count] at htwice
      exact hdone name (.here _ _ _ hknown htwice)
  | inside _ _ other child shape _ hother hknown hinside =>
    rcases List.mem_append.mp hother with hother | hother
    · exact hdone name (.inside _ _ _ _ _ _ hother hknown hinside)
    · obtain ⟨rfl, rfl⟩ := Prod.mk.inj (List.mem_singleton.mp hother)
      exact (hmember shape hknown).2 name hinside

section

variable {view : List Member → σ} {fields : List (Field Reader σ)} {shapes : List (String × Shape)}

/-- The members of a record are read one after the other. What has been read is at any time what the
members `done` stand for. -/
theorem members_read (h : List.Forall₂ (FieldReads view) fields shapes)
    (hunknown : ∀ done key node, shapes.lookup (Phrase.string key) = none →
      view (done ++ [(key, node)]) = view done) :
    ∀ (block done : List Member) (given : List String),
      Fits (.record shapes) (.block (done ++ block)) →
      (∀ name, ¬ Repeats (.record shapes) (.block done) name) →
      (∀ name, name ∈ given ↔ name ∈ keys done ∧ (shapes.lookup name).isSome) →
      Answers (.record shapes) (.block (done ++ block))
        (Prod.fst <$> members fields (view done, given) block) (view (done ++ block)) := by
  intro block
  induction block with
  | nil =>
    intro done given _ hclean _
    rw [List.append_nil]
    exact .inl ⟨rfl, hclean⟩
  | cons member block ih =>
    obtain ⟨key, node⟩ := member
    intro done given hfits hclean hgiven
    have hnext := ih (done ++ [(key, node)])
    have hmember : (key, node) ∈ done ++ (key, node) :: block :=
      List.mem_append_right done List.mem_cons_self
    have hkeys : ∀ name, name ∈ keys (done ++ [(key, node)]) ↔
        name ∈ keys done ∨ name = key.string := by
      intro name
      rw [keys_append, List.mem_append]
      exact or_congr_right List.mem_singleton
    rw [List.append_assoc, List.singleton_append] at hnext
    obtain ⟨unknown, known⟩ : (shapes.lookup key.string = none → node.isText = true) ∧
        ∀ shape, shapes.lookup key.string = some shape → node.isNull = false →
          Fits shape node := by
      cases hfits with
      | record _ _ unknown known =>
        exact ⟨unknown key node hmember, fun shape => known key node shape hmember⟩
    rw [members]
    -- The member is no field, or a field for the second time, or one that is read.
    rcases find_described h key.string with
      ⟨hfield, hshape⟩ | ⟨field, shape, hfield, hshape, -, change, hreads, hchange⟩
    · rw [hfield, ← hunknown done key node hshape]
      simp only [if_pos (unknown hshape)]
      refine hnext given hfits (clean_concat hclean fun shape hsome => ?_) fun name => ?_
      · rw [hshape] at hsome
        cases hsome
      · rw [hgiven, hkeys]
        constructor
        · exact fun ⟨hname, hknown⟩ => ⟨.inl hname, hknown⟩
        · rintro ⟨hname | rfl, hknown⟩
          · exact ⟨hname, hknown⟩
          · rw [hshape] at hknown
            cases hknown
    · rw [hfield]
      have hfound : (shapes.lookup key.string).isSome := by rw [hshape]; rfl
      by_cases hrepeated : key.string ∈ given
      · simp only [if_pos (List.contains_iff_mem.mpr hrepeated)]
        refine .inr ⟨key.string, .here _ _ _ hfound ?_, rfl⟩
        have hbefore := List.count_pos_iff.mpr ((hgiven key.string).mp hrepeated).1
        rw [List.duplicate_iff_two_le_count, keys_append, List.count_append]
        have hafter : 1 ≤ (keys ((key, node) :: block)).count key.string :=
          List.count_pos_iff.mpr List.mem_cons_self
        omega
      · have hnew : key.string ∉ keys done :=
          fun hmem => hrepeated ((hgiven key.string).mpr ⟨hmem, hfound⟩)
        have hcontains : ¬ given.contains key.string = true :=
          fun hmem => hrepeated (List.contains_iff_mem.mp hmem)
        simp only [if_neg hcontains]
        rcases hreads node (known shape hshape) with ⟨hread, hinside⟩ | ⟨name, hinside, hread⟩
        · rw [hread]
          show Answers _ _ (Prod.fst <$> members fields (change node (view done), _) block) _
          rw [hchange done key node rfl (lookup_eq_none hnew)]
          refine hnext _ hfits (clean_concat hclean fun other hother => ?_) fun name => ?_
          · obtain rfl := Option.some.inj (hshape.symm.trans hother)
            exact ⟨hnew, hinside⟩
          · rw [hkeys, List.mem_cons, hgiven]
            constructor
            · rintro (rfl | ⟨hname, hknown⟩)
              · exact ⟨.inr rfl, hfound⟩
              · exact ⟨.inl hname, hknown⟩
            · rintro ⟨hname | rfl, hknown⟩
              · exact .inr ⟨hname, hknown⟩
              · exact .inl rfl
        · rw [hread]
          exact .inr ⟨name, .inside _ _ _ _ _ _ hmember hshape hinside, rfl⟩

/-- A record is read from what stands under the keys of its fields, in whatever order. -/
theorem record_reads (h : List.Forall₂ (FieldReads view) fields shapes)
    (hunknown : ∀ done key node, shapes.lookup (Phrase.string key) = none →
      view (done ++ [(key, node)]) = view done) (name : String) :
    Reads (.record shapes) (Format.record name (view []) fields)
      fun node => node.block?.map view := by
  refine ⟨fun _ => rfl, fun node hfits => ?_⟩
  cases hfits with
  | record _ block unknown known =>
    refine ⟨view block, rfl, ?_⟩
    refine members_read h hunknown block [] [] (.record _ _ unknown known) ?_ ?_
    · intro name hrepeats
      cases hrepeats with
      | here _ _ _ _ htwice => exact List.not_duplicate_nil _ htwice
      | inside _ _ _ _ _ _ hmember => cases hmember
    · intro name
      simp [keys]

end

end StorageBackend.Tree

import Mathlib.Data.List.Nodup
import StorageBackend.Proofs.Json.Kind
import StorageBackend.Proofs.Schema.Fields

/-!
# Records

A record is read from an object or from a list. Its reader answers for the record if the readers of
its fields answer for theirs (`record_answers`). What has been read of a record is at any time what
the fields `done` stand for, and in the end a function of the terms under the keys of the fields, so
the order of the members of an object does not matter, nor what is under unknown keys.
-/

namespace StorageBackend.Json

open Schema (Field Format)

variable {σ : Type} {depth nesting : Nat}

/-- A field whose reader turns what the fields so far stand for into what they stand for together
with its own. -/
def FieldAnswers (view : List (String × Term) → σ) (depth : Nat) (field : Field Reader σ)
    (described : String × Kind) : Prop :=
  field.key = described.1 ∧ ∃ change : Term → σ → σ,
    field.read.AnswersField described.2 depth change ∧
      ∀ done term, done.lookup described.1 = none →
        change term (view done) = view (done ++ [(described.1, term)])

/-- A member at the end is found if there is no other one with its key. -/
theorem lookup_concat (done : List (String × Term)) (key : String) (term : Term)
    (field : String) :
    (done ++ [(key, term)]).lookup field =
      (done.lookup field).or (if field = key then some term else none) := by
  rw [List.lookup_append, List.lookup_cons, List.lookup_nil]
  by_cases hkey : field = key
  · rw [hkey, beq_self_eq_true, if_pos rfl]
  · rw [beq_false_of_ne hkey, if_neg hkey]

/-- A member at the end that is no field does not change what is found under the keys of fields. -/
theorem lookup_concat_unknown {kinds : List (String × Kind)} {key : String}
    (h : kinds.lookup key = none) (done : List (String × Term)) (term : Term) {field : String}
    (hfield : field ∈ kinds.map Prod.fst) :
    (done ++ [(key, term)]).lookup field = done.lookup field := by
  have hne : field ≠ key := fun heq => Schema.lookup_eq_none_iff.mp h (heq ▸ hfield)
  rw [lookup_concat, if_neg hne, Option.or_none]

section

variable {view : List (String × Term) → σ} {fields : List (Field Reader σ)}
  {kinds : List (String × Kind)}

/-- Described fields are found under their keys. -/
theorem find_described (h : List.Forall₂ (FieldAnswers view depth) fields kinds) (key : String) :
    (findField fields key = none ∧ kinds.lookup key = none) ∨
      ∃ field kind, findField fields key = some field ∧ kinds.lookup key = some kind ∧
        FieldAnswers view depth field (key, kind) :=
  Schema.find_field (fun _ _ h => h.1) h key

/-! ## Lists -/

/-- Whether items are the fields of a record in order, up to some field. -/
def AdmitsItems (kinds : List (String × Kind)) (items : List Term) : Prop :=
  items.length ≤ kinds.length ∧
    ∀ key kind term, ((key, kind), term) ∈ kinds.zip items → Admits kind term

/-- A list without items is admitted. -/
theorem admits_items_nil (kinds : List (String × Kind)) : AdmitsItems kinds [] := by
  refine ⟨Nat.zero_le _, ?_⟩
  rw [List.zip_nil_right]
  exact nofun

/-- Items are admitted one after the other, each for its field. -/
theorem admits_items_cons (key : String) (kind : Kind) (kinds : List (String × Kind))
    (term : Term) (items : List Term) :
    AdmitsItems ((key, kind) :: kinds) (term :: items) ↔
      Admits kind term ∧ AdmitsItems kinds items := by
  constructor
  · rintro ⟨hlength, heach⟩
    exact ⟨heach key kind term List.mem_cons_self, Nat.le_of_succ_le_succ hlength,
      fun name other item hmem => heach name other item (List.mem_cons_of_mem _ hmem)⟩
  · rintro ⟨hterm, hlength, heach⟩
    refine ⟨Nat.succ_le_succ hlength, fun name other item hmem => ?_⟩
    rcases List.mem_cons.mp hmem with hfirst | hmem
    · cases hfirst
      exact hterm
    · exact heach name other item hmem

/-- The fields of a record are read from a list one after the other. -/
theorem record_items_answer (hfields : List.Forall₂ (FieldAnswers view depth) fields kinds)
    (hkeys : (kinds.map Prod.fst).Nodup) (hdepth : depth ≤ nesting) (items : List Term)
    {first : Bool} {text : List Char} (hrenders : RendersItems first items text)
    (done : List (String × Term)) (hdone : ∀ key ∈ kinds.map Prod.fst, done.lookup key = none)
    (hkept : ∀ item ∈ kinds.zip items, Kept nesting item.1.2 item.2)
    (rest : List Char) :
    Answer rest (AdmitsItems kinds items)
      (some (view (done ++ (kinds.map Prod.fst).zip items)))
      (recordItems nesting fields first (view done) (text ++ rest)) := by
  induction hfields generalizing items first text done with
  | nil =>
    cases hrenders with
    | close _ space hspace =>
      rw [recordItems, List.append_assoc, List.singleton_append, list_end_close hspace]
      have hview : done ++ (List.map Prod.fst ([] : List (String × Kind))).zip ([] : List Term) =
          done := List.append_nil done
      rw [hview]
      exact .accepted (admits_items_nil []) (view done)
    | item _ term items lead value text hlead hvalue hrest =>
      obtain ⟨c, others, rfl, hheads⟩ := hvalue.head
      rw [recordItems, List.append_assoc, List.append_assoc, List.cons_append]
      obtain ⟨error, herror⟩ := list_end_lead hlead hheads.notSpace hheads.notEnd
        (others ++ (text ++ rest))
      rw [herror]
      exact .refused (fun hadmits => Nat.not_succ_le_zero _ hadmits.1) _ error
  | @cons field described fields kinds hfield _ ih =>
    obtain ⟨key, kind⟩ := described
    obtain ⟨hnew, hrestKeys⟩ := List.nodup_cons.mp hkeys
    cases hrenders with
    | close _ space hspace =>
      rw [recordItems, List.append_assoc, List.singleton_append, next_item_close hspace]
      show Answer rest _ _ (listEnd _ >>= _)
      rw [list_end_close hspace]
      have hview : done ++ (((key, kind) :: kinds).map Prod.fst).zip ([] : List Term) = done := by
        rw [List.zip_nil_right, List.append_nil]
      rw [hview]
      exact .accepted (admits_items_nil _) (view done)
    | item _ term items lead value text hlead hvalue hrest =>
      obtain ⟨-, change, hreads, hchange⟩ := hfield
      have hnone : done.lookup key = none := hdone key List.mem_cons_self
      have hread := hreads term value hvalue nesting [] (text ++ rest) hdepth
        (hkept ((key, kind), term) List.mem_cons_self) space_nil (hrest.apart rest)
      -- The keys are different, so the fields that are left are not among those done.
      have hothers : ∀ name ∈ kinds.map Prod.fst, (done ++ [(key, term)]).lookup name = none := by
        intro name hname
        have hne : name ≠ key := fun h => hnew (h ▸ hname)
        rw [lookup_concat, hdone name (List.mem_cons_of_mem key hname), if_neg hne]
        rfl
      have hnext := ih hrestKeys items hrest (done ++ [(key, term)]) hothers
        fun item hitem => hkept item (List.mem_cons_of_mem _ hitem)
      rw [List.append_assoc, List.singleton_append, ← hchange done term hnone] at hnext
      obtain ⟨c, others, rfl, hheads⟩ := hvalue.head
      rw [List.nil_append, List.cons_append] at hread
      rw [recordItems, List.append_assoc, List.append_assoc, List.cons_append,
        next_item_lead hlead hheads.notSpace hheads.notEnd]
      show Answer rest _ _ (field.read nesting _ >>= _)
      exact (hread.bind hnext).congr (admits_items_cons key kind kinds term items).symm

/-! ## Objects -/

/-- Whether members are accepted one after the other, where the fields in `given` have been read. -/
def Accepts (kinds : List (String × Kind)) :
    (given : List String) → List (String × Term) → Prop
  | _, [] => True
  | given, (key, term) :: members =>
    match kinds.lookup key with
    | none => Accepts kinds given members
    | some kind => key ∉ given ∧ Admits kind term ∧ Accepts kinds (key :: given) members

/-- Members are accepted if each known field is given once at most, with an admitted term. -/
theorem accepts_iff (members : List (String × Term)) (given : List String) :
    Accepts kinds given members ↔
      (∀ key kind, kinds.lookup key = some kind →
        (members.map Prod.fst).count key ≤ if key ∈ given then 0 else 1) ∧
        ∀ key term kind, (key, term) ∈ members → kinds.lookup key = some kind →
          Admits kind term := by
  induction members generalizing given with
  | nil => simp [Accepts]
  | cons member members ih =>
    obtain ⟨key, term⟩ := member
    rw [Accepts]
    simp only [List.map_cons, List.count_cons, beq_iff_eq, List.mem_cons, Prod.mk.injEq]
    cases hkey : kinds.lookup key with
    | none =>
      -- A member that is no field counts for nothing.
      have hother : ∀ name kind, kinds.lookup name = some kind → key ≠ name := by
        rintro name kind hname rfl
        rw [hkey] at hname
        cases hname
      refine (ih given).trans (and_congr ?_ ?_)
      · refine forall_congr' fun name => forall₂_congr fun kind hname => ?_
        rw [if_neg (hother name kind hname), Nat.add_zero]
      · constructor
        · rintro heach name item kind (⟨rfl, rfl⟩ | hmem) hname
          · exact absurd rfl (hother name kind hname)
          · exact heach name item kind hmem hname
        · exact fun heach name item kind hmem hname => heach name item kind (.inr hmem) hname
    | some kind =>
      constructor
      · rintro ⟨hnew, hterm, hrest⟩
        obtain ⟨honce, heach⟩ := (ih (key :: given)).mp hrest
        refine ⟨fun name other hname => ?_, ?_⟩
        · have hcount := honce name other hname
          by_cases hsame : key = name
          · subst hsame
            rw [if_pos List.mem_cons_self] at hcount
            rw [if_neg hnew, if_pos rfl]
            omega
          · have hne : ¬ name = key := fun h => hsame h.symm
            simpa [hsame, hne] using hcount
        · rintro name item other (⟨rfl, rfl⟩ | hmem) hname
          · obtain rfl := Option.some.inj (hkey.symm.trans hname)
            exact hterm
          · exact heach name item other hmem hname
      · rintro ⟨honce, heach⟩
        have hfirst := honce key kind hkey
        rw [if_pos rfl] at hfirst
        have hnew : key ∉ given := by
          intro hmem
          rw [if_pos hmem] at hfirst
          omega
        refine ⟨hnew, heach key term kind (.inl ⟨rfl, rfl⟩) hkey, (ih (key :: given)).mpr
          ⟨fun name other hname => ?_, fun name item other hmem =>
            heach name item other (.inr hmem)⟩⟩
        have hcount := honce name other hname
        by_cases hsame : key = name
        · subst hsame
          rw [if_neg hnew, if_pos rfl] at hcount
          rw [if_pos List.mem_cons_self]
          omega
        · have hne : ¬ name = key := fun h => hsame h.symm
          simpa [hsame, hne] using hcount

/-- An object without repeated keys is admitted if its fields are. -/
theorem admits_object {members : List (String × Term)} (hkeys : (members.map Prod.fst).Nodup)
    (h : ∀ member ∈ members, ∀ kind, kinds.lookup member.1 = some kind → Admits kind member.2) :
    Admits (.record kinds) (.object members) :=
  .object kinds members (fun key _ _ => List.nodup_iff_count_le_one.mp hkeys key)
    fun key term kind hmem => h (key, term) hmem kind

/-- Whether all fields among those done are noted as given. -/
def Noted (kinds : List (String × Kind)) (done : List (String × Term)) (given : List String) :
    Prop :=
  ∀ key ∈ done.map Prod.fst, (kinds.lookup key).isSome → key ∈ given

/-- One may note more keys than there were. -/
theorem Noted.cons {done : List (String × Term)} {given : List String}
    (h : Noted kinds done given) (key : String) : Noted kinds done (key :: given) :=
  fun name hname hknown => List.mem_cons_of_mem key (h name hname hknown)

/-- Another member is noted by its key, if there is a field for it. -/
theorem Noted.concat {done : List (String × Term)} {given : List String}
    (h : Noted kinds done given) {key : String}
    (hkey : (kinds.lookup key).isSome → key ∈ given) (term : Term) :
    Noted kinds (done ++ [(key, term)]) given := by
  intro name hname hknown
  rw [List.map_append, List.mem_append] at hname
  rcases hname with hname | hname
  · exact h name hname hknown
  · obtain rfl := List.mem_singleton.mp hname
    exact hkey hknown

/-- The fields of a record are read from an object one after the other. -/
theorem record_members_answer (hfields : List.Forall₂ (FieldAnswers view depth) fields kinds)
    (hunknown : ∀ done key term, kinds.lookup key = none →
      view (done ++ [(key, term)]) = view done)
    (hdepth : depth ≤ nesting) (members : List (String × Term)) {first : Bool} {text : List Char}
    (hrenders : RendersMembers first members text) (done : List (String × Term))
    (given : List String)
    (hgiven : Noted kinds done given)
    (hkept : ∀ member ∈ members, ∀ kind, kinds.lookup member.1 = some kind →
      Kept nesting kind member.2) {fuel : Nat} {rest : List Char}
    (hfuel : (text ++ rest).length < fuel) :
    ∃ final, Answer rest (Accepts kinds given members) (some (view (done ++ members), final))
      (membersFrom (recordMember fields nesting) fuel first (view done, given) (text ++ rest)) := by
  induction members generalizing first text done given fuel with
  | nil =>
    rw [hrenders.read_nil _ _ hfuel, List.append_nil]
    exact ⟨given, .accepted trivial (view done, given)⟩
  | cons member members ih =>
    obtain ⟨key, term⟩ := member
    obtain ⟨space, value, behind, less, hspace, hvalue, hrest, hless, hstep⟩ :=
      hrenders.read_cons (recordMember fields nesting) (view done, given) hfuel
    have hends : Apart (behind ++ rest) := hrest.apart rest
    have hothers : ∀ member ∈ members, ∀ kind, kinds.lookup member.1 = some kind →
        Kept nesting kind member.2 :=
      fun member hmember => hkept member (List.mem_cons_of_mem _ hmember)
    rw [hstep, Accepts]
    -- The member is no field, or a field for the second time, or one that is read.
    rcases find_described hfields key with
      ⟨hfield, hkind⟩ | ⟨field, kind, hfield, hkind, -, change, hreads, hchange⟩
    · have hnoted : Noted kinds (done ++ [(key, term)]) given :=
        hgiven.concat (fun hknown => by rw [hkind] at hknown; cases hknown) term
      have hnext := ih hrest (done ++ [(key, term)]) given hnoted hothers hless
      rw [hunknown done key term hkind, List.append_assoc, List.singleton_append] at hnext
      simp only [recordMember, hfield, hkind]
      show ∃ final, Answer rest _ _ ((skipValue _ >>= _) >>= _)
      rw [skip_value_renders hvalue hspace hends]
      exact hnext
    · simp only [recordMember, hfield, hkind]
      by_cases hrepeated : key ∈ given
      · rw [if_pos (List.contains_iff_mem.mpr hrepeated)]
        exact ⟨given, .refused (fun hadmits => hadmits.1 hrepeated) _ _⟩
      · have hnew : key ∉ done.map Prod.fst := by
          intro hmem
          refine hrepeated (hgiven key hmem ?_)
          rw [hkind]
          rfl
        have hcontains : ¬ given.contains key = true :=
          fun hmem => hrepeated (List.contains_iff_mem.mp hmem)
        have hread := hreads term value hvalue nesting space (behind ++ rest) hdepth
          (hkept (key, term) List.mem_cons_self kind hkind) hspace hends
        have hnoted : Noted kinds (done ++ [(key, term)]) (key :: given) :=
          (hgiven.cons key).concat (fun _ => List.mem_cons_self) term
        obtain ⟨final, hnext⟩ :=
          ih hrest (done ++ [(key, term)]) (key :: given) hnoted hothers hless
        rw [← hchange done term (Schema.lookup_eq_none_iff.mpr hnew), List.append_assoc,
          List.singleton_append] at hnext
        rw [if_neg hcontains]
        refine ⟨final, ?_⟩
        show Answer rest _ _ ((field.read nesting _ >>= _) >>= _)
        rw [bind_assoc]
        refine (hread.bind hnext).congr ?_
        exact ⟨fun hboth => ⟨hrepeated, hboth⟩, And.right⟩

/-! ## Both -/

/-- A record is read from what stands under the keys of its fields, if one more list or object may
be opened. -/
theorem record_answers (hfields : List.Forall₂ (FieldAnswers view depth) fields kinds)
    (hkeys : (kinds.map Prod.fst).Nodup)
    (hunknown : ∀ done key term, kinds.lookup key = none →
      view (done ++ [(key, term)]) = view done) (name : String) :
    (Format.record name (view []) fields : Reader σ).Answers (.record kinds) (depth + 1)
      fun term => (term.fields? (kinds.map Prod.fst)).map view := by
  intro term text hrenders hnull nesting space rest hdepth hkept hspace hends
  obtain ⟨nesting, rfl⟩ :=
    Nat.exists_eq_add_of_le' (Nat.le_trans (Nat.le_add_left 1 depth) hdepth)
  have hbelow : depth ≤ nesting := Nat.le_of_succ_le_succ hdepth
  show Answer rest _ _ (record name (view []) fields (nesting + 1) _)
  by_cases harray : ∃ items, term = .array items
  · obtain ⟨items, rfl⟩ := harray
    cases hrenders with
    | array _ text hitems =>
      have hanswer := record_items_answer hfields hkeys hbelow items hitems [] (fun _ _ => rfl)
        (kept_list_iff.mp hkept) rest
      rw [record, List.cons_append, skip_space_append hspace rfl]
      simp only [if_true]
      refine hanswer.congr ⟨fun h => .list kinds items h.1 h.2, fun hadmits => ?_⟩
      cases hadmits with
      | list _ _ hlength heach => exact ⟨hlength, heach⟩
  by_cases hobject : ∃ members, term = .object members
  · obtain ⟨members, rfl⟩ := hobject
    cases hrenders with
    | object _ text hmembers =>
      obtain ⟨final, hanswer⟩ := record_members_answer hfields hunknown hbelow members hmembers []
        [] nofun (kept_object_iff.mp hkept) (Nat.lt_succ_self (text ++ rest).length)
      rw [record, List.cons_append, skip_space_append hspace rfl]
      simp only [Char.reduceEq, if_false, if_true, Json.members]
      refine (hanswer.map Prod.fst).congr ((accepts_iff members []).trans ?_)
      refine ⟨fun h => .object kinds members h.1 h.2, fun hadmits => ?_⟩
      cases hadmits with
      | object _ _ honce heach => exact ⟨honce, heach⟩
  obtain ⟨c, others, rfl, hheads⟩ := hrenders.head
  have hbracket : ¬ c = '[' := fun hc => harray (hheads.array.mp hc)
  have hbrace : ¬ c = '\x7b' := fun hc => hobject (hheads.object.mp hc)
  rw [record, List.cons_append, skip_space_append hspace hheads.notSpace]
  simp only [if_neg hbracket, if_neg hbrace]
  refine .refused (fun hadmits => ?_) _ _
  cases hadmits with
  | null => exact hnull rfl
  | object _ members => exact hobject ⟨members, rfl⟩
  | list _ items => exact harray ⟨items, rfl⟩

end

end StorageBackend.Json

import StorageBackend.Proofs.Basic
import StorageBackend.Proofs.Json.Term
import StorageBackend.Storage.Kind

/-!
# Names of kinds

A kind is named in three places, each with a table of its own: where it is shown, where a name is
given as plain text, and in JSON. A string in a JSON text is taken as in plain text, however it is
spelled (`of_json_renders`, `named_eq`), and so the tables agree on every string, also in what they
refuse (`names_agree`).
-/

namespace StorageBackend.StorageKind

open Json (IsSpace Renders)

/-! ## Plain text -/

/-- The name of a kind is one of the names that are taken, for this kind. -/
theorem of_name_name (kind : StorageKind) : ofName? kind.name = some kind := by
  cases kind <;> rfl

/-- What is found under a name has this name. -/
theorem of_name_eq_some_iff (name : String) (kind : StorageKind) :
    ofName? name = some kind ↔ name = kind.name := by
  constructor
  · intro h
    unfold ofName? at h
    split at h <;> cases h <;> rfl
  · rintro rfl
    exact of_name_name kind

/-- The names that are not taken are those of no kind. -/
theorem of_name_eq_none_iff (name : String) :
    ofName? name = none ↔ ∀ kind : StorageKind, name ≠ kind.name := by
  simp only [Option.eq_none_iff_forall_ne_some, ne_eq, of_name_eq_some_iff]

/-- A text is read as a kind exactly if it is the name of the kind. -/
theorem parse_eq_ok_iff (name : String) (kind : StorageKind) :
    parse name = .ok kind ↔ name = kind.name := by
  rw [← of_name_eq_some_iff, parse]
  cases ofName? name <;> simp

/-- What is no name is refused, and the complaint holds all of it. -/
theorem parse_of_unknown {name : String} (h : ∀ kind : StorageKind, name ≠ kind.name) :
    parse name = .error (unknownName name) := by
  rw [parse, (of_name_eq_none_iff name).mpr h]

/-! ## JSON -/

/-- The label in lower case is the name. -/
theorem json_name_eq (kind : StorageKind) : kind.jsonName = kind.name := by
  -- lower case does not compute on texts, but it does on lists of characters
  apply String.toList_inj.mp
  show (String.map Char.toLower kind.label).toList = _
  rw [String.toList_map]
  cases kind <;> rfl

/-- A kind is written as its name. -/
theorem to_json_eq (kind : StorageKind) : kind.toJson = .string kind.name := by
  rw [toJson, json_name_eq]

/-- In JSON the same kind is found under a name. -/
theorem find_json_name (name : String) :
    (all.find? fun kind => kind.jsonName == name) = ofName? name := by
  simp only [json_name_eq]
  cases h : ofName? name with
  | none =>
    rw [List.find?_eq_none]
    intro kind _ hkind
    exact (of_name_eq_none_iff name).mp h kind (beq_iff_eq.mp hkind).symm
  | some kind =>
    rw [(of_name_eq_some_iff name kind).mp h]
    cases kind <;> rfl

/-- A name is taken in JSON as in plain text, but for the words of the complaint. -/
theorem named_eq (name : String) :
    named name = (parse name).mapError fun _ =>
      .shape (.unknownVariant name (all.map StorageKind.name)) := by
  have hnames : all.map jsonName = all.map StorageKind.name :=
    List.map_congr_left fun kind _ => json_name_eq kind
  rw [named, find_json_name, parse, hnames]
  cases ofName? name <;> rfl

/-- Where a kind is asked for, a string is taken as its name. -/
theorem scan_renders {content : String} {text space : List Char}
    (h : Renders (.string content) text) (hspace : IsSpace space) (rest : List Char) :
    scan (space ++ (text ++ rest)) = (do .ok (← named content, rest)) := by
  obtain ⟨tail, rfl, htail⟩ := h.string_tail
  rw [scan, List.cons_append, Json.skip_space_append hspace rfl]
  simp only [if_true]
  rw [htail]
  show (do .ok (← named (String.ofList content.toList), rest)) = _
  rw [String.ofList_toList]

/-- A text that holds a string is read as the kind that the string names. -/
theorem of_json_renders {content : String} {text before after : List Char}
    (h : Renders (.string content) text) (hbefore : IsSpace before) (hafter : IsSpace after) :
    ofJson (String.ofList (before ++ (text ++ after))) = named content := by
  rw [ofJson, String.toList_ofList]
  cases hnamed : named content with
  | ok kind =>
    refine Json.run_eq_ok_iff.mpr ⟨after, ?_, hafter⟩
    rw [scan_renders h hbefore, hnamed]
    rfl
  | error error =>
    refine Json.run_of_eq_error ?_
    rw [scan_renders h hbefore, hnamed]
    rfl

/-- The tables of names agree. A string is taken for a kind, as plain text and from every JSON text
that holds it, exactly if the kind is shown by this string. Any other string is refused in both
places with a complaint that holds all of it. What is printed as JSON is the name that is shown. -/
theorem names_agree (name : String) {text before after : List Char}
    (h : Renders (.string name) text) (hbefore : IsSpace before) (hafter : IsSpace after) :
    (∀ kind : StorageKind, (parse name = .ok kind ↔ name = kind.name) ∧
      (ofJson (String.ofList (before ++ (text ++ after))) = .ok kind ↔ name = kind.name)) ∧
    ((∀ kind : StorageKind, name ≠ kind.name) →
      parse name = .error ("unknown storage kind: " ++ name) ∧
      ofJson (String.ofList (before ++ (text ++ after))) =
        .error (.shape (.unknownVariant name (all.map StorageKind.name)))) ∧
    ∀ kind : StorageKind, toString kind = kind.name ∧ kind.toJson = .string kind.name ∧
      Renders (.string kind.name) kind.toJson.compact := by
  have hread := (of_json_renders h hbefore hafter).trans (named_eq name)
  refine ⟨fun kind => ⟨parse_eq_ok_iff name kind, ?_⟩, fun hunknown => ?_,
    fun kind => ⟨rfl, to_json_eq kind, ?_⟩⟩
  · rw [hread, map_error_eq_ok_iff]
    exact parse_eq_ok_iff name kind
  · have hrefused := parse_of_unknown hunknown
    refine ⟨hrefused, ?_⟩
    rw [hread, hrefused]
    rfl
  · rw [to_json_eq]
    exact .string kind.name _ (Json.escaped_spells kind.name.toList)

/-- A letter of a name may be written by its number, with space around the string, but it has to be
the small letter. -/
theorem escaped_name_taken :
    Renders (.string "s3") "\"\\u00733\"".toList ∧ IsSpace ['\t'] ∧ IsSpace ['\n'] ∧
      ofJson "\t\"\\u00733\"\n" = .ok .s3 ∧
      Renders (.string "S3") "\"\\u00533\"".toList ∧ (∀ kind : StorageKind, "S3" ≠ kind.name) ∧
      parse "S3" = .error "unknown storage kind: S3" ∧
      ofJson "\"\\u00533\"" = .error (.shape (.unknownVariant "S3"
        ["azure", "gcs", "s3", "emptydir", "filesystem", "swift"])) := by
  have htab : IsSpace ['\t'] := List.all_eq_true.mp rfl
  have hbreak : IsSpace ['\n'] := List.all_eq_true.mp rfl
  have hdigit : Json.Spells ['3'] ['3'] :=
    .plain '3' [] [] (by decide) (by decide) (by decide) .nil
  have hsmall : Json.FourDigits 's'.toNat '0' '0' '7' '3' := by
    constructor <;> exact ⟨by decide, .inl rfl⟩
  have hcapital : Json.FourDigits 'S'.toNat '0' '0' '5' '3' := by
    constructor <;> exact ⟨by decide, .inl rfl⟩
  have htaken : Renders (.string "s3") "\"\\u00733\"".toList :=
    .string "s3" _ (.number 's' _ _ _ _ _ _ hsmall hdigit)
  have hrefused : Renders (.string "S3") "\"\\u00533\"".toList :=
    .string "S3" _ (.number 'S' _ _ _ _ _ _ hcapital hdigit)
  have hunknown : ∀ kind : StorageKind, "S3" ≠ kind.name := by
    intro kind
    cases kind <;> decide
  exact ⟨htaken, htab, hbreak, ((names_agree "s3" htaken htab hbreak).1 .s3).2.mpr rfl, hrefused,
    hunknown, (names_agree "S3" hrefused Json.space_nil Json.space_nil).2.1 hunknown⟩

end StorageBackend.StorageKind

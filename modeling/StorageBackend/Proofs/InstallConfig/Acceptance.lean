import StorageBackend.Proofs.InstallConfig.Choice
import StorageBackend.Proofs.Json.Record

/-!
# Installation configurations in JSON

A JSON object is accepted as an installation configuration exactly if it is of the kind
`InstallConfig.kinds`: every known field is given once at most, at every level, and with null or a
value of its kind. The configuration that is decoded from any text of the object holds what is
written under the known keys (`InstallConfig.ofFields`).
-/

namespace StorageBackend

open Schema Format
open Json (Admits FieldAnswers IsSpace Keeps Kept Kind Reader Renders Term Value)

/-! ## Kinds -/

/-- The fields of metadata. -/
def InstallMetadata.kinds : List (String × Kind) := [("name", .text)]

/-- The fields of Amazon's platform. -/
def AwsPlatform.kinds : List (String × Kind) := [("region", .text)]

/-- The fields of Google's platform. -/
def GcpPlatform.kinds : List (String × Kind) := [("projectID", .text), ("region", .text)]

/-- The fields of Microsoft's platform. -/
def AzurePlatform.kinds : List (String × Kind) := [("region", .text)]

/-- The fields of OpenStack as a platform. -/
def OpenStackPlatform.kinds : List (String × Kind) := [("region", .text), ("cloud", .text)]

/-- The fields of a platform. The last three hold values of any shape. -/
def Platform.kinds : List (String × Kind) :=
  [("aws", .record AwsPlatform.kinds), ("gcp", .record GcpPlatform.kinds),
    ("azure", .record AzurePlatform.kinds), ("openstack", .record OpenStackPlatform.kinds),
    ("libvirt", .free), ("vsphere", .free), ("none", .free)]

/-- The fields of a configuration. -/
def InstallConfig.kinds : List (String × Kind) :=
  [("metadata", .record InstallMetadata.kinds), ("baseDomain", .text),
    ("platform", .record Platform.kinds)]

/-! ## What fields stand for -/

/-- The text under a key. -/
def textUnder (fields : List (String × Term)) (key : String) : String :=
  ((fields.lookup key).bind Term.text?).getD default

/-- What the record under a key stands for. -/
def recordUnder {α : Type} (fields : List (String × Term)) (key : String)
    (kinds : List (String × Kind)) (view : List (String × Term) → α) : Option α :=
  (fields.lookup key).bind fun term => (term.fields? (kinds.map Prod.fst)).map view

/-- The value of any shape under a key. -/
def valueUnder (fields : List (String × Term)) (key : String) : Option Value :=
  (fields.lookup key).bind Term.value?

/-- Metadata from its fields. -/
def InstallMetadata.ofFields (fields : List (String × Term)) : InstallMetadata where
  name := textUnder fields "name"

/-- Amazon's platform from its fields. -/
def AwsPlatform.ofFields (fields : List (String × Term)) : AwsPlatform where
  region := textUnder fields "region"

/-- Google's platform from its fields. -/
def GcpPlatform.ofFields (fields : List (String × Term)) : GcpPlatform where
  projectId := textUnder fields "projectID"
  region := textUnder fields "region"

/-- Microsoft's platform from its fields. -/
def AzurePlatform.ofFields (fields : List (String × Term)) : AzurePlatform where
  region := textUnder fields "region"

/-- OpenStack as a platform, from its fields. -/
def OpenStackPlatform.ofFields (fields : List (String × Term)) : OpenStackPlatform where
  region := textUnder fields "region"
  cloud := textUnder fields "cloud"

/-- A platform from a field for each kind. -/
def Platform.ofFields (fields : List (String × Term)) : Platform where
  aws := recordUnder fields "aws" AwsPlatform.kinds AwsPlatform.ofFields
  gcp := recordUnder fields "gcp" GcpPlatform.kinds GcpPlatform.ofFields
  azure := recordUnder fields "azure" AzurePlatform.kinds AzurePlatform.ofFields
  openStack := recordUnder fields "openstack" OpenStackPlatform.kinds OpenStackPlatform.ofFields
  libvirt := valueUnder fields "libvirt"
  vSphere := valueUnder fields "vsphere"
  bare := valueUnder fields "none"

/-- The configuration that the fields of an object stand for. -/
def InstallConfig.ofFields (fields : List (String × Term)) : InstallConfig where
  metadata :=
    (recordUnder fields "metadata" InstallMetadata.kinds InstallMetadata.ofFields).getD default
  baseDomain := textUnder fields "baseDomain"
  platform := (recordUnder fields "platform" Platform.kinds Platform.ofFields).getD default

/-! ## Reading -/

section

variable {depth : Nat}

/-- A field with a text accepts a text or null, which counts as the empty text. -/
theorem some_text_answers :
    (someText : Reader String).AnswersField .text depth fun term => term.text?.getD default :=
  Json.map_answers (Json.optional_answers Json.text_answers rfl) fun value => value.getD default

/-- A field answers if its reader does. -/
theorem field_answers {σ α : Type} {view : List (String × Term) → σ} {kind : Kind}
    {read : Reader α} {value : Term → α} (hread : read.AnswersField kind depth value)
    {key : String} {set : α → σ → σ}
    (hset : ∀ done term, done.lookup key = none →
      set (value term) (view done) = view (done ++ [(key, term)])) :
    FieldAnswers view depth (field key read set) (key, kind) :=
  ⟨rfl, fun term => set (value term), Json.map_answers hread set, hset⟩

/-- A record of a kind, or null for the default. -/
theorem defaulted_answers {α : Type} [Inhabited α] {read : Reader α} {kinds : List (String × Kind)}
    {view : List (String × Term) → α}
    (h : read.Answers (.record kinds) depth fun term =>
      (term.fields? (kinds.map Prod.fst)).map view) :
    (defaulted read).AnswersField (.record kinds) depth fun term =>
      ((term.fields? (kinds.map Prod.fst)).map view).getD default :=
  Json.map_answers (Json.optional_answers h rfl) fun value => value.getD default

/-- The metadata accept exactly the terms of their kinds. -/
theorem InstallMetadata.schema_answers :
    (InstallMetadata.schema : Reader InstallMetadata).Answers (.record kinds) (depth + 1)
      fun term => (term.fields? (kinds.map Prod.fst)).map ofFields := by
  refine Json.record_answers (.cons (field_answers some_text_answers ?_) .nil) (by decide) ?_
    "InstallMetadata"
  · intro done term hnone
    simp [ofFields, textUnder, Json.lookup_concat, hnone]
  · intro done key term hunknown
    simp [ofFields, textUnder, Json.lookup_concat_unknown hunknown]

/-- So do the settings for AWS. -/
theorem AwsPlatform.schema_answers :
    (AwsPlatform.schema : Reader AwsPlatform).Answers (.record kinds) (depth + 1)
      fun term => (term.fields? (kinds.map Prod.fst)).map ofFields := by
  refine Json.record_answers (.cons (field_answers some_text_answers ?_) .nil) (by decide) ?_
    "AwsPlatform"
  · intro done term hnone
    simp [ofFields, textUnder, Json.lookup_concat, hnone]
  · intro done key term hunknown
    simp [ofFields, textUnder, Json.lookup_concat_unknown hunknown]

/-- So do the settings for Google's platform. -/
theorem GcpPlatform.schema_answers :
    (GcpPlatform.schema : Reader GcpPlatform).Answers (.record kinds) (depth + 1)
      fun term => (term.fields? (kinds.map Prod.fst)).map ofFields := by
  refine Json.record_answers (.cons (field_answers some_text_answers ?_)
    (.cons (field_answers some_text_answers ?_) .nil)) (by decide) ?_ "GcpPlatform"
  · intro done term hnone
    simp [ofFields, textUnder, Json.lookup_concat, hnone]
  · intro done term hnone
    simp [ofFields, textUnder, Json.lookup_concat, hnone]
  · intro done key term hunknown
    simp [ofFields, textUnder, Json.lookup_concat_unknown hunknown]

/-- So do the settings for Azure. -/
theorem AzurePlatform.schema_answers :
    (AzurePlatform.schema : Reader AzurePlatform).Answers (.record kinds) (depth + 1)
      fun term => (term.fields? (kinds.map Prod.fst)).map ofFields := by
  refine Json.record_answers (.cons (field_answers some_text_answers ?_) .nil) (by decide) ?_
    "AzurePlatform"
  · intro done term hnone
    simp [ofFields, textUnder, Json.lookup_concat, hnone]
  · intro done key term hunknown
    simp [ofFields, textUnder, Json.lookup_concat_unknown hunknown]

/-- So do the settings for OpenStack. -/
theorem OpenStackPlatform.schema_answers :
    (OpenStackPlatform.schema : Reader OpenStackPlatform).Answers (.record kinds) (depth + 1)
      fun term => (term.fields? (kinds.map Prod.fst)).map ofFields := by
  refine Json.record_answers (.cons (field_answers some_text_answers ?_)
    (.cons (field_answers some_text_answers ?_) .nil)) (by decide) ?_ "OpenStackPlatform"
  · intro done term hnone
    simp [ofFields, textUnder, Json.lookup_concat, hnone]
  · intro done term hnone
    simp [ofFields, textUnder, Json.lookup_concat, hnone]
  · intro done key term hunknown
    simp [ofFields, textUnder, Json.lookup_concat_unknown hunknown]

/-- A platform accepts exactly the terms of its kinds, one level deeper. -/
theorem Platform.schema_answers :
    (Platform.schema : Reader Platform).Answers (.record kinds) (depth + 2)
      fun term => (term.fields? (kinds.map Prod.fst)).map ofFields := by
  have hfree : (optional free : Reader (Option Value)).AnswersField .free (depth + 1) Term.value? :=
    Json.optional_answers Json.free_answers rfl
  refine Json.record_answers
    (.cons (field_answers (Json.optional_answers AwsPlatform.schema_answers rfl) ?_)
      (.cons (field_answers (Json.optional_answers GcpPlatform.schema_answers rfl) ?_)
        (.cons (field_answers (Json.optional_answers AzurePlatform.schema_answers rfl) ?_)
          (.cons (field_answers (Json.optional_answers OpenStackPlatform.schema_answers rfl) ?_)
            (.cons (field_answers hfree ?_)
              (.cons (field_answers hfree ?_) (.cons (field_answers hfree ?_) .nil)))))))
    (by decide) ?_ "Platform"
  case refine_8 =>
    intro done key term hunknown
    simp [ofFields, recordUnder, valueUnder, Json.lookup_concat_unknown hunknown]
  all_goals
    intro done term hnone
    simp [ofFields, recordUnder, valueUnder, Json.lookup_concat, hnone]

/-- A configuration is read from the objects of its kind, and all others are refused. -/
theorem InstallConfig.schema_answers :
    (InstallConfig.schema : Reader InstallConfig).Answers (.record kinds) (depth + 3)
      fun term => (term.fields? (kinds.map Prod.fst)).map ofFields := by
  refine Json.record_answers
    (.cons (field_answers (defaulted_answers InstallMetadata.schema_answers) ?_)
      (.cons (field_answers some_text_answers ?_)
        (.cons (field_answers (defaulted_answers Platform.schema_answers) ?_) .nil)))
    (by decide) ?_ "InstallConfig"
  case refine_4 =>
    intro done key term hunknown
    simp [ofFields, textUnder, recordUnder, Json.lookup_concat_unknown hunknown]
  all_goals
    intro done term hnone
    simp [ofFields, textUnder, recordUnder, Json.lookup_concat, hnone]

end

/-! ## Whole texts -/

namespace InstallConfig

/-- Space is white space. -/
theorem is_blank_of_is_space {c : Char} (h : Json.isSpace c = true) : Text.isBlank c = true := by
  simp only [Json.isSpace, Bool.or_eq_true, beq_iff_eq] at h
  rcases h with ((rfl | rfl) | rfl) | rfl
  · rfl
  · rfl
  · rfl
  · rfl

/-- An object is read as JSON, and space around it does not count. -/
theorem decode_object {text before after : List Char} (hbefore : IsSpace before) :
    decode (String.ofList (before ++ '\x7b' :: text ++ after)) =
      ofJson ('\x7b' :: text ++ after) := by
  have hblank : ∀ c ∈ before, Text.isBlank c = true :=
    fun c hc => is_blank_of_is_space (hbefore c hc)
  rw [List.append_assoc]
  exact decode_of_brace (trim_start_of_blank hblank (by decide) _)

/-- A text of an object is decoded exactly if the object is of the kind of configurations, and then
to what its fields stand for. The values of any shape that it keeps have to be readable: fewer than
128 lists and objects around one another, those around the value included, and no numbers but
integers of at most 64 bits. -/
theorem json_accepted_iff_admitted {members : List (String × Term)} {text before after : List Char}
    (h : Renders (.object members) text) (hbefore : IsSpace before) (hafter : IsSpace after)
    (hkept : ∀ around kept, Keeps (.record kinds) (.object members) around kept →
      around + kept.depth < 128 ∧ kept.Integral) :
    ((∃ config, decode (String.ofList (before ++ text ++ after)) = .ok config) ↔
        Admits (.record kinds) (.object members)) ∧
      (Admits (.record kinds) (.object members) →
        decode (String.ofList (before ++ text ++ after)) = .ok (ofFields members)) := by
  have hbelow : Kept Json.maxNesting (.record kinds) (.object members) := by
    intro around kept hkeeps
    obtain ⟨hdepth, hintegral⟩ := hkept around kept hkeeps
    exact ⟨Nat.le_of_lt_succ hdepth, hintegral⟩
  obtain ⟨haccepted, hrefused⟩ :=
    Json.run_answers schema_answers (Nat.le_add_left 3 124) h nofun hbelow hafter
  cases h with
  | object _ others hmembers =>
    rw [decode_object hbefore, ofJson]
    by_cases hadmits : Admits (.record kinds) (.object members)
    · obtain ⟨config, hconfig, hrun⟩ := haccepted hadmits
      obtain rfl : ofFields members = config := Option.some.inj hconfig
      rw [hrun]
      exact ⟨⟨fun _ => hadmits, fun _ => ⟨_, rfl⟩⟩, fun _ => rfl⟩
    · obtain ⟨error, hrun⟩ := hrefused hadmits
      rw [hrun]
      refine ⟨⟨fun hdecoded => ?_, fun h => absurd h hadmits⟩, fun h => absurd h hadmits⟩
      obtain ⟨config, hconfig⟩ := hdecoded
      cases hconfig

/-- An unknown member, and records as lists of their first fields, with an escape in a text. -/
def listForm : List (String × Term) :=
  [("notes", .array [.number ⟨true, 1, some ⟨5, []⟩, none⟩]),
    ("metadata", .array [.string "a\"b"]),
    ("platform", .array
      [.object [("region", .string "eu")], .null, .null, .null,
        .object [("nodes", .number ⟨false, 3, none, none⟩)]])]

/-- A document with lists in place of objects is admitted. -/
theorem admits_list_form : Admits (.record kinds) (.object listForm) := by
  have haws : Admits (.record AwsPlatform.kinds) (.object [("region", .string "eu")]) := by
    refine Json.admits_object (by decide) ?_
    rw [List.forall_mem_singleton]
    rintro kind ⟨⟩
    exact .text "eu"
  have hmetadata : Json.AdmitsItems InstallMetadata.kinds [.string "a\"b"] := by
    simp only [InstallMetadata.kinds, Json.admits_items_cons]
    exact ⟨.text "a\"b", Json.admits_items_nil _⟩
  have hplatform : Json.AdmitsItems Platform.kinds
      [.object [("region", .string "eu")], .null, .null, .null,
        .object [("nodes", .number ⟨false, 3, none, none⟩)]] := by
    simp only [Platform.kinds, Json.admits_items_cons]
    exact ⟨haws, .null _, .null _, .null _, .free _, Json.admits_items_nil _⟩
  refine Json.admits_object (by decide) ?_
  simp only [listForm, List.forall_mem_cons]
  refine ⟨nofun, ?_, ?_, nofun⟩
  · rintro kind ⟨⟩
    exact .list _ _ hmetadata.1 hmetadata.2
  · rintro kind ⟨⟩
    exact .list _ _ hplatform.1 hplatform.2

/-- What is kept of this document is not nested too deeply, and has no fractions. -/
theorem kept_list_form : Kept 127 (.record kinds) (.object listForm) := by
  have haws : Kept 125 (.record AwsPlatform.kinds) (.object [("region", .string "eu")]) := by
    refine Json.kept_object_iff.mpr ?_
    rw [List.forall_mem_singleton]
    rintro kind ⟨⟩
    exact Json.kept_text _ _
  have hlibvirt : Kept 125 .free (.object [("nodes", .number ⟨false, 3, none, none⟩)]) := by
    have hthree : Json.Numeral.IsInteger ⟨false, 3, none, none⟩ :=
      ⟨rfl, rfl, nofun, fun _ => by decide⟩
    exact Json.kept_free_iff.mpr ⟨by decide, hthree, trivial⟩
  have hmetadata : Kept 126 (.record InstallMetadata.kinds) (.array [.string "a\"b"]) := by
    refine Json.kept_list_iff.mpr ?_
    simp only [InstallMetadata.kinds, List.zip_cons_cons, List.zip_nil_right, List.forall_mem_cons]
    exact ⟨Json.kept_text _ _, nofun⟩
  have hplatform : Kept 126 (.record Platform.kinds) (.array
      [.object [("region", .string "eu")], .null, .null, .null,
        .object [("nodes", .number ⟨false, 3, none, none⟩)]]) := by
    refine Json.kept_list_iff.mpr ?_
    simp only [Platform.kinds, List.zip_cons_cons, List.zip_nil_right, List.forall_mem_cons]
    exact ⟨haws, Json.kept_null _ _, Json.kept_null _ _, Json.kept_null _ _, hlibvirt, nofun⟩
  refine Json.kept_object_iff.mpr ?_
  simp only [listForm, List.forall_mem_cons]
  refine ⟨nofun, ?_, ?_, nofun⟩
  · rintro kind ⟨⟩
    exact hmetadata
  · rintro kind ⟨⟩
    exact hplatform

/-- Lists are decoded from a text with space around it. -/
theorem list_form_decoded :
    decode ("\n \x7b\"notes\":[-1.5],\"metadata\":[\"a\\\"b\"]," ++
        "\"platform\":[\x7b\"region\":\"eu\"\x7d,null,null,null,\x7b\"nodes\":3\x7d]\x7d\n") =
      .ok
        { (default : InstallConfig) with
          metadata := ⟨"a\"b"⟩
          platform :=
            { (default : Platform) with
              aws := some ⟨"eu"⟩, libvirt := some (.object [("nodes", .integer 3)]) } } := by
  have hkept : ∀ around kept, Keeps (.record kinds) (.object listForm) around kept →
      around + kept.depth < 128 ∧ kept.Integral := by
    intro around kept hkeeps
    obtain ⟨hdepth, hintegral⟩ := kept_list_form around kept hkeeps
    exact ⟨Nat.lt_succ_of_le hdepth, hintegral⟩
  have hbefore : IsSpace ['\n', ' '] := List.all_eq_true.mp rfl
  have hafter : IsSpace ['\n'] := List.all_eq_true.mp rfl
  exact (json_accepted_iff_admitted (Json.renders_compact (.object listForm)) hbefore hafter
    hkept).2 admits_list_form

end InstallConfig

end StorageBackend

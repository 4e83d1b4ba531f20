import StorageBackend.Proofs.Api.Recognition
import StorageBackend.Proofs.Basic
import StorageBackend.Proofs.Json.Lenient
import StorageBackend.Proofs.Text.Base64

/-!
# Secrets in responses

Which terms are secrets with certain data (`IsSecret`), and which responses carry them (`Carries`):
in any JSON spelling, with members in any order and of any name, and with whatever metadata objects
of the cluster may have. The reader of secrets takes all of them and gives the data that they carry
(`secret_takes`), so a response that carries a secret tells a read that the secret is there, with
this data (`told_secret`).
-/

namespace StorageBackend.Api

open Cluster (Secret)
open Json (AreMembers DictionaryOf FieldReads IsBoolean IsInt64 IsSpace IsText ListOf NullOr Reader
  RecordOf Renders Term)
open Schema (Field Format)
open Text.Utf8 (encode)

variable {α σ : Type} {depth : Nat}

/-! ## Shapes -/

/-- A point in time. -/
def IsTimestamp (term : Term) : Prop :=
  ∃ content, term = .string content ∧ Text.Timestamp.isTimestamp content = true

/-- Bytes in Base64. -/
def IsBytes (term : Term) : Prop := ∃ bytes, term = .string (Text.Base64.encode bytes)

/-- A set of fields: objects inside of one another, not too many. There are no fractions in it. -/
def IsFieldSet (term : Term) : Prop := term.depth ≤ 123 ∧ term.Integral

/-- What a reference to the owner of an object has. -/
def ownerShapes : List (String × (Term → Prop)) :=
  [("apiVersion", NullOr IsText), ("blockOwnerDeletion", NullOr IsBoolean),
    ("controller", NullOr IsBoolean), ("kind", NullOr IsText), ("name", NullOr IsText),
    ("uid", NullOr IsText)]

/-- What is told about who manages fields of an object. -/
def managedShapes : List (String × (Term → Prop)) :=
  [("apiVersion", NullOr IsText), ("fieldsType", NullOr IsText), ("fieldsV1", NullOr IsFieldSet),
    ("manager", NullOr IsText), ("operation", NullOr IsText), ("subresource", NullOr IsText),
    ("time", NullOr IsTimestamp)]

/-- What the metadata of an object has. -/
def metadataShapes : List (String × (Term → Prop)) :=
  [("annotations", NullOr (DictionaryOf IsText)), ("creationTimestamp", NullOr IsTimestamp),
    ("deletionGracePeriodSeconds", NullOr IsInt64), ("deletionTimestamp", NullOr IsTimestamp),
    ("finalizers", NullOr (ListOf IsText)), ("generateName", NullOr IsText),
    ("generation", NullOr IsInt64), ("labels", NullOr (DictionaryOf IsText)),
    ("managedFields", NullOr (ListOf (RecordOf managedShapes))), ("name", NullOr IsText),
    ("namespace", NullOr IsText), ("ownerReferences", NullOr (ListOf (RecordOf ownerShapes))),
    ("resourceVersion", NullOr IsText), ("selfLink", NullOr IsText), ("uid", NullOr IsText)]

/-- What a secret has. -/
def secretShapes : List (String × (Term → Prop)) :=
  [("apiVersion", (· = .string "v1")), ("kind", (· = .string "Secret")),
    ("metadata", NullOr (RecordOf metadataShapes)), ("data", NullOr (DictionaryOf IsBytes)),
    ("immutable", NullOr IsBoolean), ("stringData", NullOr (DictionaryOf IsText)),
    ("type", NullOr IsText)]

/-- Bytes under keys, as they stand in a secret. -/
def dataTerm (entries : List (String × List UInt8)) : Term :=
  .object (entries.map fun entry => (entry.1, .string (Text.Base64.encode entry.2)))

/-- A secret with some data. If the data is given more than once, this is what is given last. -/
inductive IsSecret (entries : List (String × List UInt8)) : Term → Prop where
  | object (before after : List (String × Term)) (hbefore : AreMembers secretShapes before)
      (hafter : AreMembers secretShapes after) (hlast : "data" ∉ after.map Prod.fst) :
      IsSecret entries (.object (before ++ ("data", dataTerm entries) :: after))

/-- A response that is no refusal and whose body is a secret with some data. -/
inductive Carries (entries : List (String × List UInt8)) : Response → Prop where
  | body (response : Response) (term : Term) (before text after : List Char)
      (hrefusal : response.isRefusal = false) (hsecret : IsSecret entries term)
      (hrenders : Renders term text) (hbefore : IsSpace before) (hafter : IsSpace after)
      (hbody : response.body = encode (String.ofList (before ++ (text ++ after)))) :
      Carries entries response

/-! ## Readers of the parts -/

/-- Timestamps are read from texts that are timestamps. -/
theorem timestamp_reads : timestamp.Reads depth IsTimestamp := by
  rintro term ⟨content, rfl, htimestamp⟩
  exact ⟨(), Json.refined_takes (Json.text_takes content) (if_pos htimestamp)⟩

/-- A fixed text is taken from this text. -/
theorem exactly_takes (expected : String) :
    (exactly expected).Takes depth (.string expected) () :=
  Json.refined_takes (Json.text_takes expected) (if_pos rfl)

/-- Bytes are taken from the Base64 text of them. -/
theorem bytes_takes (content : List UInt8) :
    bytes.Takes depth (.string (Text.Base64.encode content)) content :=
  Json.refined_takes (Json.optional_takes_some (Json.text_takes _) nofun)
    (Text.Base64.decode_encode content)

/-- Bytes are read from Base64 texts. -/
theorem bytes_reads : bytes.Reads depth IsBytes := by
  rintro term ⟨content, rfl⟩
  exact ⟨content, bytes_takes content⟩

/-- A set of fields is read from values without fractions that are not nested too deeply. -/
theorem field_set_reads : Reader.Reads Json.value 123 IsFieldSet := by
  rintro term ⟨hdepth, hintegral⟩
  exact ⟨term.value, Json.value_takes hdepth hintegral⟩

section

variable {P : String → (σ → σ) → Prop}

/-- What is not kept changes nothing. -/
theorem passed_reads {read : Reader α} {shape : Term → Prop} (h : read.Reads depth shape)
    (key : String) (hid : P key id) :
    FieldReads P depth (passed key read : Field Reader σ) (key, NullOr shape) := by
  refine ⟨rfl, fun term hterm => ?_⟩
  obtain ⟨value, htakes⟩ := Json.optional_reads h term hterm
  exact ⟨id, Json.map_takes htakes _, hid⟩

/-- What is kept sets a part of the state. -/
theorem set_reads {read : Reader α} {shape : Term → Prop} (h : read.Reads depth shape)
    (key : String) (set : α → σ → σ) (hset : ∀ value, P key (set value)) :
    FieldReads P depth (Format.field key read set : Field Reader σ) (key, shape) := by
  refine ⟨rfl, fun term hterm => ?_⟩
  obtain ⟨value, htakes⟩ := h term hterm
  exact ⟨set value, Json.map_takes htakes set, hset value⟩

end

/-- A reference to an owner is read from objects whose members fit. -/
theorem owner_reads : ownerReference.Reads (depth + 1) (RecordOf ownerShapes) := by
  refine Json.lenient_record_reads ?_ "OwnerReference" ()
  refine .cons (passed_reads Json.text_reads _ trivial) ?_
  refine .cons (passed_reads Json.boolean_reads _ trivial) ?_
  refine .cons (passed_reads Json.boolean_reads _ trivial) ?_
  refine .cons (passed_reads Json.text_reads _ trivial) ?_
  refine .cons (passed_reads Json.text_reads _ trivial) ?_
  exact .cons (passed_reads Json.text_reads _ trivial) .nil

/-- What a manager owns is read from objects whose members fit. -/
theorem managed_reads : managedFields.Reads 124 (RecordOf managedShapes) := by
  refine Json.lenient_record_reads ?_ "ManagedFieldsEntry" ()
  refine .cons (passed_reads Json.text_reads _ trivial) ?_
  refine .cons (passed_reads Json.text_reads _ trivial) ?_
  refine .cons (passed_reads field_set_reads _ trivial) ?_
  refine .cons (passed_reads Json.text_reads _ trivial) ?_
  refine .cons (passed_reads Json.text_reads _ trivial) ?_
  refine .cons (passed_reads Json.text_reads _ trivial) ?_
  exact .cons (passed_reads timestamp_reads _ trivial) .nil

/-- Metadata are read from objects in which every member that counts has its shape, whatever the
other members are. -/
theorem metadata_reads : metadata.Reads 126 (RecordOf metadataShapes) := by
  have htexts : texts.Reads 125 (DictionaryOf IsText) := Json.dictionary_reads Json.text_reads
  have hfinalizers : (Json.list text).Reads 125 (ListOf IsText) := Json.list_reads Json.text_reads
  have hmanaged : (Json.list managedFields).Reads 125 (ListOf (RecordOf managedShapes)) :=
    Json.list_reads managed_reads
  have howners : (Json.list ownerReference).Reads 125 (ListOf (RecordOf ownerShapes)) :=
    Json.list_reads owner_reads
  refine Json.lenient_record_reads ?_ "ObjectMeta" default
  refine .cons (passed_reads htexts _ trivial) ?_
  refine .cons (passed_reads timestamp_reads _ trivial) ?_
  refine .cons (passed_reads Json.int64_reads _ trivial) ?_
  refine .cons (passed_reads timestamp_reads _ trivial) ?_
  refine .cons (passed_reads hfinalizers _ trivial) ?_
  refine .cons (passed_reads Json.text_reads _ trivial) ?_
  refine .cons (passed_reads Json.int64_reads _ trivial) ?_
  refine .cons (passed_reads htexts _ trivial) ?_
  refine .cons (passed_reads hmanaged _ trivial) ?_
  refine .cons (set_reads (Json.optional_reads Json.text_reads) _ _ fun _ => trivial) ?_
  refine .cons (set_reads (Json.optional_reads Json.text_reads) _ _ fun _ => trivial) ?_
  refine .cons (passed_reads howners _ trivial) ?_
  refine .cons (passed_reads Json.text_reads _ trivial) ?_
  refine .cons (passed_reads Json.text_reads _ trivial) ?_
  exact .cons (passed_reads Json.text_reads _ trivial) .nil

/-! ## Secrets -/

/-- A change of a secret that leaves its data as it is, unless it is the one for the data. -/
def KeepsData (key : String) (change : Secret → Secret) : Prop :=
  key ≠ "data" → ∀ object, (change object).data = object.data

/-- Leaving everything as it is keeps the data. -/
theorem keeps_data_id (key : String) : KeepsData key id := fun _ _ => rfl

/-- The fields of a secret. -/
def secretFields : List (Field Reader Secret) :=
  [Format.field "apiVersion" (exactly version) fun _ o => o,
    Format.field "kind" (exactly "Secret") fun _ o => o,
    Format.field "metadata" (Format.defaulted metadata) fun m o =>
      { o with name := m.name, ns := m.ns },
    Format.field "data" (Format.optional (Json.dictionary bytes)) fun entries o =>
      { o with data := entries },
    passed "immutable" Json.boolean, passed "stringData" texts, passed "type" text]

/-- Secrets are read as records of their fields. -/
theorem secret_eq : secret = Json.lenientRecord "Secret" default secretFields := rfl

/-- Every field of a secret is read from its shape, and all but the data keep the data. -/
theorem secret_fields_read :
    List.Forall₂ (FieldReads KeepsData 126) secretFields secretShapes := by
  have htexts : texts.Reads 126 (DictionaryOf IsText) := Json.dictionary_reads Json.text_reads
  have hdata : (Json.dictionary bytes).Reads 126 (DictionaryOf IsBytes) :=
    Json.dictionary_reads bytes_reads
  have hversion : (exactly version).Reads 126 (· = .string "v1") := by
    rintro term rfl
    exact ⟨(), exactly_takes version⟩
  have hkind : (exactly "Secret").Reads 126 (· = .string "Secret") := by
    rintro term rfl
    exact ⟨(), exactly_takes "Secret"⟩
  have hmetadata : (Format.defaulted metadata : Reader Metadata).Reads 126
      (NullOr (RecordOf metadataShapes)) := fun term hterm => by
    obtain ⟨value, htakes⟩ := Json.optional_reads metadata_reads term hterm
    exact ⟨_, Json.map_takes htakes _⟩
  refine .cons (set_reads hversion _ _ fun _ _ _ => rfl) ?_
  refine .cons (set_reads hkind _ _ fun _ _ _ => rfl) ?_
  refine .cons (set_reads hmetadata _ _ fun _ _ _ => rfl) ?_
  refine .cons (set_reads (Json.optional_reads hdata) _ _ fun _ hne => absurd rfl hne) ?_
  refine .cons (passed_reads Json.boolean_reads _ (keeps_data_id _)) ?_
  refine .cons (passed_reads htexts _ (keeps_data_id _)) ?_
  exact .cons (passed_reads Json.text_reads _ (keeps_data_id _)) .nil

/-- The data is read as the entries that it has. -/
theorem data_takes (entries : List (String × List UInt8)) :
    (Json.dictionary bytes).Takes 126 (dataTerm entries) (Entries.ofList entries) := by
  refine Json.dictionary_takes (List.forall₂_map_left_iff.mpr (List.forall₂_same.mpr ?_))
  exact fun entry _ => ⟨rfl, bytes_takes entry.2⟩

/-- Members behind the data leave it as it is. -/
theorem data_of_members {members : List (String × Term)} {changes : List (Secret → Secret)}
    {R : String × Term → (Secret → Secret) → Prop}
    (h : List.Forall₂ (fun member change => R member change ∧ KeepsData member.1 change) members
      changes) (hlast : "data" ∉ members.map Prod.fst) (object : Secret) :
    (changes.foldl (fun object change => change object) object).data = object.data := by
  induction h generalizing object with
  | nil => rfl
  | cons hmember _ ih =>
    rw [List.map_cons, List.mem_cons, not_or] at hlast
    exact (ih hlast.2 _).trans (hmember.2 (Ne.symm hlast.1) object)

/-- A secret is taken with the data that it carries. -/
theorem secret_takes {entries : List (String × List UInt8)} {term : Term}
    (h : IsSecret entries term) :
    ∃ object, secret.Takes Json.maxNesting term object ∧
      object.data = some (Entries.ofList entries) := by
  cases h with
  | object before after hbefore hafter hlast =>
    obtain ⟨first, hfirst⟩ :=
      Json.lenient_members_take secret_fields_read keeps_data_id hbefore
    obtain ⟨later, hlater⟩ := Json.lenient_members_take secret_fields_read keeps_data_id hafter
    have hdata : Json.MemberTakes (Json.lenientMember secretFields) 126
        ("data", dataTerm entries)
        (fun object => { object with data := some (Entries.ofList entries) }) :=
      Json.map_takes (Json.optional_takes_some (data_takes entries) nofun) _
    have hmembers := List.rel_append (hfirst.imp fun _ _ h => h.1)
      (.cons hdata (hlater.imp fun _ _ h => h.1))
    rw [secret_eq]
    refine ⟨_, Json.lenient_record_takes hmembers "Secret" default, ?_⟩
    rw [List.foldl_append, List.foldl_cons]
    exact data_of_members hlater hlast _

/-- A response that carries a secret tells a read that the secret is there, with the bytes that it
carries under its keys. -/
theorem told_secret {entries : List (String × List UInt8)} {response : Response}
    (h : Carries entries response) :
    ∃ object : Secret, Told secret (.ok response) (.ok (some object)) ∧
      object.data = some (Entries.ofList entries) := by
  cases h with
  | body term before text after hrefusal hsecret hrenders hbefore hafter hbody =>
    obtain ⟨object, htakes, hdata⟩ := secret_takes hsecret
    refine ⟨object, .object response _ object hbody hrefusal ?_, hdata⟩
    rw [String.toList_ofList]
    exact htakes.run (Nat.le_refl _) hrenders hbefore hafter

end StorageBackend.Api

import StorageBackend.Proofs.Json.Printed
import StorageBackend.Proofs.Storage.Names
import StorageBackend.Storage.Summary

/-!
# Printed summaries

What is printed of a configuration is its summary, as a JSON object. Both ways of printing say the
same, and a reader gets every member back with the text that the configuration holds
(`summary_read_back`). What is not known is left out, and of the credentials no more is told than
whether all of them are there.
-/

namespace StorageBackend

open Json (Term Value ReadBack listedMembers valuesOfMembers)

/-- The keys of a summary, in the order in which they are printed. -/
def StorageSummary.keys : List String := ["type", "region", "bucket", "container", "hasCredentials"]

namespace StorageConfig

/-- What access to the storage needs. -/
def credentials : StorageConfig → List String
  | .azure c => [c.accountName, c.accountKey]
  | .gcs c => [c.keyfileData]
  | .s3 c => [c.accessKey, c.secretKey]
  | .emptyDir | .filesystem | .swift => []

/-- Whether storage that needs credentials has all of them. -/
def HasCredentials (config : StorageConfig) : Prop :=
  config.credentials ≠ [] ∧ ∀ text ∈ config.credentials, text ≠ ""

instance (config : StorageConfig) : Decidable config.HasCredentials :=
  inferInstanceAs (Decidable (_ ∧ _))

/-- What is told of a configuration, and under which key. -/
inductive Tells (config : StorageConfig) : (key : String) → Value → Prop where
  | kind : Tells config "type" (.string config.kind.name)
  | region (c : S3Credentials) (h : config = .s3 c) (hregion : c.region ≠ "") :
      Tells config "region" (.string c.region)
  | s3Bucket (c : S3Credentials) (h : config = .s3 c) (hbucket : c.bucket ≠ "") :
      Tells config "bucket" (.string c.bucket)
  | gcsBucket (c : GcsCredentials) (h : config = .gcs c) (hbucket : c.bucket ≠ "") :
      Tells config "bucket" (.string c.bucket)
  | container (c : AzureCredentials) (h : config = .azure c) (hcontainer : c.container ≠ "") :
      Tells config "container" (.string c.container)
  | hasCredentials : Tells config "hasCredentials" (.boolean (decide config.HasCredentials))

end StorageConfig

/-- Only a text that is not empty counts as there. -/
theorem non_empty_eq_some_iff (text found : String) :
    nonEmpty? text = some found ↔ text ≠ "" ∧ found = text := by
  unfold nonEmpty?
  by_cases h : text = ""
  · simp [h]
  · rw [if_neg (by rwa [String.isEmpty_iff]), Option.some_inj]
    exact ⟨fun heq => ⟨h, heq.symm⟩, fun hfound => hfound.2.symm⟩

/-! ## Parts of summaries -/

namespace StorageConfig

variable (config : StorageConfig) (text : String)

/-- A summary has the kind of the configuration. -/
theorem summary_kind : config.summary.kind = config.kind := by
  cases config <;> rfl

/-- A summary has a region if it is for S3 with a region that is not empty. -/
theorem summary_region_iff :
    config.summary.region = some text ↔
      ∃ c, config = .s3 c ∧ c.region ≠ "" ∧ text = c.region := by
  cases config <;> simp [summary, non_empty_eq_some_iff]

/-- A summary has a bucket if it is for S3 or Google cloud storage with a bucket that is not empty.
-/
theorem summary_bucket_iff :
    config.summary.bucket = some text ↔
      (∃ c, config = .s3 c ∧ c.bucket ≠ "" ∧ text = c.bucket) ∨
        ∃ c, config = .gcs c ∧ c.bucket ≠ "" ∧ text = c.bucket := by
  cases config <;> simp [summary, non_empty_eq_some_iff]

/-- A summary has a container if it is for Azure with a container that is not empty. -/
theorem summary_container_iff :
    config.summary.container = some text ↔
      ∃ c, config = .azure c ∧ c.container ≠ "" ∧ text = c.container := by
  cases config <;> simp [summary, non_empty_eq_some_iff]

/-- A summary says whether there are credentials. -/
theorem summary_has_credentials :
    config.summary.hasCredentials = decide config.HasCredentials := by
  rw [Bool.eq_iff_iff, decide_eq_true_iff]
  cases config <;> simp [summary, HasCredentials, credentials]

end StorageConfig

/-! ## Members -/

namespace StorageSummary

/-- The members of a printed summary. -/
def members (s : StorageSummary) : List (String × Value) :=
  [("type", s.kind.toJson)] ++ member? "region" s.region ++ member? "bucket" s.bucket ++
    member? "container" s.container ++ [("hasCredentials", .boolean s.hasCredentials)]

/-- A part that is known is the one member under its name, and any other part is none. -/
theorem mem_member_iff (name : String) (known : Option String) (key : String) (value : Value) :
    (key, value) ∈ member? name known ↔
      ∃ text, known = some text ∧ key = name ∧ value = .string text := by
  simp [member?, eq_comm]

/-- A member that may be left out comes where its key does. -/
theorem member_sublist (name : String) (known : Option String) :
    ((member? name known).map Prod.fst).Sublist [name] := by
  cases known with
  | none => exact List.nil_sublist _
  | some text => exact List.Sublist.refl _

/-- The keys stand in order, each at most once. -/
theorem members_sublist (s : StorageSummary) : (s.members.map Prod.fst).Sublist keys := by
  have hregion := member_sublist "region" s.region
  have hbucket := member_sublist "bucket" s.bucket
  have hcontainer := member_sublist "container" s.container
  simp only [members, List.map_append]
  exact ((((List.Sublist.refl ["type"]).append hregion).append hbucket).append hcontainer).append
    (List.Sublist.refl ["hasCredentials"])

/-- The members as terms. -/
def terms (s : StorageSummary) : List (String × Term) :=
  let term? (key : String) (known : Option String) : List (String × Term) :=
    known.toList.map fun text => (key, .string text)
  [("type", .string s.kind.name)] ++ term? "region" s.region ++ term? "bucket" s.bucket ++
    term? "container" s.container ++ [("hasCredentials", .boolean s.hasCredentials)]

/-- A summary is read back, however it is printed. -/
theorem read_back (s : StorageSummary) :
    ReadBack s.members s.toJson.compact ∧ ReadBack s.members s.toJson.pretty := by
  have hterms : listedMembers s.terms = s.members ∧ valuesOfMembers s.terms = s.members ∧
      Json.IntegralMembers s.terms ∧ (Term.object s.terms).depth = 1 := by
    obtain ⟨kind, region, bucket, container, hasCredentials⟩ := s
    rw [members, StorageKind.to_json_eq]
    cases region <;> cases bucket <;> cases container
    all_goals exact ⟨rfl, rfl, by simp [terms, Json.IntegralMembers, Term.Integral], rfl⟩
  obtain ⟨hlisted, hvalues, hintegral, hdepth⟩ := hterms
  have hnesting : (Term.object s.terms).depth ≤ Json.maxNesting := by rw [hdepth]; decide
  have hjson : s.toJson = .object (listedMembers s.terms) := by rw [hlisted]; rfl
  rw [hjson, ← hvalues]
  exact ⟨.compact hnesting hintegral, .pretty hnesting hintegral⟩

/-- Under every key stands what is known, if it is. -/
theorem mem_members_iff (s : StorageSummary) (key : String) (value : Value) :
    (key, value) ∈ s.members ↔
      (key = "type" ∧ value = .string s.kind.name) ∨
      (∃ text, s.region = some text ∧ key = "region" ∧ value = .string text) ∨
      (∃ text, s.bucket = some text ∧ key = "bucket" ∧ value = .string text) ∨
      (∃ text, s.container = some text ∧ key = "container" ∧ value = .string text) ∨
      (key = "hasCredentials" ∧ value = .boolean s.hasCredentials) := by
  simp only [members, List.mem_append, mem_member_iff, List.mem_singleton, Prod.mk.injEq, or_assoc,
    StorageKind.to_json_eq]

end StorageSummary

namespace StorageConfig

/-- The members of a summary tell nothing else of the configuration. -/
theorem mem_summary_iff_tells (config : StorageConfig) (key : String) (value : Value) :
    (key, value) ∈ config.summary.members ↔ config.Tells key value := by
  rw [StorageSummary.mem_members_iff, summary_kind, summary_has_credentials]
  simp only [summary_region_iff, summary_bucket_iff, summary_container_iff]
  constructor
  · rintro (⟨rfl, rfl⟩ | ⟨_, ⟨c, h, hregion, rfl⟩, rfl, rfl⟩ |
      ⟨_, ⟨c, h, hbucket, rfl⟩ | ⟨c, h, hbucket, rfl⟩, rfl, rfl⟩ |
      ⟨_, ⟨c, h, hcontainer, rfl⟩, rfl, rfl⟩ | ⟨rfl, rfl⟩)
    · exact .kind
    · exact .region c h hregion
    · exact .s3Bucket c h hbucket
    · exact .gcsBucket c h hbucket
    · exact .container c h hcontainer
    · exact .hasCredentials
  · intro h
    cases h with
    | kind => exact .inl ⟨rfl, rfl⟩
    | region c h hregion => exact .inr (.inl ⟨_, ⟨c, h, hregion, rfl⟩, rfl, rfl⟩)
    | s3Bucket c h hbucket => exact .inr (.inr (.inl ⟨_, .inl ⟨c, h, hbucket, rfl⟩, rfl, rfl⟩))
    | gcsBucket c h hbucket => exact .inr (.inr (.inl ⟨_, .inr ⟨c, h, hbucket, rfl⟩, rfl, rfl⟩))
    | container c h hcontainer =>
      exact .inr (.inr (.inr (.inl ⟨_, ⟨c, h, hcontainer, rfl⟩, rfl, rfl⟩)))
    | hasCredentials => exact .inr (.inr (.inr (.inr ⟨rfl, rfl⟩)))

end StorageConfig

/-- The summary of a configuration is printed as a JSON object in either way, and read back as what
is told of the configuration, in order. -/
theorem ResolvedConfig.summary_read_back (resolved : ResolvedConfig) :
    ∃ members, ReadBack members resolved.summary.toJson.compact ∧
      ReadBack members resolved.summary.toJson.pretty ∧
      (members.map Prod.fst).Sublist StorageSummary.keys ∧
      ∀ key value, (key, value) ∈ members ↔ resolved.storage.Tells key value := by
  obtain ⟨hcompact, hpretty⟩ := resolved.summary.read_back
  exact ⟨resolved.summary.members, hcompact, hpretty, resolved.summary.members_sublist,
    resolved.storage.mem_summary_iff_tells⟩

end StorageBackend

import StorageBackend.InstallConfig.Schema
import StorageBackend.Proofs.Tree.Shape

/-!
# Trees of installation configurations

`InstallConfig.ofBlock` is the configuration that the members of a document stand for: what is found
under the known keys, in whatever order, and the default where there is nothing or null.
`InstallConfig.schema` reads it from every tree of the shape `InstallConfig.shape` in which no field
is given twice (`schema_reads`), and in every other format it reads the same as from trees
(`schema_follows`).
-/

namespace StorageBackend

open Schema Format
open StorageBackend.Tree (Correspondence FieldReads FieldsRelated Fits Member Node Phrase Reader
  Reads ReadsField Repeats Shape lookup)

/-! ## What members stand for -/

/-- The text under a key. -/
def textAt (block : List Member) (key : String) : String :=
  ((lookup block key).bind Node.text?).getD default

/-- What the members of the block under a key stand for. -/
def blockAt {α : Type} (block : List Member) (key : String) (view : List Member → α) : Option α :=
  (lookup block key).bind fun node => node.block?.map view

/-- Metadata from its members. -/
def InstallMetadata.ofBlock (block : List Member) : InstallMetadata where
  name := textAt block "name"

/-- Amazon's platform from its members. -/
def AwsPlatform.ofBlock (block : List Member) : AwsPlatform where
  region := textAt block "region"

/-- Google's platform from its members. -/
def GcpPlatform.ofBlock (block : List Member) : GcpPlatform where
  projectId := textAt block "projectID"
  region := textAt block "region"

/-- Microsoft's platform from its members. -/
def AzurePlatform.ofBlock (block : List Member) : AzurePlatform where
  region := textAt block "region"

/-- OpenStack as a platform, from its members. -/
def OpenStackPlatform.ofBlock (block : List Member) : OpenStackPlatform where
  region := textAt block "region"
  cloud := textAt block "cloud"

/-- A platform from a member for each kind. -/
def Platform.ofBlock (block : List Member) : Platform where
  aws := blockAt block "aws" AwsPlatform.ofBlock
  gcp := blockAt block "gcp" GcpPlatform.ofBlock
  azure := blockAt block "azure" AzurePlatform.ofBlock
  openStack := blockAt block "openstack" OpenStackPlatform.ofBlock
  libvirt := blockAt block "libvirt" fun _ => .object []
  vSphere := blockAt block "vsphere" fun _ => .object []
  bare := blockAt block "none" fun _ => .object []

/-- The configuration that the members of a document stand for. -/
def InstallConfig.ofBlock (block : List Member) : InstallConfig where
  metadata := (blockAt block "metadata" InstallMetadata.ofBlock).getD default
  baseDomain := textAt block "baseDomain"
  platform := (blockAt block "platform" Platform.ofBlock).getD default

/-! ## Shapes -/

/-- The shape of metadata. -/
def InstallMetadata.shape : Shape := .record [("name", .text)]

/-- The shape of Amazon's platform. -/
def AwsPlatform.shape : Shape := .record [("region", .text)]

/-- The shape of Google's platform. -/
def GcpPlatform.shape : Shape := .record [("projectID", .text), ("region", .text)]

/-- The shape of Microsoft's platform. -/
def AzurePlatform.shape : Shape := .record [("region", .text)]

/-- The shape of OpenStack as a platform. -/
def OpenStackPlatform.shape : Shape := .record [("region", .text), ("cloud", .text)]

/-- The shape of a platform. The last three are admitted without members only. -/
def Platform.shape : Shape :=
  .record [("aws", AwsPlatform.shape), ("gcp", GcpPlatform.shape), ("azure", AzurePlatform.shape),
    ("openstack", OpenStackPlatform.shape), ("libvirt", .empty), ("vsphere", .empty),
    ("none", .empty)]

/-- The shape of a document. -/
def InstallConfig.shape : Shape :=
  .record [("metadata", InstallMetadata.shape), ("baseDomain", .text), ("platform", Platform.shape)]

/-! ## Reading -/

/-- A field with a text reads the text of a node, and the empty text where there is none. -/
theorem some_text_reads :
    ReadsField .text (someText : Reader String) fun node => node.text?.getD default :=
  Tree.map_reads (Tree.optional_reads Tree.text_reads) fun value => value.getD default

/-- A field is read by its reader. -/
theorem field_reads {σ α : Type} {view : List Member → σ} {shape : Shape} {read : Reader α}
    {value : Node → α} (hread : ReadsField shape read value) {key : String} {set : α → σ → σ}
    (hset : ∀ done member node, Phrase.string member = key → lookup done key = none →
      set (value node) (view done) = view (done ++ [(member, node)])) :
    FieldReads view (field key read set) (key, shape) :=
  ⟨rfl, fun node => set (value node), Tree.map_reads hread set, hset⟩

/-- The metadata are read from the members that stand for them. -/
theorem InstallMetadata.schema_reads :
    Reads InstallMetadata.shape InstallMetadata.schema fun node =>
      node.block?.map InstallMetadata.ofBlock := by
  refine Tree.record_reads (.cons (field_reads some_text_reads ?_) .nil) ?_ "InstallMetadata"
  · intro done member node hkey hnone
    simp [ofBlock, textAt, Tree.lookup_concat, hkey, hnone]
  · intro done key node hunknown
    simp [ofBlock, textAt, Tree.lookup_concat_unknown hunknown]

/-- So are the settings for AWS. -/
theorem AwsPlatform.schema_reads :
    Reads AwsPlatform.shape AwsPlatform.schema fun node =>
      node.block?.map AwsPlatform.ofBlock := by
  refine Tree.record_reads (.cons (field_reads some_text_reads ?_) .nil) ?_ "AwsPlatform"
  · intro done member node hkey hnone
    simp [ofBlock, textAt, Tree.lookup_concat, hkey, hnone]
  · intro done key node hunknown
    simp [ofBlock, textAt, Tree.lookup_concat_unknown hunknown]

/-- So are the settings for Google's platform. -/
theorem GcpPlatform.schema_reads :
    Reads GcpPlatform.shape GcpPlatform.schema fun node =>
      node.block?.map GcpPlatform.ofBlock := by
  refine Tree.record_reads (.cons (field_reads some_text_reads ?_)
    (.cons (field_reads some_text_reads ?_) .nil)) ?_ "GcpPlatform"
  · intro done member node hkey hnone
    simp [ofBlock, textAt, Tree.lookup_concat, hkey, hnone]
  · intro done member node hkey hnone
    simp [ofBlock, textAt, Tree.lookup_concat, hkey, hnone]
  · intro done key node hunknown
    simp [ofBlock, textAt, Tree.lookup_concat_unknown hunknown]

/-- So are the settings for Azure. -/
theorem AzurePlatform.schema_reads :
    Reads AzurePlatform.shape AzurePlatform.schema fun node =>
      node.block?.map AzurePlatform.ofBlock := by
  refine Tree.record_reads (.cons (field_reads some_text_reads ?_) .nil) ?_ "AzurePlatform"
  · intro done member node hkey hnone
    simp [ofBlock, textAt, Tree.lookup_concat, hkey, hnone]
  · intro done key node hunknown
    simp [ofBlock, textAt, Tree.lookup_concat_unknown hunknown]

/-- So are the settings for OpenStack. -/
theorem OpenStackPlatform.schema_reads :
    Reads OpenStackPlatform.shape OpenStackPlatform.schema fun node =>
      node.block?.map OpenStackPlatform.ofBlock := by
  refine Tree.record_reads (.cons (field_reads some_text_reads ?_)
    (.cons (field_reads some_text_reads ?_) .nil)) ?_ "OpenStackPlatform"
  · intro done member node hkey hnone
    simp [ofBlock, textAt, Tree.lookup_concat, hkey, hnone]
  · intro done member node hkey hnone
    simp [ofBlock, textAt, Tree.lookup_concat, hkey, hnone]
  · intro done key node hunknown
    simp [ofBlock, textAt, Tree.lookup_concat_unknown hunknown]

/-- A platform is read from the members that stand for it and for its settings. -/
theorem Platform.schema_reads :
    Reads Platform.shape Platform.schema fun node => node.block?.map Platform.ofBlock := by
  have hfree := Tree.optional_reads Tree.free_reads
  refine Tree.record_reads
    (.cons (field_reads (Tree.optional_reads AwsPlatform.schema_reads) ?_)
      (.cons (field_reads (Tree.optional_reads GcpPlatform.schema_reads) ?_)
        (.cons (field_reads (Tree.optional_reads AzurePlatform.schema_reads) ?_)
          (.cons (field_reads (Tree.optional_reads OpenStackPlatform.schema_reads) ?_)
            (.cons (field_reads hfree ?_)
              (.cons (field_reads hfree ?_) (.cons (field_reads hfree ?_) .nil)))))))
    ?_ "Platform"
  case refine_8 =>
    intro done key node hunknown
    simp [ofBlock, blockAt, Tree.lookup_concat_unknown hunknown]
  all_goals
    intro done member node hkey hnone
    simp [ofBlock, blockAt, Tree.lookup_concat, hkey, hnone]

/-- A configuration is read as what its members stand for. -/
theorem InstallConfig.schema_reads :
    Reads InstallConfig.shape InstallConfig.schema fun node =>
      node.block?.map InstallConfig.ofBlock := by
  have hmetadata := Tree.map_reads (Tree.optional_reads InstallMetadata.schema_reads)
    fun value => value.getD default
  have hplatform := Tree.map_reads (Tree.optional_reads Platform.schema_reads)
    fun value => value.getD default
  refine Tree.record_reads
    (.cons (field_reads hmetadata ?_)
      (.cons (field_reads some_text_reads ?_) (.cons (field_reads hplatform ?_) .nil)))
    ?_ "InstallConfig"
  case refine_4 =>
    intro done key node hunknown
    simp [ofBlock, textAt, blockAt, Tree.lookup_concat_unknown hunknown]
  all_goals
    intro done member node hkey hnone
    simp [ofBlock, textAt, blockAt, Tree.lookup_concat, hkey, hnone]

/-! ## Other formats -/

section

variable {R : Type → Type} [Format R] (c : Correspondence R) {depth : Nat}

include c

/-- A field with a text is read alike in a format that corresponds. -/
theorem some_text_follows : c.Follows depth someText someText :=
  c.map (c.optional c.text) fun value => value.getD default

/-- A field follows if its reader does. -/
theorem field_follows {σ α : Type} {read : R α} {tree : Reader α} (h : c.Follows depth read tree)
    (key : String) (set : α → σ → σ) :
    (field key read set).key = (field key tree set).key ∧
      c.Follows depth (field key read set).read (field key tree set).read :=
  ⟨rfl, c.map h set⟩

/-- The metadata are read alike in a format that corresponds. -/
theorem InstallMetadata.schema_follows :
    c.Follows (depth + 1) InstallMetadata.schema InstallMetadata.schema :=
  c.record (.cons (field_follows c (some_text_follows c) _ _) .nil) _ _

/-- So are the settings for AWS. -/
theorem AwsPlatform.schema_follows :
    c.Follows (depth + 1) AwsPlatform.schema AwsPlatform.schema :=
  c.record (.cons (field_follows c (some_text_follows c) _ _) .nil) _ _

/-- So are the settings for Google's platform. -/
theorem GcpPlatform.schema_follows :
    c.Follows (depth + 1) GcpPlatform.schema GcpPlatform.schema :=
  c.record (.cons (field_follows c (some_text_follows c) _ _)
    (.cons (field_follows c (some_text_follows c) _ _) .nil)) _ _

/-- So are the settings for Azure. -/
theorem AzurePlatform.schema_follows :
    c.Follows (depth + 1) AzurePlatform.schema AzurePlatform.schema :=
  c.record (.cons (field_follows c (some_text_follows c) _ _) .nil) _ _

/-- So are the settings for OpenStack. -/
theorem OpenStackPlatform.schema_follows :
    c.Follows (depth + 1) OpenStackPlatform.schema OpenStackPlatform.schema :=
  c.record (.cons (field_follows c (some_text_follows c) _ _)
    (.cons (field_follows c (some_text_follows c) _ _) .nil)) _ _

/-- A platform is read alike, one level deeper. -/
theorem Platform.schema_follows :
    c.Follows (depth + 2) Platform.schema Platform.schema :=
  c.record
    (.cons (field_follows c (c.optional (AwsPlatform.schema_follows c)) _ _)
      (.cons (field_follows c (c.optional (GcpPlatform.schema_follows c)) _ _)
        (.cons (field_follows c (c.optional (AzurePlatform.schema_follows c)) _ _)
          (.cons (field_follows c (c.optional (OpenStackPlatform.schema_follows c)) _ _)
            (.cons (field_follows c (c.optional c.free) _ _)
              (.cons (field_follows c (c.optional c.free) _ _)
                (.cons (field_follows c (c.optional c.free) _ _) .nil))))))) _ _

/-- A configuration is read in every format as from trees. -/
theorem InstallConfig.schema_follows :
    c.Follows (depth + 3) InstallConfig.schema InstallConfig.schema :=
  c.record
    (.cons (field_follows c
        (c.map (c.optional (InstallMetadata.schema_follows c)) fun value => value.getD default) _ _)
      (.cons (field_follows c (some_text_follows c) _ _)
        (.cons (field_follows c
          (c.map (c.optional (Platform.schema_follows c)) fun value => value.getD default) _ _)
          .nil))) _ _

end

end StorageBackend

import StorageBackend.Proofs.InstallConfig.Tree
import StorageBackend.Proofs.Yaml.Layout

/-!
# Documents of installation configurations

A document holds a configuration if what is found under the known keys is the configuration, however
it is written. There is a document for every configuration of printable texts (`exists_document`):
one with a member for each field.
-/

namespace StorageBackend.InstallConfig

open StorageBackend.Tree (Fits Member Node Proper Repeats entries)

/-- The members of a document that holds a configuration. -/
structure IsDocument (config : InstallConfig) (block : List Member) : Prop where
  fits : Fits InstallConfig.shape (.block block)
  writable : Yaml.WritableMembers block
  nonempty : block ≠ []
  holds : ofBlock block = config

/-! ## A member for each field -/

/-- A text in quotes. -/
def textNode (text : String) : Node := .text ⟨text.toList, true⟩

/-- A block, or null for nothing. -/
def optionNode {α : Type} (write : α → List Member) : Option α → Node
  | none => .null .lower
  | some value => .block (write value)

/-- The members of metadata. -/
def metadataBlock (metadata : InstallMetadata) : List Member :=
  entries [("name", textNode metadata.name)]

/-- The members of Amazon's platform. -/
def awsBlock (aws : AwsPlatform) : List Member := entries [("region", textNode aws.region)]

/-- The members of Google's platform. -/
def gcpBlock (gcp : GcpPlatform) : List Member :=
  entries [("projectID", textNode gcp.projectId), ("region", textNode gcp.region)]

/-- The members of Microsoft's platform. -/
def azureBlock (azure : AzurePlatform) : List Member :=
  entries [("region", textNode azure.region)]

/-- The members of OpenStack as a platform. -/
def openStackBlock (openStack : OpenStackPlatform) : List Member :=
  entries [("region", textNode openStack.region), ("cloud", textNode openStack.cloud)]

/-- The members of a platform. Values of any shape are written as empty blocks. -/
def platformBlock (platform : Platform) : List Member :=
  entries [("aws", optionNode awsBlock platform.aws), ("gcp", optionNode gcpBlock platform.gcp),
    ("azure", optionNode azureBlock platform.azure),
    ("openstack", optionNode openStackBlock platform.openStack),
    ("libvirt", optionNode (fun _ => []) platform.libvirt),
    ("vsphere", optionNode (fun _ => []) platform.vSphere),
    ("none", optionNode (fun _ => []) platform.bare)]

/-- A document of a configuration, with a member for each field. -/
def configBlock (config : InstallConfig) : List Member :=
  entries [("metadata", .block (metadataBlock config.metadata)),
    ("baseDomain", textNode config.baseDomain),
    ("platform", .block (platformBlock config.platform))]

/-- Texts of printable characters. -/
def PrintableText (text : String) : Prop := ∀ c ∈ text.toList, Yaml.isPrintable c = true

/-- Platforms of printable texts, with nothing in the blocks whose content is free. -/
structure PrintablePlatform (platform : Platform) : Prop where
  aws : ∀ aws ∈ platform.aws, PrintableText aws.region
  gcp : ∀ gcp ∈ platform.gcp, PrintableText gcp.projectId ∧ PrintableText gcp.region
  azure : ∀ azure ∈ platform.azure, PrintableText azure.region
  openStack : ∀ openStack ∈ platform.openStack,
    PrintableText openStack.region ∧ PrintableText openStack.cloud
  libvirt : ∀ value ∈ platform.libvirt, value = .object []
  vSphere : ∀ value ∈ platform.vSphere, value = .object []
  bare : ∀ value ∈ platform.bare, value = .object []

/-- Configurations of printable texts. -/
structure Printable (config : InstallConfig) : Prop where
  name : PrintableText config.metadata.name
  baseDomain : PrintableText config.baseDomain
  platform : PrintablePlatform config.platform

/-! ## What they hold -/

/-- The member for a text holds this text. -/
theorem text_text_node (text : String) : (textNode text).text? = some text :=
  congrArg some String.ofList_toList

/-- The member for an optional part holds it, if what is written for the part stands for it. -/
theorem block_option_node {α : Type} {write : α → List Member} {view : List Member → α}
    {value : Option α} (h : ∀ inner ∈ value, view (write inner) = inner) :
    (optionNode write value).block?.map view = value := by
  cases value with
  | none => rfl
  | some inner => exact congrArg some (h inner rfl)

/-- The members for a platform stand for it. -/
theorem of_platform_block {platform : Platform} (h : PrintablePlatform platform) :
    Platform.ofBlock (platformBlock platform) = platform := by
  have haws : ∀ aws, AwsPlatform.ofBlock (awsBlock aws) = aws := by
    intro aws
    simp [AwsPlatform.ofBlock, awsBlock, textAt, Tree.lookup_entries_cons, text_text_node]
  have hgcp : ∀ gcp, GcpPlatform.ofBlock (gcpBlock gcp) = gcp := by
    intro gcp
    simp [GcpPlatform.ofBlock, gcpBlock, textAt, Tree.lookup_entries_cons, text_text_node]
  have hazure : ∀ azure, AzurePlatform.ofBlock (azureBlock azure) = azure := by
    intro azure
    simp [AzurePlatform.ofBlock, azureBlock, textAt, Tree.lookup_entries_cons, text_text_node]
  have hopenStack : ∀ openStack,
      OpenStackPlatform.ofBlock (openStackBlock openStack) = openStack := by
    intro openStack
    simp [OpenStackPlatform.ofBlock, openStackBlock, textAt, Tree.lookup_entries_cons,
      text_text_node]
  obtain ⟨aws, gcp, azure, openStack, libvirt, vSphere, bare⟩ := platform
  -- What stands under each key is what was written there, so the fields can be compared one by one.
  simp only [Platform.ofBlock, platformBlock, blockAt, Tree.lookup_entries_cons]
  simp only [String.reduceEq, if_false, if_true, Option.bind_some]
  rw [block_option_node fun aws _ => haws aws, block_option_node fun gcp _ => hgcp gcp,
    block_option_node fun azure _ => hazure azure,
    block_option_node fun openStack _ => hopenStack openStack,
    block_option_node fun value hvalue => (h.libvirt value hvalue).symm,
    block_option_node fun value hvalue => (h.vSphere value hvalue).symm,
    block_option_node fun value hvalue => (h.bare value hvalue).symm]

/-- The members for a configuration stand for it. -/
theorem of_config_block {config : InstallConfig} (h : Printable config) :
    ofBlock (configBlock config) = config := by
  obtain ⟨⟨name⟩, baseDomain, platform⟩ := config
  simp [ofBlock, configBlock, metadataBlock, InstallMetadata.ofBlock, textAt, blockAt,
    Tree.lookup_entries_cons, text_text_node, Node.block?, of_platform_block h.platform]

/-! ## How they are written -/

/-- The names of all fields. -/
def fieldNames : List String :=
  ["metadata", "baseDomain", "platform", "name", "aws", "gcp", "azure", "openstack", "libvirt",
    "vsphere", "none", "region", "projectID", "cloud"]

/-- The names of fields may be written as keys. -/
theorem writable_name {key : String} (h : key ∈ fieldNames) :
    Yaml.WritableKey ⟨key.toList, false⟩ := by
  have hnames : ∀ key ∈ fieldNames, Yaml.isKey key.toList = true := by decide
  exact Yaml.writable_key_of_is_key (hnames key h)

/-- A text of printable characters can be written. -/
theorem writable_text_node {text : String} (h : PrintableText text) :
    Yaml.Writable (textNode text) := by
  rw [textNode, Yaml.Writable]
  exact ⟨h, nofun⟩

/-- An optional part can be written if the part can. -/
theorem writable_option_node {α : Type} {write : α → List Member} {value : Option α}
    (h : ∀ inner ∈ value, Yaml.WritableMembers (write inner)) :
    Yaml.Writable (optionNode write value) := by
  cases value with
  | none => trivial
  | some inner => exact h inner rfl

/-- Members with names of fields may be written if their values may be. -/
theorem writable_entries {fields : List (String × Node)}
    (hkeys : ∀ key ∈ fields.map Prod.fst, key ∈ fieldNames)
    (hvalues : ∀ node ∈ fields.map Prod.snd, Yaml.Writable node) :
    Yaml.WritableMembers (entries fields) := by
  induction fields with
  | nil => trivial
  | cons first fields ih =>
    rw [List.map_cons, List.forall_mem_cons] at hkeys hvalues
    exact ⟨writable_name hkeys.1, hvalues.1, ih hkeys.2 hvalues.2⟩

/-- The members for a platform can be written. -/
theorem writable_platform_block {platform : Platform} (h : PrintablePlatform platform) :
    Yaml.WritableMembers (platformBlock platform) := by
  have haws : ∀ aws ∈ platform.aws, Yaml.WritableMembers (awsBlock aws) := fun aws haws =>
    writable_entries (by simp [fieldNames]) (by simpa using writable_text_node (h.aws aws haws))
  have hgcp : ∀ gcp ∈ platform.gcp, Yaml.WritableMembers (gcpBlock gcp) := fun gcp hgcp =>
    writable_entries (by simp [fieldNames]) (by
      simpa using ⟨writable_text_node (h.gcp gcp hgcp).1, writable_text_node (h.gcp gcp hgcp).2⟩)
  have hazure : ∀ azure ∈ platform.azure, Yaml.WritableMembers (azureBlock azure) :=
    fun azure hazure =>
      writable_entries (by simp [fieldNames])
        (by simpa using writable_text_node (h.azure azure hazure))
  have hopenStack : ∀ openStack ∈ platform.openStack,
      Yaml.WritableMembers (openStackBlock openStack) := fun openStack hopenStack =>
    writable_entries (by simp [fieldNames]) (by
      simpa using ⟨writable_text_node (h.openStack openStack hopenStack).1,
        writable_text_node (h.openStack openStack hopenStack).2⟩)
  refine writable_entries (by simp [fieldNames]) ?_
  simp only [List.map_cons, List.map_nil, List.forall_mem_cons]
  exact ⟨writable_option_node haws, writable_option_node hgcp, writable_option_node hazure,
    writable_option_node hopenStack, writable_option_node fun _ _ => trivial,
    writable_option_node fun _ _ => trivial, writable_option_node fun _ _ => trivial, nofun⟩

/-- The members for a configuration can be written. -/
theorem writable_config_block {config : InstallConfig} (h : Printable config) :
    Yaml.WritableMembers (configBlock config) := by
  have hmetadata : Yaml.WritableMembers (metadataBlock config.metadata) :=
    writable_entries (by simp [fieldNames]) (by simpa using writable_text_node h.name)
  refine writable_entries (by simp [fieldNames]) ?_
  simp only [List.map_cons, List.map_nil, List.forall_mem_cons]
  exact ⟨hmetadata, writable_text_node h.baseDomain, writable_platform_block h.platform, nofun⟩

/-! ## That no field is given twice -/

/-- The member for an optional part gives no field twice if the part gives none. -/
theorem proper_option_node {α : Type} {shape : Tree.Shape} {write : α → List Member}
    (h : ∀ inner, Proper shape (.block (write inner))) (value : Option α)
    (hnull : (optionNode write value).isNull = false) : Proper shape (optionNode write value) := by
  cases value with
  | none => cases hnull
  | some inner => exact h inner

/-- No field of the settings for AWS is given twice. -/
theorem proper_aws_block (aws : AwsPlatform) :
    Proper AwsPlatform.shape (.block (awsBlock aws)) :=
  Tree.proper_entries (by decide) (.cons ⟨rfl, fun _ => Tree.proper_text _⟩ .nil)

/-- No field of the settings for Google's platform is given twice. -/
theorem proper_gcp_block (gcp : GcpPlatform) :
    Proper GcpPlatform.shape (.block (gcpBlock gcp)) :=
  Tree.proper_entries (by decide) (.cons ⟨rfl, fun _ => Tree.proper_text _⟩
    (.cons ⟨rfl, fun _ => Tree.proper_text _⟩ .nil))

/-- No field of the settings for Azure is given twice. -/
theorem proper_azure_block (azure : AzurePlatform) :
    Proper AzurePlatform.shape (.block (azureBlock azure)) :=
  Tree.proper_entries (by decide) (.cons ⟨rfl, fun _ => Tree.proper_text _⟩ .nil)

/-- No field of the settings for OpenStack is given twice. -/
theorem proper_open_stack_block (openStack : OpenStackPlatform) :
    Proper OpenStackPlatform.shape (.block (openStackBlock openStack)) :=
  Tree.proper_entries (by decide) (.cons ⟨rfl, fun _ => Tree.proper_text _⟩
    (.cons ⟨rfl, fun _ => Tree.proper_text _⟩ .nil))

/-- No field of a platform is given twice, nor one of its settings. -/
theorem proper_platform_block (platform : Platform) :
    Proper Platform.shape (.block (platformBlock platform)) :=
  Tree.proper_entries (by decide)
    (.cons ⟨rfl, proper_option_node proper_aws_block _⟩
      (.cons ⟨rfl, proper_option_node proper_gcp_block _⟩
        (.cons ⟨rfl, proper_option_node proper_azure_block _⟩
          (.cons ⟨rfl, proper_option_node proper_open_stack_block _⟩
            (.cons ⟨rfl, proper_option_node (fun _ => Tree.proper_empty) _⟩
              (.cons ⟨rfl, proper_option_node (fun _ => Tree.proper_empty) _⟩
                (.cons ⟨rfl, proper_option_node (fun _ => Tree.proper_empty) _⟩ .nil)))))))

/-- No field of a configuration is given twice, in any of its parts. -/
theorem proper_config_block (config : InstallConfig) :
    Proper InstallConfig.shape (.block (configBlock config)) :=
  Tree.proper_entries (by decide)
    (.cons ⟨rfl, fun _ => Tree.proper_entries (by decide)
        (.cons ⟨rfl, fun _ => Tree.proper_text _⟩ .nil)⟩
      (.cons ⟨rfl, fun _ => Tree.proper_text _⟩
        (.cons ⟨rfl, fun _ => proper_platform_block _⟩ .nil)))

/-- There is a document for every configuration of printable texts. -/
theorem exists_document {config : InstallConfig} (h : Printable config) :
    ∃ block, IsDocument config block ∧
      ∀ key, ¬ Repeats InstallConfig.shape (.block block) key :=
  ⟨configBlock config, ⟨(proper_config_block config).1, writable_config_block h,
    List.cons_ne_nil _ _, of_config_block h⟩, (proper_config_block config).2⟩

end StorageBackend.InstallConfig

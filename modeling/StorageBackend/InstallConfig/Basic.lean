import StorageBackend.Json.Value

/-!
# The cluster's installation configuration

The part of the installer's configuration that decides where the registry keeps its images: the
cluster's name and domain, and one block per platform. A platform block may be present without any
content; what is not given is empty.
-/

namespace StorageBackend

/-- Metadata of the cluster. -/
structure InstallMetadata where
  name : String
deriving DecidableEq, Inhabited

/-- Amazon Web Services. -/
structure AwsPlatform where
  region : String
deriving DecidableEq, Inhabited

/-- Google Cloud Platform. -/
structure GcpPlatform where
  projectId : String
  region : String
deriving DecidableEq, Inhabited

/-- Microsoft Azure. -/
structure AzurePlatform where
  region : String
deriving DecidableEq, Inhabited

/-- OpenStack, with the name of the cloud's entry among the known clouds. -/
structure OpenStackPlatform where
  region : String
  cloud : String
deriving DecidableEq, Inhabited

/-- The platform blocks. One of them is expected to be present. -/
structure Platform where
  aws : Option AwsPlatform
  gcp : Option GcpPlatform
  azure : Option AzurePlatform
  openStack : Option OpenStackPlatform
  libvirt : Option Json.Value
  vSphere : Option Json.Value
  /-- Machines without any cloud. -/
  bare : Option Json.Value
deriving Inhabited

/-- The installation configuration. -/
structure InstallConfig where
  metadata : InstallMetadata
  baseDomain : String
  platform : Platform
deriving Inhabited

/-- The platform that a cluster was installed on. -/
inductive PlatformType where
  | aws
  | gcp
  | azure
  | openStack
  | libvirt
  | vSphere
  | bare
  /-- No known platform block is present. -/
  | unknown
deriving DecidableEq

/-- The name of a platform in the installation configuration. -/
def PlatformType.name : PlatformType → String
  | .aws => "aws"
  | .gcp => "gcp"
  | .azure => "azure"
  | .openStack => "openstack"
  | .libvirt => "libvirt"
  | .vSphere => "vsphere"
  | .bare => "none"
  | .unknown => "unknown"

/-- A text, unless it is empty. -/
def nonEmpty? (text : String) : Option String := if text.isEmpty then none else some text

namespace InstallConfig

/-- The platform whose block is present; of several, the first in the order of `PlatformType`. -/
def platformType (config : InstallConfig) : PlatformType :=
  let p := config.platform
  if p.aws.isSome then .aws
  else if p.gcp.isSome then .gcp
  else if p.azure.isSome then .azure
  else if p.openStack.isSome then .openStack
  else if p.libvirt.isSome then .libvirt
  else if p.vSphere.isSome then .vSphere
  else if p.bare.isSome then .bare
  else .unknown

/-- The region of the AWS block, whichever platform is selected. -/
def awsRegion (config : InstallConfig) : Option String :=
  config.platform.aws.bind fun aws => nonEmpty? aws.region

/-- The region of the selected platform, if it has one. -/
def region (config : InstallConfig) : Option String :=
  let p := config.platform
  match config.platformType with
  | .aws => config.awsRegion
  | .gcp => p.gcp.bind fun gcp => nonEmpty? gcp.region
  | .azure => p.azure.bind fun azure => nonEmpty? azure.region
  | .openStack => p.openStack.bind fun openStack => nonEmpty? openStack.region
  | _ => none

end InstallConfig

end StorageBackend

import StorageBackend.InstallConfig.Basic
import StorageBackend.Schema.Format

/-!
# The shape of installation configurations

The fields of the installation configuration, for every document format. Everything may be left
out. An explicit null is the default of a text or a block of its own, and the absence of a platform.
-/

namespace StorageBackend

open Schema Format

variable {R : Type → Type} [Format R]

/-- A text that may be null. -/
def someText : R String := defaulted text

/-- The metadata: the name of the cluster. -/
def InstallMetadata.schema : R InstallMetadata :=
  record "InstallMetadata" default [field "name" someText fun value m => { m with name := value }]

/-- Amazon's platform. -/
def AwsPlatform.schema : R AwsPlatform :=
  record "AwsPlatform" default [field "region" someText fun value p => { p with region := value }]

/-- Google's platform. -/
def GcpPlatform.schema : R GcpPlatform :=
  record "GcpPlatform" default
    [field "projectID" someText fun value p => { p with projectId := value },
      field "region" someText fun value p => { p with region := value }]

/-- Microsoft's platform. -/
def AzurePlatform.schema : R AzurePlatform :=
  record "AzurePlatform" default [field "region" someText fun value p => { p with region := value }]

/-- OpenStack as a platform. -/
def OpenStackPlatform.schema : R OpenStackPlatform :=
  record "OpenStackPlatform" default
    [field "region" someText fun value p => { p with region := value },
      field "cloud" someText fun value p => { p with cloud := value }]

/-- The platform: a field for each kind. The last three hold values of any shape. -/
def Platform.schema : R Platform :=
  record "Platform" default
    [field "aws" (optional AwsPlatform.schema) fun value p => { p with aws := value },
      field "gcp" (optional GcpPlatform.schema) fun value p => { p with gcp := value },
      field "azure" (optional AzurePlatform.schema) fun value p => { p with azure := value },
      field "openstack" (optional OpenStackPlatform.schema) fun value p =>
        { p with openStack := value },
      field "libvirt" (optional free) fun value p => { p with libvirt := value },
      field "vsphere" (optional free) fun value p => { p with vSphere := value },
      field "none" (optional free) fun value p => { p with bare := value }]

/-- The whole configuration. -/
def InstallConfig.schema : R InstallConfig :=
  record "InstallConfig" default
    [field "metadata" (defaulted InstallMetadata.schema) fun value c =>
        { c with metadata := value },
      field "baseDomain" someText fun value c => { c with baseDomain := value },
      field "platform" (defaulted Platform.schema) fun value c => { c with platform := value }]

end StorageBackend

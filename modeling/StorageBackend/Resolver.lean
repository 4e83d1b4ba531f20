import StorageBackend.Credentials
import StorageBackend.InstallConfig.Source

/-!
# Resolving the registry's storage

The platform in the installation configuration decides which storage the registry gets: S3 with
credentials from a secret on AWS, Google cloud storage without credentials on GCP. Nothing is kept
from one resolution to the next.
-/

namespace StorageBackend

open Cluster (Client)

/-- What can be chosen about a resolution. -/
structure ResolverSettings where
  sources : CredentialSources
  /-- How to wait for the installer's secret. -/
  poll : PollPolicy
deriving DecidableEq, Inhabited

/-- A wait with both its durations. -/
def PollPolicy.layout (policy : PollPolicy) : Text.Layout :=
  .record "PollPolicy"
    [("interval", .atom policy.interval.text), ("timeout", .atom policy.timeout.text)]

/-- Settings with all their parts. -/
def ResolverSettings.layout (settings : ResolverSettings) : Text.Layout :=
  .record "ResolverSettings"
    [("sources", settings.sources.layout), ("poll", settings.poll.layout)]

namespace Resolver

variable {σ : Type}

/-- Google cloud storage. Its credentials are left empty. -/
def gcsConfig : ResolvedConfig := ⟨.gcs default⟩

/-- S3, with the region of the AWS block. -/
def s3Config (client : Client σ) (settings : ResolverSettings) (config : InstallConfig) :
    Activity σ ResolvedConfig := do
  let credentials ← Credentials.findS3 client settings.sources settings.poll config.awsRegion
  Activity.log (.resolvedS3 credentials.region)
  return ⟨.s3 credentials⟩

/-- S3, whichever platform the installation configuration is for. -/
def awsConfig (client : Client σ) (settings : ResolverSettings) : Activity σ ResolvedConfig := do
  s3Config client settings (← InstallConfig.read client)

/-- The storage for the platform of the installation configuration. -/
def resolve (client : Client σ) (settings : ResolverSettings) : Activity σ ResolvedConfig := do
  let config ← InstallConfig.read client
  let platform := config.platformType
  Activity.log (.resolving platform)
  match platform with
  | .aws => s3Config client settings config
  | .gcp => return gcsConfig
  | other => Activity.done (.error (.unsupportedPlatform other.name))

end Resolver

end StorageBackend

import StorageBackend.Cluster.Client
import StorageBackend.Poll
import StorageBackend.Storage.Config
import StorageBackend.Text.Utf8

/-!
# Credentials

Credentials for S3 stand in one of two secrets. The user's secret counts whenever it exists, even if
an entry is missing in it. Only if it does not exist the installer's secret is waited for, because
the installer may be late. Every other failure of a read ends the search.
-/

namespace StorageBackend

open Cluster (Client Secret)

/-- The secrets that are looked at. -/
structure CredentialSources where
  /-- The namespace of both secrets. -/
  ns : String
  userSecret : String
  installerSecret : String
deriving DecidableEq

namespace CredentialSources

/-- The namespace of the registry's operator. -/
def operatorNamespace : String := "openshift-image-registry"

/-- The usual secrets. -/
def default : CredentialSources where
  ns := operatorNamespace
  userSecret := "image-registry-private-configuration-user"
  installerSecret := "installer-cloud-credentials"

instance : Inhabited CredentialSources := ⟨.default⟩

/-- The secrets with their namespace. -/
def layout (sources : CredentialSources) : Text.Layout :=
  .record "CredentialSources"
    [("namespace", .text sources.ns), ("user_secret", .text sources.userSecret),
      ("installer_secret", .text sources.installerSecret)]

end CredentialSources

/-- The keys of a secret under which the two parts of the credentials stand. -/
structure CredentialKeys where
  access : String
  secret : String

namespace CredentialKeys

/-- The keys in the user's secret. -/
def user : CredentialKeys := ⟨"REGISTRY_STORAGE_S3_ACCESSKEY", "REGISTRY_STORAGE_S3_SECRETKEY"⟩

/-- The keys in the installer's secret. -/
def installer : CredentialKeys := ⟨"aws_access_key_id", "aws_secret_access_key"⟩

end CredentialKeys

namespace Credentials

variable {σ : Type}

/-- The text under a key of the secret with the given namespace and name. -/
def requiredText (secret : Secret) (ns name key : String) : Except Error String :=
  match secret.entry? key with
  | none => .error (.noSecretEntry ns name key)
  | some bytes =>
    match Text.Utf8.decode bytes with
    | .ok text => .ok text
    | .error _ => .error (.invalidSecretValue (objectPath ns name) key)

/-- The credentials in a secret. The access key is looked for first. -/
def ofSecret (secret : Secret) (ns name : String) (keys : CredentialKeys) (region : Option String) :
    Except Error S3Credentials := do
  let accessKey ← requiredText secret ns name keys.access
  let secretKey ← requiredText secret ns name keys.secret
  .ok { accessKey, secretKey, bucket := "", region := region.getD "" }

/-- What is waited for when a secret is. -/
def waitOperation (ns name : String) : String := "secret " ++ objectPath ns name

/-- Waits until a secret exists. -/
def waitForSecret (client : Client σ) (policy : PollPolicy) (ns name : String) :
    Activity σ Secret :=
  Poll.await policy (waitOperation ns name) (client.readSecret ns name)

/-- Finds the credentials for S3. -/
def findS3 (client : Client σ) (sources : CredentialSources) (policy : PollPolicy)
    (region : Option String) : Activity σ S3Credentials := do
  match ← client.readSecret sources.ns sources.userSecret with
  | some secret =>
    Activity.log (.userSecret sources.ns sources.userSecret)
    Activity.done (ofSecret secret sources.ns sources.userSecret .user region)
  | none =>
    Activity.log (.awaitingInstaller sources.ns sources.installerSecret)
    let secret ← waitForSecret client policy sources.ns sources.installerSecret
    Activity.log (.installerSecret sources.ns sources.installerSecret)
    Activity.done (ofSecret secret sources.ns sources.installerSecret .installer region)

end Credentials

end StorageBackend

import StorageBackend.InstallConfig.Basic
import StorageBackend.Storage.Kind
import StorageBackend.Text.Layout

/-!
# Storage configurations

A storage configuration is a kind of storage together with the credentials that this kind needs.
Where a configuration is shown, its secrets are replaced by a fixed text that only says whether
there is one.
-/

namespace StorageBackend

open Text (Layout)

/-- Credentials for Azure blob storage. -/
structure AzureCredentials where
  accountName : String
  accountKey : String
  container : String
deriving DecidableEq, Inhabited

/-- Credentials for Google cloud storage. -/
structure GcsCredentials where
  bucket : String
  /-- The contents of the service account's key file. -/
  keyfileData : String
deriving DecidableEq, Inhabited

/-- Credentials for S3. The bucket is empty until one is chosen, the region if none is known. -/
structure S3Credentials where
  accessKey : String
  secretKey : String
  bucket : String
  region : String
deriving DecidableEq, Inhabited

/-- A kind of storage with its credentials. -/
inductive StorageConfig where
  | azure (credentials : AzureCredentials)
  | gcs (credentials : GcsCredentials)
  | s3 (credentials : S3Credentials)
  | emptyDir
  | filesystem
  | swift
deriving DecidableEq

/-- What stands for a secret where it may be seen. -/
def redacted (secret : String) : String := if secret.isEmpty then "" else "<redacted>"

/-- Credentials without the account's key. -/
def AzureCredentials.layout (c : AzureCredentials) : Layout :=
  .record "AzureCredentials"
    [("account_name", .text c.accountName), ("account_key", .text (redacted c.accountKey)),
      ("container", .text c.container)]

/-- Credentials without the key file. -/
def GcsCredentials.layout (c : GcsCredentials) : Layout :=
  .record "GcsCredentials"
    [("bucket", .text c.bucket), ("keyfile_data", .text (redacted c.keyfileData))]

/-- Credentials without the secret key. -/
def S3Credentials.layout (c : S3Credentials) : Layout :=
  .record "S3Credentials"
    [("access_key", .text c.accessKey), ("secret_key", .text (redacted c.secretKey)),
      ("bucket", .text c.bucket), ("region", .text c.region)]

namespace StorageConfig

/-- The kind of storage. -/
def kind : StorageConfig → StorageKind
  | .azure _ => .azure
  | .gcs _ => .gcs
  | .s3 _ => .s3
  | .emptyDir => .emptyDir
  | .filesystem => .filesystem
  | .swift => .swift

/-- The credentials, if the storage is S3. -/
def s3? : StorageConfig → Option S3Credentials
  | .s3 credentials => some credentials
  | _ => none

/-- The credentials, if the storage is Google cloud storage. -/
def gcs? : StorageConfig → Option GcsCredentials
  | .gcs credentials => some credentials
  | _ => none

/-- A configuration without its secrets. -/
def layout (config : StorageConfig) : Layout :=
  match config with
  | .azure credentials => .wrapped config.kind.label credentials.layout
  | .gcs credentials => .wrapped config.kind.label credentials.layout
  | .s3 credentials => .wrapped config.kind.label credentials.layout
  | _ => .atom config.kind.label

end StorageConfig

/-- What is handed to the operator of the registry. -/
structure ResolvedConfig where
  storage : StorageConfig
deriving DecidableEq

/-- A resolved configuration without its secrets. -/
def ResolvedConfig.layout (resolved : ResolvedConfig) : Layout :=
  .record "ResolvedConfig" [("storage", resolved.storage.layout)]

end StorageBackend

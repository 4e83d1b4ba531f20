import StorageBackend.Api.Failure
import StorageBackend.Duration

/-!
# Errors

Why no storage configuration can be given. `Error.message` says it in words, `Error.layout` shows
the cause with all its parts. Names from the cluster are quoted, so that every character of them
can be told.
-/

namespace StorageBackend

open Text (Layout quoted)

/-- A place in the cluster: a namespace and a name in it. -/
def objectPath (ns name : String) : String := ns ++ "/" ++ name

/-- Why no storage configuration can be given. -/
inductive Error where
  /-- The cluster's interface fails. -/
  | cluster (failure : Api.Failure)
  /-- There is no way to reach a cluster. -/
  | clientConfig (message : String)
  /-- The config map with the installation configuration does not exist. -/
  | configMapNotFound (ns name : String)
  /-- The config map exists but has no entry under the key. -/
  | missingConfigKey (configMap key : String)
  /-- The installation configuration cannot be decoded. -/
  | decode (message : String)
  /-- The secret exists but has no entry under the key. -/
  | missingSecretKey (secret key : String)
  /-- The entry of the secret is no text. -/
  | invalidSecretValue (secret key : String)
  /-- A wait has run out of time. -/
  | timeout (operation : String) (waited : Duration)
  /-- The platform offers no storage for the registry. -/
  | unsupportedPlatform (platform : String)
deriving DecidableEq

namespace Error

/-- The error for a secret, given by namespace and name, without an entry under the key. -/
def noSecretEntry (ns name key : String) : Error := .missingSecretKey (objectPath ns name) key

/-- The reason in words. -/
def message : Error → String
  | .cluster failure => "kubernetes error: " ++ failure.text
  | .clientConfig message => "unable to configure cluster client: " ++ message
  | .configMapNotFound ns name =>
    "unable to read cluster install configuration: configmap " ++ objectPath ns name ++ " not found"
  | .missingConfigKey configMap key =>
    "configmap " ++ quoted configMap ++ " does not contain required key " ++ quoted key
  | .decode message => "unable to decode cluster install configuration: " ++ message
  | .missingSecretKey secret key =>
    "secret " ++ quoted secret ++ " does not contain required key " ++ quoted key
  | .invalidSecretValue secret key =>
    "secret " ++ quoted secret ++ " key " ++ quoted key ++ " is not valid UTF-8"
  | .timeout operation waited => "timed out after " ++ waited.text ++ " waiting for " ++ operation
  | .unsupportedPlatform platform =>
    "no registry storage mapping for platform " ++ quoted platform

/-- An error with all its parts. -/
def layout : Error → Layout
  | .cluster failure => .record "Kube" [("source", failure.layout)]
  | .clientConfig message => .record "ClientConfig" [("message", .text message)]
  | .configMapNotFound ns name =>
    .record "ConfigMapNotFound" [("namespace", .text ns), ("name", .text name)]
  | .missingConfigKey configMap key =>
    .record "MissingConfigKey" [("configmap", .text configMap), ("key", .text key)]
  | .decode message => .record "Decode" [("message", .text message)]
  | .missingSecretKey secret key =>
    .record "MissingSecretKey" [("secret", .text secret), ("key", .text key)]
  | .invalidSecretValue secret key =>
    .record "InvalidSecretValue" [("secret", .text secret), ("key", .text key)]
  | .timeout operation waited =>
    .record "Timeout" [("operation", .text operation), ("waited", .atom waited.text)]
  | .unsupportedPlatform platform =>
    .record "UnsupportedPlatform" [("platform", .text platform)]

/-- Whether a wait has run out of time. -/
def isTimeout : Error → Bool
  | .timeout _ _ => true
  | _ => false

/-- The failure below an error, if there is one. -/
def source? : Error → Option Api.Failure
  | .cluster failure => some failure
  | _ => none

end Error

end StorageBackend

import StorageBackend.Duration
import StorageBackend.InstallConfig.Basic

/-!
# Log

What is worth telling while a configuration is looked for. Every event has a level, the part of the
program that it comes from, and named fields, of which the first one is the message.
-/

namespace StorageBackend.Log

open Json (Value)

/-- How important an event is. -/
inductive Level where
  | debug
  | info
  | warn
deriving DecidableEq

/-- The name of a level. -/
def Level.name : Level → String
  | .debug => "DEBUG"
  | .info => "INFO"
  | .warn => "WARN"

/-- Something worth telling. -/
inductive Event where
  /-- A wait has got what it was for. -/
  | conditionMet (operation : String) (attempt : UInt32) (elapsed : Duration)
  /-- A check has failed, and the wait with it. -/
  | aborted (operation : String) (attempt : UInt32) (reason : String)
  /-- A wait has run out of time. -/
  | timedOut (operation : String) (attempt : UInt32) (timeout : Duration)
  /-- A wait goes on. -/
  | stillWaiting (operation : String) (attempt : UInt32)
  /-- The installation configuration is known. -/
  | decodedConfig (cluster : String) (platform : PlatformType) (region : Option String)
  /-- Storage is chosen by the platform. -/
  | resolving (platform : PlatformType)
  /-- The storage is S3. -/
  | resolvedS3 (region : String)
  /-- The user's secret exists. -/
  | userSecret (ns secret : String)
  /-- The user's secret does not exist. -/
  | awaitingInstaller (ns secret : String)
  /-- The installer's secret exists. -/
  | installerSecret (ns secret : String)
  /-- The cluster has no such config map. -/
  | configMapNotFound (ns name : String)
  /-- The cluster has no such secret. -/
  | secretNotFound (ns name : String)
deriving DecidableEq

namespace Event

/-- How important an event is. -/
def level : Event → Level
  | .conditionMet .. | .stillWaiting .. | .decodedConfig .. | .awaitingInstaller ..
  | .configMapNotFound .. | .secretNotFound .. => .debug
  | .resolving .. | .resolvedS3 .. | .userSecret .. | .installerSecret .. => .info
  | .aborted .. | .timedOut .. => .warn

/-- The part of the program that tells it. -/
def origin : Event → String
  | .conditionMet .. | .aborted .. | .timedOut .. | .stillWaiting .. => "poll"
  | .decodedConfig .. => "install_config"
  | .resolving .. | .resolvedS3 .. => "resolver"
  | .userSecret .. | .awaitingInstaller .. | .installerSecret .. => "credentials"
  | .configMapNotFound .. | .secretNotFound .. => "client"

/-- The event in words. -/
def message : Event → String
  | .conditionMet .. => "Poll condition met"
  | .aborted .. => "Poll aborted on non-retryable error"
  | .timedOut .. => "Poll timed out"
  | .stillWaiting .. => "Still waiting"
  | .decodedConfig .. => "Decoded cluster install configuration"
  | .resolving .. => "Resolving registry storage"
  | .resolvedS3 .. => "Resolved S3 registry storage"
  | .userSecret .. => "Using user-provided S3 credentials"
  | .awaitingInstaller .. => "No user-provided credentials, waiting for installer Secret"
  | .installerSecret .. => "Using installer-provisioned S3 credentials"
  | .configMapNotFound .. => "ConfigMap not found"
  | .secretNotFound .. => "Secret not found"

/-- The particulars of an event. -/
def details : Event → List (String × Value)
  | .conditionMet operation attempt elapsed =>
    [("operation", .string operation), ("attempt", .integer attempt.toNat),
      ("elapsed_ms", .integer elapsed.millis)]
  | .aborted operation attempt reason =>
    [("operation", .string operation), ("attempt", .integer attempt.toNat),
      ("error", .string reason)]
  | .timedOut operation attempt timeout =>
    [("operation", .string operation), ("attempt", .integer attempt.toNat),
      ("timeout_secs", .integer timeout.seconds)]
  | .stillWaiting operation attempt =>
    [("operation", .string operation), ("attempt", .integer attempt.toNat)]
  | .decodedConfig cluster platform region =>
    [("cluster", .string cluster), ("platform", .string platform.name),
      ("region", .string (region.getD ""))]
  | .resolving platform => [("platform", .string platform.name)]
  | .resolvedS3 region => [("region", .string region)]
  | .userSecret ns secret | .awaitingInstaller ns secret | .installerSecret ns secret
  | .secretNotFound ns secret => [("namespace", .string ns), ("secret", .string secret)]
  | .configMapNotFound ns name => [("namespace", .string ns), ("configmap", .string name)]

/-- All fields of an event. -/
def fields (event : Event) : List (String × Value) :=
  ("message", .string event.message) :: event.details

end Event

end StorageBackend.Log

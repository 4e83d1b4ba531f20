import StorageBackend.Cluster.Client
import StorageBackend.InstallConfig.Decode

/-!
# Where the installation configuration stands

The installer leaves its configuration in an entry of one config map. It is there before anybody
asks for it, so nothing is waited for.
-/

namespace StorageBackend.InstallConfig

open Cluster (Client ConfigMap)

/-- The namespace of the config map. -/
def sourceNamespace : String := "kube-system"

/-- The name of the config map. -/
def sourceName : String := "cluster-config-v1"

/-- The key of the entry. -/
def sourceKey : String := "install-config"

/-- The installation configuration in a config map that may not exist. -/
def ofConfigMap (configMap : Option ConfigMap) : Except Error InstallConfig :=
  match configMap with
  | none => .error (.configMapNotFound sourceNamespace sourceName)
  | some configMap =>
    match configMap.entry? sourceKey with
    | none => .error (.missingConfigKey (objectPath sourceNamespace sourceName) sourceKey)
    | some text => (decode text).mapError fun error => .decode error.message

/-- Reads the installation configuration. -/
def read (client : Client σ) : Activity σ InstallConfig := do
  let configMap ← client.readConfigMap sourceNamespace sourceName
  let config ← Activity.done (ofConfigMap configMap)
  Activity.log (.decodedConfig config.metadata.name config.platformType config.region)
  return config

end StorageBackend.InstallConfig

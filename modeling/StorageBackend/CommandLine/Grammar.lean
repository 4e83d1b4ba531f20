import StorageBackend.Credentials

/-!
# The grammar of the command line

The commands of the program and their settings, as data. The parser, the help texts and the
complaints are all made from this description.
-/

namespace StorageBackend.CommandLine

/-- What a setting may be set to. -/
inductive Domain where
  /-- Nothing: the setting is a flag. -/
  | flag
  | text
  /-- A path, which may not be empty. -/
  | path
  | choice (names : List String)
  /-- A whole number in a range. -/
  | number (low high : Nat)
deriving DecidableEq

/-- A setting: an option of the command line, and perhaps a variable of the environment. -/
structure Setting where
  name : String
  help : String
  domain : Domain
  /-- The variable of the environment. -/
  envVar : Option String
  /-- The value of a setting that is not given. -/
  initial : Option String
deriving DecidableEq

namespace Setting

/-- What stands for the value in messages. -/
def placeholder (setting : Setting) : String :=
  String.ofList (setting.name.toList.map fun c => if c == '-' then '_' else c.toUpper)

/-- A setting as it is written in messages. -/
def usage (setting : Setting) : String :=
  if setting.domain = .flag then "--" ++ setting.name
  else "--" ++ setting.name ++ " <" ++ setting.placeholder ++ ">"

end Setting

/-- A command. -/
structure Command where
  name : String
  help : String
  /-- The settings in the order in which they are explained. -/
  settings : List Setting
deriving DecidableEq

/-- The name of the program. -/
def program : String := "registry-storage"

/-- The version of the program. -/
def version : String := "0.1.0"

/-- What the program does, in a sentence. -/
def purpose : String :=
  "Resolves image registry storage backend configuration from cluster install config and " ++
    "credential Secrets"

/-- The file that says how the cluster is reached. -/
def kubeconfig : Setting :=
  ⟨"kubeconfig", "Path to a kubeconfig; inferred from the environment when omitted", .path,
    some "KUBECONFIG", none⟩

/-- The form of the log. -/
def jsonLogs : Setting := ⟨"json-logs", "Emit logs as JSON lines", .flag, none, none⟩

/-- The settings that may be given in front of a command and behind it. -/
def shared : List Setting := [kubeconfig, jsonLogs]

/-- Seconds in an hour, the longest pause between two checks. -/
def longestInterval : Nat := 60 * 60

/-- Seconds in a day, the longest wait. -/
def longestTimeout : Nat := 24 * 60 * 60

/-- Finds the registry's storage. -/
def resolve : Command where
  name := "resolve"
  help := "Resolve storage configuration and print a summary"
  settings :=
    [kubeconfig,
      ⟨"platform", "Platform to resolve for; `auto` reads it from the install config",
        .choice ["auto", "aws", "gcp"], none, some "auto"⟩,
      jsonLogs,
      ⟨"namespace", "Namespace holding the credential Secrets", .text,
        some "REGISTRY_STORAGE_NAMESPACE", some CredentialSources.default.ns⟩,
      ⟨"user-secret", "Name of the user-provided credentials Secret", .text, none,
        some CredentialSources.default.userSecret⟩,
      ⟨"installer-secret", "Name of the installer-provisioned credentials Secret", .text, none,
        some CredentialSources.default.installerSecret⟩,
      ⟨"poll-interval-secs", "Seconds between checks for the installer Secret",
        .number 1 longestInterval, some "REGISTRY_STORAGE_POLL_INTERVAL_SECS", some "1"⟩,
      ⟨"poll-timeout-secs", "Seconds to wait for the installer Secret before giving up",
        .number 1 longestTimeout, some "REGISTRY_STORAGE_POLL_TIMEOUT_SECS", some "300"⟩]

/-- Shows what the installation configuration says. -/
def installConfig : Command where
  name := "install-config"
  help := "Print the platform and region from the cluster install config"
  settings := shared

/-- All commands. -/
def commands : List Command := [resolve, installConfig]

/-- The name of the command that explains the others. -/
def helpName : String := "help"

/-- What that command does. -/
def helpHelp : String := "Print this message or the help of the given subcommand(s)"

end StorageBackend.CommandLine

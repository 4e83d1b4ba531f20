import StorageBackend.InstallConfig.Schema
import StorageBackend.Json.Reader
import StorageBackend.Text.Basic
import StorageBackend.Yaml.Reader

/-!
# Decoding installation configurations

A document that begins with a brace is JSON, any other one is YAML. White space in front of it does
not count.
-/

namespace StorageBackend

/-- Why a text is not an installation configuration. -/
inductive DecodeError where
  /-- There is nothing but white space. -/
  | empty
  | json (error : Json.Error)
  | yaml (error : Yaml.Error)

/-- The reason in words. -/
def DecodeError.message : DecodeError → String
  | .empty => "install config document is empty"
  | .json error => "invalid JSON: " ++ error.message
  | .yaml error =>
    match error.message? with
    | none => "invalid YAML"
    | some message => "invalid YAML: " ++ message

namespace InstallConfig

/-- Reads a text as JSON. -/
def ofJson (text : List Char) : Except DecodeError InstallConfig :=
  (Json.Reader.run InstallConfig.schema text).mapError .json

/-- Reads a text as YAML. -/
def ofYaml (text : List Char) : Except DecodeError InstallConfig :=
  (Yaml.Reader.run InstallConfig.schema text).mapError .yaml

/-- Reads an installation configuration. -/
def decode (text : String) : Except DecodeError InstallConfig :=
  match Text.trimStart text.toList with
  | [] => .error .empty
  | c :: rest => if c = '\x7b' then ofJson (c :: rest) else ofYaml (c :: rest)

end InstallConfig

end StorageBackend

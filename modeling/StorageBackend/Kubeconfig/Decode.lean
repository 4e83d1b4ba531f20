import StorageBackend.Kubeconfig.Basic
import StorageBackend.Yaml.Node

/-!
# Decoding client configurations

The documents of a client configuration are read as nodes first and then taken apart. Tags of a
document's own do not count, but a tagged null is not a null. A null where a mapping or a list is
expected is an empty one. A member that is not given is null, one that is given twice is an error,
and unknown members do not count.
-/

namespace StorageBackend.Kubeconfig

open Yaml (Node)

/-- Takes a node apart, or refuses it. -/
abbrev Part (α : Type) := Node → Option α

/-- A text. -/
def text : Part String := fun node =>
  match node.untagged with
  | .string value => some value
  | _ => none

/-- A truth value. -/
def boolean : Part Bool := fun node =>
  match node.untagged with
  | .boolean value => some value
  | _ => none

/-- A node that may be null. -/
def optional (part : Part α) : Part (Option α)
  | .null => some none
  | node => (part node).map some

/-- A list. -/
def list (part : Part α) : Part (List α) := fun node =>
  match node.untagged with
  | .null => some []
  | .sequence items => items.mapM part
  | _ => none

/-- The members of a mapping. Their names are texts. -/
def members : Part (List (String × Node)) := fun node =>
  match node.untagged with
  | .null => some []
  | .mapping entries => entries.mapM fun (key, value) => (text key).map fun key => (key, value)
  | _ => none

/-- Values under keys of any name, the last one first. -/
def dictionary (part : Part α) : Part (List (String × α)) := fun node => do
  let entries ← (← members node).mapM fun (key, value) =>
    (part value).map fun value => (key, value)
  some entries.reverse

/-- The node of a member, if there is one. -/
def given (all : List (String × Node)) (key : String) : Option (Option Node) :=
  match all.filter fun entry => entry.1 == key with
  | [] => some none
  | [(_, node)] => some (some node)
  | _ => none

/-- The value of a member. -/
def member (part : Part α) (all : List (String × Node)) (key : String) : Option α := do
  part ((← given all key).getD .null)

/-- Checks members that are not kept. -/
def checked (part : Part α) (all : List (String × Node)) (keys : List String) : Option Unit :=
  keys.forM fun key => (member (optional part) all key).map fun _ => ()

mutual

/-- Whether a node has the form of a JSON value: it has no tags but at keys, which are texts. -/
def isPlain : Node → Bool
  | .sequence items => arePlain items
  | .mapping entries => haveTextKeys entries
  | .tagged _ _ => false
  | _ => true

/-- Whether all nodes have the form of JSON values. -/
def arePlain : List Node → Bool
  | [] => true
  | node :: nodes => isPlain node && arePlain nodes

/-- Whether all keys are texts, and all values have the form of JSON values. -/
def haveTextKeys : List (Node × Node) → Bool
  | [] => true
  | (key, value) :: entries => (text key).isSome && isPlain value && haveTextKeys entries

end

/-! ## Parts of a configuration -/

/-- Something of a program's own; it has to be there, but it may be null. -/
def extension : Part Unit := fun node => do
  let all ← members node
  let _ ← member text all "name"
  if isPlain (← (← given all "extension")) then some () else none

/-- The settings of a cluster. -/
def clusterSettings : Part ClusterSettings := fun node => do
  let all ← members node
  checked boolean all ["insecure-skip-tls-verify", "disable-compression"]
  checked (list extension) all ["extensions"]
  some
    { server := ← member (optional text) all "server"
      authorityFile := ← member (optional text) all "certificate-authority"
      authority := ← member (optional text) all "certificate-authority-data"
      proxy := ← member (optional text) all "proxy-url"
      serverName := ← member (optional text) all "tls-server-name" }

/-- A provider that a user signs in with. -/
def provider : Part Provider := fun node => do
  let all ← members node
  some { name := ← member text all "name", settings := ← member (dictionary text) all "config" }

/-- When a program may ask questions. The name may be written as a tag. -/
def interactiveMode : Part Unit := fun node =>
  let isMode (name : String) : Option Unit :=
    if ["Never", "IfAvailable", "Always"].contains name then some () else none
  match node with
  | .string name => isMode name
  | .tagged name .null => isMode name
  | _ => none

/-- A program that signs in. -/
def program : Part Program := fun node => do
  let all ← members node
  checked text all ["apiVersion"]
  checked interactiveMode all ["interactiveMode"]
  checked (list (dictionary text)) all ["env"]
  let _ ← (← given all "provideClusterInfo").mapM boolean
  some
    { command := ← member (optional text) all "command"
      arguments := (← member (optional (list text)) all "args").getD [] }

/-- The settings of a user. -/
def userSettings : Part UserSettings := fun node => do
  let all ← members node
  some
    { name := ← member (optional text) all "username"
      password := ← member (optional text) all "password"
      token := ← member (optional text) all "token"
      tokenFile := ← member (optional text) all "tokenFile"
      certificateFile := ← member (optional text) all "client-certificate"
      certificate := ← member (optional text) all "client-certificate-data"
      keyFile := ← member (optional text) all "client-key"
      key := ← member (optional text) all "client-key-data"
      actsAs := ← member (optional text) all "as"
      groups := (← member (optional (list text)) all "as-groups").getD []
      provider := ← member (optional provider) all "auth-provider"
      program := ← member (optional program) all "exec" }

/-- The settings of a context. -/
def contextSettings : Part ContextSettings := fun node => do
  let all ← members node
  checked text all ["namespace"]
  checked (list extension) all ["extensions"]
  some { cluster := ← member text all "cluster", user := ← member (optional text) all "user" }

/-- Settings under a name. -/
def named (key : String) (part : Part α) : Part (Named α) := fun node => do
  let all ← members node
  some { name := ← member text all "name", settings := ← member (optional part) all key }

/-- Settings for all programs. -/
def preferences : Part Unit := fun node => do
  let all ← members node
  checked boolean all ["colors"]
  checked (list extension) all ["extensions"]

/-- A document. -/
def document : Part Document := fun node => do
  let all ← members node
  checked preferences all ["preferences"]
  checked (list extension) all ["extensions"]
  some
    { kind := ← member (optional text) all "kind"
      version := ← member (optional text) all "apiVersion"
      current := ← member (optional text) all "current-context"
      clusters := ← member (list (named "cluster" clusterSettings)) all "clusters"
      users := ← member (list (named "user" userSettings)) all "users"
      contexts := ← member (list (named "context" contextSettings)) all "contexts" }

/-! ## Whole texts -/

/-- A text without the mark that some editors write in front of it. -/
def dropMark (text : List Char) : List Char :=
  match text with
  | c :: rest => if c = Yaml.byteOrderMark then rest else text
  | [] => []

/-- Reads a client configuration. -/
def decode (text : String) : Option Document := do
  let documents ← (Yaml.Document.ofText (dropMark text.toList)).mapM fun raw => do
    document (← (Yaml.Reader.runDocument Node.reader raw).toOption)
  match documents with
  | [] => some default
  | first :: rest => rest.foldlM merge first

end StorageBackend.Kubeconfig

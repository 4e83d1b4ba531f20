import StorageBackend.Json.Parts
import StorageBackend.Text.Timestamp

/-!
# Credentials from programs

A program that signs a user in writes a JSON object whose status holds the credentials: a token,
which may expire, or a certificate with its key.
-/

namespace StorageBackend.Kubeconfig

open Json (Reader)
open Schema (Format)

/-- The status that a program writes. -/
structure Credential where
  token : Option String
  /-- When the token expires. -/
  expiry : Option Int
  certificate : Option String
  key : Option String
deriving DecidableEq, Inhabited

namespace Credential

/-- Reads a status. -/
def status : Reader Credential :=
  let moment : Reader Int := Json.refined Format.text Text.Timestamp.parse?
  Json.record "ExecCredentialStatus" default
    [Format.field "expirationTimestamp" (Format.optional moment) fun value c =>
        { c with expiry := value },
      Format.field "token" (Format.optional Format.text) fun value c => { c with token := value },
      Format.field "clientCertificateData" (Format.optional Format.text) fun value c =>
        { c with certificate := value },
      Format.field "clientKeyData" (Format.optional Format.text) fun value c =>
        { c with key := value }]

/-- Reads what a program was told about its task. -/
def task : Reader Unit :=
  Json.record "ExecCredentialSpec" ()
    [Format.field "interactive" (Format.optional Json.boolean) fun _ s => s,
      Format.field "cluster" Json.anything fun _ s => s]

/-- Reads the object around a status, which may be missing. -/
def reader : Reader (Option Credential) :=
  Json.record "ExecCredential" none
    [Format.field "kind" (Format.optional Format.text) fun _ c => c,
      Format.field "apiVersion" (Format.optional Format.text) fun _ c => c,
      Format.field "spec" (Format.optional task) fun _ c => c,
      Format.field "status" (Format.optional status) fun value _ => value]

/-- The credentials in what a program writes. -/
def ofText? (text : String) : Option Credential :=
  match Json.Reader.run reader text.toList with
  | .ok credential => credential
  | .error _ => none

end Credential

end StorageBackend.Kubeconfig

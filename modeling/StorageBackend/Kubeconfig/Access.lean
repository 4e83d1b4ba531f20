import StorageBackend.Api.Uri
import StorageBackend.Error
import StorageBackend.Kubeconfig.Credential
import StorageBackend.Kubeconfig.Decode
import StorageBackend.Text.Certificate
import StorageBackend.Text.Host
import StorageBackend.Text.Pem
import StorageBackend.Text.Timestamp

/-!
# Access to a cluster

`Kubeconfig.access` says how the cluster of a client configuration's current context is reached. It
distinguishes a file that is no configuration, a configuration that leads to no cluster, and one
that leads to a cluster no client can be made for. A user does not have to be known: without
settings nobody signs in.
-/

namespace StorageBackend.Kubeconfig

/-- How a cluster is reached. -/
structure Access where
  server : Api.Uri
deriving DecidableEq

/-- What a client configuration may refer to. -/
structure Surroundings where
  /-- The contents of a file, if it exists. -/
  file : (path : String) → Option String
  /-- What a program writes, if it succeeds. -/
  output : (command : String) → (arguments : List String) → Option String
  /-- The time, in seconds since the beginning of 1970. -/
  now : Int

/-- How long a client tries to connect. -/
def connectTimeout : Duration := .ofSeconds 5

/-- How long a client waits for an answer. -/
def readTimeout : Duration := .ofSeconds 30

/-- Why no client can be made. -/
inductive Obstacle where
  /-- There is no configuration, or the file is not one. -/
  | unreadable
  /-- The configuration leads to no cluster. -/
  | unusable
  /-- The configuration asks for something that a client cannot do. -/
  | refused
  /-- The token cannot be part of a request. This is not reported. -/
  | unspeakable
  /-- No configuration is given, and none is found. -/
  | unknown
deriving DecidableEq

/-- The error for an obstacle that is reported. -/
def Obstacle.error? : Obstacle → Option Error
  | .unreadable => some (.clientConfig "failed to read kubeconfig")
  | .unusable => some (.clientConfig "failed to load kubeconfig")
  | .refused => some (.clientConfig "failed to create client")
  | .unspeakable => none
  | .unknown => some (.clientConfig "failed to infer config")

/-! ## Clusters -/

/-- The bytes of something that is given in Base64 or in a file; the former counts more. -/
def bytes? (surroundings : Surroundings) (data file : Option String) : Option (List UInt8) :=
  match data with
  | some data => Text.Base64.decode data
  | none => (file.bind surroundings.file).map Text.Utf8.encode

namespace ClusterSettings

/-- The certificates of the cluster's authority; none if it is not set. -/
def certificates? (cluster : ClusterSettings) (surroundings : Surroundings) :
    Option (List (List UInt8)) :=
  if cluster.authority.isNone && cluster.authorityFile.isNone then some []
  else do
    let bytes ← bytes? surroundings cluster.authority cluster.authorityFile
    let sections ← Text.Pem.sections? bytes
    some ((sections.filter (·.label == "CERTIFICATE")).map (·.contents))

/-- The address of the proxy, if one is set. The empty text sets none. -/
def proxy? (cluster : ClusterSettings) : Option (Option Api.Uri) :=
  match cluster.proxy with
  | none => some none
  | some "" => some none
  | some address => (Api.Uri.parse? address).map some

/-- Whether a client can speak to the cluster, which has certificates of its authority: directly,
and under a name that a server may have. -/
def isServed (cluster : ClusterSettings) (certificates : List (List UInt8)) : Bool :=
  certificates.all Text.Certificate.isCertificate && cluster.serverName.all Text.Host.isHost

end ClusterSettings

/-! ## Users -/

/-- How a user shows who they are. -/
inductive SignIn where
  | nobody
  | password (name password : String)
  | token (token : String)
  /-- A token that is renewed from time to time. -/
  | changing
deriving DecidableEq

/-- A token has to be valid this many seconds longer. -/
def leastValidity : Int := 60

namespace Provider

/-- A setting of a provider. -/
def setting? (provider : Provider) (name : String) : Option String :=
  provider.settings.lookup name

/-- The token that a provider's command writes. It cannot be a part of what is written. -/
def commandToken? (provider : Provider) (surroundings : Surroundings) : Option String := do
  let command ← provider.setting? "cmd-path"
  let arguments := Text.trim ((provider.setting? "cmd-args").getD "").toList
  let output ← surroundings.output command ((String.ofList arguments).splitOn " ")
  if (provider.setting? "token-key").isSome then none
  else some (String.ofList (Text.trim output.toList))

/-- How a provider lets a user sign in, if it can. One provider has a token; another one has one as
well, or one that is valid for some time, or a command that writes one. -/
def signIn? (provider : Provider) (surroundings : Surroundings) : Option SignIn :=
  match provider.name, provider.setting? "id-token" with
  | "oidc", token => token.map .token
  | "gcp", some token => some (.token token)
  | "gcp", none =>
    let command := (provider.commandToken? surroundings).map SignIn.token
    match provider.setting? "access-token", provider.setting? "expiry" with
    | some _, some expiry => do
      let expiry ← Text.Timestamp.parse? expiry
      if surroundings.now + leastValidity < expiry then some .changing else command
    | _, _ => command
  | _, _ => none

end Provider

/-- How a program signs a user in, if it does. A certificate from a program is not supported. -/
def Program.signIn? (program : Program) (surroundings : Surroundings) : Option SignIn := do
  let output ← surroundings.output (← program.command) program.arguments
  let credential ← Credential.ofText? output
  if credential.certificate.isSome && credential.key.isSome then none
  else
    match credential.token, credential.expiry with
    | some _, some _ => some .changing
    | some token, none => some (.token token)
    | none, _ => some .nobody

/-- Whether a text may be the value of a header: it has no control characters but tabs. -/
def isHeaderText (text : String) : Bool :=
  text.toList.all fun c => c == '\t' || (0x20 ≤ c.toNat && c.toNat != 0x7f)

/-- Whether a way to sign in can be part of a request. A password is sent in Base64. -/
def SignIn.isSendable : SignIn → Bool
  | .token value => isHeaderText value
  | _ => true

namespace UserSettings

/-- How a user signs in, if that is possible. A provider counts more than a password, a password
more than a token, a token more than a file with one, and a file more than a program. -/
def signIn? (user : UserSettings) (surroundings : Surroundings) : Option SignIn :=
  match user.provider, user.name, user.password, user.token, user.tokenFile with
  | some provider, _, _, _, _ => provider.signIn? surroundings
  | none, some name, some password, _, _ => some (.password name password)
  | none, _, _, some token, _ => some (.token token)
  | none, _, _, none, some file => (surroundings.file file).map fun _ => .changing
  | none, _, _, none, none =>
    match user.program with
    | some program => program.signIn? surroundings
    | none => some .nobody

/-- Whether a user has a certificate and a key that can be read. What cannot be read does not count.
-/
def hasCertificate (user : UserSettings) (surroundings : Surroundings) : Bool :=
  (bytes? surroundings user.certificate user.certificateFile).isSome &&
    (bytes? surroundings user.key user.keyFile).isSome

/-- Whether everything that a user asks for besides signing in can be done: certificates are not
supported, and who the user acts as has to be part of every request. -/
def isServed (user : UserSettings) (surroundings : Surroundings) : Bool :=
  !user.hasCertificate surroundings && user.actsAs.all isHeaderText && user.groups.all isHeaderText

end UserSettings

/-! ## Clients -/

/-- The cluster and the user of the current context. -/
def Document.current? (document : Document) : Option (ClusterSettings × UserSettings) := do
  let context ← find? document.contexts (← document.current)
  let cluster ← find? document.clusters context.cluster
  some (cluster, (context.user.bind (find? document.users)).getD .anonymous)

/-- How the cluster of a document is reached. A token that is no header text is met before anything
that is asked for besides signing in. -/
def Document.access (document : Document) (surroundings : Surroundings) : Except Obstacle Access :=
  let loaded := do
    let (cluster, user) ← document.current?
    let server ← Api.Uri.parse? (← cluster.server)
    some (cluster, user, server, ← cluster.certificates? surroundings, ← cluster.proxy?)
  match loaded with
  | none => .error .unusable
  | some (cluster, user, server, certificates, proxy) =>
    if proxy.isSome then .error .refused
    else
      match user.signIn? surroundings with
      | none => .error .refused
      | some signIn =>
        if !signIn.isSendable then .error .unspeakable
        else if cluster.isServed certificates && user.isServed surroundings then .ok ⟨server⟩
        else .error .refused

/-- How the cluster of a client configuration is reached. Without a text there is no file. -/
def access (surroundings : Surroundings) (text : Option String) : Except Obstacle Access :=
  match text.bind decode with
  | none => .error .unreadable
  | some document => document.access surroundings

end StorageBackend.Kubeconfig

/-!
# Client configurations

A kubeconfig names clusters, users and contexts; a context joins a cluster and a user. Of the
settings only those are kept that decide whether a client can be made. A configuration may be spread
over several documents; the first document that sets something decides it.
-/

namespace StorageBackend.Kubeconfig

/-- How a cluster is reached. -/
structure ClusterSettings where
  server : Option String
  /-- The file with the certificates of the cluster's authority. -/
  authorityFile : Option String
  /-- The certificates themselves, in Base64. They count more than the file. -/
  authority : Option String
  /-- The address of a proxy. -/
  proxy : Option String
  /-- The name that the certificate of the server has to be for. -/
  serverName : Option String
deriving DecidableEq, Inhabited

/-- A provider that a user signs in with, and its own settings. -/
structure Provider where
  name : String
  settings : List (String × String)
deriving DecidableEq, Inhabited

/-- A program that signs a user in. -/
structure Program where
  command : Option String
  arguments : List String
deriving DecidableEq, Inhabited

/-- How a user signs in. -/
structure UserSettings where
  name : Option String
  password : Option String
  token : Option String
  /-- The file with the token. -/
  tokenFile : Option String
  /-- The file with the certificate of the user. -/
  certificateFile : Option String
  /-- The certificate itself, in Base64. It counts more than the file. -/
  certificate : Option String
  /-- The file with the key of the certificate. -/
  keyFile : Option String
  /-- The key itself, in Base64. It counts more than the file. -/
  key : Option String
  /-- Who the user acts as. -/
  actsAs : Option String
  /-- The groups that the user acts for. -/
  groups : List String
  provider : Option Provider
  program : Option Program
deriving DecidableEq

/-- A user who does not sign in. -/
def UserSettings.anonymous : UserSettings where
  name := none
  password := none
  token := none
  tokenFile := none
  certificateFile := none
  certificate := none
  keyFile := none
  key := none
  actsAs := none
  groups := []
  provider := none
  program := none

instance : Inhabited UserSettings := ⟨.anonymous⟩

/-- What joins a cluster and a user. -/
structure ContextSettings where
  cluster : String
  user : Option String
deriving DecidableEq, Inhabited

/-- Something under a name; it may be null. -/
structure Named (α : Type) where
  name : String
  settings : Option α
deriving DecidableEq, Inhabited

/-- A client configuration. -/
structure Document where
  kind : Option String
  version : Option String
  current : Option String
  clusters : List (Named ClusterSettings)
  users : List (Named UserSettings)
  contexts : List (Named ContextSettings)
deriving DecidableEq, Inhabited

/-- What is set under the first entry with a name. -/
def find? (entries : List (Named α)) (name : String) : Option α :=
  (entries.find? fun entry => entry.name == name).bind Named.settings

/-- Adds the entries whose names are new. -/
def addNew (entries more : List (Named α)) : List (Named α) :=
  entries ++ more.filter fun entry => !entries.any fun known => known.name == entry.name

/-- Whether two settings do not contradict each other. -/
def compatible (a b : Option String) : Bool := a.isNone || b.isNone || a == b

/-- Joins two documents, unless they are of different kinds or versions. -/
def merge (a b : Document) : Option Document :=
  if compatible a.kind b.kind && compatible a.version b.version then
    some
      { kind := a.kind <|> b.kind
        version := a.version <|> b.version
        current := a.current <|> b.current
        clusters := addNew a.clusters b.clusters
        users := addNew a.users b.users
        contexts := addNew a.contexts b.contexts }
  else none

end StorageBackend.Kubeconfig

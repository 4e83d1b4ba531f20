import StorageBackend.Activity
import StorageBackend.Basic

/-!
# Objects and clients of the cluster

A config map holds texts under keys, a secret holds bytes. Either may be without any data, and an
object that was made by hand may lack a name. A client reads these objects. Its answer to a read may
depend on the clock and on whatever it keeps in its state. That an object does not exist is an
answer and not an error.
-/

namespace StorageBackend.Cluster

/-! ## Objects -/

/-- An object with entries of type `α`. -/
structure Object (α : Type) where
  name : Option String
  ns : Option String
  data : Option (Entries α)
deriving DecidableEq, Inhabited

/-- An object with texts. -/
abbrev ConfigMap := Object String

/-- An object with bytes. -/
abbrev Secret := Object (List UInt8)

/-- The entry under a key. -/
def Object.entry? (object : Object α) (key : String) : Option α :=
  object.data.bind fun entries => entries.find? key

/-! ## Clients -/

/-- The answer to a read. -/
structure Answer (σ α : Type) where
  /-- The object, or nothing if it does not exist. -/
  result : Except Error (Option α)
  /-- How long the read took. -/
  took : Duration
  state : σ
  log : List Log.Event

/-- Read access to the cluster. -/
structure Client (σ : Type) where
  configMap : (ns name : String) → Instant → σ → Answer σ ConfigMap
  secret : (ns name : String) → Instant → σ → Answer σ Secret

/-- A read as an activity. -/
def reading (object : ObjectRef) (answer : Instant → σ → Answer σ α) : Activity σ (Option α) :=
  fun _ now state =>
    let a := answer now state
    some ⟨a.result, now + a.took.nanos, a.state, .read object :: a.log.map Step.log⟩

namespace Client

variable {σ : Type}

/-- Reads a config map. -/
def readConfigMap (client : Client σ) (ns name : String) : Activity σ (Option ConfigMap) :=
  reading ⟨.configMap, ns, name⟩ (client.configMap ns name)

/-- Reads a secret. -/
def readSecret (client : Client σ) (ns name : String) : Activity σ (Option Secret) :=
  reading ⟨.secret, ns, name⟩ (client.secret ns name)

end Client

end StorageBackend.Cluster

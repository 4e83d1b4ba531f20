import StorageBackend.Clock
import StorageBackend.Error
import StorageBackend.Log

/-!
# Activities

An activity is something that takes time, may fail, and can be watched: it reads objects of the
cluster and writes to the log. It is a function of the instant at which it begins and of a state
that stands for the world around it, so what it does can be stated and proved.

An activity may wait without any limit of time. `budget` bounds the number of checks that one wait
may make; an activity that would need more has no outcome.
-/

namespace StorageBackend

/-- The kinds of cluster objects that are read. -/
inductive ObjectKind where
  | configMap
  | secret
deriving DecidableEq

/-- An object of the cluster that is asked for. -/
structure ObjectRef where
  kind : ObjectKind
  ns : String
  name : String
deriving DecidableEq

/-- Something that can be seen from outside. -/
inductive Step where
  /-- An object is read. -/
  | read (object : ObjectRef)
  /-- Something is written to the log. -/
  | log (event : Log.Event)
deriving DecidableEq

/-- What an activity leaves behind. -/
structure Outcome (σ α : Type) where
  result : Except Error α
  /-- When it ended. -/
  now : Instant
  state : σ
  /-- What could be seen of it, in order. -/
  trace : List Step

/-- Something that is done on the clock, in a world with states of type `σ`. -/
def Activity (σ α : Type) : Type := (budget : Nat) → Instant → σ → Option (Outcome σ α)

namespace Activity

variable {σ α β : Type}

/-- Ends at once with a result. -/
def done (result : Except Error α) : Activity σ α :=
  fun _ now state => some ⟨result, now, state, []⟩

/-- Runs one activity and, unless it fails, another one that depends on its result. -/
def andThen (first : Activity σ α) (second : α → Activity σ β) : Activity σ β :=
  fun budget now state =>
    match first budget now state with
    | none => none
    | some ⟨.error error, now, state, trace⟩ => some ⟨.error error, now, state, trace⟩
    | some ⟨.ok value, now, state, trace⟩ =>
      (second value budget now state).map fun outcome =>
        { outcome with trace := trace ++ outcome.trace }

/-- Writes to the log. -/
def log (event : Log.Event) : Activity σ Unit :=
  fun _ now state => some ⟨.ok (), now, state, [.log event]⟩

instance : Monad (Activity σ) where
  pure value := done (.ok value)
  bind := andThen

/-- The objects that are read in a trace. -/
def reads (trace : List Step) : List ObjectRef :=
  trace.filterMap fun
    | .read object => some object
    | .log _ => none

/-- The log of a trace. -/
def logged (trace : List Step) : List Log.Event :=
  trace.filterMap fun
    | .read _ => none
    | .log event => some event

end Activity

end StorageBackend

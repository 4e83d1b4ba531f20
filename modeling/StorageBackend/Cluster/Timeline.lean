import StorageBackend.Cluster.Client

/-!
# A cluster in memory

Objects and failures that come and go with the clock. Every object and every failure has a window
of time in which it is there; a failure hides the object that it concerns. Reads take no time, and
only a limited number of them is answered.
-/

namespace StorageBackend.Cluster

/-- A time at which something is there. -/
structure Window where
  /-- When it begins, unless it never does. -/
  opens : Option Instant
  /-- When it is over, unless it lasts for ever. -/
  closes : Option Instant
deriving DecidableEq

namespace Window

/-- The window that opens a while after `now`, and closes a while after `now`. -/
def ofDelays (now : Instant) (delay : Duration) (lasts : Option Duration) : Window where
  opens := Clock.after now delay
  closes := lasts.bind (Clock.after now)

/-- Whether an instant is in a window. -/
def contains (window : Window) (now : Instant) : Bool :=
  (match window.opens with
    | none => false
    | some opens => opens ≤ now) &&
  (match window.closes with
    | none => true
    | some closes => now < closes)

end Window

/-- Things in windows of time, each under a reference. -/
abbrev Windowed (α : Type) := List (ObjectRef × Window × α)

namespace Windowed

/-- Removes what is there under a reference. -/
def erase (things : Windowed α) (object : ObjectRef) : Windowed α :=
  things.filter fun thing => thing.1 ≠ object

/-- Puts something under a reference, in place of what was there. -/
def put (things : Windowed α) (object : ObjectRef) (window : Window) (value : α) : Windowed α :=
  (object, window, value) :: things.erase object

/-- What is there under a reference at an instant. -/
def at? (things : Windowed α) (object : ObjectRef) (now : Instant) : Option α :=
  match things.find? fun thing => thing.1 = object with
  | none => none
  | some (_, window, value) => if window.contains now then some value else none

end Windowed

/-- A cluster in memory. -/
structure Timeline where
  configMaps : Windowed ConfigMap
  secrets : Windowed Secret
  failures : Windowed Error
  /-- How many reads are still answered. -/
  readsLeft : Nat

namespace Timeline

/-- A cluster without objects that answers a number of reads. -/
def empty (reads : Nat) : Timeline := ⟨[], [], [], reads⟩

/-- The error of reads that are not answered. -/
def exhausted : Error := .clientConfig "read limit reached"

/-- Answers a read of an object from the things of its kind. -/
def answer (things : Timeline → Windowed α) (object : ObjectRef) (now : Instant)
    (timeline : Timeline) : Answer Timeline α :=
  match timeline.readsLeft with
  | 0 => ⟨.error exhausted, ⟨0⟩, timeline, []⟩
  | left + 1 =>
    let result :=
      match timeline.failures.at? object now with
      | some error => .error error
      | none => .ok ((things timeline).at? object now)
    ⟨result, ⟨0⟩, { timeline with readsLeft := left }, []⟩

/-- Read access to a cluster in memory. -/
def client : Client Timeline where
  configMap ns name := answer Timeline.configMaps ⟨.configMap, ns, name⟩
  secret ns name := answer Timeline.secrets ⟨.secret, ns, name⟩

end Timeline

end StorageBackend.Cluster

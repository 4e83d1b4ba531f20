import StorageBackend.Basic
import StorageBackend.Poll

/-!
# Rehearsed waits

A wait whose checks follow a script: what each of them finds, and how long it takes. Behind the
script a number of checks find nothing, and then one fails.
-/

namespace StorageBackend.Poll

/-- A check in a script. -/
structure Scene (α : Type) where
  found : Except Error (Option α)
  takes : Duration

/-- What is still to come. -/
structure Rehearsal (α : Type) where
  script : Script (Scene α)
  /-- How many checks behind the script find nothing. -/
  patience : Nat

namespace Rehearsal

variable {α : Type}

/-- The error of the check behind the last one. -/
def exhausted : Error := .clientConfig "script exhausted"

/-- The next check. -/
def check : Activity (Rehearsal α) (Option α) := fun _ now rehearsal =>
  match rehearsal.script.next? with
  | some (scene, script) =>
    some ⟨scene.found, now + scene.takes.nanos, { rehearsal with script := script }, []⟩
  | none =>
    match rehearsal.patience with
    | 0 => some ⟨.error exhausted, now, rehearsal, []⟩
    | patience + 1 => some ⟨.ok none, now, { rehearsal with patience := patience }, []⟩

/-- More checks than the rehearsed wait makes. -/
def budget (rehearsal : Rehearsal α) : Nat := rehearsal.script.length + rehearsal.patience + 1

/-- Waits, from the start of the clock. -/
def run (rehearsal : Rehearsal α) (policy : PollPolicy) (operation : String) :
    Option (Report (Rehearsal α) α) :=
  Poll.run policy operation check rehearsal.budget 0 rehearsal

end Rehearsal

end StorageBackend.Poll

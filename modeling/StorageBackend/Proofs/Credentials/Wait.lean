import StorageBackend.Credentials
import StorageBackend.Proofs.Activity
import StorageBackend.Proofs.Poll.Course

/-!
# The course of a wait for a secret

A read always has an answer, so a wait for a secret has a course: every check of it is one read of
this secret. The course is given by the answers of the client alone, whatever they depend on.
-/

namespace StorageBackend.Credentials

open Cluster (Client Secret)
open Poll (Course)

variable {σ : Type} (client : Client σ) (policy : PollPolicy) (ns name : String) (now : Instant)
  (state : σ)

/-- The secret with the given namespace and name. -/
def secretRef (ns name : String) : ObjectRef := ⟨.secret, ns, name⟩

/-- A read of a secret. -/
def secretRead (now : Instant) (state : σ) : Outcome σ (Option Secret) :=
  let answer := client.secret ns name now state
  { result := answer.result
    now := now + answer.took.nanos
    state := answer.state
    trace := .read (secretRef ns name) :: answer.log.map .log }

/-- The wait for a secret that begins at `now`. -/
def secretCourse : Course σ Secret where
  policy := policy
  operation := waitOperation ns name
  probe := secretRead client ns name
  start := now
  state := state

/-- A read of a secret always has an outcome. -/
theorem read_secret_apply (budget : Nat) :
    client.readSecret ns name budget now state = some (secretRead client ns name now state) := rfl

/-- Waiting for a secret is the course of its reads. -/
theorem wait_for_secret_apply (budget : Nat) :
    waitForSecret client policy ns name budget now state =
      ((secretCourse client policy ns name now state).run budget).map Report.outcome := rfl

/-- A read reads the secret and nothing else. -/
theorem reads_secret_read :
    Activity.reads (secretRead client ns name now state).trace = [secretRef ns name] := by
  simp [secretRead]

/-- Every check of a wait reads the secret once, and nothing else is read. -/
theorem reads_report (n : Nat) :
    Activity.reads ((secretCourse client policy ns name now state).report n).outcome.trace =
      List.replicate (n + 1) (secretRef ns name) := by
  let course := secretCourse client policy ns name now state
  have hcheck : ∀ k, Activity.reads (course.outcome k).trace = [secretRef ns name] := fun k =>
    reads_secret_read client ns name _ _
  have hnote : ∀ attempt, Activity.reads (course.wait.note attempt) = [] := by
    intro attempt
    unfold Poll.Wait.note
    split <;> rfl
  have hpassage : ∀ k, Activity.reads (course.passage k) = [secretRef ns name] := fun k => by
    rw [Course.passage, Activity.reads_append, hcheck, hnote, List.append_nil]
  have hfarewell : Activity.reads (course.farewell n) = [secretRef ns name] := by
    rw [Course.farewell, Activity.reads_append, hcheck]
    rfl
  show Activity.reads ((List.range n).flatMap course.passage ++ course.farewell n) = _
  rw [Activity.reads_append, Activity.reads_flatMap, hfarewell, List.replicate_succ']
  simp only [hpassage, ← List.map_eq_flatMap, List.map_const', List.length_range]

end StorageBackend.Credentials

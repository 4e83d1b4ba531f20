import StorageBackend.Activity

/-!
# Waiting for something

A wait checks at once, and then again and again with a pause in between, until a check finds what
is waited for, a check fails, or the next check would begin after the deadline. `Poll.run` tells how
a wait went, with the instants at which its checks began; `Poll.await` is the wait as an activity.

A check that has begun before the deadline is never cut short, so a wait may end after it.
-/

namespace StorageBackend

/-- How long to pause between two checks, and how long to wait in all. -/
structure PollPolicy where
  interval : Duration
  timeout : Duration
deriving DecidableEq

/-- A pause of one second, and five minutes in all. -/
def PollPolicy.default : PollPolicy := ⟨.ofSeconds 1, .ofSeconds 300⟩

instance : Inhabited PollPolicy := ⟨.default⟩

/-- How a wait went. -/
structure Report (σ α : Type) where
  outcome : Outcome σ α
  /-- When the checks began. -/
  starts : List Instant

namespace Poll

variable {σ α : Type}

/-- Whether a check that would begin one pause after `now` comes after the deadline. Without a
deadline none does; an instant that cannot be represented comes after every deadline. -/
def isPast (deadline : Option Instant) (now : Instant) (interval : Duration) : Bool :=
  match deadline, Clock.after now interval with
  | none, _ => false
  | some _, none => true
  | some deadline, some next => deadline < next

/-- Whether it is worth telling that a wait goes on after an attempt: the first time, and then once
a minute as long as the pause is one second. -/
def isNoted (attempt : UInt32) : Bool := attempt == 1 || attempt % 60 == 0

/-- A wait that stays the same while it lasts. -/
structure Wait (σ α : Type) where
  policy : PollPolicy
  /-- What is waited for, in words. -/
  operation : String
  /-- Finds what is waited for, or nothing yet. -/
  check : Activity σ (Option α)
  start : Instant

/-- The last instant at which a check may begin, if there is such a limit. -/
def Wait.deadline (wait : Wait σ α) : Option Instant :=
  Clock.after wait.start wait.policy.timeout

/-- What is decided after a check. -/
inductive Verdict (α : Type) where
  /-- The wait is over, and this is worth telling. -/
  | over (result : Except Error α) (event : Log.Event)
  /-- The wait goes on. -/
  | goesOn

/-- Decides after the check with number `attempt`, which ended at `now`. -/
def Wait.verdict (wait : Wait σ α) (attempt : UInt32) (now : Instant)
    (found : Except Error (Option α)) : Verdict α :=
  match found with
  | .ok (some value) =>
    .over (.ok value) (.conditionMet wait.operation attempt (Clock.elapsed wait.start now))
  | .error error => .over (.error error) (.aborted wait.operation attempt error.message)
  | .ok none =>
    if isPast wait.deadline now wait.policy.interval then
      .over (.error (.timeout wait.operation (Clock.elapsed wait.start now)))
        (.timedOut wait.operation attempt wait.policy.timeout)
    else .goesOn

/-- What is told when a wait goes on. -/
def Wait.note (wait : Wait σ α) (attempt : UInt32) : List Step :=
  if isNoted attempt then [.log (.stillWaiting wait.operation attempt)] else []

/-- The part of a wait after `attempt` checks, with at most `checks` more of them. -/
def Wait.runFrom (wait : Wait σ α) (budget : Nat) :
    (checks : Nat) → (attempt : UInt32) → Instant → σ → Option (Report σ α)
  | 0, _, _, _ => none
  | checks + 1, attempt, start, state =>
    match wait.check budget start state with
    | none => none
    | some ⟨found, now, state, trace⟩ =>
      match wait.verdict (attempt + 1) now found with
      | .over result event => some ⟨⟨result, now, state, trace ++ [.log event]⟩, [start]⟩
      | .goesOn =>
        let wake := Clock.wake now wait.policy.interval
        (wait.runFrom budget checks (attempt + 1) wake state).map fun report =>
          { outcome :=
              { report.outcome with
                trace := trace ++ wait.note (attempt + 1) ++ report.outcome.trace }
            starts := start :: report.starts }

/-- Waits until `check` finds something, and tells how it went. -/
def run (policy : PollPolicy) (operation : String) (check : Activity σ (Option α)) (budget : Nat)
    (start : Instant) (state : σ) : Option (Report σ α) :=
  Wait.runFrom ⟨policy, operation, check, start⟩ budget budget 0 start state

/-- Waits until `check` finds something. -/
def await (policy : PollPolicy) (operation : String) (check : Activity σ (Option α)) :
    Activity σ α :=
  fun budget start state => (run policy operation check budget start state).map Report.outcome

end Poll

end StorageBackend

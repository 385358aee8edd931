import Mathlib.Data.List.Basic

/-!
`await_endpoint_response_with_timeouts`: a primary request, one backup after the stall threshold, and
an optional recovery deadline.  A phase is one of the `select!`s of the source; one step
takes one of its ready branches.  Which ready branch a `select!` takes is left open.
Times are milliseconds.
-/

namespace Lamella

def endpointStallThreshold : Nat := 250

def endpointStallLogInterval : Nat := 5000

/-- ergot's `ReqRespError`; its cases are not told apart by the host. -/
structure ReqRespError where
  code : Nat
deriving DecidableEq

structure EndpointWaitResult (Answer : Type) where
  result : Except ReqRespError Answer
  stalledFor : Option Nat
  backupSent : Bool
  discardedErrors : Nat
deriving DecidableEq

inductive EndpointWaitOutcome (Answer : Type)
  | completed (wait : EndpointWaitResult Answer)
  | recoveryRequired (stalledFor : Nat)
  | cancelled
deriving DecidableEq

inductive ResponseSource
  | primary
  | backup
deriving DecidableEq

/-- The `select!` before `make_backup`, the one over both requests, and those that are left
with one of them after the other failed. -/
inductive WaitPhase
  | primaryOnly
  | both
  | backupPending
  | primaryPending
deriving DecidableEq

structure Wait where
  started : Nat
  warningAt : Nat
  phase : WaitPhase
deriving DecidableEq

inductive WaitEvent (Answer : Type)
  | resolved (source : ResponseSource) (result : Except ReqRespError Answer)
  | warning
  | recoveryDeadline
  | cancelled
deriving DecidableEq

inductive WaitStep (Answer : Type)
  | waiting (wait : Wait)
  | makeBackup (wait : Wait)
  | returned (outcome : EndpointWaitOutcome Answer)

def Wait.begin (stallThreshold now : Nat) : Wait := ⟨now, now + stallThreshold, .primaryOnly⟩

def WaitPhase.polls : WaitPhase → ResponseSource → Bool
  | .primaryOnly, .primary | .both, _ | .backupPending, .backup | .primaryPending, .primary => true
  | _, _ => false

def Wait.elapsed (wait : Wait) (now : Nat) : Nat := now - wait.started

variable {Answer : Type}

def Wait.resolve (wait : Wait) (now : Nat) (source : ResponseSource)
    (result : Except ReqRespError Answer) : WaitStep Answer :=
  match wait.phase, result with
  | .primaryOnly, result => .returned (.completed ⟨result, none, false, 0⟩)
  | .both, .ok response =>
      .returned (.completed ⟨.ok response, some (wait.elapsed now), true, 0⟩)
  | .both, .error _ =>
      match source with
      | .primary => .waiting { wait with phase := .backupPending }
      | .backup => .waiting { wait with phase := .primaryPending }
  | .backupPending, result | .primaryPending, result =>
      .returned (.completed ⟨result, some (wait.elapsed now), true, 1⟩)

/-- The stall timer: it sends the backup once and only logs afterwards. -/
def Wait.warn (wait : Wait) (now : Nat) : WaitStep Answer :=
  let warningAt := now + endpointStallLogInterval
  match wait.phase with
  | .primaryOnly => .makeBackup { wait with warningAt, phase := .both }
  | _ => .waiting { wait with warningAt }

def awaitEndpointResponseWithTimeouts (recoveryTimeout : Option Nat) (wait : Wait)
    (now : Nat) : WaitEvent Answer → Option (WaitStep Answer)
  | .resolved source result =>
      if wait.phase.polls source then some (wait.resolve now source result) else none
  | .warning => if wait.warningAt ≤ now then some (wait.warn now) else none
  | .recoveryDeadline =>
      match recoveryTimeout with
      | none => none
      | some duration =>
          if wait.started + duration ≤ now then
            some (.returned (.recoveryRequired (wait.elapsed now)))
          else none
  | .cancelled => some (.returned .cancelled)

end Lamella

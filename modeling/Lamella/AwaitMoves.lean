import Lamella.AwaitCore

/-!
What one step of `await_endpoint_response_with_timeouts` can do, one case for each branch of
its `select!`s.
-/

namespace Lamella

variable {Answer : Type}

def WaitPhase.backupSent : WaitPhase → Bool
  | .primaryOnly => false
  | .both | .backupPending | .primaryPending => true

def WaitPhase.failed : WaitPhase → List ResponseSource
  | .primaryOnly | .both => []
  | .backupPending => [.primary]
  | .primaryPending => [.backup]

def WaitPhase.after : ResponseSource → WaitPhase
  | .primary => .backupPending
  | .backup => .primaryPending

def Wait.completion (wait : Wait) (now : Nat) (result : Except ReqRespError Answer) :
    EndpointWaitResult Answer where
  result := result
  stalledFor := if wait.phase.backupSent then some (wait.elapsed now) else none
  backupSent := wait.phase.backupSent
  discardedErrors := wait.phase.failed.length

inductive WaitMoves (recoveryTimeout : Option Nat) (wait : Wait) (now : Nat) :
    WaitEvent Answer → WaitStep Answer → Prop
  | answer {source : ResponseSource} {value : Answer} (polled : wait.phase.polls source = true) :
      WaitMoves recoveryTimeout wait now (.resolved source (.ok value))
        (.returned (.completed (wait.completion now (.ok value))))
  | fail {source : ResponseSource} {error : ReqRespError} (both : wait.phase = .both) :
      WaitMoves recoveryTimeout wait now (.resolved source (.error error))
        (.waiting { wait with phase := .after source })
  | giveUp {source : ResponseSource} {error : ReqRespError}
      (polled : wait.phase.polls source = true) (last : wait.phase ≠ .both) :
      WaitMoves recoveryTimeout wait now (.resolved source (.error error))
        (.returned (.completed (wait.completion now (.error error))))
  | backup (due : wait.warningAt ≤ now) (first : wait.phase = .primaryOnly) :
      WaitMoves recoveryTimeout wait now .warning
        (.makeBackup { wait with warningAt := now + endpointStallLogInterval, phase := .both })
  | log (due : wait.warningAt ≤ now) (sent : wait.phase.backupSent = true) :
      WaitMoves recoveryTimeout wait now .warning
        (.waiting { wait with warningAt := now + endpointStallLogInterval })
  | deadline {duration : Nat} (given : recoveryTimeout = some duration)
      (due : wait.started + duration ≤ now) :
      WaitMoves recoveryTimeout wait now .recoveryDeadline
        (.returned (.recoveryRequired (wait.elapsed now)))
  | cancel : WaitMoves recoveryTimeout wait now .cancelled (.returned .cancelled)

theorem await_moves {recoveryTimeout : Option Nat} {wait : Wait} {now : Nat}
    {event : WaitEvent Answer} {next : WaitStep Answer}
    (stepped : awaitEndpointResponseWithTimeouts recoveryTimeout wait now event = some next) :
    WaitMoves recoveryTimeout wait now event next := by
  obtain ⟨started, warningAt, phase⟩ := wait
  cases event with
  | resolved source result =>
      simp only [awaitEndpointResponseWithTimeouts] at stepped
      split at stepped
      case isFalse => contradiction
      case isTrue polled =>
          cases stepped
          cases result with
          | ok value => cases phase <;> exact .answer polled
          | error error =>
              cases phase with
              | both => cases source <;> exact .fail rfl
              | primaryOnly => exact .giveUp polled (by simp)
              | backupPending => exact .giveUp polled (by simp)
              | primaryPending => exact .giveUp polled (by simp)
  | warning =>
      simp only [awaitEndpointResponseWithTimeouts] at stepped
      split at stepped
      case isFalse => contradiction
      case isTrue due =>
          cases stepped
          cases phase with
          | primaryOnly => exact .backup due rfl
          | _ => exact .log due rfl
  | recoveryDeadline =>
      simp only [awaitEndpointResponseWithTimeouts] at stepped
      split at stepped
      case h_1 => contradiction
      case h_2 duration =>
          split at stepped
          case isFalse => contradiction
          case isTrue due =>
              cases stepped
              exact .deadline rfl due
  | cancelled =>
      cases stepped
      exact .cancel

end Lamella

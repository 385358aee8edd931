import Mathlib.Algebra.GroupWithZero.Nat
import Lamella.ExchangeMoves
import Lamella.MachineCore

/-!
The retry loop of one transaction in the serial exchange.  The recovery deadline is armed
anew by every attempt, so it bounds the attempts and not the transaction.
-/

namespace Lamella

/-- One pass of a retry loop: how long its wait took and how it ended. -/
structure TimedAttempt where
  elapsed : Nat
  outcome : EndpointWaitOutcome Response
deriving DecidableEq

/-- How the retry loop stands after these attempts; it goes on while this is `again`. -/
def retryLoop (request : Request) (metrics : BridgeMetrics) :
    List TimedAttempt → BridgeMetrics × AttemptEnd
  | [] => (metrics, .again)
  | attempt :: rest =>
      match afterWait metrics request attempt.outcome with
      | (metrics, .again) => retryLoop request metrics rest
      | ended => ended

def elapsedOf (attempts : List TimedAttempt) : Nat :=
  (attempts.map fun attempt => attempt.elapsed).sum

/-- The attempt was not cancelled and did not get the response of its transaction. -/
def TimedAttempt.unanswered (request : Request) (attempt : TimedAttempt) : Bool :=
  match attempt.outcome with
  | .cancelled => false
  | .recoveryRequired _ => true
  | .completed wait =>
      match wait.result with
      | .ok response => response.transaction ≠ request.transaction
      | .error _ => true

def TimedAttempt.completed (attempt : TimedAttempt) : Bool :=
  match attempt.outcome with
  | .completed _ => true
  | .recoveryRequired _ | .cancelled => false

def Exchange.attemptEnd (recoveryTimeout : Option Nat) (exchange : Exchange)
    (event : ExchangeEvent) : Option TimedAttempt :=
  match exchange.phase, event with
  | .await _ attempt, .wait now event =>
      match awaitEndpointResponseWithTimeouts recoveryTimeout attempt.wait now event with
      | some (.returned outcome) => some ⟨attempt.wait.elapsed now, outcome⟩
      | _ => none
  | _, _ => none

def attemptsOf (recoveryTimeout : Option Nat) (exchange : Exchange) :
    List ExchangeEvent → List TimedAttempt
  | [] => []
  | event :: rest =>
      match wifiExchange recoveryTimeout exchange event with
      | none => []
      | some (next, _) =>
          (exchange.attemptEnd recoveryTimeout event).toList ++ attemptsOf recoveryTimeout next rest

theorem afterWait_again {request : Request} {attempt : TimedAttempt}
    (unanswered : attempt.unanswered request = true) (completed : attempt.completed = true)
    (metrics : BridgeMetrics) : (afterWait metrics request attempt.outcome).2 = .again := by
  obtain ⟨elapsed, outcome⟩ := attempt
  cases outcome with
  | completed wait =>
      simp only [TimedAttempt.unanswered] at unanswered
      simp only [afterWait]
      cases result : wait.result with
      | error error => rfl
      | ok response =>
          simp only [result, ne_eq, decide_not, Bool.not_eq_true', decide_eq_false_iff_not] at unanswered
          simp only [unanswered, if_false]
  | recoveryRequired stalledFor => contradiction
  | cancelled => contradiction

theorem afterWait_recoveryRequired {request : Request} {attempt : TimedAttempt}
    (unanswered : attempt.unanswered request = true) (deadline : attempt.completed = false)
    (metrics : BridgeMetrics) :
    (afterWait metrics request attempt.outcome).2 = .returned .recoveryRequired := by
  obtain ⟨elapsed, outcome⟩ := attempt
  cases outcome with
  | completed wait => contradiction
  | recoveryRequired stalledFor => rfl
  | cancelled => contradiction

theorem retryLoop_again {request : Request} {metrics : BridgeMetrics} {attempt : TimedAttempt}
    (again : (afterWait metrics request attempt.outcome).2 = .again) (rest : List TimedAttempt) :
    retryLoop request metrics (attempt :: rest) =
      retryLoop request (afterWait metrics request attempt.outcome).1 rest := by
  rw [retryLoop]
  split
  next next same => rw [same]
  next other => exact (other (afterWait metrics request attempt.outcome).1 (Prod.ext rfl again)).elim

theorem retryLoop_ended {request : Request} {metrics : BridgeMetrics} {attempt : TimedAttempt}
    (ended : (afterWait metrics request attempt.outcome).2 ≠ .again) (rest : List TimedAttempt) :
    retryLoop request metrics (attempt :: rest) = afterWait metrics request attempt.outcome := by
  rw [retryLoop]
  split
  next next same => exact absurd (by rw [same]) ended
  next => rfl

theorem retryLoop_singleton (request : Request) (metrics : BridgeMetrics) (attempt : TimedAttempt) :
    retryLoop request metrics [attempt] = afterWait metrics request attempt.outcome := by
  by_cases again : (afterWait metrics request attempt.outcome).2 = .again
  · rw [retryLoop_again again]
    exact Prod.ext rfl again.symm
  · exact retryLoop_ended again []

theorem retryLoop_append (request : Request) (metrics : BridgeMetrics)
    (earlier later : List TimedAttempt) :
    retryLoop request metrics (earlier ++ later) =
      if (retryLoop request metrics earlier).2 = .again then
        retryLoop request (retryLoop request metrics earlier).1 later
      else retryLoop request metrics earlier := by
  induction earlier generalizing metrics with
  | nil => simp [retryLoop]
  | cons attempt rest ih =>
      by_cases again : (afterWait metrics request attempt.outcome).2 = .again
      · rw [List.cons_append, retryLoop_again again, retryLoop_again again, ih]
      · rw [List.cons_append, retryLoop_ended again, retryLoop_ended again, if_neg again]

theorem retryLoop_unanswered {request : Request} {attempts : List TimedAttempt}
    (unanswered : ∀ attempt ∈ attempts, attempt.unanswered request = true)
    (metrics : BridgeMetrics) :
    (retryLoop request metrics attempts).2 =
      if attempts.all TimedAttempt.completed then .again else .returned .recoveryRequired := by
  induction attempts generalizing metrics with
  | nil => rfl
  | cons attempt rest ih =>
      have here := unanswered attempt (by simp)
      cases completed : attempt.completed with
      | true =>
          rw [retryLoop_again (afterWait_again here completed metrics),
            ih fun other member => unanswered other (by simp [member])]
          simp [completed]
      | false =>
          have ended := afterWait_recoveryRequired here completed metrics
          rw [retryLoop_ended (by simp [ended]), ended]
          simp [completed]

/-! The retry loop is what the exchange does between beginning and ending a transaction. -/

def ExchangeEvent.inRetryLoop : ExchangeEvent → Bool
  | .attempt _ _ | .wait _ _ => true
  | .tryRecv _ | .beginRx | .tapSent _ => false

def Exchange.StandsAt (exchange : Exchange) (request : Request) (stand : BridgeMetrics × AttemptEnd) :
    Prop :=
  exchange.metrics = stand.1 ∧
    match stand.2 with
    | .again => exchange.phase.request = some request
    | .matched _ => exchange.phase.request = none ∧ exchange.phase.isReturned = false
    | .returned reason => exchange.phase = .returned reason

theorem wifiExchange_outside {recoveryTimeout : Option Nat} {exchange : Exchange}
    {event : ExchangeEvent} (ended : exchange.phase.request = none)
    (inLoop : event.inRetryLoop = true) : wifiExchange recoveryTimeout exchange event = none := by
  unfold wifiExchange
  split <;> simp_all [ExchangePhase.request, ExchangeEvent.inRetryLoop]

theorem finishAttempt_standsAt (exchange : Exchange) (request : Request)
    (outcome : EndpointWaitOutcome Response) :
    (exchange.finishAttempt request outcome).1.StandsAt request
      (afterWait exchange.metrics request outcome) := by
  unfold Exchange.finishAttempt
  split
  next metrics response ended =>
      rw [ended, Exchange.matched_eq]
      exact ⟨rfl, ExchangePhase.request_of_idle (afterMatch_isIdle request response)⟩
  next metrics ended =>
      rw [ended]
      exact ⟨rfl, rfl⟩
  next metrics reason ended =>
      rw [ended]
      exact ⟨rfl, rfl⟩

theorem retryLoop_step {recoveryTimeout : Option Nat} {exchange next : Exchange}
    {request : Request} {event : ExchangeEvent} {outputs : List ExchangeOutput}
    (current : exchange.phase.request = some request) (inLoop : event.inRetryLoop = true)
    (stepped : wifiExchange recoveryTimeout exchange event = some (next, outputs)) :
    next.StandsAt request (retryLoop request exchange.metrics
      (exchange.attemptEnd recoveryTimeout event).toList) := by
  unfold wifiExchange at stepped
  split at stepped
  case h_4 other now peer phase =>
      rw [phase] at current
      cases current
      cases stepped
      simp only [Exchange.attemptEnd, phase]
      exact ⟨rfl, rfl⟩
  case h_5 other attempt now event phase =>
      rw [phase] at current
      cases current
      simp only [Exchange.attemptEnd, phase]
      unfold Exchange.waitStep at stepped
      split at stepped
      case isFalse => contradiction
      case isTrue =>
          split at stepped
          next => contradiction
          next wait waiting =>
              cases stepped
              rw [waiting]
              exact ⟨rfl, rfl⟩
          next wait backup =>
              cases stepped
              rw [backup]
              exact ⟨rfl, rfl⟩
          next outcome returned =>
              cases stepped
              rw [returned]
              rw [Option.toList_some, retryLoop_singleton]
              exact finishAttempt_standsAt exchange request outcome
  all_goals contradiction

/-- A run of the exchange within one transaction is its retry loop over the attempts the
run makes. -/
theorem wifiExchange_retryLoop {recoveryTimeout : Option Nat} {exchange final : Exchange}
    {request : Request} {events : List ExchangeEvent} {outputs : List ExchangeOutput}
    (current : exchange.phase.request = some request)
    (inLoop : ∀ event ∈ events, event.inRetryLoop = true)
    (ran : Machine.run (wifiExchange recoveryTimeout) exchange events = some (final, outputs)) :
    final.StandsAt request
      (retryLoop request exchange.metrics (attemptsOf recoveryTimeout exchange events)) := by
  induction events generalizing exchange outputs with
  | nil =>
      cases ran
      exact ⟨rfl, current⟩
  | cons event rest ih =>
      obtain ⟨next, output, later, stepped, continued, _⟩ := (Machine.run_cons_iff _ _ _ _ _).mp ran
      have here := retryLoop_step current (inLoop event (by simp)) stepped
      simp only [attemptsOf, stepped]
      rw [retryLoop_append]
      generalize retryLoop request exchange.metrics
        (exchange.attemptEnd recoveryTimeout event).toList = stand at here ⊢
      obtain ⟨metrics, ended⟩ := stand
      obtain ⟨rfl, phase⟩ := here
      -- After the end of the transaction no event of the loop is enabled.
      have finished (outside : next.phase.request = none) : rest = [] ∧ final = next := by
        cases rest with
        | nil =>
            cases continued
            exact ⟨rfl, rfl⟩
        | cons another others =>
            obtain ⟨_, _, _, impossible, _⟩ := (Machine.run_cons_iff _ _ _ _ _).mp continued
            rw [wifiExchange_outside outside (inLoop another (by simp))] at impossible
            contradiction
      cases ended with
      | again =>
          rw [if_pos rfl]
          exact ih phase (fun other member => inLoop other (by simp [member])) continued
      | matched response =>
          obtain ⟨rfl, rfl⟩ := finished phase.1
          exact ⟨rfl, phase⟩
      | returned reason =>
          dsimp only at phase
          obtain ⟨rfl, rfl⟩ := finished (by rw [phase]; rfl)
          exact ⟨rfl, phase⟩

theorem elapsedOf_le_of_prefix {consumed attempts : List TimedAttempt}
    (front : consumed <+: attempts) : elapsedOf consumed ≤ elapsedOf attempts := by
  obtain ⟨rest, rfl⟩ := front
  simp [elapsedOf]

/-- The loop returns for recovery by the time its attempts took the recovery timeout
exactly when the attempts it completes before the first expired deadline took less. -/
theorem recovery_in_time_iff (request : Request) (metrics : BridgeMetrics)
    {attempts : List TimedAttempt}
    (unanswered : ∀ attempt ∈ attempts, attempt.unanswered request = true) :
    (∀ consumed, consumed <+: attempts → endpointRecoveryTimeout ≤ elapsedOf consumed →
        (retryLoop request metrics consumed).2 = .returned .recoveryRequired) ↔
      elapsedOf (attempts.takeWhile TimedAttempt.completed) < endpointRecoveryTimeout := by
  have consumedLoop {consumed : List TimedAttempt} (front : consumed <+: attempts) :=
    retryLoop_unanswered (fun attempt member => unanswered attempt (front.subset member)) metrics
  constructor
  · intro recovers
    by_contra late
    have front := List.takeWhile_prefix TimedAttempt.completed (l := attempts)
    have ended := recovers _ front (Nat.le_of_not_lt late)
    rw [consumedLoop front, if_pos List.all_takeWhile] at ended
    contradiction
  · intro short consumed front late
    rw [consumedLoop front, if_neg]
    intro completed
    -- Only completed attempts were consumed, so all of them precede the first deadline.
    have within : consumed <+: attempts.takeWhile TimedAttempt.completed := by
      obtain ⟨rest, rfl⟩ := front
      rw [List.takeWhile_append_of_pos (List.all_eq_true.mp completed)]
      exact List.prefix_append _ _
    have := elapsedOf_le_of_prefix within
    omega

def sampleRxRequest : Request := .rx ⟨⟨7, 0⟩⟩

def sampleRecovery : List TimedAttempt :=
  [⟨10, .completed ⟨.error ⟨0⟩, none, false, 0⟩⟩, ⟨600, .completed ⟨.error ⟨0⟩, some 600, true, 1⟩⟩,
    ⟨5000, .recoveryRequired 5000⟩]

theorem recovery_in_time_iff_sample :
    elapsedOf (sampleRecovery.takeWhile TimedAttempt.completed) < endpointRecoveryTimeout ∧
      (retryLoop sampleRxRequest {} sampleRecovery).2 = .returned .recoveryRequired := by
  have short : elapsedOf (sampleRecovery.takeWhile TimedAttempt.completed) <
      endpointRecoveryTimeout := by decide
  refine ⟨short, ?_⟩
  exact (recovery_in_time_iff sampleRxRequest {} (by decide)).mpr short _ (List.prefix_refl _)
    (by decide)

def sampleRetrying : Exchange := ⟨7, 1, .retry sampleRxRequest, .default, {}⟩

/-- The interface is gone: each of 25 requests fails 200 milliseconds after it was made. -/
def sampleFailures : List ExchangeEvent :=
  (List.range 25).flatMap fun count =>
    [.attempt (200 * count) ⟨1, 2, 0⟩,
      .wait (200 * count + 200) (.resolved .primary (.error ⟨0⟩))]

/-- After the recovery timeout the exchange is still retrying. -/
theorem recovery_in_time_fails :
    let attempts := attemptsOf (some endpointRecoveryTimeout) sampleRetrying sampleFailures
    (∀ attempt ∈ attempts, attempt.unanswered sampleRxRequest = true) ∧
      endpointRecoveryTimeout ≤ elapsedOf attempts ∧
      (retryLoop sampleRxRequest {} attempts).2 = .again ∧
      (Machine.run (wifiExchange (some endpointRecoveryTimeout)) sampleRetrying
          sampleFailures).map (fun result => result.1.phase) = some (.retry sampleRxRequest) := by
  decide +kernel

end Lamella

import Lamella.AwaitMoves
import Lamella.ExchangeCore

/-!
What one step of `wifi_exchange` can do.  `ExchangeMoves` has a case for each branch of the
source; its effect on the current transaction is to begin it, to send a copy of its request,
to end it with a matching response, or to leave it alone.
-/

namespace Lamella

def ExchangePhase.request : ExchangePhase → Option Request
  | .retry request | .await request _ => some request
  | .tryRecv | .beginRx | .tapSend _ | .returned _ => none

def ExchangePhase.isIdle : ExchangePhase → Bool
  | .tryRecv | .beginRx | .tapSend _ => true
  | .retry _ | .await _ _ | .returned _ => false

def tapWrite (request : Request) (response : Response) : List ExchangeOutput :=
  match request.direction, response.frame with
  | .rx, some frame => [.tapSend request frame]
  | _, _ => []

theorem tapWrite_cases (request : Request) (response : Response) :
    tapWrite request response = [] ∨ ∃ frame, tapWrite request response = [.tapSend request frame] := by
  unfold tapWrite
  split
  · exact Or.inr ⟨_, rfl⟩
  · exact Or.inl rfl

def ExchangePhase.afterMatch (request : Request) (response : Response) : ExchangePhase :=
  match request.direction, response.frame with
  | .tx, _ => .beginRx
  | .rx, none => .tryRecv
  | .rx, some frame => .tapSend frame

theorem afterMatch_isIdle (request : Request) (response : Response) :
    (ExchangePhase.afterMatch request response).isIdle = true := by
  unfold ExchangePhase.afterMatch
  split <;> rfl

theorem afterMatch_ne {phase : ExchangePhase} (busy : phase.isIdle = false) (request : Request)
    (response : Response) : ExchangePhase.afterMatch request response ≠ phase := by
  intro same
  have idle := afterMatch_isIdle request response
  rw [same, busy] at idle
  contradiction

theorem ExchangePhase.request_of_idle {phase : ExchangePhase} (idle : phase.isIdle = true) :
    phase.request = none ∧ phase.isReturned = false := by
  cases phase <;> simp_all [ExchangePhase.isIdle, ExchangePhase.request, ExchangePhase.isReturned]

theorem Exchange.matched_eq (exchange : Exchange) (request : Request) (response : Response) :
    exchange.matched request response =
      ({ exchange with phase := .afterMatch request response },
        .acknowledged request response :: tapWrite request response) := by
  unfold Exchange.matched ExchangePhase.afterMatch tapWrite
  split <;> simp_all

inductive ExchangeMoves (recoveryTimeout : Option Nat) (exchange : Exchange) :
    ExchangeEvent → Exchange → List ExchangeOutput → Prop
  | skip (phase : exchange.phase = .tryRecv) :
      ExchangeMoves recoveryTimeout exchange (.tryRecv none) { exchange with phase := .beginRx } []
  | beginTx (frame : WifiFrame) (phase : exchange.phase = .tryRecv) :
      ExchangeMoves recoveryTimeout exchange (.tryRecv (some frame))
        (exchange.beginRequest fun transaction => .tx ⟨transaction, frame⟩).1
        (exchange.beginRequest fun transaction => .tx ⟨transaction, frame⟩).2
  | beginRx (phase : exchange.phase = .beginRx) :
      ExchangeMoves recoveryTimeout exchange .beginRx
        (exchange.beginRequest fun transaction => .rx ⟨transaction⟩).1
        (exchange.beginRequest fun transaction => .rx ⟨transaction⟩).2
  | attempt {request : Request} (now : Nat) (peer : Address)
      (phase : exchange.phase = .retry request) :
      ExchangeMoves recoveryTimeout exchange (.attempt now peer)
        (exchange.beginAttempt request now peer).1 (exchange.beginAttempt request now peer).2
  | log {request : Request} {attempt : Attempt} (now warningAt : Nat)
      (phase : exchange.phase = .await request attempt)
      (sent : attempt.wait.phase.backupSent = true) :
      ExchangeMoves recoveryTimeout exchange (.wait now .warning)
        { exchange with
          phase := .await request { attempt with wait := { attempt.wait with warningAt } } } []
  | backup {request : Request} {attempt : Attempt} (now warningAt : Nat)
      (phase : exchange.phase = .await request attempt)
      (first : attempt.wait.phase = .primaryOnly) :
      ExchangeMoves recoveryTimeout exchange (.wait now .warning)
        (exchange.makeBackup request attempt { attempt.wait with warningAt, phase := .both }).1
        (exchange.makeBackup request attempt { attempt.wait with warningAt, phase := .both }).2
  | fail {request : Request} {attempt : Attempt} (now : Nat) (source : ResponseSource)
      (error : ReqRespError) (phase : exchange.phase = .await request attempt)
      (sent : attempt.dropped source = false) (both : attempt.wait.phase = .both) :
      ExchangeMoves recoveryTimeout exchange (.wait now (.resolved source (.error error)))
        { exchange with
          phase := .await request
            { attempt with wait := { attempt.wait with phase := .after source } } }
        [.resolved request source (.error error)]
  | accept {request : Request} {attempt : Attempt} {response : Response} (now : Nat)
      (source : ResponseSource) (phase : exchange.phase = .await request attempt)
      (sent : attempt.dropped source = false) (polled : attempt.wait.phase.polls source = true)
      (kind : response.direction = request.direction)
      (same : response.transaction = request.transaction) :
      ExchangeMoves recoveryTimeout exchange (.wait now (.resolved source (.ok response)))
        { exchange with
          metrics :=
            recordWait exchange.metrics request.direction
              (attempt.wait.completion now (.ok response))
          phase := .afterMatch request response }
        (.resolved request source (.ok response) :: .acknowledged request response ::
          tapWrite request response)
  | mismatch {request : Request} {attempt : Attempt} {response : Response} (now : Nat)
      (source : ResponseSource) (phase : exchange.phase = .await request attempt)
      (sent : attempt.dropped source = false) (polled : attempt.wait.phase.polls source = true)
      (other : response.transaction ≠ request.transaction) :
      ExchangeMoves recoveryTimeout exchange (.wait now (.resolved source (.ok response)))
        { exchange with
          metrics :=
            ((recordWait exchange.metrics request.direction
              (attempt.wait.completion now (.ok response))).recordRetry
                request.direction).recordResponseMismatch
          phase := .retry request }
        [.resolved request source (.ok response)]
  | giveUp {request : Request} {attempt : Attempt} {error : ReqRespError} (now : Nat)
      (source : ResponseSource) (phase : exchange.phase = .await request attempt)
      (sent : attempt.dropped source = false) (polled : attempt.wait.phase.polls source = true) :
      ExchangeMoves recoveryTimeout exchange (.wait now (.resolved source (.error error)))
        { exchange with
          metrics :=
            ((recordWait exchange.metrics request.direction
              (attempt.wait.completion now (.error error))).recordRetry
                request.direction).recordEndpointError
          phase := .retry request }
        [.resolved request source (.error error)]
  | recover {request : Request} {attempt : Attempt} {duration : Nat} (now : Nat)
      (phase : exchange.phase = .await request attempt) (given : recoveryTimeout = some duration)
      (due : attempt.wait.started + duration ≤ now) :
      ExchangeMoves recoveryTimeout exchange (.wait now .recoveryDeadline)
        { exchange with
          metrics :=
            ((exchange.metrics.recordRetry request.direction).recordStall request.direction
              (attempt.wait.elapsed now)).recordRecoveryTimeout
          phase := .returned .recoveryRequired }
        [.returned .recoveryRequired]
  | cancel {request : Request} {attempt : Attempt} (now : Nat)
      (phase : exchange.phase = .await request attempt) :
      ExchangeMoves recoveryTimeout exchange (.wait now .cancelled)
        { exchange with phase := .returned .cancelled } [.returned .cancelled]
  | tapSent {frame : WifiFrame} (result : Except Unit Nat) (phase : exchange.phase = .tapSend frame) :
      ExchangeMoves recoveryTimeout exchange (.tapSent result)
        { exchange with metrics := tapSent exchange.metrics result, phase := .tryRecv } []

theorem Attempt.admits_sent {attempt : Attempt} {request : Request} {source : ResponseSource}
    {result : Except ReqRespError Response}
    (admitted : attempt.admits request (.resolved source result) = true) :
    attempt.dropped source = false := by
  cases result <;> simp_all [Attempt.admits]

theorem Attempt.admits_kind {attempt : Attempt} {request : Request} {source : ResponseSource}
    {response : Response} (admitted : attempt.admits request (.resolved source (.ok response)) = true) :
    response.direction = request.direction := by
  simp_all [Attempt.admits]

theorem finishAttempt_moves {recoveryTimeout : Option Nat} {exchange : Exchange}
    {request : Request} {attempt : Attempt} {source : ResponseSource}
    {result : Except ReqRespError Response} (now : Nat)
    (phase : exchange.phase = .await request attempt)
    (admitted : attempt.admits request (.resolved source result) = true)
    (polled : attempt.wait.phase.polls source = true) :
    ExchangeMoves recoveryTimeout exchange (.wait now (.resolved source result))
      (exchange.finishAttempt request (.completed (attempt.wait.completion now result))).1
      (.resolved request source result ::
        (exchange.finishAttempt request (.completed (attempt.wait.completion now result))).2) := by
  have sent := Attempt.admits_sent admitted
  have answer : (attempt.wait.completion now result).result = result := rfl
  simp only [Exchange.finishAttempt, afterWait, answer]
  cases result with
  | error error => exact .giveUp now source phase sent polled
  | ok response =>
      by_cases same : response.transaction = request.transaction
      · simp only [if_pos same, Exchange.matched_eq]
        exact .accept now source phase sent polled (Attempt.admits_kind admitted) same
      · simp only [if_neg same]
        exact .mismatch now source phase sent polled same

theorem waitStep_moves {recoveryTimeout : Option Nat} {exchange next : Exchange}
    {request : Request} {attempt : Attempt} {now : Nat} {event : WaitEvent Response}
    {outputs : List ExchangeOutput} (phase : exchange.phase = .await request attempt)
    (stepped : exchange.waitStep recoveryTimeout request attempt now event =
      some (next, outputs)) :
    ExchangeMoves recoveryTimeout exchange (.wait now event) next outputs := by
  unfold Exchange.waitStep at stepped
  split at stepped
  case isFalse => contradiction
  case isTrue admitted =>
      split at stepped
      case h_1 => contradiction
      all_goals
        rename_i moved
        cases stepped
        have moves := await_moves moved
      case h_2 =>
          cases moves with
          | fail both => exact .fail now _ _ phase (Attempt.admits_sent admitted) both
          | log due sent => exact .log now _ phase sent
      case h_3 =>
          cases moves with
          | backup due first => exact .backup now _ phase first
      case h_4 =>
          cases moves with
          | answer polled => exact finishAttempt_moves now phase admitted polled
          | giveUp polled last => exact finishAttempt_moves now phase admitted polled
          | deadline given due => exact .recover now phase given due
          | cancel => exact .cancel now phase

theorem wifiExchange_moves {recoveryTimeout : Option Nat} {exchange next : Exchange}
    {event : ExchangeEvent} {outputs : List ExchangeOutput}
    (stepped : wifiExchange recoveryTimeout exchange event = some (next, outputs)) :
    ExchangeMoves recoveryTimeout exchange event next outputs := by
  unfold wifiExchange at stepped
  split at stepped
  case h_1 phase =>
      cases stepped
      exact .beginTx _ phase
  case h_2 phase =>
      cases stepped
      exact .skip phase
  case h_3 phase =>
      cases stepped
      exact .beginRx phase
  case h_4 now peer phase =>
      cases stepped
      exact .attempt now peer phase
  case h_5 phase => exact waitStep_moves phase stepped
  case h_6 phase =>
      cases stepped
      exact .tapSent _ phase
  case h_7 => contradiction

/-! What a step does to the current transaction. -/

def ExchangeOutput.isQuiet : ExchangeOutput → Bool
  | .resolved _ _ _ | .returned _ => true
  | .began _ | .requested _ _ _ _ | .acknowledged _ _ | .tapSend _ _ => false

def ExchangeOutput.isReturn : ExchangeOutput → Bool
  | .returned _ => true
  | .began _ | .requested _ _ _ _ | .resolved _ _ _ | .acknowledged _ _ | .tapSend _ _ => false

def ExchangeOutput.isRequest : ExchangeOutput → Bool
  | .requested _ _ _ _ => true
  | _ => false

inductive ExchangeEffect (exchange : Exchange) (event : ExchangeEvent) (next : Exchange)
    (outputs : List ExchangeOutput) : Prop
  | quiet
      (still : (next.phase.request = exchange.phase.request ∧ next.phase.isReturned = false) ∨
        next.phase.isReturned = true)
      (counter : next.nextTransactionId = exchange.nextTransactionId)
      (silent : ∀ output ∈ outputs, output.isQuiet = true)
      (running : exchange.phase.isReturned = false)
      (returns : outputs.countP ExchangeOutput.isReturn = if next.phase.isReturned then 1 else 0)
  | begin (request : Request) (before : exchange.phase.request = none)
      (after : next.phase.request = some request)
      (transaction : request.transaction = ⟨exchange.session, exchange.nextTransactionId⟩)
      (counter : next.nextTransactionId = exchange.nextTransactionId + 1)
      (began : outputs = [.began request]) (running : exchange.phase.isReturned = false)
      (stays : next.phase.isReturned = false) (unanswered : event.isResponse = false)
  | send (request : Request) (peer : Address) (source : ResponseSource) (dropped : Bool)
      (before : exchange.phase.request = some request)
      (after : next.phase.request = some request)
      (counter : next.nextTransactionId = exchange.nextTransactionId)
      (requested : outputs = [.requested request peer source dropped])
      (running : exchange.phase.isReturned = false) (stays : next.phase.isReturned = false)
      (unanswered : event.isResponse = false)
  | accept (request : Request) (response : Response) (source : ResponseSource) (now : Nat)
      (received : event = .wait now (.resolved source (.ok response)))
      (before : exchange.phase.request = some request) (after : next.phase.request = none)
      (running : exchange.phase.isReturned = false) (stays : next.phase.isReturned = false)
      (counter : next.nextTransactionId = exchange.nextTransactionId)
      (matched : response.transaction = request.transaction)
      (kind : response.direction = request.direction)
      (acknowledged : outputs = .resolved request source (.ok response) ::
        .acknowledged request response :: tapWrite request response)

theorem wifiExchange_effect {exchange next : Exchange} {recoveryTimeout : Option Nat}
    {event : ExchangeEvent} {outputs : List ExchangeOutput}
    (stepped : wifiExchange recoveryTimeout exchange event = some (next, outputs)) :
    ExchangeEffect exchange event next outputs := by
  have waits {request : Request} {attempt : Attempt}
      (phase : exchange.phase = .await request attempt) :
      exchange.phase.request = some request ∧ exchange.phase.isReturned = false := by
    rw [phase]
    exact ⟨rfl, rfl⟩
  cases wifiExchange_moves stepped with
  | skip phase => exact .quiet (.inl ⟨by rw [phase]; rfl, rfl⟩) rfl (by simp) (by rw [phase]; rfl) rfl
  | beginTx frame phase =>
      exact .begin _ (by rw [phase]; rfl) rfl rfl rfl rfl (by rw [phase]; rfl) rfl rfl
  | beginRx phase =>
      exact .begin _ (by rw [phase]; rfl) rfl rfl rfl rfl (by rw [phase]; rfl) rfl rfl
  | attempt now peer phase =>
      exact .send _ _ _ _ (by rw [phase]; rfl) rfl rfl rfl (by rw [phase]; rfl) rfl rfl
  | log now warningAt phase =>
      obtain ⟨current, running⟩ := waits phase
      exact .quiet (.inl ⟨current.symm, rfl⟩) rfl (by simp) running rfl
  | backup now warningAt phase =>
      obtain ⟨current, running⟩ := waits phase
      exact .send _ _ _ _ current rfl rfl rfl running rfl rfl
  | fail now source error phase =>
      obtain ⟨current, running⟩ := waits phase
      exact .quiet (.inl ⟨current.symm, rfl⟩) rfl (by simp [ExchangeOutput.isQuiet]) running rfl
  | @accept request attempt response now source phase sent polled kind same =>
      obtain ⟨current, running⟩ := waits phase
      obtain ⟨after, stays⟩ := ExchangePhase.request_of_idle (afterMatch_isIdle request response)
      exact .accept request response source now rfl current after running stays rfl same kind rfl
  | mismatch now source phase =>
      obtain ⟨current, running⟩ := waits phase
      exact .quiet (.inl ⟨current.symm, rfl⟩) rfl (by simp [ExchangeOutput.isQuiet]) running rfl
  | giveUp now source phase =>
      obtain ⟨current, running⟩ := waits phase
      exact .quiet (.inl ⟨current.symm, rfl⟩) rfl (by simp [ExchangeOutput.isQuiet]) running rfl
  | recover now phase =>
      exact .quiet (.inr rfl) rfl (by simp [ExchangeOutput.isQuiet]) (waits phase).2 rfl
  | cancel now phase =>
      exact .quiet (.inr rfl) rfl (by simp [ExchangeOutput.isQuiet]) (waits phase).2 rfl
  | tapSent result phase =>
      exact .quiet (.inl ⟨by rw [phase]; rfl, rfl⟩) rfl (by simp) (by rw [phase]; rfl) rfl

theorem wifiExchange_running {recoveryTimeout : Option Nat} {exchange next : Exchange}
    {event : ExchangeEvent} {outputs : List ExchangeOutput}
    (stepped : wifiExchange recoveryTimeout exchange event = some (next, outputs)) :
    exchange.phase.isReturned = false := by
  cases wifiExchange_effect stepped <;> assumption

theorem wifiExchange_session {exchange next : Exchange} {recoveryTimeout : Option Nat}
    {event : ExchangeEvent} {outputs : List ExchangeOutput}
    (stepped : wifiExchange recoveryTimeout exchange event = some (next, outputs)) :
    next.session = exchange.session := by
  cases wifiExchange_moves stepped <;> rfl

end Lamella

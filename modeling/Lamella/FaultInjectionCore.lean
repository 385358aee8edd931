import Lamella.ExchangeMoves
import Lamella.MachineCore

/-!
Fault injection over the sessions of a hot-plug run: the sessions as one machine, conditions on
the device and on the scheduling of the host, and what a trace says about the requests of the
selected direction.
-/

namespace Lamella

/-- A session of the hot-plug loop ends when its exchange requires recovery, and the next one
starts; the cancellation of the host ends the run. -/
inductive SessionEvent
  | session (id : UInt64)
  | exchange (event : ExchangeEvent)

def hotplugSessions (exchange : Exchange) :
    SessionEvent → Option (Exchange × List ExchangeOutput)
  | .session id =>
      if exchange.phase = .returned .recoveryRequired then some (exchange.start id, []) else none
  | .exchange event => wifiExchange (some endpointRecoveryTimeout) exchange event

def injectedStart (budget : Nat) (fault : EndpointFaultDirection) (session : UInt64)
    (metrics : BridgeMetrics) : Exchange :=
  ⟨session, 0, .tryRecv, ⟨budget, fault⟩, metrics⟩

/-- A primary request that was sent is answered before the stall timer and a backup that was
sent before the recovery deadline, with a response to their transaction. -/
def Attempt.answered (attempt : Attempt) (request : Request) : WaitEvent Response → Bool
  | .resolved _ (.ok response) => response.transaction = request.transaction
  | .resolved _ (.error _) => false
  | .warning => attempt.primaryDropped
  | .recoveryDeadline =>
      attempt.primaryDropped && (!attempt.wait.phase.backupSent || attempt.backupDropped)
  | .cancelled => true

def Exchange.answered (exchange : Exchange) (event : SessionEvent) : Bool :=
  match event, exchange.phase with
  | .exchange (.wait _ event), .await request attempt => attempt.answered request event
  | _, _ => true

/-- The stall timer, which is due first, is taken before the recovery deadline. -/
def Exchange.stallFirst (exchange : Exchange) (event : SessionEvent) : Bool :=
  match event, exchange.phase with
  | .exchange (.wait _ .recoveryDeadline), .await _ attempt => attempt.wait.phase.backupSent
  | _, _ => true

/-- Every step of a run of sessions meets a condition. -/
def SessionsObey (allowed : Exchange → SessionEvent → Bool) (start : Exchange)
    (events : List SessionEvent) : Prop :=
  Machine.Obeys hotplugSessions (fun exchange event => allowed exchange event = true) start events

/-! The requests of the selected direction. -/

def EndpointFaultDirection.selects : EndpointFaultDirection → Direction → Bool
  | .any, _ => true
  | .tx, direction => direction = .tx
  | .rx, direction => direction = .rx

theorem EndpointFaultDirection.matches_label (fault : EndpointFaultDirection)
    (direction : Direction) (source : ResponseSource) :
    fault.matches (direction.label source) = fault.selects direction := by
  cases fault with
  | any => rfl
  | tx =>
      rw [Bool.eq_iff_iff]
      simp only [EndpointFaultDirection.matches, String.startsWith_string_iff]
      cases direction <;> cases source <;> decide
  | rx =>
      rw [Bool.eq_iff_iff]
      simp only [EndpointFaultDirection.matches, String.startsWith_string_iff]
      cases direction <;> cases source <;> decide

structure MadeRequest where
  request : Request
  source : ResponseSource
  dropped : Bool

def ExchangeOutput.made (fault : EndpointFaultDirection) : ExchangeOutput → Option MadeRequest
  | .requested request _ source dropped =>
      if fault.selects request.direction then some ⟨request, source, dropped⟩ else none
  | _ => none

def ExchangeOutput.begunSelected (fault : EndpointFaultDirection) : ExchangeOutput → Option Request
  | .began request => if fault.selects request.direction then some request else none
  | _ => none

def ExchangeOutput.isDropped : ExchangeOutput → Bool
  | .requested _ _ _ dropped => dropped
  | _ => false

def ExchangeOutput.isRecovery : ExchangeOutput → Bool
  | .returned .recoveryRequired => true
  | _ => false

def requestsOf (fault : EndpointFaultDirection) (trace : List ExchangeOutput) : List MadeRequest :=
  trace.filterMap (ExchangeOutput.made fault)

def transactionsOf (fault : EndpointFaultDirection) (trace : List ExchangeOutput) : List Request :=
  trace.filterMap (ExchangeOutput.begunSelected fault)

theorem requestsOf_append (fault : EndpointFaultDirection) (past outputs : List ExchangeOutput) :
    requestsOf fault (past ++ outputs) = requestsOf fault past ++ requestsOf fault outputs :=
  List.filterMap_append

def requestPair (request : Request) : List (Request × ResponseSource) :=
  [(request, .primary), (request, .backup)]

def BridgeMetrics.totalRetries (metrics : BridgeMetrics) : Nat :=
  metrics.txRetries + metrics.rxRetries

def madeOf (fault : EndpointFaultDirection) (trace : List ExchangeOutput) :
    List (Request × ResponseSource) :=
  (requestsOf fault trace).map fun made => (made.request, made.source)

def recoveriesOf (trace : List ExchangeOutput) : Nat := trace.countP ExchangeOutput.isRecovery

theorem transactionsOf_append (fault : EndpointFaultDirection)
    (past outputs : List ExchangeOutput) :
    transactionsOf fault (past ++ outputs) =
      transactionsOf fault past ++ transactionsOf fault outputs :=
  List.filterMap_append

theorem madeOf_append (fault : EndpointFaultDirection) (past outputs : List ExchangeOutput) :
    madeOf fault (past ++ outputs) = madeOf fault past ++ madeOf fault outputs := by
  rw [madeOf, requestsOf_append, List.map_append]
  rfl

theorem madeOf_length (fault : EndpointFaultDirection) (trace : List ExchangeOutput) :
    (madeOf fault trace).length = (requestsOf fault trace).length :=
  List.length_map _

theorem recoveriesOf_append (past outputs : List ExchangeOutput) :
    recoveriesOf (past ++ outputs) = recoveriesOf past + recoveriesOf outputs :=
  List.countP_append

end Lamella

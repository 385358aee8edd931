import Lamella.AwaitCore
import Lamella.MetricsCore

/-!
`wifi_exchange`: one task that owns all requests and runs a TX transaction for a waiting
TAP frame and then an RX poll, each with its own retry loop.  The serial and the NUSB
exchange share this logic; they differ in the recovery timeout, in fault injection, and
in where the peer address of an attempt comes from.
-/

namespace Lamella

def endpointRecoveryTimeout : Nat := 5000

structure Address where
  networkId : UInt16
  nodeId : UInt8
  portId : UInt8
deriving DecidableEq

inductive EndpointFaultDirection
  | any
  | tx
  | rx
deriving DecidableEq

def EndpointFaultDirection.matches (self : EndpointFaultDirection) (direction : String) : Bool :=
  match self with
  | .any => true
  | .tx => direction.startsWith "WiFi TX"
  | .rx => direction.startsWith "WiFi RX"

structure EndpointFaultInjector where
  remaining : Nat
  direction : EndpointFaultDirection
deriving DecidableEq

def EndpointFaultInjector.default : EndpointFaultInjector := ⟨0, .any⟩

def EndpointFaultInjector.shouldDrop (injector : EndpointFaultInjector) (direction : String) :
    Bool × EndpointFaultInjector :=
  if injector.direction.matches direction then
    match injector.remaining with
    | 0 => (false, injector)
    | remaining + 1 => (true, { injector with remaining })
  else (false, injector)

def Direction.label : Direction → ResponseSource → String
  | .tx, .primary => "WiFi TX"
  | .tx, .backup => "WiFi TX backup"
  | .rx, .primary => "WiFi RX"
  | .rx, .backup => "WiFi RX backup"

structure Attempt where
  peer : Address
  wait : Wait
  primaryDropped : Bool
  backupDropped : Bool
deriving DecidableEq

def Attempt.dropped (attempt : Attempt) : ResponseSource → Bool
  | .primary => attempt.primaryDropped
  | .backup => attempt.backupDropped

inductive ExchangeEnd
  | cancelled
  | recoveryRequired
deriving DecidableEq

inductive ExchangePhase
  | tryRecv
  | beginRx
  | retry (request : Request)
  | await (request : Request) (attempt : Attempt)
  | tapSend (frame : WifiFrame)
  | returned (reason : ExchangeEnd)
deriving DecidableEq

def ExchangePhase.isReturned : ExchangePhase → Bool
  | .returned _ => true
  | _ => false

structure Exchange where
  session : UInt64
  nextTransactionId : UInt32
  phase : ExchangePhase
  injector : EndpointFaultInjector
  metrics : BridgeMetrics
deriving DecidableEq

inductive ExchangeEvent
  | tryRecv (received : Option WifiFrame)
  | beginRx
  | attempt (now : Nat) (peer : Address)
  | wait (now : Nat) (event : WaitEvent Response)
  | tapSent (result : Except Unit Nat)
deriving DecidableEq

def ExchangeEvent.isResponse : ExchangeEvent → Bool
  | .wait _ (.resolved _ (.ok _)) => true
  | _ => false

inductive ExchangeOutput
  | began (request : Request)
  | requested (request : Request) (peer : Address) (source : ResponseSource) (dropped : Bool)
  | resolved (request : Request) (source : ResponseSource) (result : Except ReqRespError Response)
  | acknowledged (request : Request) (response : Response)
  | tapSend (request : Request) (frame : WifiFrame)
  | returned (reason : ExchangeEnd)
deriving DecidableEq

inductive AttemptEnd
  | matched (response : Response)
  | again
  | returned (reason : ExchangeEnd)
deriving DecidableEq

def recordWait (metrics : BridgeMetrics) (direction : Direction)
    (wait : EndpointWaitResult Response) : BridgeMetrics :=
  let metrics := if wait.backupSent then metrics.recordRetry direction else metrics
  let metrics := Nat.repeat BridgeMetrics.recordEndpointError wait.discardedErrors metrics
  match wait.stalledFor with
  | some duration => metrics.recordStall direction duration
  | none => metrics

/-- The part of a retry loop's body after the `await`.  The NUSB exchange marks the
recovery branch `unreachable!`; without a timeout the wait never returns it. -/
def afterWait (metrics : BridgeMetrics) (request : Request) :
    EndpointWaitOutcome Response → BridgeMetrics × AttemptEnd
  | .cancelled => (metrics, .returned .cancelled)
  | .recoveryRequired stalledFor =>
      let metrics := metrics.recordRetry request.direction
      let metrics := metrics.recordStall request.direction stalledFor
      (metrics.recordRecoveryTimeout, .returned .recoveryRequired)
  | .completed wait =>
      let metrics := recordWait metrics request.direction wait
      match wait.result with
      | .ok response =>
          if response.transaction = request.transaction then (metrics, .matched response)
          else ((metrics.recordRetry request.direction).recordResponseMismatch, .again)
      | .error _ => ((metrics.recordRetry request.direction).recordEndpointError, .again)

namespace Exchange

def beginRequest (exchange : Exchange) (request : WifiTransaction → Request) :
    Exchange × List ExchangeOutput :=
  let request := request ⟨exchange.session, exchange.nextTransactionId⟩
  ({ exchange with
    nextTransactionId := exchange.nextTransactionId + 1
    phase := .retry request }, [.began request])

def beginAttempt (exchange : Exchange) (request : Request) (now : Nat) (peer : Address) :
    Exchange × List ExchangeOutput :=
  let (dropped, injector) := exchange.injector.shouldDrop (request.direction.label .primary)
  let attempt : Attempt := ⟨peer, .begin endpointStallThreshold now, dropped, false⟩
  ({ exchange with injector, phase := .await request attempt },
    [.requested request peer .primary dropped])

def makeBackup (exchange : Exchange) (request : Request) (attempt : Attempt) (wait : Wait) :
    Exchange × List ExchangeOutput :=
  let (dropped, injector) := exchange.injector.shouldDrop (request.direction.label .backup)
  ({ exchange with injector, phase := .await request { attempt with wait, backupDropped := dropped } },
    [.requested request attempt.peer .backup dropped])

def matched (exchange : Exchange) (request : Request) (response : Response) :
    Exchange × List ExchangeOutput :=
  match request.direction, response.frame with
  | .tx, _ => ({ exchange with phase := .beginRx }, [.acknowledged request response])
  | .rx, none => ({ exchange with phase := .tryRecv }, [.acknowledged request response])
  | .rx, some frame =>
      ({ exchange with phase := .tapSend frame },
        [.acknowledged request response, .tapSend request frame])

def finishAttempt (exchange : Exchange) (request : Request)
    (outcome : EndpointWaitOutcome Response) : Exchange × List ExchangeOutput :=
  match afterWait exchange.metrics request outcome with
  | (metrics, .matched response) => matched { exchange with metrics } request response
  | (metrics, .again) => ({ exchange with metrics, phase := .retry request }, [])
  | (metrics, .returned reason) =>
      ({ exchange with metrics, phase := .returned reason }, [.returned reason])

end Exchange

/-- Only a request that was sent resolves, and only with a response of its endpoint. -/
def Attempt.admits (attempt : Attempt) (request : Request) : WaitEvent Response → Bool
  | .resolved source (.ok response) =>
      !attempt.dropped source && response.direction = request.direction
  | .resolved source (.error _) => !attempt.dropped source
  | _ => true

def resolvedOutput (request : Request) : WaitEvent Response → List ExchangeOutput
  | .resolved source result => [.resolved request source result]
  | _ => []

def Exchange.waitStep (recoveryTimeout : Option Nat) (exchange : Exchange) (request : Request)
    (attempt : Attempt) (now : Nat) (event : WaitEvent Response) :
    Option (Exchange × List ExchangeOutput) :=
  if attempt.admits request event then
    match awaitEndpointResponseWithTimeouts recoveryTimeout attempt.wait now event with
    | none => none
    | some (.waiting wait) =>
        some ({ exchange with phase := .await request { attempt with wait } },
          resolvedOutput request event)
    | some (.makeBackup wait) => some (exchange.makeBackup request attempt wait)
    | some (.returned outcome) =>
        let (exchange, outputs) := exchange.finishAttempt request outcome
        some (exchange, resolvedOutput request event ++ outputs)
  else none

def tapSent (metrics : BridgeMetrics) : Except Unit Nat → BridgeMetrics
  | .ok bytes => metrics.recordTapTx bytes
  | .error _ => metrics.recordTapError

def wifiExchange (recoveryTimeout : Option Nat) (exchange : Exchange) (event : ExchangeEvent) :
    Option (Exchange × List ExchangeOutput) :=
  match exchange.phase, event with
  | .tryRecv, .tryRecv (some frame) =>
      some (exchange.beginRequest fun transaction => .tx ⟨transaction, frame⟩)
  | .tryRecv, .tryRecv none => some ({ exchange with phase := .beginRx }, [])
  | .beginRx, .beginRx => some (exchange.beginRequest fun transaction => .rx ⟨transaction⟩)
  | .retry request, .attempt now peer => some (exchange.beginAttempt request now peer)
  | .await request attempt, .wait now event =>
      exchange.waitStep recoveryTimeout request attempt now event
  | .tapSend _, .tapSent result =>
      some ({ exchange with metrics := tapSent exchange.metrics result, phase := .tryRecv }, [])
  | _, _ => none

/-- A new `wifi_exchange` after the previous one returned; the fault injector and the
metrics are shared by all sessions. -/
def Exchange.start (previous : Exchange) (session : UInt64) : Exchange :=
  { previous with session, nextTransactionId := 0, phase := .tryRecv }

end Lamella

import Lamella.ChannelCore
import Lamella.ExchangeCore

/-!
The host's tasks of one session: `tap_reader` sends the frames it reads through a channel of
capacity one to `wifi_exchange`, and both watch the session's cancellation token.  A step is one
step of either task or the cancellation, so every interleaving is a run.  The serial and the NUSB
transport run the same reader.
-/

namespace Lamella

/-- The outer `select!`, the sleep after a read error, the inner `select!`, and the end. -/
inductive TapReader
  | recv
  | sleep
  | send (frame : WifiFrame)
  | returned
deriving DecidableEq

/-- `recv` carries the part of the buffer that was read, `sent` whether `tx.send` succeeded. -/
inductive TapReaderEvent
  | recv (result : Except Unit (List UInt8))
  | slept
  | sent (delivered : Bool)
  | cancelled
deriving DecidableEq

/-- One step of the reader, with the frame it calls `record_tap_rx` for. -/
def tapReader (metrics : BridgeMetrics) :
    TapReader → TapReaderEvent → Option (TapReader × BridgeMetrics × Option WifiFrame)
  | .recv, .recv (.ok buffer) =>
      if buffer.length = 0 then some (.recv, metrics, none)
      else
        match WifiFrame.extendFromSlice buffer with
        | none => some (.recv, metrics, none)
        | some frame => some (.send frame, metrics.recordTapRx buffer.length, some frame)
  | .recv, .recv (.error _) => some (.sleep, metrics.recordTapError, none)
  | .sleep, .slept => some (.recv, metrics, none)
  | .send _, .sent true => some (.recv, metrics, none)
  | .send _, .sent false => some (.returned, metrics, none)
  | .recv, .cancelled | .send _, .cancelled => some (.returned, metrics, none)
  | _, _ => none

/-- After the exchange has returned, `tapRx` holds what was dropped with its receiver. -/
structure TapPipeline where
  reader : TapReader
  tapRx : Channel WifiFrame 1
  exchange : Exchange
  cancelled : Bool

inductive TapPipelineEvent
  | cancel
  | reader (event : TapReaderEvent)
  | exchange (event : ExchangeEvent)

inductive TapPipelineOutput
  | recordTapRx (frame : WifiFrame)
  | exchange (output : ExchangeOutput)
deriving DecidableEq

namespace TapPipeline

def start (session : UInt64) (injector : EndpointFaultInjector) (metrics : BridgeMetrics) :
    TapPipeline :=
  ⟨.recv, .empty, ⟨session, 0, .tryRecv, injector, metrics⟩, false⟩

/-- The channel after a step of the reader.  A send fails only when the receiver is gone; one
that had found room just before may still succeed then. -/
def send (pipeline : TapPipeline) : TapReaderEvent → Option (Channel WifiFrame 1)
  | .sent true =>
      match pipeline.reader with
      | .send frame => pipeline.tapRx.trySend frame
      | _ => none
  | .sent false => if pipeline.exchange.phase.isReturned then some pipeline.tapRx else none
  | .cancelled => if pipeline.cancelled then some pipeline.tapRx else none
  | .recv _ | .slept => some pipeline.tapRx

/-- The channel after a step of the exchange. -/
def receive (pipeline : TapPipeline) : ExchangeEvent → Option (Channel WifiFrame 1)
  | .tryRecv received =>
      match pipeline.tapRx.tryReceive with
      | some (frame, tapRx) => if received = some frame then some tapRx else none
      | none => if received = none then some pipeline.tapRx else none
  | .wait _ .cancelled => if pipeline.cancelled then some pipeline.tapRx else none
  | _ => some pipeline.tapRx

def step (recoveryTimeout : Option Nat) (pipeline : TapPipeline) :
    TapPipelineEvent → Option (TapPipeline × List TapPipelineOutput)
  | .cancel => some ({ pipeline with cancelled := true }, [])
  | .reader event => do
      let tapRx ← pipeline.send event
      let (reader, metrics, accepted) ← tapReader pipeline.exchange.metrics pipeline.reader event
      return ({ pipeline with reader, tapRx, exchange := { pipeline.exchange with metrics } },
        accepted.toList.map .recordTapRx)
  | .exchange event => do
      let tapRx ← pipeline.receive event
      let (exchange, outputs) ← wifiExchange recoveryTimeout pipeline.exchange event
      return ({ pipeline with tapRx, exchange }, outputs.map .exchange)

end TapPipeline

end Lamella

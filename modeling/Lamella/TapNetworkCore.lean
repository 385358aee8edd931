import Lamella.NetworkCore
import Lamella.TapPipelineCore

/-!
The whole path: the TAP readers of all sessions, the exchange, the link and the device.  A
session that ends is cancelled and not waited for, so its reader may still run while the next
session does.
-/

namespace Lamella

/-- What a session has besides its exchange: reader, channel and cancellation token. -/
structure TapSide where
  reader : TapReader
  tapRx : Channel WifiFrame 1
  cancelled : Bool

def TapSide.absent : TapSide := ⟨.returned, .empty, true⟩

def TapSide.spawned : TapSide := ⟨.recv, .empty, false⟩

structure TapNetwork where
  network : Network
  tap : UInt64 → TapSide

inductive TapNetworkEvent
  | cancel (session : UInt64)
  | reader (session : UInt64) (event : TapReaderEvent)
  | network (event : NetworkEvent)

inductive TapNetworkOutput
  | recordTapRx (session : UInt64) (frame : WifiFrame)
  | network (output : NetworkOutput)
deriving DecidableEq

namespace TapNetwork

def start (injector : EndpointFaultInjector) : TapNetwork :=
  ⟨.start injector, fun _ => .absent⟩

def setTap (whole : TapNetwork) (session : UInt64) (side : TapSide) : TapNetwork :=
  { whole with tap := Function.update whole.tap session side }

/-- The tasks of one session.  Only the latest session's exchange can still run. -/
def pipeline (whole : TapNetwork) (session : UInt64) : TapPipeline :=
  let host := whole.network.host
  let side := whole.tap session
  ⟨side.reader, side.tapRx,
    if host.session = session then host else { host with phase := .returned .cancelled },
    side.cancelled⟩

/-- The TAP sides after a step of the network: a session spawns its own, and the exchange
takes frames from the channel of its session. -/
def receive (whole : TapNetwork) : NetworkEvent → Option (UInt64 → TapSide)
  | .session id => some (Function.update whole.tap id .spawned)
  | .host event => do
      let session := whole.network.host.session
      let tapRx ← (whole.pipeline session).receive event
      return Function.update whole.tap session { whole.tap session with tapRx }
  | _ => some whole.tap

def step (recoveryTimeout : Option Nat) (whole : TapNetwork) :
    TapNetworkEvent → Option (TapNetwork × List TapNetworkOutput)
  | .cancel session =>
      some (whole.setTap session { whole.tap session with cancelled := true }, [])
  | .reader session event => do
      let tapRx ← (whole.pipeline session).send event
      let (reader, metrics, accepted) ←
        tapReader whole.network.host.metrics (whole.tap session).reader event
      let network := { whole.network with host := { whole.network.host with metrics } }
      return ({ whole with network }.setTap session { whole.tap session with reader, tapRx },
        accepted.toList.map (.recordTapRx session))
  | .network event => do
      let tap ← whole.receive event
      let (network, outputs) ← whole.network.step recoveryTimeout event
      return (⟨network, tap⟩, outputs.map .network)

end TapNetwork

end Lamella

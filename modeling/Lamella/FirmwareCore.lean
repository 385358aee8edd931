import Lamella.ChannelCore
import Lamella.IcdCore

/-!
The firmware tasks `wifi_tx_server`, `wifi_rx_server` and `wifi_bridge` and the three
channels between them.  A phase is a point where a task can be suspended; one step runs
a task from there to its next such point.  Both firmware images share this logic; they
differ in what a completion token carries (milliseconds on the C3, nothing on the S3),
and no task reads it except to log it.
-/

namespace Lamella

inductive TxServerPhase
  | recvManual
  | sendFrame (packet : Packet WifiTxRequest)
  | awaitComplete (packet : Packet WifiTxRequest)
  | sendResponse (packet : Packet WifiTxRequest)
deriving DecidableEq

inductive RxServerPhase
  | recv
  | pollFrame (packet : Packet WifiRxRequest)
  | sendResponse (packet : Packet WifiRxResponse)
deriving DecidableEq

inductive BridgePhase
  | startup
  | select
  | transmitToWifi (txFrame : WifiFrame)
  | transmitOnlyToWifi (txFrame pendingRx : WifiFrame)
  | complete (pendingRx : Option WifiFrame)
  /-- Inside `queue_wifi_frame_while_serving_tx`: `try_send`, the `select` after a full
  queue, and the host frame it serves meanwhile. -/
  | queueFrame (frame : WifiFrame)
  | queueSelect (frame : WifiFrame)
  | queueTransmit (frame hostFrame : WifiFrame)
  | queueComplete (frame : WifiFrame)
deriving DecidableEq

structure Device where
  txServer : TxServerPhase
  lastCompleted : Option WifiTransaction
  rxServer : RxServerPhase
  cachedResponse : Option WifiRxResponse
  bridge : BridgePhase
  wifiToHost : Channel WifiFrame 64
  hostToWifi : Channel WifiFrame 1
  txComplete : Channel Nat 1
deriving DecidableEq

def Device.boot : Device where
  txServer := .recvManual
  lastCompleted := none
  rxServer := .recv
  cachedResponse := none
  bridge := .startup
  wifiToHost := Channel.empty
  hostToWifi := Channel.empty
  txComplete := Channel.empty

/-- `handed` is a push into `HOST_TO_WIFI_CHANNEL`, `answered` a newly computed RX response,
`replayed` a repeated one and `response` one that left the device; the bridge passes host
frames to the radio (`accepted`) and radio frames on (`consumed`, then `queued`). -/
inductive DeviceOutput
  | handed (packet : Packet WifiTxRequest)
  | answered (packet : Packet WifiRxResponse)
  | replayed (packet : Packet Response)
  | response (packet : Packet Response)
  | accepted (frame : WifiFrame)
  | completion
  | consumed (buffer : List UInt8)
  | queued (frame : WifiFrame)
deriving DecidableEq

structure BridgePoll where
  txToken : Bool
  rxFrame : Option (List UInt8)
  elapsed : Nat
deriving DecidableEq

def wifiTxServerReceive (device : Device) (packet : Packet WifiTxRequest) :
    Option (Device × List DeviceOutput) :=
  match device.txServer with
  | .recvManual =>
      let transaction := packet.t.transaction
      if device.lastCompleted ≠ some transaction then
        some ({ device with txServer := .sendFrame packet }, [])
      else
        some ({ device with txServer := .sendResponse packet },
          [.replayed ⟨packet.serial, .tx ⟨transaction⟩⟩])
  | _ => none

/-- `delivered` tells whether `send_tx_response` got the response out. -/
def wifiTxServer (device : Device) (delivered : Bool) : Option (Device × List DeviceOutput) :=
  match device.txServer with
  | .recvManual => none
  | .sendFrame packet =>
      match device.hostToWifi.trySend packet.t.frame with
      | none => none
      | some hostToWifi =>
          some ({ device with hostToWifi, txServer := .awaitComplete packet }, [.handed packet])
  | .awaitComplete packet =>
      match device.txComplete.tryReceive with
      | none => none
      | some (_, txComplete) =>
          some ({ device with
            txComplete
            lastCompleted := some packet.t.transaction
            txServer := .sendResponse packet }, [])
  | .sendResponse packet =>
      some ({ device with txServer := .recvManual },
        if delivered then [.response ⟨packet.serial, .tx ⟨packet.t.transaction⟩⟩] else [])

def wifiRxServerReceive (device : Device) (packet : Packet WifiRxRequest) :
    Option (Device × List DeviceOutput) :=
  match device.rxServer with
  | .recv =>
      match device.cachedResponse with
      | some response =>
          if response.transaction = packet.t.transaction then
            some ({ device with rxServer := .sendResponse ⟨packet.serial, response⟩ },
              [.replayed ⟨packet.serial, .rx response⟩])
          else some ({ device with rxServer := .pollFrame packet }, [])
      | none => some ({ device with rxServer := .pollFrame packet }, [])
  | _ => none

def answerRx (device : Device) (packet : Packet WifiRxRequest) (frame : Option WifiFrame) :
    Device × List DeviceOutput :=
  let response : WifiRxResponse := ⟨packet.t.transaction, frame⟩
  ({ device with
    cachedResponse := some response
    rxServer := .sendResponse ⟨packet.serial, response⟩ },
    [.answered ⟨packet.serial, response⟩])

/-- The `select` prefers a frame to the two-millisecond timer. -/
def wifiRxServer (device : Device) (timer delivered : Bool) :
    Option (Device × List DeviceOutput) :=
  match device.rxServer with
  | .recv => none
  | .pollFrame packet =>
      match device.wifiToHost.tryReceive with
      | some (frame, wifiToHost) => some (answerRx { device with wifiToHost } packet (some frame))
      | none => if timer then some (answerRx device packet none) else none
  | .sendResponse packet =>
      some ({ device with rxServer := .recv },
        if delivered then [.response ⟨packet.serial, .rx packet.t⟩] else [])

def transmitOnlyToWifi (device : Device) (poll : BridgePoll) (frame : WifiFrame)
    (done : BridgePhase) : Option (Device × List DeviceOutput) :=
  if poll.txToken then some ({ device with bridge := done }, [.accepted frame]) else none

/-- One radio poll of `transmit_to_wifi`: a TX token wins over a received frame. -/
def transmitToWifi (device : Device) (poll : BridgePoll) (txFrame : WifiFrame) :
    Option (Device × List DeviceOutput) :=
  if poll.txToken then
    some ({ device with bridge := .complete none }, [.accepted txFrame])
  else
    match poll.rxFrame with
    | none => none
    | some buffer =>
        match WifiFrame.extendFromSlice buffer with
        | none => some (device, [.consumed buffer])
        | some frame =>
            match device.wifiToHost.trySend frame with
            | some wifiToHost => some ({ device with wifiToHost }, [.consumed buffer, .queued frame])
            | none =>
                some ({ device with bridge := .transmitOnlyToWifi txFrame frame },
                  [.consumed buffer])

def postCompletion (device : Device) (poll : BridgePoll) (next : BridgePhase) :
    Option (Device × List DeviceOutput) :=
  match device.txComplete.trySend poll.elapsed with
  | none => none
  | some txComplete => some ({ device with txComplete, bridge := next }, [.completion])

/-- `select(ready_to_send, HOST_TO_WIFI_CHANNEL.receive())` polls its first branch first. -/
def queueWifiFrameWhileServingTx (device : Device) (poll : BridgePoll) :
    BridgePhase → Option (Device × List DeviceOutput)
  | .queueFrame frame =>
      match device.wifiToHost.trySend frame with
      | some wifiToHost => some ({ device with wifiToHost, bridge := .select }, [.queued frame])
      | none => some ({ device with bridge := .queueSelect frame }, [])
  | .queueSelect frame =>
      if device.wifiToHost.readyToSend then
        some ({ device with bridge := .queueFrame frame }, [])
      else
        match device.hostToWifi.tryReceive with
        | none => none
        | some (hostFrame, hostToWifi) =>
            some ({ device with hostToWifi, bridge := .queueTransmit frame hostFrame }, [])
  | .queueTransmit frame hostFrame =>
      transmitOnlyToWifi device poll hostFrame (.queueComplete frame)
  | .queueComplete frame => postCompletion device poll (.queueFrame frame)
  | _ => none

/-- `select(HOST_TO_WIFI_CHANNEL.receive(), wifi_rx_fut)`; an oversized radio frame is
consumed and skipped. -/
def mainSelect (device : Device) (poll : BridgePoll) : Option (Device × List DeviceOutput) :=
  match device.hostToWifi.tryReceive with
  | some (frame, hostToWifi) =>
      some ({ device with hostToWifi, bridge := .transmitToWifi frame }, [])
  | none =>
      match poll.rxFrame with
      | none => none
      | some buffer =>
          match WifiFrame.extendFromSlice buffer with
          | none => some (device, [.consumed buffer])
          | some frame => some ({ device with bridge := .queueFrame frame }, [.consumed buffer])

def afterComplete : Option WifiFrame → BridgePhase
  | none => .select
  | some frame => .queueFrame frame

def wifiBridge (device : Device) (poll : BridgePoll) : Option (Device × List DeviceOutput) :=
  match device.bridge with
  | .startup => some ({ device with bridge := .select }, [])
  | .select => mainSelect device poll
  | .transmitToWifi txFrame => transmitToWifi device poll txFrame
  | .transmitOnlyToWifi txFrame pendingRx =>
      transmitOnlyToWifi device poll txFrame (.complete (some pendingRx))
  | .complete pendingRx => postCompletion device poll (afterComplete pendingRx)
  | phase => queueWifiFrameWhileServingTx device poll phase

inductive TaskEvent
  | txServer (delivered : Bool)
  | rxServer (timer delivered : Bool)
  | bridge (poll : BridgePoll)
deriving DecidableEq

def Device.task (device : Device) : TaskEvent → Option (Device × List DeviceOutput)
  | .txServer delivered => wifiTxServer device delivered
  | .rxServer timer delivered => wifiRxServer device timer delivered
  | .bridge poll => wifiBridge device poll

def Device.receive (device : Device) (packet : Packet Request) :
    Option (Device × List DeviceOutput) :=
  match packet.t with
  | .tx request => wifiTxServerReceive device ⟨packet.serial, request⟩
  | .rx request => wifiRxServerReceive device ⟨packet.serial, request⟩

inductive DeviceEvent
  | request (packet : Packet Request)
  | task (event : TaskEvent)
deriving DecidableEq

def Device.step (device : Device) : DeviceEvent → Option (Device × List DeviceOutput)
  | .request packet => device.receive packet
  | .task event => device.task event

end Lamella

import Lamella.FirmwareCore
import Lamella.MachineCore

/-!
What each firmware task can do in one step, guards included, and what the bridge holds
in each phase.  The proofs about the firmware use these relations and leave the step
functions folded.
-/

namespace Lamella

inductive TxServerMoves : Device → DeviceEvent → Device → List DeviceOutput → Prop
  | fresh {device : Device} {packet : Packet WifiTxRequest} (idle : device.txServer = .recvManual)
      (unknown : device.lastCompleted ≠ some packet.t.transaction) :
      TxServerMoves device (.request ⟨packet.serial, .tx packet.t⟩)
        { device with txServer := .sendFrame packet } []
  | known {device : Device} {packet : Packet WifiTxRequest} (idle : device.txServer = .recvManual)
      (completed : device.lastCompleted = some packet.t.transaction) :
      TxServerMoves device (.request ⟨packet.serial, .tx packet.t⟩)
        { device with txServer := .sendResponse packet }
        [.replayed ⟨packet.serial, .tx ⟨packet.t.transaction⟩⟩]
  | send {device : Device} {packet : Packet WifiTxRequest} {hostToWifi : Channel WifiFrame 1}
      {delivered : Bool} (phase : device.txServer = .sendFrame packet)
      (pushed : hostToWifi.items = device.hostToWifi.items ++ [packet.t.frame]) :
      TxServerMoves device (.task (.txServer delivered))
        { device with hostToWifi, txServer := .awaitComplete packet } [.handed packet]
  | complete {device : Device} {packet : Packet WifiTxRequest} {txComplete : Channel Nat 1}
      {token : Nat} {delivered : Bool}
      (phase : device.txServer = .awaitComplete packet)
      (taken : device.txComplete.items = token :: txComplete.items) :
      TxServerMoves device (.task (.txServer delivered))
        { device with
          txComplete
          lastCompleted := some packet.t.transaction
          txServer := .sendResponse packet } []
  | respond {device : Device} {packet : Packet WifiTxRequest} {delivered : Bool}
      (phase : device.txServer = .sendResponse packet) :
      TxServerMoves device (.task (.txServer delivered))
        { device with txServer := .recvManual }
        (if delivered then [.response ⟨packet.serial, .tx ⟨packet.t.transaction⟩⟩] else [])

inductive RxServerMoves : Device → DeviceEvent → Device → List DeviceOutput → Prop
  | fresh {device : Device} {packet : Packet WifiRxRequest} (idle : device.rxServer = .recv)
      (unknown : ∀ response, device.cachedResponse = some response →
        response.transaction ≠ packet.t.transaction) :
      RxServerMoves device (.request ⟨packet.serial, .rx packet.t⟩)
        { device with rxServer := .pollFrame packet } []
  | known {device : Device} {packet : Packet WifiRxRequest} {response : WifiRxResponse}
      (idle : device.rxServer = .recv)
      (cached : device.cachedResponse = some response)
      (matched : response.transaction = packet.t.transaction) :
      RxServerMoves device (.request ⟨packet.serial, .rx packet.t⟩)
        { device with rxServer := .sendResponse ⟨packet.serial, response⟩ }
        [.replayed ⟨packet.serial, .rx response⟩]
  | frame {device : Device} {packet : Packet WifiRxRequest} {wifiToHost : Channel WifiFrame 64}
      {frame : WifiFrame} {timer delivered : Bool}
      (phase : device.rxServer = .pollFrame packet)
      (taken : device.wifiToHost.items = frame :: wifiToHost.items) :
      RxServerMoves device (.task (.rxServer timer delivered))
        { device with
          wifiToHost
          cachedResponse := some ⟨packet.t.transaction, some frame⟩
          rxServer := .sendResponse ⟨packet.serial, ⟨packet.t.transaction, some frame⟩⟩ }
        [.answered ⟨packet.serial, ⟨packet.t.transaction, some frame⟩⟩]
  | timeout {device : Device} {packet : Packet WifiRxRequest} {delivered : Bool}
      (phase : device.rxServer = .pollFrame packet)
      (empty : device.wifiToHost.items = []) :
      RxServerMoves device (.task (.rxServer true delivered))
        { device with
          cachedResponse := some ⟨packet.t.transaction, none⟩
          rxServer := .sendResponse ⟨packet.serial, ⟨packet.t.transaction, none⟩⟩ }
        [.answered ⟨packet.serial, ⟨packet.t.transaction, none⟩⟩]
  | respond {device : Device} {packet : Packet WifiRxResponse} {timer delivered : Bool}
      (phase : device.rxServer = .sendResponse packet) :
      RxServerMoves device (.task (.rxServer timer delivered))
        { device with rxServer := .recv }
        (if delivered then [.response ⟨packet.serial, .rx packet.t⟩] else [])

inductive BridgeMoves : Device → BridgePoll → Device → List DeviceOutput → Prop
  | startup {device : Device} {poll : BridgePoll} (phase : device.bridge = .startup) :
      BridgeMoves device poll { device with bridge := .select } []
  | takeHost {device : Device} {poll : BridgePoll} {frame : WifiFrame}
      {hostToWifi : Channel WifiFrame 1} (phase : device.bridge = .select)
      (taken : device.hostToWifi.items = frame :: hostToWifi.items) :
      BridgeMoves device poll { device with hostToWifi, bridge := .transmitToWifi frame } []
  | skip {device : Device} {poll : BridgePoll} {buffer : List UInt8}
      (phase : device.bridge = .select ∨ ∃ frame, device.bridge = .transmitToWifi frame)
      (oversized : WifiFrame.extendFromSlice buffer = none)
      (busy : device.bridge ≠ .select → poll.txToken = false)
      (idle : device.bridge = .select → device.hostToWifi.items = []) :
      BridgeMoves device poll device [.consumed buffer]
  | consume {device : Device} {poll : BridgePoll} {buffer : List UInt8} {frame : WifiFrame}
      (phase : device.bridge = .select)
      (idle : device.hostToWifi.items = [])
      (copied : WifiFrame.extendFromSlice buffer = some frame) :
      BridgeMoves device poll { device with bridge := .queueFrame frame } [.consumed buffer]
  | transmit {device : Device} {poll : BridgePoll} {frame : WifiFrame}
      (phase : device.bridge = .transmitToWifi frame)
      (granted : poll.txToken = true) :
      BridgeMoves device poll { device with bridge := .complete none } [.accepted frame]
  | drain {device : Device} {poll : BridgePoll} {txFrame : WifiFrame} {buffer : List UInt8}
      {frame : WifiFrame} {wifiToHost : Channel WifiFrame 64}
      (phase : device.bridge = .transmitToWifi txFrame) (busy : poll.txToken = false)
      (copied : WifiFrame.extendFromSlice buffer = some frame)
      (pushed : wifiToHost.items = device.wifiToHost.items ++ [frame]) :
      BridgeMoves device poll { device with wifiToHost } [.consumed buffer, .queued frame]
  | retain {device : Device} {poll : BridgePoll} {txFrame : WifiFrame} {buffer : List UInt8}
      {frame : WifiFrame}
      (phase : device.bridge = .transmitToWifi txFrame) (busy : poll.txToken = false)
      (copied : WifiFrame.extendFromSlice buffer = some frame)
      (full : ¬device.wifiToHost.items.length < 64) :
      BridgeMoves device poll { device with bridge := .transmitOnlyToWifi txFrame frame }
        [.consumed buffer]
  | transmitOnly {device : Device} {poll : BridgePoll} {txFrame frame : WifiFrame}
      (phase : device.bridge = .transmitOnlyToWifi txFrame frame)
      (granted : poll.txToken = true) :
      BridgeMoves device poll { device with bridge := .complete (some frame) } [.accepted txFrame]
  | complete {device : Device} {poll : BridgePoll} {pendingRx : Option WifiFrame}
      {txComplete : Channel Nat 1} (phase : device.bridge = .complete pendingRx)
      (posted : txComplete.items = device.txComplete.items ++ [poll.elapsed]) :
      BridgeMoves device poll { device with txComplete, bridge := afterComplete pendingRx }
        [.completion]
  | queue {device : Device} {poll : BridgePoll} {frame : WifiFrame}
      {wifiToHost : Channel WifiFrame 64} (phase : device.bridge = .queueFrame frame)
      (pushed : wifiToHost.items = device.wifiToHost.items ++ [frame]) :
      BridgeMoves device poll { device with wifiToHost, bridge := .select } [.queued frame]
  | queueFull {device : Device} {poll : BridgePoll} {frame : WifiFrame}
      (phase : device.bridge = .queueFrame frame)
      (full : ¬device.wifiToHost.items.length < 64) :
      BridgeMoves device poll { device with bridge := .queueSelect frame } []
  | queueReady {device : Device} {poll : BridgePoll} {frame : WifiFrame}
      (phase : device.bridge = .queueSelect frame)
      (room : device.wifiToHost.items.length < 64) :
      BridgeMoves device poll { device with bridge := .queueFrame frame } []
  | queueHost {device : Device} {poll : BridgePoll} {frame hostFrame : WifiFrame}
      {hostToWifi : Channel WifiFrame 1}
      (phase : device.bridge = .queueSelect frame)
      (full : ¬device.wifiToHost.items.length < 64)
      (taken : device.hostToWifi.items = hostFrame :: hostToWifi.items) :
      BridgeMoves device poll { device with hostToWifi, bridge := .queueTransmit frame hostFrame } []
  | queueTransmit {device : Device} {poll : BridgePoll} {frame hostFrame : WifiFrame}
      (phase : device.bridge = .queueTransmit frame hostFrame) (granted : poll.txToken = true) :
      BridgeMoves device poll { device with bridge := .queueComplete frame } [.accepted hostFrame]
  | queueComplete {device : Device} {poll : BridgePoll} {frame : WifiFrame}
      {txComplete : Channel Nat 1} (phase : device.bridge = .queueComplete frame)
      (posted : txComplete.items = device.txComplete.items ++ [poll.elapsed]) :
      BridgeMoves device poll { device with txComplete, bridge := .queueFrame frame } [.completion]

inductive DeviceMoves (device : Device) (event : DeviceEvent) (next : Device)
    (output : List DeviceOutput) : Prop
  | txServer (moved : TxServerMoves device event next output)
  | rxServer (moved : RxServerMoves device event next output)
  | bridge (poll : BridgePoll) (scheduled : event = .task (.bridge poll))
      (moved : BridgeMoves device poll next output)

theorem wifiTxServerReceive_moves {device next : Device} {packet : Packet WifiTxRequest}
    {output : List DeviceOutput}
    (stepped : wifiTxServerReceive device packet = some (next, output)) :
    TxServerMoves device (.request ⟨packet.serial, .tx packet.t⟩) next output := by
  unfold wifiTxServerReceive at stepped
  split at stepped
  case h_2 => contradiction
  case h_1 idle =>
      dsimp only at stepped
      split at stepped
      · rename_i unknown
        cases stepped
        exact .fresh idle unknown
      · rename_i completed
        cases stepped
        exact .known idle (not_not.mp completed)

theorem wifiTxServer_moves {device next : Device} {delivered : Bool}
    {output : List DeviceOutput} (stepped : wifiTxServer device delivered = some (next, output)) :
    TxServerMoves device (.task (.txServer delivered)) next output := by
  unfold wifiTxServer at stepped
  split at stepped
  case h_1 => contradiction
  case h_2 packet phase =>
      split at stepped
      · contradiction
      · rename_i hostToWifi sent
        cases stepped
        exact .send phase ((Channel.trySend_eq_some_iff _ _ _).mp sent).2
  case h_3 packet phase =>
      split at stepped
      · contradiction
      · rename_i token txComplete received
        cases stepped
        exact .complete phase ((Channel.tryReceive_eq_some_iff _ _ _).mp received)
  case h_4 packet phase =>
      cases stepped
      exact .respond phase

theorem wifiRxServerReceive_moves {device next : Device} {packet : Packet WifiRxRequest}
    {output : List DeviceOutput}
    (stepped : wifiRxServerReceive device packet = some (next, output)) :
    RxServerMoves device (.request ⟨packet.serial, .rx packet.t⟩) next output := by
  unfold wifiRxServerReceive at stepped
  split at stepped
  case h_2 => contradiction
  case h_1 idle =>
      split at stepped
      · rename_i response cached
        split at stepped
        · rename_i matched
          cases stepped
          exact .known idle cached matched
        · rename_i other
          cases stepped
          refine .fresh idle ?_
          intro remembered same
          rw [cached] at same
          rwa [← Option.some.inj same]
      · rename_i unknown
        cases stepped
        exact .fresh idle (by simp [unknown])

theorem wifiRxServer_moves {device next : Device} {timer delivered : Bool}
    {output : List DeviceOutput}
    (stepped : wifiRxServer device timer delivered = some (next, output)) :
    RxServerMoves device (.task (.rxServer timer delivered)) next output := by
  unfold wifiRxServer at stepped
  split at stepped
  case h_1 => contradiction
  case h_2 packet phase =>
      split at stepped
      · rename_i frame wifiToHost received
        cases stepped
        exact .frame phase ((Channel.tryReceive_eq_some_iff _ _ _).mp received)
      · rename_i nothing
        split at stepped
        · rename_i fired
          cases stepped
          rw [fired]
          exact .timeout phase ((Channel.tryReceive_eq_none_iff _).mp nothing)
        · contradiction
  case h_3 packet phase =>
      cases stepped
      exact .respond phase

theorem mainSelect_moves {device next : Device} {poll : BridgePoll} {output : List DeviceOutput}
    (phase : device.bridge = .select) (stepped : mainSelect device poll = some (next, output)) :
    BridgeMoves device poll next output := by
  unfold mainSelect at stepped
  split at stepped
  · rename_i frame hostToWifi received
    cases stepped
    exact .takeHost phase ((Channel.tryReceive_eq_some_iff _ _ _).mp received)
  · rename_i nothing
    have idle := (Channel.tryReceive_eq_none_iff _).mp nothing
    split at stepped
    · contradiction
    · split at stepped
      · rename_i oversized
        cases stepped
        exact .skip (.inl phase) oversized (fun other => absurd phase other) (fun _ => idle)
      · rename_i copied
        cases stepped
        exact .consume phase idle copied

theorem transmitToWifi_moves {device next : Device} {poll : BridgePoll} {txFrame : WifiFrame}
    {output : List DeviceOutput} (phase : device.bridge = .transmitToWifi txFrame)
    (stepped : transmitToWifi device poll txFrame = some (next, output)) :
    BridgeMoves device poll next output := by
  unfold transmitToWifi at stepped
  split at stepped
  · rename_i granted
    cases stepped
    exact .transmit phase granted
  · rename_i refused
    have busy : poll.txToken = false := by simpa using refused
    split at stepped
    · contradiction
    · split at stepped
      · rename_i oversized
        cases stepped
        exact .skip (.inr ⟨txFrame, phase⟩) oversized (fun _ => busy) (by simp [phase])
      · rename_i copied
        split at stepped
        · rename_i sent
          cases stepped
          exact .drain phase busy copied ((Channel.trySend_eq_some_iff _ _ _).mp sent).2
        · rename_i rejected
          cases stepped
          exact .retain phase busy copied ((Channel.trySend_eq_none_iff _ _).mp rejected)

theorem transmitOnlyToWifi_eq_some_iff {device next : Device} {poll : BridgePoll}
    {frame : WifiFrame} {done : BridgePhase} {output : List DeviceOutput} :
    transmitOnlyToWifi device poll frame done = some (next, output) ↔
      poll.txToken = true ∧ next = { device with bridge := done } ∧ output = [.accepted frame] := by
  unfold transmitOnlyToWifi
  split
  · rename_i granted
    simp only [Option.some.injEq, Prod.mk.injEq, granted, true_and]
    exact and_congr eq_comm eq_comm
  · rename_i refused
    simp [refused]

theorem postCompletion_eq_some_iff {device next : Device} {poll : BridgePoll}
    {done : BridgePhase} {output : List DeviceOutput} :
    postCompletion device poll done = some (next, output) ↔
      ∃ txComplete, device.txComplete.trySend poll.elapsed = some txComplete ∧
        next = { device with txComplete, bridge := done } ∧ output = [.completion] := by
  unfold postCompletion
  split <;> simp_all [eq_comm]

theorem queueWifiFrameWhileServingTx_moves {device next : Device} {poll : BridgePoll}
    {output : List DeviceOutput}
    (stepped : queueWifiFrameWhileServingTx device poll device.bridge = some (next, output)) :
    BridgeMoves device poll next output := by
  unfold queueWifiFrameWhileServingTx at stepped
  split at stepped
  case h_1 frame phase =>
      split at stepped
      · rename_i sent
        cases stepped
        exact .queue phase ((Channel.trySend_eq_some_iff _ _ _).mp sent).2
      · rename_i rejected
        cases stepped
        exact .queueFull phase ((Channel.trySend_eq_none_iff _ _).mp rejected)
  case h_2 frame phase =>
      split at stepped
      · rename_i room
        cases stepped
        exact .queueReady phase ((Channel.readyToSend_iff _).mp room)
      · rename_i full
        rw [Channel.readyToSend_iff] at full
        split at stepped
        · contradiction
        · rename_i hostFrame hostToWifi received
          cases stepped
          exact .queueHost phase full ((Channel.tryReceive_eq_some_iff _ _ _).mp received)
  case h_3 frame hostFrame phase =>
      obtain ⟨granted, rfl, rfl⟩ := transmitOnlyToWifi_eq_some_iff.mp stepped
      exact .queueTransmit phase granted
  case h_4 frame phase =>
      obtain ⟨txComplete, sent, rfl, rfl⟩ := postCompletion_eq_some_iff.mp stepped
      exact .queueComplete phase ((Channel.trySend_eq_some_iff _ _ _).mp sent).2
  case h_5 => contradiction

theorem wifiBridge_moves {device next : Device} {poll : BridgePoll} {output : List DeviceOutput}
    (stepped : wifiBridge device poll = some (next, output)) :
    BridgeMoves device poll next output := by
  unfold wifiBridge at stepped
  split at stepped
  case h_1 phase =>
      cases stepped
      exact .startup phase
  case h_2 phase => exact mainSelect_moves phase stepped
  case h_3 phase => exact transmitToWifi_moves phase stepped
  case h_4 phase =>
      obtain ⟨granted, rfl, rfl⟩ := transmitOnlyToWifi_eq_some_iff.mp stepped
      exact .transmitOnly phase granted
  case h_5 phase =>
      obtain ⟨txComplete, sent, rfl, rfl⟩ := postCompletion_eq_some_iff.mp stepped
      exact .complete phase ((Channel.trySend_eq_some_iff _ _ _).mp sent).2
  case h_6 => exact queueWifiFrameWhileServingTx_moves stepped

theorem Device.step_moves {device next : Device} {event : DeviceEvent}
    {output : List DeviceOutput} (stepped : device.step event = some (next, output)) :
    DeviceMoves device event next output := by
  match event, stepped with
  | .request ⟨_, .tx _⟩, stepped => exact .txServer (wifiTxServerReceive_moves stepped)
  | .request ⟨_, .rx _⟩, stepped => exact .rxServer (wifiRxServerReceive_moves stepped)
  | .task (.txServer _), stepped => exact .txServer (wifiTxServer_moves stepped)
  | .task (.rxServer _ _), stepped => exact .rxServer (wifiRxServer_moves stepped)
  | .task (.bridge poll), stepped => exact .bridge poll rfl (wifiBridge_moves stepped)

/-! What a trace of outputs says about the frames. -/

def handedOf (trace : List DeviceOutput) : List (Packet WifiTxRequest) :=
  trace.filterMap fun
    | .handed packet => some packet
    | _ => none

def acceptedOf (trace : List DeviceOutput) : List WifiFrame :=
  trace.filterMap fun
    | .accepted frame => some frame
    | _ => none

def consumedOf (trace : List DeviceOutput) : List (List UInt8) :=
  trace.filterMap fun
    | .consumed buffer => some buffer
    | _ => none

def queuedOf (trace : List DeviceOutput) : List WifiFrame :=
  trace.filterMap fun
    | .queued frame => some frame
    | _ => none

def answeredOf (trace : List DeviceOutput) : List (Packet WifiRxResponse) :=
  trace.filterMap fun
    | .answered packet => some packet
    | _ => none

def dequeuedOf (trace : List DeviceOutput) : List WifiFrame :=
  (answeredOf trace).filterMap fun packet => packet.t.frame

theorem mem_handedOf {trace : List DeviceOutput} {packet : Packet WifiTxRequest} :
    packet ∈ handedOf trace ↔ .handed packet ∈ trace := by
  rw [handedOf, List.mem_filterMap]
  constructor
  · rintro ⟨output, member, found⟩
    split at found
    · cases found
      exact member
    · contradiction
  · intro member
    exact ⟨_, member, rfl⟩

theorem mem_answeredOf {trace : List DeviceOutput} {packet : Packet WifiRxResponse} :
    packet ∈ answeredOf trace ↔ .answered packet ∈ trace := by
  rw [answeredOf, List.mem_filterMap]
  constructor
  · rintro ⟨output, member, found⟩
    split at found
    · cases found
      exact member
    · contradiction
  · intro member
    exact ⟨_, member, rfl⟩

end Lamella

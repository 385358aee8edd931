import Lamella.FirmwareMoves

/-!
Invariants of the firmware over every interleaving of its tasks: received frames pass the
bridge unchanged, and every transmission is acknowledged by exactly one token.
-/

namespace Lamella

/-! Received frames. -/

def BridgePhase.heldFrame : BridgePhase → Option WifiFrame
  | .startup | .select | .transmitToWifi _ => none
  | .complete pendingRx => pendingRx
  | .transmitOnlyToWifi _ frame | .queueFrame frame | .queueSelect frame
  | .queueTransmit frame _ | .queueComplete frame => some frame

structure RxPipeline (device : Device) (trace : List DeviceOutput) : Prop where
  passed : queuedOf trace ++ device.bridge.heldFrame.toList =
    (consumedOf trace).filterMap WifiFrame.extendFromSlice
  waiting : queuedOf trace = dequeuedOf trace ++ device.wifiToHost.items

theorem BridgeMoves.received {device next : Device} {poll : BridgePoll}
    {output : List DeviceOutput} (moved : BridgeMoves device poll next output) :
    queuedOf output ++ next.bridge.heldFrame.toList =
        device.bridge.heldFrame.toList ++
          (consumedOf output).filterMap WifiFrame.extendFromSlice ∧
      next.wifiToHost.items = device.wifiToHost.items ++ queuedOf output ∧
      dequeuedOf output = [] ∧
      (device.bridge.heldFrame ≠ none → consumedOf output = []) := by
  cases moved with
  | skip phase oversized busy idle =>
      rcases phase with phase | ⟨frame, phase⟩ <;>
        simp [phase, oversized, BridgePhase.heldFrame, queuedOf, consumedOf, dequeuedOf, answeredOf]
  | consume phase idle copied =>
      simp [phase, copied, BridgePhase.heldFrame, queuedOf, consumedOf, dequeuedOf, answeredOf]
  | drain phase busy copied pushed =>
      simp [phase, copied, pushed, BridgePhase.heldFrame, queuedOf, consumedOf, dequeuedOf,
        answeredOf]
  | retain phase busy copied full =>
      simp [phase, copied, BridgePhase.heldFrame, queuedOf, consumedOf, dequeuedOf, answeredOf]
  | queue phase pushed =>
      simp [phase, pushed, BridgePhase.heldFrame, queuedOf, consumedOf, dequeuedOf, answeredOf]
  | @complete pendingRx txComplete phase posted =>
      cases pendingRx <;>
        simp [phase, afterComplete, BridgePhase.heldFrame, queuedOf, consumedOf, dequeuedOf,
          answeredOf]
  | startup phase | takeHost phase | transmit phase | transmitOnly phase | queueFull phase
  | queueReady phase | queueHost phase | queueTransmit phase | queueComplete phase =>
      simp [phase, BridgePhase.heldFrame, queuedOf, consumedOf, dequeuedOf, answeredOf]

theorem TxServerMoves.received {device next : Device} {event : DeviceEvent}
    {output : List DeviceOutput} (moved : TxServerMoves device event next output) :
    next.bridge = device.bridge ∧ next.wifiToHost = device.wifiToHost ∧ queuedOf output = [] ∧
      consumedOf output = [] ∧ dequeuedOf output = [] := by
  cases moved with
  | @respond packet delivered phase =>
      cases delivered <;> simp [queuedOf, consumedOf, dequeuedOf, answeredOf]
  | _ => simp [queuedOf, consumedOf, dequeuedOf, answeredOf]

theorem RxServerMoves.received {device next : Device} {event : DeviceEvent}
    {output : List DeviceOutput} (moved : RxServerMoves device event next output) :
    next.bridge = device.bridge ∧
      device.wifiToHost.items = dequeuedOf output ++ next.wifiToHost.items ∧
      queuedOf output = [] ∧ consumedOf output = [] := by
  cases moved with
  | @respond packet timer delivered phase =>
      cases delivered <;> simp [queuedOf, consumedOf, dequeuedOf, answeredOf]
  | frame phase taken => simp [taken, queuedOf, consumedOf, dequeuedOf, answeredOf]
  | _ => simp [queuedOf, consumedOf, dequeuedOf, answeredOf]

theorem queuedOf_append (past output : List DeviceOutput) :
    queuedOf (past ++ output) = queuedOf past ++ queuedOf output := List.filterMap_append

theorem consumedOf_append (past output : List DeviceOutput) :
    consumedOf (past ++ output) = consumedOf past ++ consumedOf output := List.filterMap_append

theorem dequeuedOf_append (past output : List DeviceOutput) :
    dequeuedOf (past ++ output) = dequeuedOf past ++ dequeuedOf output := by
  simp [dequeuedOf, answeredOf]

theorem RxPipeline.step {device next : Device} {past output : List DeviceOutput}
    {event : DeviceEvent} (pipeline : RxPipeline device past)
    (moved : DeviceMoves device event next output) : RxPipeline next (past ++ output) := by
  obtain ⟨passed, waiting⟩ := pipeline
  cases moved with
  | txServer moved =>
      obtain ⟨bridge, channel, queued, consumed, dequeued⟩ := moved.received
      constructor
      · rw [queuedOf_append, consumedOf_append, bridge, queued, consumed, List.append_nil,
          List.append_nil, passed]
      · rw [queuedOf_append, dequeuedOf_append, channel, queued, dequeued, List.append_nil,
          List.append_nil, waiting]
  | rxServer moved =>
      obtain ⟨bridge, taken, queued, consumed⟩ := moved.received
      constructor
      · rw [queuedOf_append, consumedOf_append, bridge, queued, consumed, List.append_nil,
          List.append_nil, passed]
      · rw [queuedOf_append, dequeuedOf_append, queued, List.append_nil, waiting, taken,
          List.append_assoc]
  | bridge poll scheduled moved =>
      obtain ⟨held, pushed, dequeued, _⟩ := moved.received
      constructor
      · rw [queuedOf_append, consumedOf_append, List.filterMap_append, List.append_assoc, held,
          ← List.append_assoc, passed]
      · rw [queuedOf_append, dequeuedOf_append, dequeued, List.append_nil, pushed, waiting,
          List.append_assoc]

theorem Device.boot_rxPipeline : RxPipeline Device.boot [] := ⟨rfl, rfl⟩

theorem Device.run_rxPipeline {events : List DeviceEvent} {device : Device}
    {trace : List DeviceOutput}
    (ran : Machine.run Device.step Device.boot events = some (device, trace)) :
    RxPipeline device trace := by
  have kept := Machine.run_invariant RxPipeline (fun _ => True)
    (fun _ _ _ _ _ _ pipeline stepped => pipeline.step (Device.step_moves stepped))
    (fun _ _ => trivial) Device.boot_rxPipeline ran
  simpa using kept

theorem filterMap_extendFromSlice_data (buffers : List (List UInt8)) :
    (buffers.filterMap WifiFrame.extendFromSlice).map WifiFrame.data =
      buffers.filter fun buffer => buffer.length ≤ maxFrameSize := by
  induction buffers with
  | nil => rfl
  | cons buffer rest ih =>
      by_cases fits : buffer.length ≤ maxFrameSize
      · simp [WifiFrame.extendFromSlice, fits, ih]
      · simp [WifiFrame.extendFromSlice, fits, ih]

/-- The bridge passes every received frame of legal length on, once and in order, and
takes no further frame from the radio while it holds one back. -/
theorem bridge_preserves_received_frames {events : List DeviceEvent} {device : Device}
    {trace : List DeviceOutput}
    (ran : Machine.run Device.step Device.boot events = some (device, trace)) :
    (queuedOf trace ++ device.bridge.heldFrame.toList).map WifiFrame.data =
        (consumedOf trace).filter (fun buffer => buffer.length ≤ maxFrameSize) ∧
      queuedOf trace = dequeuedOf trace ++ device.wifiToHost.items ∧
      ∀ event next output, device.bridge.heldFrame ≠ none →
        device.step event = some (next, output) → consumedOf output = [] := by
  obtain ⟨passed, waiting⟩ := Device.run_rxPipeline ran
  refine ⟨?_, waiting, ?_⟩
  · rw [passed, filterMap_extendFromSlice_data]
  · intro event next output held stepped
    cases Device.step_moves stepped with
    | txServer moved => exact moved.received.2.2.2.1
    | rxServer moved => exact moved.received.2.2.2
    | bridge poll scheduled moved => exact moved.received.2.2.2 held

/-- The radio delivers a frame that is too long, and then more than the channel has room for. -/
def sampleRxEvents : List DeviceEvent :=
  [.task (.bridge ⟨false, none, 0⟩),
      .task (.bridge ⟨false, some (List.replicate (maxFrameSize + 1) 0), 0⟩)] ++
    List.replicate 130 (.task (.bridge ⟨false, some [1], 0⟩))

theorem bridge_preserves_received_frames_sample :
    ∃ device trace, Machine.run Device.step Device.boot sampleRxEvents = some (device, trace) ∧
      device.wifiToHost.items.length = 64 ∧ device.bridge.heldFrame.isSome = true ∧
      (consumedOf trace).length = 66 ∧
      (queuedOf trace ++ device.bridge.heldFrame.toList).map WifiFrame.data =
        (consumedOf trace).filter (fun buffer => buffer.length ≤ maxFrameSize) := by
  have reached : (Machine.run Device.step Device.boot sampleRxEvents).map (fun result =>
      (result.1.wifiToHost.items.length, result.1.bridge.heldFrame.isSome,
        (consumedOf result.2).length)) = some (64, true, 66) := by
    decide +kernel
  obtain ⟨⟨device, trace⟩, ran, seen⟩ := Option.map_eq_some_iff.mp reached
  obtain ⟨full, rest⟩ := Prod.mk.inj seen
  obtain ⟨held, consumed⟩ := Prod.mk.inj rest
  exact ⟨device, trace, ran, full, held, consumed, (bridge_preserves_received_frames ran).1⟩

/-! Transmissions and their completion tokens. -/

inductive HostCustody
  | idle
  | holding (frame : WifiFrame)
  | transmitted
deriving DecidableEq

def BridgePhase.hostCustody : BridgePhase → HostCustody
  | .startup | .select | .queueFrame _ | .queueSelect _ => .idle
  | .transmitToWifi frame | .transmitOnlyToWifi frame _ | .queueTransmit _ frame => .holding frame
  | .complete _ | .queueComplete _ => .transmitted

def HostCustody.owed : HostCustody → Nat
  | .idle => 0
  | .holding _ | .transmitted => 1

def TxServerPhase.awaiting : TxServerPhase → Nat
  | .awaitComplete _ => 1
  | .recvManual | .sendFrame _ | .sendResponse _ => 0

inductive HostEffect (device next : Device) (output : List DeviceOutput) : Prop
  | quiet (custody : next.bridge.hostCustody = device.bridge.hostCustody)
      (host : next.hostToWifi = device.hostToWifi) (tokens : next.txComplete = device.txComplete)
      (accepted : acceptedOf output = [])
  | take (frame : WifiFrame) (before : device.bridge.hostCustody = .idle)
      (after : next.bridge.hostCustody = .holding frame)
      (host : device.hostToWifi.items = frame :: next.hostToWifi.items)
      (tokens : next.txComplete = device.txComplete) (accepted : acceptedOf output = [])
  | transmit (frame : WifiFrame) (before : device.bridge.hostCustody = .holding frame)
      (after : next.bridge.hostCustody = .transmitted)
      (host : next.hostToWifi = device.hostToWifi) (tokens : next.txComplete = device.txComplete)
      (accepted : acceptedOf output = [frame])
  | post (token : Nat) (before : device.bridge.hostCustody = .transmitted)
      (after : next.bridge.hostCustody = .idle) (host : next.hostToWifi = device.hostToWifi)
      (tokens : next.txComplete.items = device.txComplete.items ++ [token])
      (accepted : acceptedOf output = [])

theorem BridgeMoves.hostEffect {device next : Device} {poll : BridgePoll}
    {output : List DeviceOutput} (moved : BridgeMoves device poll next output) :
    HostEffect device next output := by
  cases moved with
  | takeHost phase taken => exact .take _ (by rw [phase]; rfl) rfl taken rfl rfl
  | queueHost phase full taken => exact .take _ (by rw [phase]; rfl) rfl taken rfl rfl
  | transmit phase granted => exact .transmit _ (by rw [phase]; rfl) rfl rfl rfl rfl
  | transmitOnly phase granted => exact .transmit _ (by rw [phase]; rfl) rfl rfl rfl rfl
  | queueTransmit phase granted => exact .transmit _ (by rw [phase]; rfl) rfl rfl rfl rfl
  | @complete pendingRx txComplete phase posted =>
      cases pendingRx <;> exact .post _ (by rw [phase]; rfl) rfl rfl posted rfl
  | queueComplete phase posted => exact .post _ (by rw [phase]; rfl) rfl rfl posted rfl
  | skip phase oversized busy idle => exact .quiet rfl rfl rfl rfl
  | drain phase busy copied pushed => exact .quiet rfl rfl rfl rfl
  | startup phase | consume phase | retain phase | queue phase | queueFull phase
  | queueReady phase => exact .quiet (by rw [phase]; rfl) rfl rfl rfl

/-- The frame under way from the server to the radio and back as a token.  Frames are
matched by position, so equal frames of different requests stay apart. -/
inductive TxStage : TxServerPhase → List WifiFrame → HostCustody → List Nat →
    List (Packet WifiTxRequest) → List WifiFrame → Prop
  | quiet {server : TxServerPhase} {handed : List (Packet WifiTxRequest)} (resting : server.awaiting = 0) :
      TxStage server [] .idle [] handed (handed.map (·.t.frame))
  | queued {packet : Packet WifiTxRequest} {handed : List (Packet WifiTxRequest)} :
      TxStage (.awaitComplete packet) [packet.t.frame] .idle [] (handed ++ [packet])
        (handed.map (·.t.frame))
  | holding {packet : Packet WifiTxRequest} {handed : List (Packet WifiTxRequest)} :
      TxStage (.awaitComplete packet) [] (.holding packet.t.frame) [] (handed ++ [packet])
        (handed.map (·.t.frame))
  | transmitted {packet : Packet WifiTxRequest} {handed : List (Packet WifiTxRequest)} :
      TxStage (.awaitComplete packet) [] .transmitted [] (handed ++ [packet])
        ((handed ++ [packet]).map (·.t.frame))
  | completed {packet : Packet WifiTxRequest} {handed : List (Packet WifiTxRequest)} {token : Nat} :
      TxStage (.awaitComplete packet) [] .idle [token] (handed ++ [packet])
        ((handed ++ [packet]).map (·.t.frame))

def Device.TxStage (device : Device) (trace : List DeviceOutput) : Prop :=
  Lamella.TxStage device.txServer device.hostToWifi.items device.bridge.hostCustody
    device.txComplete.items (handedOf trace) (acceptedOf trace)

/-- Some request with this transaction was handed over, and the frame accepted at its
position is its own. -/
def Transmitted (trace : List DeviceOutput) (transaction : WifiTransaction) : Prop :=
  ∃ (position : Nat) (packet : Packet WifiTxRequest), (handedOf trace)[position]? = some packet ∧
    packet.t.transaction = transaction ∧ (acceptedOf trace)[position]? = some packet.t.frame

section

variable {server : TxServerPhase} {host : List WifiFrame} {custody : HostCustody}
  {tokens : List Nat} {handed : List (Packet WifiTxRequest)} {accepted : List WifiFrame}

theorem TxStage.count (stage : TxStage server host custody tokens handed accepted) :
    host.length + custody.owed + tokens.length = server.awaiting := by
  cases stage with
  | quiet resting => rw [resting]; rfl
  | _ => rfl

theorem TxStage.resting (stage : TxStage server host custody tokens handed accepted)
    (resting : server.awaiting = 0) :
    host = [] ∧ custody = .idle ∧ tokens = [] ∧ accepted = handed.map (·.t.frame) := by
  cases stage with
  | quiet => exact ⟨rfl, rfl, rfl, rfl⟩
  | _ => contradiction

theorem TxStage.rest (stage : TxStage server host custody tokens handed accepted)
    (resting : server.awaiting = 0) {next : TxServerPhase} (still : next.awaiting = 0) :
    TxStage next host custody tokens handed accepted := by
  obtain ⟨rfl, rfl, rfl, rfl⟩ := stage.resting resting
  exact .quiet still

theorem TxStage.push (stage : TxStage server host custody tokens handed accepted)
    (resting : server.awaiting = 0) (packet : Packet WifiTxRequest) :
    TxStage (.awaitComplete packet) (host ++ [packet.t.frame]) custody tokens
      (handed ++ [packet]) accepted := by
  obtain ⟨rfl, rfl, rfl, rfl⟩ := stage.resting resting
  exact .queued

theorem TxStage.take {frame : WifiFrame}
    (stage : TxStage server (frame :: host) .idle tokens handed accepted) :
    TxStage server host (.holding frame) tokens handed accepted := by
  cases stage
  exact .holding

theorem TxStage.transmit {frame : WifiFrame}
    (stage : TxStage server host (.holding frame) tokens handed accepted) :
    TxStage server host .transmitted tokens handed (accepted ++ [frame]) := by
  cases stage with
  | @holding packet earlier =>
      have done := @TxStage.transmitted packet earlier
      rwa [List.map_append] at done

theorem TxStage.post {token : Nat}
    (stage : TxStage server host .transmitted tokens handed accepted) :
    TxStage server host .idle (tokens ++ [token]) handed accepted := by
  cases stage
  exact .completed

theorem TxStage.unposted (stage : TxStage server host .transmitted tokens handed accepted) :
    tokens = [] := by
  cases stage
  rfl

theorem TxStage.complete {packet : Packet WifiTxRequest} {token : Nat} {next : TxServerPhase}
    (stage : TxStage (.awaitComplete packet) host custody (token :: tokens) handed accepted)
    (still : next.awaiting = 0) :
    TxStage next host custody tokens handed accepted ∧
      ∃ position : Nat, handed[position]? = some packet ∧
        accepted[position]? = some packet.t.frame := by
  cases stage with
  | @completed _ earlier =>
      exact ⟨.quiet still, earlier.length, by simp, by simp⟩

end

structure TxPipeline (device : Device) (trace : List DeviceOutput) : Prop where
  stage : device.TxStage trace
  completed : ∀ transaction, device.lastCompleted = some transaction →
    Transmitted trace transaction
  responding : ∀ packet, device.txServer = .sendResponse packet →
    Transmitted trace packet.t.transaction
  justified : Machine.Justified (fun before output => ∀ serial transaction,
    output = .response ⟨serial, .tx ⟨transaction⟩⟩ → Transmitted before transaction) trace

theorem handedOf_append (past output : List DeviceOutput) :
    handedOf (past ++ output) = handedOf past ++ handedOf output := List.filterMap_append

theorem acceptedOf_append (past output : List DeviceOutput) :
    acceptedOf (past ++ output) = acceptedOf past ++ acceptedOf output := List.filterMap_append

theorem Transmitted.mono {past : List DeviceOutput} {transaction : WifiTransaction}
    (transmitted : Transmitted past transaction) (output : List DeviceOutput) :
    Transmitted (past ++ output) transaction := by
  obtain ⟨position, packet, handed, same, accepted⟩ := transmitted
  refine ⟨position, packet, ?_, same, ?_⟩
  · rw [handedOf_append]
    exact List.getElem?_append_left (List.getElem?_eq_some_iff.mp handed).1 |>.trans handed
  · rw [acceptedOf_append]
    exact List.getElem?_append_left (List.getElem?_eq_some_iff.mp accepted).1 |>.trans accepted

structure TxQuiet (device next : Device) (output : List DeviceOutput) : Prop where
  server : next.txServer = device.txServer
  last : next.lastCompleted = device.lastCompleted
  handed : handedOf output = []
  silent : ∀ serial transaction, .response ⟨serial, .tx ⟨transaction⟩⟩ ∉ output

theorem BridgeMoves.txQuiet {device next : Device} {poll : BridgePoll}
    {output : List DeviceOutput} (moved : BridgeMoves device poll next output) :
    TxQuiet device next output := by
  cases moved <;> exact ⟨rfl, rfl, rfl, by simp⟩

theorem RxServerMoves.txQuiet {device next : Device} {event : DeviceEvent}
    {output : List DeviceOutput} (moved : RxServerMoves device event next output) :
    TxQuiet device next output ∧ next.hostToWifi = device.hostToWifi ∧
      next.bridge = device.bridge ∧ next.txComplete = device.txComplete ∧
      acceptedOf output = [] := by
  cases moved with
  | @respond packet timer delivered phase =>
      cases delivered <;> exact ⟨⟨rfl, rfl, rfl, by simp⟩, rfl, rfl, rfl, rfl⟩
  | _ => exact ⟨⟨rfl, rfl, rfl, by simp⟩, rfl, rfl, rfl, rfl⟩

theorem TxPipeline.quiet {device next : Device} {past output : List DeviceOutput}
    (pipeline : TxPipeline device past) (quiet : TxQuiet device next output)
    (stage : next.TxStage (past ++ output)) : TxPipeline next (past ++ output) := by
  refine ⟨stage, ?_, ?_, ?_⟩
  · intro transaction last
    exact (pipeline.completed transaction (quiet.last ▸ last)).mono output
  · intro packet responding
    exact (pipeline.responding packet (quiet.server ▸ responding)).mono output
  · refine pipeline.justified.append ?_
    rintro before response after rfl serial transaction rfl
    exact absurd (by simp) (quiet.silent serial transaction)

theorem TxPipeline.hostEffect {device next : Device} {past output : List DeviceOutput}
    (pipeline : TxPipeline device past) (quiet : TxQuiet device next output)
    (effect : HostEffect device next output) : TxPipeline next (past ++ output) := by
  apply pipeline.quiet quiet
  have stage := pipeline.stage
  unfold Device.TxStage at stage ⊢
  rw [quiet.server, handedOf_append, quiet.handed, List.append_nil, acceptedOf_append]
  cases effect with
  | quiet custody host tokens accepted =>
      rwa [custody, host, tokens, accepted, List.append_nil]
  | take frame before after host tokens accepted =>
      rw [before, host] at stage
      rw [after, tokens, accepted, List.append_nil]
      exact stage.take
  | transmit frame before after host tokens accepted =>
      rw [before] at stage
      rw [after, host, tokens, accepted]
      exact stage.transmit
  | post token before after host tokens accepted =>
      rw [before] at stage
      rw [after, host, tokens, accepted, List.append_nil]
      exact stage.post

theorem TxPipeline.serverStep {device next : Device} {past output : List DeviceOutput}
    {event : DeviceEvent} (pipeline : TxPipeline device past)
    (moved : TxServerMoves device event next output) : TxPipeline next (past ++ output) := by
  have kept (transaction : WifiTransaction) (last : device.lastCompleted = some transaction) :=
    (pipeline.completed transaction last).mono output
  have stage := pipeline.stage
  unfold Device.TxStage at stage
  cases moved with
  | fresh idle unknown =>
      rw [List.append_nil]
      refine ⟨?_, pipeline.completed, fun _ responding => (by cases responding), pipeline.justified⟩
      rw [idle] at stage
      exact stage.rest rfl rfl
  | @known packet idle completed =>
      refine ⟨?_, kept, ?_, ?_⟩
      · unfold Device.TxStage
        rw [idle] at stage
        rw [handedOf_append, acceptedOf_append]
        simpa [handedOf, acceptedOf] using stage.rest rfl rfl
      · rintro responding ⟨⟩
        exact kept _ completed
      · refine pipeline.justified.append ?_
        rintro before response after split serial transaction rfl
        simp [List.cons_eq_append_iff] at split
  | @send packet hostToWifi delivered phase pushed =>
      refine ⟨?_, kept, fun _ responding => (by cases responding), ?_⟩
      · unfold Device.TxStage
        rw [phase] at stage
        rw [handedOf_append, acceptedOf_append, pushed]
        simpa [handedOf, acceptedOf] using stage.push rfl packet
      · refine pipeline.justified.append ?_
        rintro before response after split serial transaction rfl
        simp [List.cons_eq_append_iff] at split
  | @complete packet txComplete token delivered phase taken =>
      rw [List.append_nil]
      rw [phase, taken] at stage
      have still : (TxServerPhase.sendResponse packet).awaiting = 0 := rfl
      obtain ⟨rested, position, handed, accepted⟩ := stage.complete still
      have transmitted : Transmitted past packet.t.transaction :=
        ⟨position, packet, handed, rfl, accepted⟩
      refine ⟨rested, ?_, ?_, pipeline.justified⟩
      · rintro transaction ⟨⟩
        exact transmitted
      · rintro responding ⟨⟩
        exact transmitted
  | @respond packet delivered phase =>
      refine ⟨?_, kept, fun _ responding => (by cases responding), ?_⟩
      · unfold Device.TxStage
        rw [phase] at stage
        rw [handedOf_append, acceptedOf_append]
        cases delivered <;> simpa [handedOf, acceptedOf] using stage.rest rfl rfl
      · refine pipeline.justified.append ?_
        rintro before response after split serial transaction rfl
        cases delivered with
        | false => simp at split
        | true =>
            simp only [if_true, List.cons_eq_append_iff] at split
            rcases split with ⟨rfl, same⟩ | ⟨tail, rfl, nothing⟩
            · rw [List.append_nil]
              simp only [List.cons.injEq, DeviceOutput.response.injEq, Packet.mk.injEq,
                Response.tx.injEq, WifiTxResponse.mk.injEq] at same
              rw [same.1.2]
              exact pipeline.responding packet phase
            · simp at nothing

theorem TxPipeline.step {device next : Device} {past output : List DeviceOutput}
    {event : DeviceEvent} (pipeline : TxPipeline device past)
    (moved : DeviceMoves device event next output) : TxPipeline next (past ++ output) := by
  cases moved with
  | txServer moved => exact pipeline.serverStep moved
  | rxServer moved =>
      obtain ⟨quiet, host, bridge, tokens, accepted⟩ := moved.txQuiet
      exact pipeline.hostEffect quiet (.quiet (by rw [bridge]) host tokens accepted)
  | bridge poll scheduled moved => exact pipeline.hostEffect moved.txQuiet moved.hostEffect

theorem Device.boot_txPipeline : TxPipeline Device.boot [] :=
  ⟨.quiet rfl, nofun, nofun, Machine.justified_nil _⟩

theorem Device.run_txPipeline {events : List DeviceEvent} {device : Device}
    {trace : List DeviceOutput}
    (ran : Machine.run Device.step Device.boot events = some (device, trace)) :
    TxPipeline device trace := by
  have kept := Machine.run_invariant TxPipeline (fun _ => True)
    (fun _ _ _ _ _ _ pipeline stepped => pipeline.step (Device.step_moves stepped))
    (fun _ _ => trivial) Device.boot_txPipeline ran
  simpa using kept

theorem TxPipeline.send_enabled {device : Device} {trace : List DeviceOutput}
    (pipeline : TxPipeline device trace) {packet : Packet WifiTxRequest}
    (phase : device.txServer = .sendFrame packet) (delivered : Bool) :
    (device.step (.task (.txServer delivered))).isSome := by
  have stage := pipeline.stage
  unfold Device.TxStage at stage
  rw [phase] at stage
  obtain ⟨empty, _⟩ := stage.resting rfl
  simp [Device.step, Device.task, wifiTxServer, phase, Channel.trySend, empty]

theorem TxPipeline.post_enabled {device : Device} {trace : List DeviceOutput}
    (pipeline : TxPipeline device trace) (phase : device.bridge.hostCustody = .transmitted)
    (poll : BridgePoll) : (device.step (.task (.bridge poll))).isSome := by
  have stage := pipeline.stage
  unfold Device.TxStage at stage
  rw [phase] at stage
  have empty := stage.unposted
  cases bridge : device.bridge with
  | complete pendingRx =>
      simp [Device.step, Device.task, wifiBridge, bridge, postCompletion, Channel.trySend, empty]
  | queueComplete frame =>
      simp [Device.step, Device.task, wifiBridge, bridge,
        queueWifiFrameWhileServingTx, postCompletion, Channel.trySend, empty]
  | _ =>
      rw [bridge] at phase
      contradiction

/-- Exactly one of frame, custody and token exists while the server waits, and none
otherwise.  So neither send blocks, no token outlives its transaction, and a response
follows the transmission of a frame of its own transaction. -/
theorem acknowledgement_matches_frame {events : List DeviceEvent} {device : Device}
    {trace : List DeviceOutput}
    (ran : Machine.run Device.step Device.boot events = some (device, trace)) :
    device.hostToWifi.items.length + device.bridge.hostCustody.owed +
        device.txComplete.items.length = device.txServer.awaiting ∧
      (∀ packet delivered, device.txServer = .sendFrame packet →
        (device.step (.task (.txServer delivered))).isSome) ∧
      (∀ poll, device.bridge.hostCustody = .transmitted →
        (device.step (.task (.bridge poll))).isSome) ∧
      (device.txServer.awaiting = 0 → device.txComplete.items = []) ∧
      ∀ before after serial transaction,
        trace = before ++ .response ⟨serial, .tx ⟨transaction⟩⟩ :: after →
          Transmitted before transaction := by
  have pipeline := Device.run_txPipeline ran
  refine ⟨pipeline.stage.count, ?_, ?_, ?_, ?_⟩
  · intro packet delivered phase
    exact pipeline.send_enabled phase delivered
  · intro poll phase
    exact pipeline.post_enabled phase poll
  · intro resting
    exact (pipeline.stage.resting resting).2.2.1
  · intro before after serial transaction split
    exact pipeline.justified before _ after split serial transaction rfl

def sampleTxRequest : Packet WifiTxRequest := ⟨0, ⟨⟨1, 0⟩, ⟨[255, 0], by decide⟩⟩⟩

def sampleTxEvents : List DeviceEvent :=
  [.request ⟨0, .tx sampleTxRequest.t⟩, .task (.txServer true), .task (.bridge ⟨true, none, 0⟩),
    .task (.bridge ⟨true, none, 0⟩), .task (.bridge ⟨true, none, 0⟩),
    .task (.bridge ⟨true, none, 3⟩), .task (.txServer true), .task (.txServer true)]

theorem acknowledgement_matches_frame_sample :
    ∃ device before,
      Machine.run Device.step Device.boot sampleTxEvents =
          some (device, before ++ [.response ⟨0, .tx ⟨⟨1, 0⟩⟩⟩]) ∧
        device.hostToWifi.items.length + device.bridge.hostCustody.owed +
          device.txComplete.items.length = 0 ∧
        Transmitted before ⟨1, 0⟩ := by
  refine ⟨_, [.handed sampleTxRequest, .accepted sampleTxRequest.t.frame, .completion], rfl, ?_, ?_⟩
  · exact (@acknowledgement_matches_frame sampleTxEvents _ _ rfl).1
  · exact (@acknowledgement_matches_frame sampleTxEvents _ _ rfl).2.2.2.2 _ [] 0 _ rfl

end Lamella

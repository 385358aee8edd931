import Lamella.FirmwareChecks

/-!
A pending transmission completes within a bounded number of bridge steps once the radio
grants TX tokens, whether or not anybody drains `WIFI_TO_HOST_CHANNEL`.
-/

namespace Lamella

/-- Bridge steps until the completion of a pending host frame is posted.  In the queue
`select` the answer depends on the fill level: a ready channel is served first. -/
def Device.progress (device : Device) : Nat :=
  match device.bridge with
  | .startup => 6
  | .queueSelect _ => if device.wifiToHost.readyToSend then 5 else 3
  | .queueFrame _ => 4
  | .select => 3
  | .transmitToWifi _ | .transmitOnlyToWifi _ _ | .queueTransmit _ _ => 2
  | .complete _ | .queueComplete _ => 1

structure Pending (device : Device) (trace : List DeviceOutput) : Prop where
  pipeline : TxPipeline device trace
  started : device.bridge ≠ .startup
  awaiting : device.txServer.awaiting = 1
  unposted : device.txComplete.items = []

theorem Device.progress_pos (device : Device) : 0 < device.progress := by
  unfold Device.progress
  split <;> first | omega | (split <;> omega)

theorem Pending.queued {device : Device} {trace : List DeviceOutput}
    (pending : Pending device trace) (idle : device.bridge.hostCustody = .idle) :
    device.hostToWifi.items ≠ [] := by
  have count := pending.pipeline.stage.count
  rw [idle, pending.awaiting, pending.unposted] at count
  intro empty
  rw [empty] at count
  contradiction

theorem Pending.bridge_enabled {device : Device} {trace : List DeviceOutput}
    (pending : Pending device trace) {poll : BridgePoll} (granted : poll.txToken = true) :
    (wifiBridge device poll).isSome := by
  have host (idle : device.bridge.hostCustody = .idle) :
      ∃ received, device.hostToWifi.tryReceive = some received := by
    rw [← Option.ne_none_iff_exists', ne_eq, Channel.tryReceive_eq_none_iff]
    exact pending.queued idle
  cases phase : device.bridge with
  | startup => exact absurd phase pending.started
  | select =>
      obtain ⟨received, found⟩ := host (by rw [phase]; rfl)
      simp [wifiBridge, phase, mainSelect, found]
  | queueSelect frame =>
      obtain ⟨received, found⟩ := host (by rw [phase]; rfl)
      simp only [wifiBridge, phase, queueWifiFrameWhileServingTx, found]
      split <;> rfl
  | queueFrame frame =>
      simp only [wifiBridge, phase, queueWifiFrameWhileServingTx]
      split <;> rfl
  | transmitToWifi frame => simp [wifiBridge, phase, transmitToWifi, granted]
  | transmitOnlyToWifi txFrame frame => simp [wifiBridge, phase, transmitOnlyToWifi, granted]
  | queueTransmit frame hostFrame =>
      simp [wifiBridge, phase, queueWifiFrameWhileServingTx, transmitOnlyToWifi, granted]
  | complete pendingRx => exact pending.pipeline.post_enabled (by rw [phase]; rfl) poll
  | queueComplete frame => exact pending.pipeline.post_enabled (by rw [phase]; rfl) poll

theorem Pending.bridge_progress {device next : Device} {trace output : List DeviceOutput}
    {poll : BridgePoll} (pending : Pending device trace) (granted : poll.txToken = true)
    (moved : BridgeMoves device poll next output) :
    .completion ∈ output ∨
      (next.progress < device.progress ∧ next.bridge ≠ .startup ∧
        next.txComplete = device.txComplete) := by
  have refused (busy : poll.txToken = false) : False := by simp [granted] at busy
  have host (phase : device.bridge = .select) (empty : device.hostToWifi.items = []) : False :=
    pending.queued (by rw [phase]; rfl) empty
  cases moved with
  | startup phase => exact absurd phase pending.started
  | skip phase oversized busy idle =>
      rcases phase with phase | ⟨frame, phase⟩
      · exact (host phase (idle phase)).elim
      · exact (refused (busy (by simp [phase]))).elim
  | consume phase idle copied => exact (host phase idle).elim
  | drain phase busy copied pushed => exact (refused busy).elim
  | retain phase busy copied full => exact (refused busy).elim
  | complete phase posted => simp
  | queueComplete phase posted => simp
  | takeHost phase taken => simp [Device.progress, phase]
  | transmit phase granted => simp [Device.progress, phase]
  | transmitOnly phase granted => simp [Device.progress, phase]
  | queue phase pushed => simp [Device.progress, phase]
  | queueFull phase full => simp [Device.progress, phase, Channel.readyToSend, full]
  | queueReady phase room => simp [Device.progress, phase, Channel.readyToSend, room]
  | queueHost phase full taken => simp [Device.progress, phase, Channel.readyToSend, full]
  | queueTransmit phase granted => simp [Device.progress, phase]

theorem Pending.other_step {device next : Device} {trace output : List DeviceOutput}
    {event : DeviceEvent} (pending : Pending device trace)
    (moved : DeviceMoves device event next output)
    (other : ∀ poll, event ≠ .task (.bridge poll)) (undrained : dequeuedOf output = []) :
    Pending next (trace ++ output) ∧ next.progress = device.progress := by
  have pipeline := pending.pipeline.step moved
  cases moved with
  | bridge poll scheduled moved => exact absurd scheduled (other poll)
  | txServer moved =>
      have awaiting := pending.awaiting
      cases moved with
      | fresh idle unknown => simp [idle, TxServerPhase.awaiting] at awaiting
      | known idle completed => simp [idle, TxServerPhase.awaiting] at awaiting
      | send phase pushed => simp [phase, TxServerPhase.awaiting] at awaiting
      | complete phase taken => simp [pending.unposted] at taken
      | respond phase => simp [phase, TxServerPhase.awaiting] at awaiting
  | rxServer moved =>
      obtain ⟨quiet, _, bridge, tokens, _⟩ := moved.txQuiet
      obtain ⟨_, taken, _⟩ := moved.received
      have channel : next.wifiToHost = device.wifiToHost := by
        ext1
        rw [taken, undrained, List.nil_append]
      refine ⟨⟨pipeline, ?_, ?_, ?_⟩, ?_⟩
      · rw [bridge]
        exact pending.started
      · rw [quiet.server]
        exact pending.awaiting
      · rw [tokens]
        exact pending.unposted
      · unfold Device.progress
        rw [bridge, channel]

def DeviceEvent.isBridge : DeviceEvent → Bool
  | .task (.bridge _) => true
  | _ => false

theorem Pending.step {device next : Device} {past output : List DeviceOutput}
    {event : DeviceEvent} (pending : Pending device past)
    (stepped : device.step event = some (next, output))
    (granted : ∀ poll, event = .task (.bridge poll) → poll.txToken = true)
    (undrained : dequeuedOf output = []) :
    .completion ∈ output ∨ (Pending next (past ++ output) ∧
      [event].countP DeviceEvent.isBridge + next.progress ≤ device.progress) := by
  have moved := Device.step_moves stepped
  by_cases scheduled : ∃ poll, event = .task (.bridge poll)
  · obtain ⟨poll, rfl⟩ := scheduled
    have bridgeMoved := wifiBridge_moves stepped
    rcases pending.bridge_progress (granted poll rfl) bridgeMoved with posted | ⟨closer, started, tokens⟩
    · exact .inl posted
    · refine .inr ⟨⟨pending.pipeline.step moved, started, ?_, ?_⟩, ?_⟩
      · rw [bridgeMoved.txQuiet.server]
        exact pending.awaiting
      · rw [tokens]
        exact pending.unposted
      · simp only [List.countP_singleton, DeviceEvent.isBridge, if_true]
        omega
  · have other (poll : BridgePoll) : event ≠ .task (.bridge poll) :=
      fun same => scheduled ⟨poll, same⟩
    obtain ⟨still, same⟩ := pending.other_step moved other undrained
    refine .inr ⟨still, ?_⟩
    have uncounted : event.isBridge = false := by
      unfold DeviceEvent.isBridge
      split
      · rename_i poll
        exact absurd rfl (other poll)
      · rfl
    simp [uncounted, same]

theorem Pending.run {later : List DeviceEvent} :
    ∀ {device : Device} {past : List DeviceOutput}, Pending device past →
      ∀ {final : Device} {trace : List DeviceOutput},
        Machine.run Device.step device later = some (final, trace) →
        (∀ poll, .task (.bridge poll) ∈ later → poll.txToken = true) → dequeuedOf trace = [] →
          .completion ∈ trace ∨ (Pending final (past ++ trace) ∧
            later.countP DeviceEvent.isBridge + final.progress ≤ device.progress) := by
  induction later with
  | nil =>
      intro device past pending final trace ran granted undrained
      simp only [Machine.run, Option.some.injEq, Prod.mk.injEq] at ran
      obtain ⟨rfl, rfl⟩ := ran
      exact .inr ⟨by simpa using pending, by simp⟩
  | cons event rest ih =>
      intro device past pending final trace ran granted undrained
      obtain ⟨next, output, outputs, stepped, continued, rfl⟩ :=
        (Machine.run_cons_iff _ _ _ _ _).mp ran
      rw [dequeuedOf_append, List.append_eq_nil_iff] at undrained
      have first := pending.step stepped (fun poll same => granted poll (by simp [same])) undrained.1
      rcases first with posted | ⟨still, closer⟩
      · exact .inl (List.mem_append_left _ posted)
      · have later := ih still continued (fun poll member => granted poll (by simp [member]))
          undrained.2
        rcases later with posted | ⟨reached, bound⟩
        · exact .inl (List.mem_append_right _ posted)
        · refine .inr ⟨by simpa using reached, ?_⟩
          rw [← List.singleton_append, List.countP_append]
          omega

theorem Device.progress_le (device : Device) (started : device.bridge ≠ .startup) :
    device.progress ≤ 5 := by
  unfold Device.progress
  split <;> first | contradiction | omega | (split <;> omega)

/-- A full receive queue cannot hold up a transmission.  While the radio grants TX tokens
and nothing is dequeued, the bridge can always step until it has posted the completion,
every such step brings it closer, and five steps are enough. -/
theorem completion_independent_of_dequeue {events later : List DeviceEvent}
    {device final : Device} {past trace : List DeviceOutput} {packet : Packet WifiTxRequest}
    (ran : Machine.run Device.step Device.boot events = some (device, past))
    (started : device.bridge ≠ .startup) (awaiting : device.txServer = .awaitComplete packet)
    (continued : Machine.run Device.step device later = some (final, trace))
    (granted : ∀ poll, .task (.bridge poll) ∈ later → poll.txToken = true)
    (undrained : dequeuedOf trace = []) :
    device.progress ≤ 5 ∧
      ((device.txComplete.items ≠ [] ∨ .completion ∈ trace) ∨
        (later.countP DeviceEvent.isBridge < device.progress ∧
          ∀ poll, poll.txToken = true → ∃ next output,
            final.step (.task (.bridge poll)) = some (next, output) ∧
              (.completion ∈ output ∨ next.progress < final.progress))) := by
  refine ⟨device.progress_le started, ?_⟩
  by_cases unposted : device.txComplete.items = []
  case neg => exact .inl (.inl unposted)
  have pending : Pending device past :=
    ⟨Device.run_txPipeline ran, started, by rw [awaiting]; rfl, unposted⟩
  rcases pending.run continued granted undrained with posted | ⟨still, bound⟩
  · exact .inl (.inr posted)
  · refine .inr ⟨?_, ?_⟩
    · have := final.progress_pos
      omega
    · intro poll token
      obtain ⟨⟨next, output⟩, stepped⟩ := Option.isSome_iff_exists.mp (still.bridge_enabled token)
      refine ⟨next, output, stepped, ?_⟩
      rcases still.bridge_progress token (wifiBridge_moves stepped) with posted | ⟨closer, _⟩
      · exact .inl posted
      · exact .inr closer

def sampleWifiFrame : WifiFrame := ⟨[1], by decide⟩

def sampleFullEvents : List DeviceEvent :=
  .task (.bridge ⟨false, none, 0⟩) ::
    List.replicate 130 (.task (.bridge ⟨false, some [1], 0⟩)) ++
      [.request ⟨0, .tx sampleTxRequest.t⟩, .task (.txServer true)]

def sampleFullDevice : Device :=
  { Device.boot with
    txServer := .awaitComplete sampleTxRequest
    bridge := .queueSelect sampleWifiFrame
    wifiToHost := ⟨List.replicate 64 sampleWifiFrame, by simp⟩
    hostToWifi := ⟨[sampleTxRequest.t.frame], by simp⟩ }

def sampleFullTrace : List DeviceOutput :=
  (List.replicate 64 [.consumed [1], .queued sampleWifiFrame]).flatten ++
    [.consumed [1], .handed sampleTxRequest]

def sampleGranted : List DeviceEvent := List.replicate 2 (.task (.bridge ⟨true, some [2], 0⟩))

def sampleServedDevice : Device :=
  { sampleFullDevice with
    bridge := .queueComplete sampleWifiFrame
    hostToWifi := Channel.empty }

theorem completion_independent_of_dequeue_full :
    Machine.run Device.step Device.boot sampleFullEvents =
        some (sampleFullDevice, sampleFullTrace) ∧
      Machine.run Device.step sampleFullDevice sampleGranted =
        some (sampleServedDevice, [.accepted sampleTxRequest.t.frame]) ∧
      ∀ poll, poll.txToken = true → ∃ next output,
        sampleServedDevice.step (.task (.bridge poll)) = some (next, output) ∧
          (.completion ∈ output ∨ next.progress < sampleServedDevice.progress) := by
  have ran : Machine.run Device.step Device.boot sampleFullEvents =
      some (sampleFullDevice, sampleFullTrace) := by decide +kernel
  have continued : Machine.run Device.step sampleFullDevice sampleGranted =
      some (sampleServedDevice, [.accepted sampleTxRequest.t.frame]) := by decide +kernel
  refine ⟨ran, continued, ?_⟩
  have settled := completion_independent_of_dequeue ran (by decide) rfl continued
    (by simp [sampleGranted]) rfl
  rcases settled.2 with (token | posted) | ⟨_, enabled⟩
  · exact absurd rfl token
  · simp at posted
  · exact enabled

end Lamella

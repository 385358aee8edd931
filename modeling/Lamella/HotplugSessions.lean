import Lamella.Hotplug

/-!
The bridge sessions of `run_with_hotplug` over a whole run: one TAP device for the first MAC, a
session for every handshake that succeeds, and what is counted and reported for the later ones.
-/

namespace Lamella

/-- The MAC of a handshake that gets as far as the bridge. -/
def HotplugEvent.connectedMac : HotplugEvent → Option Mac
  | .handshake queries state _ =>
      match queryMacWithRetrySerial queries, serialPeerAddress state with
      | .ok mac, .ok _ => some mac
      | _, _ => none
  | _ => none

theorem connectedMac_handshake {queries : Fin macQueryRetries → MacAttempt}
    {state : Option InterfaceState} {mac : Mac} {peer : Address} (tap : Except IoError Unit)
    (answered : queryMacWithRetrySerial queries = .ok mac)
    (address : serialPeerAddress state = .ok peer) :
    (HotplugEvent.handshake queries state tap).connectedMac = some mac := by
  simp [HotplugEvent.connectedMac, answered, address]

def HotplugOutput.sessionInterface : HotplugOutput → Option Interface
  | .session interface _ => some interface
  | _ => none

def HotplugOutput.deregisteredInterface : HotplugOutput → Option Interface
  | .deregistered interface => some interface
  | _ => none

def HotplugOutput.macChange : HotplugOutput → Option (Mac × Mac)
  | .macChanged expected got => some (expected, got)
  | _ => none

def HotplugPhase.sessionInterface : HotplugPhase → Option Interface
  | .session interface => some interface
  | _ => none

/-- The report for a MAC other than the expected one. -/
def macChange (expected : Option Mac) (mac : Mac) : Option (Mac × Mac) :=
  expected.bind fun expected => if mac ≠ expected then some (expected, mac) else none

/-- What is reported when a session starts. -/
def sessionReport (expected mac : Mac) (interface : Interface) (peer : Address) :
    List HotplugOutput :=
  (if mac ≠ expected then [.macChanged expected mac] else []) ++ [.session interface peer]

/-- `macs` are those of the handshakes that got as far as the bridge, the first one first. -/
structure Bridged (loop : Hotplug) (macs : List Mac) (trace : List HotplugOutput) : Prop where
  tap : loop.tapDevice = macs.head?
  once : loop.connectedOnce = !macs.isEmpty
  reconnects : loop.metrics.reconnects = macs.length - 1
  sessions : (trace.filterMap HotplugOutput.sessionInterface).length = macs.length
  changes : trace.filterMap HotplugOutput.macChange = macs.filterMap (macChange macs.head?)
  ended : trace.filterMap HotplugOutput.sessionInterface =
    trace.filterMap HotplugOutput.deregisteredInterface ++ loop.phase.sessionInterface.toList

theorem Bridged.elsewhere {loop next : Hotplug} {macs : List Mac}
    {trace outputs : List HotplugOutput} (bridged : Bridged loop macs trace)
    (tap : next.tapDevice = loop.tapDevice)
    (counted : next.connectedOnce = loop.connectedOnce ∧ next.metrics = loop.metrics)
    (phase : next.phase.sessionInterface = loop.phase.sessionInterface)
    (silent : ∀ output ∈ outputs, ∃ interface, output = .registered interface) :
    Bridged next macs (trace ++ outputs) := by
  have nothing {Item : Type} (select : HotplugOutput → Option Item)
      (ignored : ∀ interface, select (.registered interface) = none) :
      (trace ++ outputs).filterMap select = trace.filterMap select := by
    have ignoring : outputs.filterMap select = [] := by
      rw [List.filterMap_eq_nil_iff]
      intro output member
      obtain ⟨interface, rfl⟩ := silent output member
      exact ignored interface
    rw [List.filterMap_append, ignoring, List.append_nil]
  refine ⟨tap.trans bridged.tap, counted.1.trans bridged.once, ?_, ?_, ?_, ?_⟩
  · rw [counted.2, bridged.reconnects]
  · rw [nothing HotplugOutput.sessionInterface fun _ => rfl, bridged.sessions]
  · rw [nothing HotplugOutput.macChange fun _ => rfl, bridged.changes]
  · rw [nothing HotplugOutput.sessionInterface fun _ => rfl,
      nothing HotplugOutput.deregisteredInterface fun _ => rfl, phase, bridged.ended]

theorem sessionReport_projections (expected mac : Mac) (interface : Interface) (peer : Address) :
    (sessionReport expected mac interface peer).filterMap HotplugOutput.sessionInterface =
        [interface] ∧
      (sessionReport expected mac interface peer).filterMap HotplugOutput.deregisteredInterface =
        [] ∧
      (sessionReport expected mac interface peer).filterMap HotplugOutput.macChange =
        [mac].filterMap (macChange (some expected)) := by
  by_cases changed : mac = expected <;>
    simp [sessionReport, changed, HotplugOutput.sessionInterface, HotplugOutput.macChange,
      HotplugOutput.deregisteredInterface, macChange, List.filterMap_cons]

theorem Bridged.connect {loop next : Hotplug} {macs : List Mac} {mac expected : Mac}
    {trace : List HotplugOutput} {interface : Interface} {peer : Address}
    (bridged : Bridged loop macs trace) (head : (macs ++ [mac]).head? = some expected)
    (tap : next.tapDevice = some expected)
    (counted : next.connectedOnce = true ∧ next.metrics =
      if loop.connectedOnce then loop.metrics.recordReconnect else loop.metrics)
    (before : loop.phase.sessionInterface = none)
    (after : next.phase.sessionInterface = some interface) :
    Bridged next (macs ++ [mac]) (trace ++ sessionReport expected mac interface peer) := by
  obtain ⟨begun, unfinished, reported⟩ := sessionReport_projections expected mac interface peer
  have earlier : macs.filterMap (macChange macs.head?) = macs.filterMap (macChange (some expected)) := by
    cases macs with
    | nil => rfl
    | cons first rest => rw [← head]; rfl
  refine ⟨by rw [tap, head], ?_, ?_, ?_, ?_, ?_⟩
  · rw [counted.1]
    simp
  · rw [counted.2, bridged.once, List.length_append, List.length_singleton]
    cases macs with
    | nil => simpa using bridged.reconnects
    | cons first rest => simp [BridgeMetrics.recordReconnect, bridged.reconnects]
  · rw [List.filterMap_append, begun, List.length_append, List.length_append, bridged.sessions]
    rfl
  · rw [List.filterMap_append, reported, head, List.filterMap_append, bridged.changes, earlier]
  · rw [List.filterMap_append, List.filterMap_append, begun, unfinished, bridged.ended, before, after]
    simp

theorem Bridged.finish {loop next : Hotplug} {macs : List Mac} {trace : List HotplugOutput}
    {interface : Interface} (bridged : Bridged loop macs trace)
    (tap : next.tapDevice = loop.tapDevice)
    (counted : next.connectedOnce = loop.connectedOnce ∧ next.metrics = loop.metrics)
    (before : loop.phase.sessionInterface = some interface)
    (after : next.phase.sessionInterface = none) :
    Bridged next macs (trace ++ [.deregistered interface]) := by
  refine ⟨tap.trans bridged.tap, counted.1.trans bridged.once, ?_, ?_, ?_, ?_⟩
  · rw [counted.2, bridged.reconnects]
  · rw [List.filterMap_append, ← bridged.sessions]
    simp [HotplugOutput.sessionInterface]
  · rw [List.filterMap_append, bridged.changes]
    simp [HotplugOutput.macChange]
  · rw [List.filterMap_append, List.filterMap_append, bridged.ended, before, after]
    simp [HotplugOutput.sessionInterface, HotplugOutput.deregisteredInterface]

/-- Only a TAP device that cannot be created keeps a successful handshake from its session. -/
inductive HotplugHistory (loop : Hotplug) (macs : List Mac) (trace : List HotplugOutput) : Prop
  | bridging (tapped : loop.tapDevice = loop.expectedMac) (bridged : Bridged loop macs trace)
  | refused (error : IoError) (mac : Mac) (ended : loop.phase = .returned (.error error))
      (expected : loop.expectedMac = some mac) (only : macs = [mac])
      (untapped : loop.tapDevice = none)
      (unbridged : trace.filterMap HotplugOutput.sessionInterface = [])

theorem HotplugHistory.step {pattern : String} {loop next : Hotplug} {past : List HotplugEvent}
    {trace outputs : List HotplugOutput} {event : HotplugEvent}
    (history : HotplugHistory loop (past.filterMap HotplugEvent.connectedMac) trace)
    (stepped : runWithHotplug pattern loop event = some (next, outputs)) :
    HotplugHistory next ((past ++ [event]).filterMap HotplugEvent.connectedMac)
      (trace ++ outputs) := by
  cases history with
  | refused error mac ended => simp [runWithHotplug, ended] at stepped
  | bridging tapped bridged =>
      have fresh (unknown : loop.expectedMac = none) :
          past.filterMap HotplugEvent.connectedMac = [] :=
        List.head?_eq_none_iff.mp (bridged.tap.symm.trans (tapped.trans unknown))
      rw [List.filterMap_append]
      cases runWithHotplug_moves stepped with
      | absent =>
          rw [List.filterMap_cons_none rfl, List.filterMap_nil, List.append_nil]
          exact .bridging tapped (bridged.elsewhere rfl ⟨rfl, rfl⟩ rfl (by simp))
      | cancel phase | find phase | register id phase | refuse error phase | wake phase =>
          rw [List.filterMap_cons_none rfl, List.filterMap_nil, List.append_nil]
          exact .bridging tapped (bridged.elsewhere rfl ⟨rfl, rfl⟩ (by rw [phase]; rfl) (by simp))
      | unanswered state _ phase answered =>
          rw [List.filterMap_cons_none (by simp [HotplugEvent.connectedMac, answered]),
            List.filterMap_nil, List.append_nil]
          exact .bridging tapped (bridged.elsewhere rfl ⟨rfl, rfl⟩ (by rw [phase]; rfl) (by simp))
      | unreachable _ phase answered address =>
          rw [List.filterMap_cons_none (by simp [HotplugEvent.connectedMac, answered, address]),
            List.filterMap_nil, List.append_nil]
          exact .bridging tapped (bridged.elsewhere rfl ⟨rfl, rfl⟩ (by rw [phase]; rfl) (by simp))
      | @finish interface reason isCancelled phase =>
          rw [List.filterMap_cons_none rfl, List.filterMap_nil, List.append_nil]
          refine .bridging tapped
            (bridged.finish rfl ⟨rfl, rfl⟩ (by rw [phase]; rfl) ?_)
          simp only [Hotplug.endSession]
          split <;> rfl
      | @reconnect interface _ _ mac expected peer _ phase answered address known =>
          rw [List.filterMap_cons_some (connectedMac_handshake _ answered address),
            List.filterMap_nil, loop.startBridge_eq interface peer (by rw [tapped, known]; rfl)]
          have head := bridged.tap.symm.trans (tapped.trans known)
          refine .bridging tapped (bridged.connect ?_ (tapped.trans known) ⟨rfl, rfl⟩
            (by rw [phase]; rfl) rfl)
          rw [List.head?_append, head]
          rfl
      | @connect interface _ _ mac peer phase answered address unknown =>
          rw [List.filterMap_cons_some (connectedMac_handshake _ answered address),
            List.filterMap_nil, Hotplug.startBridge_eq
              { loop with expectedMac := some mac, tapDevice := some mac } interface peer rfl]
          have report : [.session interface peer] = sessionReport mac mac interface peer := by
            simp [sessionReport]
          rw [report]
          rw [fresh unknown] at bridged ⊢
          exact .bridging rfl (bridged.connect rfl rfl ⟨rfl, rfl⟩ (by rw [phase]; rfl) rfl)
      | @untapped interface _ _ mac peer error phase answered address unknown =>
          rw [List.filterMap_cons_some (connectedMac_handshake _ answered address),
            List.filterMap_nil, fresh unknown, List.append_nil]
          refine .refused error mac rfl rfl rfl (tapped.trans unknown) ?_
          rw [← List.length_eq_zero_iff, bridged.sessions, fresh unknown]
          rfl

/-- The first MAC names the TAP device for good.  Every handshake that succeeds starts a session,
unless the TAP device cannot be created, and each session is ended by deregistering its interface
before the next starts; all but the first count as reconnects, and exactly those with another MAC
are reported. -/
theorem hotplug_sessions {pattern : String} {events : List HotplugEvent} {loop : Hotplug}
    {trace : List HotplugOutput}
    (ran : Machine.run (runWithHotplug pattern) Hotplug.start events = some (loop, trace)) :
    loop.expectedMac = (events.filterMap HotplugEvent.connectedMac).head? ∧
      HotplugHistory loop (events.filterMap HotplugEvent.connectedMac) trace := by
  have history := Machine.run_record
    (fun loop past trace =>
      HotplugHistory loop (past.filterMap HotplugEvent.connectedMac) trace)
    (fun _ _ _ _ _ _ history stepped => history.step stepped)
    (.bridging rfl ⟨rfl, rfl, rfl, rfl, rfl, rfl⟩) ran
  refine ⟨?_, history⟩
  cases history with
  | bridging tapped bridged => rw [← tapped, bridged.tap]
  | refused error mac ended expected only => rw [expected, only]; rfl

def sampleOtherAnswers : Fin macQueryRetries → MacAttempt :=
  fun _ => ⟨some (.active 1 1), some (.ok #v[2, 0, 0, 0, 0, 9])⟩

def sampleSwappedEvents : List HotplugEvent :=
  sampleSessionEvents ++ [.poll (some ["usb-Espressif_USB_JTAG"]), .register (.ok 0),
    .handshake sampleOtherAnswers (some (.active 1 1)) (.ok ())]

theorem hotplug_sessions_swapped :
    ∃ loop trace,
      Machine.run (runWithHotplug "Espressif") Hotplug.start sampleSwappedEvents =
          some (loop, trace) ∧
        loop.metrics.reconnects = 1 ∧
        trace.filterMap HotplugOutput.macChange = [(sampleMac, #v[2, 0, 0, 0, 0, 9])] ∧
        loop.expectedMac = some sampleMac := by
  have reached : (Machine.run (runWithHotplug "Espressif") Hotplug.start sampleSwappedEvents).map
      (fun result => (result.1.metrics.reconnects, result.2.filterMap HotplugOutput.macChange)) =
        some (1, [(sampleMac, #v[2, 0, 0, 0, 0, 9])]) := by
    decide +kernel
  obtain ⟨⟨loop, trace⟩, ran, seen⟩ := Option.map_eq_some_iff.mp reached
  obtain ⟨reconnects, changes⟩ := Prod.mk.inj seen
  have macs : (sampleSwappedEvents.filterMap HotplugEvent.connectedMac).head? = some sampleMac := by
    decide +kernel
  exact ⟨loop, trace, ran, reconnects, changes, (hotplug_sessions ran).1.trans macs⟩

end Lamella

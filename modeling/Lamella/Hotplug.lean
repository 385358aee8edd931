import Lamella.HotplugCore
import Lamella.MachineCore

/-!
Interfaces the hot-plug loop leaves registered.  Only the end of a session deregisters
one, so every handshake that fails leaves its interface behind.
-/

namespace Lamella

def HotplugPhase.interface : HotplugPhase → Option Interface
  | .handshake interface | .session interface => some interface
  | .waitForDevice | .register _ | .pause | .returned _ => none

def HotplugPhase.isReturned : HotplugPhase → Bool
  | .returned _ => true
  | _ => false

/-- The loop waits for a device, or is about to register the one it found. -/
def HotplugPhase.isHead : HotplugPhase → Bool
  | .waitForDevice | .register _ => true
  | _ => false

/-- The MAC query or the address resolution of a registered interface fails. -/
def HotplugEvent.failsHandshake : HotplugEvent → Bool
  | .handshake queries state _ =>
      match queryMacWithRetrySerial queries, serialPeerAddress state with
      | .ok _, .ok _ => false
      | _, _ => true
  | _ => false

/-- One case for each branch of `run_with_hotplug`. -/
inductive HotplugMoves (pattern : String) (loop : Hotplug) :
    HotplugEvent → Hotplug → List HotplugOutput → Prop
  | cancel (phase : loop.phase = .waitForDevice) :
      HotplugMoves pattern loop .cancelled { loop with phase := .returned (.ok ()) } []
  | absent {entries : Option (List String)} (phase : loop.phase = .waitForDevice)
      (unfound : findDeviceById pattern entries = none) :
      HotplugMoves pattern loop (.poll entries) loop []
  | find {entries : Option (List String)} {path : String} (phase : loop.phase = .waitForDevice)
      (found : findDeviceById pattern entries = some path) :
      HotplugMoves pattern loop (.poll entries)
        { loop with phase := .register path, stackCount := loop.stackCount + 1 } []
  | register {path : String} (id : UInt8) (phase : loop.phase = .register path) :
      HotplugMoves pattern loop (.register (.ok id))
        { loop with
          phase := .handshake ⟨loop.stackCount, id⟩
          registered := loop.registered ++ [⟨loop.stackCount, id⟩] }
        [.registered ⟨loop.stackCount, id⟩]
  | refuse {path : String} (error : IoError) (phase : loop.phase = .register path) :
      HotplugMoves pattern loop (.register (.error error)) { loop with phase := .pause } []
  | unanswered {interface : Interface} {queries : Fin macQueryRetries → MacAttempt}
      {error : IoError} (state : Option InterfaceState) (tap : Except IoError Unit)
      (phase : loop.phase = .handshake interface)
      (answered : queryMacWithRetrySerial queries = .error error) :
      HotplugMoves pattern loop (.handshake queries state tap) { loop with phase := .pause } []
  | unreachable {interface : Interface} {queries : Fin macQueryRetries → MacAttempt}
      {state : Option InterfaceState} {mac : Mac} {error : IoError} (tap : Except IoError Unit)
      (phase : loop.phase = .handshake interface)
      (answered : queryMacWithRetrySerial queries = .ok mac)
      (address : serialPeerAddress state = .error error) :
      HotplugMoves pattern loop (.handshake queries state tap)
        { loop with phase := .waitForDevice } []
  | reconnect {interface : Interface} {queries : Fin macQueryRetries → MacAttempt}
      {state : Option InterfaceState} {mac expected : Mac} {peer : Address}
      (tap : Except IoError Unit) (phase : loop.phase = .handshake interface)
      (answered : queryMacWithRetrySerial queries = .ok mac)
      (address : serialPeerAddress state = .ok peer)
      (known : loop.expectedMac = some expected) :
      HotplugMoves pattern loop (.handshake queries state tap) (loop.startBridge interface peer).1
        ((if mac ≠ expected then [.macChanged expected mac] else []) ++
          (loop.startBridge interface peer).2)
  | untapped {interface : Interface} {queries : Fin macQueryRetries → MacAttempt}
      {state : Option InterfaceState} {mac : Mac} {peer : Address} (error : IoError)
      (phase : loop.phase = .handshake interface)
      (answered : queryMacWithRetrySerial queries = .ok mac)
      (address : serialPeerAddress state = .ok peer) (fresh : loop.expectedMac = none) :
      HotplugMoves pattern loop (.handshake queries state (.error error))
        { loop with expectedMac := some mac, phase := .returned (.error error) } []
  | connect {interface : Interface} {queries : Fin macQueryRetries → MacAttempt}
      {state : Option InterfaceState} {mac : Mac} {peer : Address}
      (phase : loop.phase = .handshake interface)
      (answered : queryMacWithRetrySerial queries = .ok mac)
      (address : serialPeerAddress state = .ok peer) (fresh : loop.expectedMac = none) :
      HotplugMoves pattern loop (.handshake queries state (.ok ()))
        ({ loop with expectedMac := some mac, tapDevice := some mac }.startBridge interface peer).1
        ({ loop with expectedMac := some mac, tapDevice := some mac }.startBridge interface peer).2
  | finish {interface : Interface} (reason : SessionEnd) (isCancelled : Bool)
      (phase : loop.phase = .session interface) :
      HotplugMoves pattern loop (.sessionEnded reason isCancelled)
        (loop.endSession interface reason isCancelled).1 [.deregistered interface]
  | wake (phase : loop.phase = .pause) :
      HotplugMoves pattern loop .slept { loop with phase := .waitForDevice } []

theorem finishHandshake_moves {loop : Hotplug} {interface : Interface} (pattern : String)
    (phase : loop.phase = .handshake interface) (queries : Fin macQueryRetries → MacAttempt)
    (state : Option InterfaceState) (tap : Except IoError Unit) :
    HotplugMoves pattern loop (.handshake queries state tap)
      (loop.finishHandshake interface queries state tap).1
      (loop.finishHandshake interface queries state tap).2 := by
  cases answered : queryMacWithRetrySerial queries with
  | error error =>
      simp only [Hotplug.finishHandshake, answered]
      exact .unanswered state tap phase answered
  | ok mac =>
      cases address : serialPeerAddress state with
      | error error =>
          simp only [Hotplug.finishHandshake, answered, address]
          exact .unreachable tap phase answered address
      | ok peer =>
          cases expected : loop.expectedMac with
          | some known =>
              simp only [Hotplug.finishHandshake, answered, address, expected]
              exact .reconnect tap phase answered address expected
          | none =>
              cases tap with
              | error error =>
                  simp only [Hotplug.finishHandshake, answered, address, expected]
                  exact .untapped error phase answered address expected
              | ok created =>
                  simp only [Hotplug.finishHandshake, answered, address, expected]
                  exact .connect phase answered address expected

theorem runWithHotplug_moves {pattern : String} {loop next : Hotplug} {event : HotplugEvent}
    {outputs : List HotplugOutput}
    (stepped : runWithHotplug pattern loop event = some (next, outputs)) :
    HotplugMoves pattern loop event next outputs := by
  unfold runWithHotplug at stepped
  split at stepped
  case h_1 phase =>
      cases stepped
      exact .cancel phase
  case h_2 entries phase =>
      split at stepped
      case h_1 unfound =>
          cases stepped
          exact .absent phase unfound
      case h_2 path found =>
          cases stepped
          exact .find phase found
  case h_3 path id phase =>
      cases stepped
      exact .register id phase
  case h_4 path error phase =>
      cases stepped
      exact .refuse error phase
  case h_5 interface queries state tap phase =>
      have moved := finishHandshake_moves pattern phase queries state tap
      rwa [Option.some.inj stepped] at moved
  case h_6 interface reason isCancelled phase =>
      cases stepped
      exact .finish reason isCancelled phase
  case h_7 phase =>
      cases stepped
      exact .wake phase
  case h_8 => contradiction

theorem Hotplug.startBridge_eq (loop : Hotplug) (interface : Interface) (peer : Address)
    (tap : loop.tapDevice.isSome = true) :
    loop.startBridge interface peer =
      ({ loop with
        phase := .session interface
        connectedOnce := true
        metrics := if loop.connectedOnce then loop.metrics.recordReconnect else loop.metrics },
        [.session interface peer]) := by
  obtain ⟨mac, present⟩ := Option.isSome_iff_exists.mp tap
  obtain ⟨phase, expectedMac, tapDevice, connectedOnce, metrics, stackCount, registered⟩ := loop
  subst present
  cases connectedOnce <;> rfl

/-- Until it returns, the loop has registered what it works with and one interface for
each failed handshake. -/
structure Accounted (loop : Hotplug) (past : List HotplugEvent) : Prop where
  count : loop.registered.length =
    past.countP HotplugEvent.failsHandshake + loop.phase.interface.toList.length
  current : ∀ interface, loop.phase.interface = some interface → interface ∈ loop.registered
  tap : loop.expectedMac.isSome = loop.tapDevice.isSome

theorem Hotplug.start_accounted : Accounted Hotplug.start [] := ⟨rfl, nofun, rfl⟩

theorem Accounted.step {pattern : String} {loop next : Hotplug} {past : List HotplugEvent}
    {event : HotplugEvent} {outputs : List HotplugOutput} (accounted : Accounted loop past)
    (stepped : runWithHotplug pattern loop event = some (next, outputs)) :
    next.phase.isReturned = true ∨ Accounted next (past ++ [event]) := by
  obtain ⟨count, current, tap⟩ := accounted
  cases runWithHotplug_moves stepped with
  | cancel => exact .inl rfl
  | untapped => exact .inl rfl
  | absent => exact .inr ⟨by simpa [HotplugEvent.failsHandshake] using count, current, tap⟩
  | find phase | refuse error phase | wake phase =>
      refine .inr ⟨?_, nofun, tap⟩
      simpa [phase, HotplugPhase.interface, HotplugEvent.failsHandshake] using count
  | register id phase =>
      refine .inr ⟨?_, by simp [HotplugPhase.interface], tap⟩
      simpa [phase, HotplugPhase.interface, HotplugEvent.failsHandshake] using count
  | unanswered state _ phase answered =>
      refine .inr ⟨?_, nofun, tap⟩
      simpa [phase, HotplugPhase.interface, HotplugEvent.failsHandshake, answered] using count
  | unreachable _ phase answered address =>
      refine .inr ⟨?_, nofun, tap⟩
      simpa [phase, HotplugPhase.interface, HotplugEvent.failsHandshake, answered, address]
        using count
  | @reconnect interface _ _ _ expected peer _ phase answered address known =>
      rw [loop.startBridge_eq interface peer (by rw [← tap, known]; rfl)]
      refine .inr ⟨?_, ?_, tap⟩
      · simpa [phase, HotplugPhase.interface, HotplugEvent.failsHandshake, answered, address]
          using count
      · simpa [phase, HotplugPhase.interface] using current
  | @connect interface _ _ mac peer phase answered address fresh =>
      rw [Hotplug.startBridge_eq { loop with expectedMac := some mac, tapDevice := some mac }
        interface peer rfl]
      refine .inr ⟨?_, ?_, rfl⟩
      · simpa [phase, HotplugPhase.interface, HotplugEvent.failsHandshake, answered, address]
          using count
      · simpa [phase, HotplugPhase.interface] using current
  | @finish interface reason isCancelled phase =>
      by_cases cancelled : reason = .cancelled ∨ isCancelled = true
      · exact .inl (by simp [Hotplug.endSession, cancelled, HotplugPhase.isReturned])
      · have registered := current interface (by rw [phase]; rfl)
        refine .inr ⟨?_, by simp [Hotplug.endSession, cancelled, HotplugPhase.interface], tap⟩
        simp [phase, HotplugPhase.interface] at count
        simp [Hotplug.endSession, Hotplug.deregisterSerialInterface, cancelled,
          HotplugPhase.interface, HotplugEvent.failsHandshake, count,
          List.length_erase_of_mem registered]

theorem Hotplug.run_accounted {pattern : String} {events : List HotplugEvent} {loop : Hotplug}
    {trace : List HotplugOutput}
    (ran : Machine.run (runWithHotplug pattern) Hotplug.start events = some (loop, trace)) :
    loop.phase.isReturned = true ∨ Accounted loop events := by
  have initially : Hotplug.start.phase.isReturned = true ∨ Accounted Hotplug.start [] :=
    .inr Hotplug.start_accounted
  refine Machine.run_record (fun (loop : Hotplug) past _ =>
    loop.phase.isReturned = true ∨ Accounted loop past) ?_ initially ran
  rintro loop past _ event next output (ended | accounted) stepped
  · -- After the loop returned no step is enabled.
    cases phase : loop.phase <;> simp_all [HotplugPhase.isReturned, runWithHotplug]
  · exact accounted.step stepped

/-- At the head of the loop no interface of an earlier iteration is registered exactly
when no handshake of an earlier iteration failed. -/
theorem hotplug_releases_interfaces_iff {pattern : String} {events : List HotplugEvent}
    {loop : Hotplug} {trace : List HotplugOutput}
    (ran : Machine.run (runWithHotplug pattern) Hotplug.start events = some (loop, trace))
    (head : loop.phase.isHead = true) :
    loop.registered = [] ↔ ∀ event ∈ events, event.failsHandshake = false := by
  rcases Hotplug.run_accounted ran with ended | accounted
  · cases phase : loop.phase <;> simp_all [HotplugPhase.isReturned, HotplugPhase.isHead]
  · have free : loop.phase.interface = none := by
      cases phase : loop.phase <;> simp_all [HotplugPhase.isHead, HotplugPhase.interface]
    have count := accounted.count
    rw [free, Option.toList_none, List.length_nil, Nat.add_zero] at count
    rw [← List.length_eq_zero_iff, count, List.countP_eq_zero]
    simp

def sampleMac : Mac := #v[2, 0, 0, 0, 0, 1]

def sampleAnswers : Fin macQueryRetries → MacAttempt :=
  fun _ => ⟨some (.active 1 1), some (.ok sampleMac)⟩

def sampleTimeouts : Fin macQueryRetries → MacAttempt := fun _ => ⟨some (.active 1 1), none⟩

def sampleSessionEvents : List HotplugEvent :=
  [.poll (some ["usb-Espressif_USB_JTAG"]), .register (.ok 0),
    .handshake sampleAnswers (some (.active 1 1)) (.ok ()), .sessionEnded .exchange false, .slept]

theorem hotplug_releases_interfaces_iff_sample :
    ∃ loop trace,
      Machine.run (runWithHotplug "Espressif") Hotplug.start sampleSessionEvents =
          some (loop, trace) ∧ loop.phase = .waitForDevice ∧ loop.registered = [] := by
  have reached : (Machine.run (runWithHotplug "Espressif") Hotplug.start sampleSessionEvents).map
      (fun result => result.1.phase) = some .waitForDevice := by decide +kernel
  obtain ⟨⟨loop, trace⟩, ran, phase⟩ := Option.map_eq_some_iff.mp reached
  refine ⟨loop, trace, ran, phase, ?_⟩
  rw [hotplug_releases_interfaces_iff ran (by rw [show loop.phase = _ from phase]; rfl)]
  decide +kernel

def sampleLeakEvents : List HotplugEvent :=
  [.poll (some ["usb-Espressif_USB_JTAG"]), .register (.ok 0),
    .handshake sampleTimeouts (some (.active 1 1)) (.ok ()), .slept]

theorem hotplug_leaks_interface :
    (Machine.run (runWithHotplug "Espressif") Hotplug.start sampleLeakEvents).map
      (fun result => (result.1.phase, result.1.registered)) =
        some (.waitForDevice, [⟨1, 0⟩]) := by
  decide +kernel

end Lamella

import Lamella.Devices
import Lamella.ExchangeMoves
import Lamella.NusbCore

/-!
A new route and the attempt under way.  The peer of an attempt is fixed when it begins, also
for its backup, and without a recovery deadline only a resolved request ends it.  So once
another address is published, the exchange waits for the replaced one.
-/

namespace Lamella

inductive AttemptMoves (exchange : Exchange) (event : ExchangeEvent) (next : Exchange)
    (outputs : List ExchangeOutput) : Prop
  | begin (request : Request) (now : Nat) (peer : Address) (dropped : Bool)
      (scheduled : event = .attempt now peer)
      (after : next.phase =
        .await request ⟨peer, .begin endpointStallThreshold now, dropped, false⟩)
      (requested : outputs = [.requested request peer .primary dropped])
  | hold (request : Request) (attempt : Attempt) (wait : Wait)
      (before : exchange.phase = .await request attempt)
      (after : next.phase = .await request { attempt with wait })
      (polls : ∀ source, wait.phase.polls source = true → attempt.wait.phase.polls source = true)
      (silent : ∀ output ∈ outputs, output.isRequest = false)
  | backup (request : Request) (attempt : Attempt) (wait : Wait) (dropped : Bool)
      (before : exchange.phase = .await request attempt)
      (after : next.phase = .await request { attempt with wait, backupDropped := dropped })
      (first : attempt.wait.phase = .primaryOnly)
      (requested : outputs = [.requested request attempt.peer .backup dropped])
  | leave (after : ∀ request attempt, next.phase ≠ .await request attempt)
      (silent : ∀ output ∈ outputs, output.isRequest = false)

theorem wifiExchange_attempt {recoveryTimeout : Option Nat} {exchange next : Exchange}
    {event : ExchangeEvent} {outputs : List ExchangeOutput}
    (stepped : wifiExchange recoveryTimeout exchange event = some (next, outputs)) :
    AttemptMoves exchange event next outputs := by
  cases wifiExchange_moves stepped with
  | attempt now peer phase => exact .begin _ now peer _ rfl rfl rfl
  | log now warningAt phase => exact .hold _ _ _ phase rfl (fun _ => id) (by simp)
  | backup now warningAt phase first => exact .backup _ _ _ _ phase rfl first rfl
  | fail now source error phase sent both =>
      refine .hold _ _ _ phase rfl (fun _ _ => ?_) (by simp [ExchangeOutput.isRequest])
      rw [both]
      rfl
  | @accept request attempt response =>
      refine .leave (fun _ _ => afterMatch_ne rfl request response) ?_
      rcases tapWrite_cases request response with written | ⟨frame, written⟩ <;>
        simp [written, ExchangeOutput.isRequest]
  | skip | beginTx | beginRx | mismatch | giveUp | recover | cancel | tapSent =>
      refine .leave ?_ ?_ <;> simp [Exchange.beginRequest, ExchangeOutput.isRequest]

/-- An attempt is left by a cancellation or by the result of a request it polls. -/
theorem wifiExchange_ends {exchange next : Exchange} {request : Request} {attempt : Attempt}
    {event : ExchangeEvent} {outputs : List ExchangeOutput}
    (phase : exchange.phase = .await request attempt)
    (stepped : wifiExchange none exchange event = some (next, outputs)) :
    (∃ wait dropped, next.phase =
        .await request { attempt with wait, backupDropped := dropped }) ∨
      (∃ now, event = .wait now .cancelled) ∨
      ∃ now source result,
        event = .wait now (.resolved source result) ∧ attempt.wait.phase.polls source = true := by
  cases wifiExchange_moves stepped with
  | log now warningAt before | fail now source error before =>
      rw [phase] at before
      cases before
      exact .inl ⟨_, attempt.backupDropped, rfl⟩
  | backup now warningAt before =>
      rw [phase] at before
      cases before
      exact .inl ⟨_, _, rfl⟩
  | cancel now => exact .inr (.inl ⟨now, rfl⟩)
  | accept now source before sent polled | mismatch now source before sent polled
  | giveUp now source before sent polled =>
      rw [phase] at before
      cases before
      exact .inr (.inr ⟨now, source, _, rfl, polled⟩)
  | recover now before given => contradiction
  | skip before | beginTx frame before | beginRx before | attempt now peer before
  | tapSent result before =>
      rw [phase] at before
      contradiction

/-! Reachable states of the transport. -/

/-- The requests of an attempt went to the address it captured, the backup as well. -/
structure Nusb.Sound (nusb : Nusb) : Prop where
  captured : ∀ request attempt, nusb.exchange.phase = .await request attempt →
    ∀ source, attempt.wait.phase.polls source = true → nusb.requestPeer source = some attempt.peer
  spawned : nusb.exchange.phase.isReturned = false → nusb.devices.phase ≠ .initial

theorem foldl_absorb_frame (outputs : List ExchangeOutput) (nusb : Nusb) :
    (outputs.foldl Nusb.absorb nusb).exchange = nusb.exchange ∧
      (outputs.foldl Nusb.absorb nusb).devices = nusb.devices := by
  induction outputs generalizing nusb with
  | nil => exact ⟨rfl, rfl⟩
  | cons output rest ih =>
      have here : (nusb.absorb output).exchange = nusb.exchange ∧
          (nusb.absorb output).devices = nusb.devices := by
        unfold Nusb.absorb
        split <;> exact ⟨rfl, rfl⟩
      obtain ⟨exchange, devices⟩ := ih (nusb.absorb output)
      exact ⟨exchange.trans here.1, devices.trans here.2⟩

theorem foldl_absorb_silent {outputs : List ExchangeOutput}
    (silent : ∀ output ∈ outputs, output.isRequest = false) (nusb : Nusb) :
    outputs.foldl Nusb.absorb nusb = nusb := by
  induction outputs generalizing nusb with
  | nil => rfl
  | cons output rest ih =>
      have here : nusb.absorb output = nusb := by
        have other := silent output (by simp)
        cases output <;> first | rfl | contradiction
      rw [List.foldl_cons, here]
      exact ih (fun other member => silent other (by simp [member])) nusb

theorem Devices.step_not_initial {devices next : Devices} {event : DevicesEvent}
    {outputs : List DevicesOutput} (stepped : devices.step event = some (next, outputs))
    (begun : devices.phase ≠ .initial) : next.phase ≠ .initial := by
  unfold Devices.step at stepped
  split at stepped
  case h_1 => contradiction
  case h_2 =>
      cases stepped
      simp
  case h_3 phase => exact absurd phase begun
  case h_4 interfaceId expectedMac listing _ phase =>
      have kept := (watcherPoll_frame interfaceId expectedMac
        (reconcileAndRegisterDevices devices.seen listing).2 (devices.reconcile listing)).2
      rw [Option.some.inj stepped] at kept
      exact fun initial => begun (kept.symm.trans initial)

theorem exchangeAfter_running {nusb : Nusb} (begun : nusb.devices.phase ≠ .initial)
    (next : Devices) (outputs : List DevicesOutput) (session : UInt64) :
    (nusb.exchangeAfter next outputs session).phase = nusb.exchange.phase := by
  unfold Nusb.exchangeAfter
  split
  · contradiction
  · contradiction
  · rfl

structure SameAttempt (nusb next : Nusb) : Prop where
  phase : ∀ request attempt, next.exchange.phase = .await request attempt ↔
    nusb.exchange.phase = .await request attempt
  peers : next.requestPeer = nusb.requestPeer

theorem Nusb.step_devices {nusb next : Nusb} {event : DevicesEvent} {session : UInt64}
    {outputs : List NusbOutput} (sound : nusb.Sound)
    (stepped : nusb.step (.devices event session) = some (next, outputs)) :
    SameAttempt nusb next ∧
      (next.exchange.phase.isReturned = false → next.devices.phase ≠ .initial) ∧
      ∃ said, nusb.devices.step event = some (next.devices, said) := by
  simp only [Nusb.step] at stepped
  split at stepped
  case h_1 => contradiction
  case h_2 devices said moved =>
      cases stepped
      by_cases begun : nusb.devices.phase = .initial
      · -- No exchange runs yet, and one that starts now has no attempt.
        have idle : nusb.exchange.phase.isReturned = true := by
          cases running : nusb.exchange.phase.isReturned with
          | true => rfl
          | false => exact absurd begun (sound.spawned running)
        have waiting (request : Request) (attempt : Attempt) :
            nusb.exchange.phase ≠ .await request attempt := by
          intro phase
          simp [phase, ExchangePhase.isReturned] at idle
        unfold Nusb.exchangeAfter
        rw [begun]
        dsimp only
        split
        case h_1 watching =>
            refine ⟨⟨?_, rfl⟩, fun _ => by simp [watching], said, moved⟩
            intro request attempt
            simp [waiting request attempt]
        case h_2 =>
            refine ⟨⟨fun _ _ => Iff.rfl, rfl⟩, fun running => ?_, said, moved⟩
            rw [idle] at running
            contradiction
        case h_3 => contradiction
      · have phase := exchangeAfter_running begun devices said session
        refine ⟨⟨?_, rfl⟩, fun _ => Devices.step_not_initial moved begun, said, moved⟩
        intro request attempt
        rw [phase]

theorem Nusb.step_exchange {nusb next : Nusb} {event : ExchangeEvent} {outputs : List NusbOutput}
    (stepped : nusb.step (.exchange event) = some (next, outputs)) :
    nusb.permits event = true ∧ ∃ exchange said,
      wifiExchange none nusb.exchange event = some (exchange, said) ∧
        next = said.foldl Nusb.absorb { nusb with exchange } := by
  simp only [Nusb.step] at stepped
  split at stepped
  case isFalse => contradiction
  case isTrue permitted =>
      split at stepped
      · contradiction
      · cases stepped
        exact ⟨permitted, _, _, by assumption, rfl⟩

theorem AttemptMoves.captured {nusb : Nusb} {exchange : Exchange} {event : ExchangeEvent}
    {outputs : List ExchangeOutput} (moves : AttemptMoves nusb.exchange event exchange outputs)
    (sound : nusb.Sound) :
    ∀ request attempt, exchange.phase = .await request attempt →
      ∀ source, attempt.wait.phase.polls source = true →
        (outputs.foldl Nusb.absorb { nusb with exchange }).requestPeer source =
          some attempt.peer := by
  intro request attempt phase source polled
  cases moves with
  | begin other now peer dropped scheduled after requested =>
      subst requested
      cases after.symm.trans phase
      cases source with
      | primary => rfl
      | backup => contradiction
  | hold other old wait before after polls silent =>
      rw [foldl_absorb_silent silent]
      cases after.symm.trans phase
      exact sound.captured _ old before source (polls source polled)
  | backup other old wait dropped before after first requested =>
      subst requested
      cases after.symm.trans phase
      cases source with
      | primary => exact sound.captured _ old before .primary (by rw [first]; rfl)
      | backup => rfl
  | leave after silent => exact absurd phase (after request attempt)

theorem Nusb.Sound.step {nusb next : Nusb} {event : NusbEvent} {outputs : List NusbOutput}
    (sound : nusb.Sound) (stepped : nusb.step event = some (next, outputs)) : next.Sound := by
  cases event with
  | devices event session =>
      obtain ⟨same, spawned, _⟩ := Nusb.step_devices sound stepped
      refine ⟨fun request attempt phase => ?_, spawned⟩
      rw [same.peers]
      exact sound.captured request attempt ((same.phase request attempt).mp phase)
  | exchange event =>
      obtain ⟨_, exchange, said, moved, rfl⟩ := Nusb.step_exchange stepped
      obtain ⟨sameExchange, sameDevices⟩ := foldl_absorb_frame said { nusb with exchange }
      refine ⟨?_, fun _ => ?_⟩
      · rw [sameExchange]
        exact (wifiExchange_attempt moved).captured sound
      · rw [sameDevices]
        exact sound.spawned (wifiExchange_running moved)

theorem Nusb.start_sound : Nusb.start.Sound :=
  ⟨fun _ _ waiting => by simp [Nusb.start] at waiting,
    fun running => by simp [Nusb.start, ExchangePhase.isReturned] at running⟩

theorem Nusb.run_sound {events : List NusbEvent} {nusb : Nusb} {trace : List NusbOutput}
    (ran : Machine.run Nusb.step Nusb.start events = some (nusb, trace)) : nusb.Sound :=
  Machine.run_obeying Nusb.Sound (fun _ _ _ _ sound (_ : True) stepped => sound.step stepped)
    Nusb.start_sound (fun _ _ _ _ _ _ => trivial) ran

/-! Steps that end an attempt. -/

def NusbEvent.isCancellation : NusbEvent → Bool
  | .devices .cancelled _ | .exchange (.wait _ .cancelled) => true
  | _ => false

def NusbEvent.isResolution : NusbEvent → Bool
  | .exchange (.wait _ (.resolved _ _)) => true
  | _ => false

/-- The event is the result of a request that was sent to another address than the published
one; such a request may stay pending forever. -/
def Nusb.resolvesReplaced (nusb : Nusb) : NusbEvent → Bool
  | .exchange (.wait _ (.resolved source _)) => nusb.requestPeer source ≠ nusb.devices.peer
  | _ => false

/-- The event ends the attempt and takes the request back to the head of its retry loop, where
the published address is read. -/
def Nusb.Resends (nusb : Nusb) (event : NusbEvent) (request : Request) : Prop :=
  ∃ next outputs, nusb.step event = some (next, outputs) ∧ next.exchange.phase = .retry request

/-- While another address than the attempt's is published, some step other than a cancellation or
the result of a request to a replaced address has the request sent again. -/
def Nusb.Reroutes (nusb : Nusb) : Prop :=
  ∀ request attempt, nusb.exchange.phase = .await request attempt →
    nusb.devices.peer ≠ some attempt.peer →
    ∃ event, event.isCancellation = false ∧ nusb.resolvesReplaced event = false ∧
      nusb.Resends event request

def Nusb.OnRoute (nusb : Nusb) : Prop :=
  ∀ request attempt, nusb.exchange.phase = .await request attempt →
    nusb.devices.peer = some attempt.peer

/-- A step that leaves the attempt is a cancellation or the result of a request that was sent to
the address the attempt captured. -/
theorem Nusb.Sound.leaves {nusb next : Nusb} {event : NusbEvent} {outputs : List NusbOutput}
    {request : Request} {attempt : Attempt} (sound : nusb.Sound)
    (phase : nusb.exchange.phase = .await request attempt)
    (stepped : nusb.step event = some (next, outputs)) :
    (∃ wait dropped, next.exchange.phase =
        .await request { attempt with wait, backupDropped := dropped }) ∨
      event.isCancellation = true ∨
      ∃ now source result, event = .exchange (.wait now (.resolved source result)) ∧
        nusb.requestPeer source = some attempt.peer := by
  cases event with
  | devices event session =>
      have same := (Nusb.step_devices sound stepped).1
      exact .inl ⟨attempt.wait, attempt.backupDropped, (same.phase request attempt).mpr phase⟩
  | exchange event =>
      obtain ⟨_, exchange, said, moved, rfl⟩ := Nusb.step_exchange stepped
      rw [(foldl_absorb_frame said { nusb with exchange }).1]
      rcases wifiExchange_ends phase moved with
        still | ⟨now, rfl⟩ | ⟨now, source, result, rfl, polled⟩
      · exact .inl still
      · exact .inr (.inl rfl)
      · exact .inr (.inr ⟨now, source, result, rfl,
          sound.captured request attempt phase source polled⟩)

/-- Whatever else happens, the exchange waits for the address that its attempt captured. -/
theorem Nusb.Sound.waits {nusb final : Nusb} {later : List NusbEvent} {trace : List NusbOutput}
    {request : Request} {attempt : Attempt} (sound : nusb.Sound)
    (phase : nusb.exchange.phase = .await request attempt)
    (unresolved : ∀ event ∈ later, event.isCancellation = false ∧ event.isResolution = false)
    (ran : Machine.run Nusb.step nusb later = some (final, trace)) :
    ∃ still : Attempt, final.exchange.phase = .await request still ∧ still.peer = attempt.peer := by
  have initially : nusb.Sound ∧ ∃ still : Attempt,
      nusb.exchange.phase = .await request still ∧ still.peer = attempt.peer :=
    ⟨sound, attempt, phase, rfl⟩
  refine (Machine.run_record (fun nusb past _ =>
    (∀ event ∈ past, event.isCancellation = false ∧ event.isResolution = false) →
      nusb.Sound ∧ ∃ still : Attempt, nusb.exchange.phase = .await request still ∧
        still.peer = attempt.peer) ?_ (fun _ => initially) ran unresolved).2
  intro nusb past _ event next outputs held stepped unresolved
  obtain ⟨sound, old, phase, same⟩ := held fun event member => unresolved event (by simp [member])
  obtain ⟨uncancelled, pending⟩ := unresolved event (by simp)
  refine ⟨sound.step stepped, ?_⟩
  rcases sound.leaves phase stepped with
    ⟨wait, dropped, still⟩ | cancelled | ⟨now, source, result, rfl, _⟩
  · exact ⟨_, still, same⟩
  · rw [uncancelled] at cancelled
    contradiction
  · contradiction

/-- In a reachable state the property fails as soon as another address is published. -/
theorem Nusb.Sound.reroutes_iff {nusb : Nusb} (sound : nusb.Sound) :
    nusb.Reroutes ↔ nusb.OnRoute := by
  constructor
  · intro reroutes request attempt phase
    by_contra replaced
    obtain ⟨event, uncancelled, current, next, outputs, stepped, retried⟩ :=
      reroutes request attempt phase replaced
    rcases sound.leaves phase stepped with
      ⟨wait, dropped, still⟩ | cancelled | ⟨now, source, result, rfl, sent⟩
    · rw [still] at retried
      contradiction
    · rw [uncancelled] at cancelled
      contradiction
    · simp only [Nusb.resolvesReplaced, sent, decide_eq_false_iff_not, not_not] at current
      exact replaced current.symm
  · intro onRoute request attempt phase replaced
    exact absurd (onRoute request attempt phase) replaced

/-! Runs that publish no other address under an attempt. -/

/-- A pass of the device loops during an attempt leaves the address of the attempt published. -/
def Nusb.keepsRoute (nusb : Nusb) : NusbEvent → Bool
  | .devices event _ =>
      match nusb.exchange.phase, nusb.devices.step event with
      | .await _ attempt, some (next, _) => next.peer = some attempt.peer
      | _, _ => true
  | .exchange _ => true

theorem AttemptMoves.onRoute {nusb : Nusb} {exchange : Exchange} {event : ExchangeEvent}
    {outputs : List ExchangeOutput} (moves : AttemptMoves nusb.exchange event exchange outputs)
    (permitted : nusb.permits event = true) (onRoute : nusb.OnRoute) :
    ∀ request attempt, exchange.phase = .await request attempt →
      nusb.devices.peer = some attempt.peer := by
  intro request attempt phase
  cases moves with
  | begin other now peer dropped scheduled after requested =>
      subst scheduled
      cases after.symm.trans phase
      exact of_decide_eq_true permitted
  | hold other old wait before after polls silent =>
      cases after.symm.trans phase
      exact onRoute _ old before
  | backup other old wait dropped before after first requested =>
      cases after.symm.trans phase
      exact onRoute _ old before
  | leave after silent => exact absurd phase (after request attempt)

theorem Nusb.OnRoute.step {nusb next : Nusb} {event : NusbEvent} {outputs : List NusbOutput}
    (sound : nusb.Sound) (onRoute : nusb.OnRoute) (keeps : nusb.keepsRoute event = true)
    (stepped : nusb.step event = some (next, outputs)) : next.OnRoute := by
  cases event with
  | devices event session =>
      obtain ⟨same, _, said, moved⟩ := Nusb.step_devices sound stepped
      intro request attempt phase
      rw [same.phase] at phase
      simpa [Nusb.keepsRoute, phase, moved] using keeps
  | exchange event =>
      obtain ⟨permitted, exchange, said, moved, rfl⟩ := Nusb.step_exchange stepped
      obtain ⟨sameExchange, sameDevices⟩ := foldl_absorb_frame said { nusb with exchange }
      unfold Nusb.OnRoute
      rw [sameExchange, sameDevices]
      exact (wifiExchange_attempt moved).onRoute permitted onRoute

theorem Nusb.keepsRoute_of_onRoute {nusb : Nusb} {event : NusbEvent} (sound : nusb.Sound)
    (after : ∀ next outputs, nusb.step event = some (next, outputs) → next.OnRoute) :
    nusb.keepsRoute event = true := by
  cases event with
  | exchange event => rfl
  | devices event session =>
      simp only [Nusb.keepsRoute]
      split
      case h_2 => rfl
      case h_1 request attempt next said phase moved =>
          have stepped : nusb.step (.devices event session) =
              some ({ nusb with
                devices := next, exchange := nusb.exchangeAfter next said session },
                said.map .devices) := by
            simp only [Nusb.step, moved]
          have same := (Nusb.step_devices sound stepped).1
          exact decide_eq_true
            (after _ _ stepped request attempt ((same.phase request attempt).mpr phase))

def sampleUsbInfo : DeviceInfo := ⟨some "C0FFEE", none, some "ergot"⟩

def sampleUsbMac : Mac := Vector.replicate 6 2

def samplePoll (interface : UInt8) (network : UInt16) : NusbEvent :=
  .devices (.poll (some [⟨sampleUsbInfo, [⟨0xFF, 0xCA, 0x7D, some "ergot"⟩], .ok interface,
    fun _ => ⟨some (.active network 1), some (.ok sampleUsbMac)⟩, some (.active network 1)⟩])
    (.ok ())) 7

/-- The device is found and polled, and comes back on another network. -/
def sampleReconnect (meanwhile : List NusbEvent) : List NusbEvent :=
  [samplePoll 0 1, .exchange (.tryRecv none), .exchange .beginRx, .exchange (.attempt 0 ⟨1, 2, 0⟩)] ++
    meanwhile ++ [.devices (.poll (some []) (.ok ())) 0, samplePoll 1 2]

def sampleAnswer : NusbEvent :=
  .exchange (.wait 5 (.resolved .primary (.ok (.rx ⟨⟨7, 0⟩, none⟩))))

def sampleAttempt : Attempt := ⟨⟨1, 2, 0⟩, ⟨0, 250, .primaryOnly⟩, false, false⟩

end Lamella

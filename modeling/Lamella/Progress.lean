import Lamella.NetworkTraces
import Lamella.Service

/-!
When an open transaction can still be acknowledged without further faults, and when it cannot.
Without injected faults it cannot exactly when the backup has been sent and nothing of its
endpoint is under way any more: then only an error, the recovery deadline or a cancellation ends
the wait.
-/

namespace Lamella

/-- Nothing is lost, no request fails, and the session neither ends nor gives up. -/
def NetworkEvent.faultFree : NetworkEvent → Bool
  | .host (.wait _ .warning) => true
  | .host (.wait _ _) => false
  | .host _ | .deliver _ _ _ _ | .arrive _ => true
  | .device task => task.delivers
  | .session _ | .loseRequest _ _ | .loseResponse _ _ => false

/-- The transactions of an endpoint that are under way, those closest to the host first. -/
def Network.inFlight (network : Network) (direction : Direction) : List WifiTransaction :=
  ((network.path direction).responses.map fun packet => packet.t.transaction) ++
    (network.device.server direction).transaction.toList ++
    (network.path direction).link.map fun packet => packet.t.transaction

/-- The exchange waits for both requests, and nothing is under way that could resolve one. -/
structure Network.Stalled (network : Network) (request : Request) : Prop where
  waiting : ∃ attempt, network.host.phase = .await request attempt ∧
    attempt.wait.phase.backupSent = true
  quiet : network.inFlight request.direction = []

/-! Without injected faults every request is sent. -/

structure Undisturbed (exchange : Exchange) : Prop where
  spent : exchange.injector.remaining = 0
  sent : ∀ request attempt, exchange.phase = .await request attempt →
    ∀ source, attempt.dropped source = false

theorem shouldDrop_spent {injector : EndpointFaultInjector} (spent : injector.remaining = 0)
    (label : String) : injector.shouldDrop label = (false, injector) := by
  unfold EndpointFaultInjector.shouldDrop
  rw [spent]
  split <;> rfl

theorem Undisturbed.idle {exchange next : Exchange} (undisturbed : Undisturbed exchange)
    (injector : next.injector = exchange.injector)
    (idle : ∀ request attempt, next.phase ≠ .await request attempt) : Undisturbed next :=
  ⟨by rw [injector]; exact undisturbed.spent,
    fun request attempt phase => absurd phase (idle request attempt)⟩

theorem Undisturbed.rewait {exchange : Exchange} {request : Request} {attempt : Attempt}
    (undisturbed : Undisturbed exchange) (phase : exchange.phase = .await request attempt)
    (wait : Wait) : Undisturbed { exchange with phase := .await request { attempt with wait } } := by
  refine ⟨undisturbed.spent, ?_⟩
  rintro _ _ ⟨⟩ source
  have sent := undisturbed.sent request attempt phase source
  cases source <;> exact sent

theorem Undisturbed.step {recoveryTimeout : Option Nat} {exchange next : Exchange}
    {event : ExchangeEvent} {outputs : List ExchangeOutput} (undisturbed : Undisturbed exchange)
    (stepped : wifiExchange recoveryTimeout exchange event = some (next, outputs)) :
    Undisturbed next := by
  have spent := undisturbed.spent
  cases wifiExchange_moves stepped with
  | @attempt request now peer phase =>
      simp only [Exchange.beginAttempt, shouldDrop_spent spent]
      refine ⟨spent, ?_⟩
      rintro _ _ ⟨⟩ source
      cases source <;> rfl
  | @backup request attempt now warningAt phase first =>
      simp only [Exchange.makeBackup, shouldDrop_spent spent]
      refine ⟨spent, ?_⟩
      rintro _ _ ⟨⟩ source
      cases source with
      | primary => exact undisturbed.sent request attempt phase .primary
      | backup => rfl
  | log now warningAt phase => exact undisturbed.rewait phase _
  | fail now source error phase => exact undisturbed.rewait phase _
  | @accept request attempt response =>
      exact undisturbed.idle rfl fun _ _ => afterMatch_ne rfl request response
  | _ => exact undisturbed.idle rfl (by rintro _ _ ⟨⟩)

/-! States a run without injected faults can be in. -/

def Reached (recoveryTimeout : Option Nat) (network : Network) : Prop :=
  ∃ injector events trace, injector.remaining = 0 ∧
    Machine.run (Network.step recoveryTimeout) (Network.start injector) events =
      some (network, trace)

section

variable {recoveryTimeout : Option Nat} {network next : Network}

theorem Reached.step (reached : Reached recoveryTimeout network) {event : NetworkEvent}
    {outputs : List NetworkOutput}
    (stepped : network.step recoveryTimeout event = some (next, outputs)) :
    Reached recoveryTimeout next := by
  obtain ⟨injector, events, trace, spent, ran⟩ := reached
  exact ⟨injector, events ++ [event], trace ++ outputs, spent,
    (Machine.run_snoc_iff _ _ _ _ _).mpr ⟨network, trace, outputs, ran, stepped, rfl⟩⟩

theorem Reached.run (reached : Reached recoveryTimeout network) {events : List NetworkEvent}
    {outputs : List NetworkOutput}
    (continued : Machine.run (Network.step recoveryTimeout) network events =
      some (next, outputs)) : Reached recoveryTimeout next := by
  obtain ⟨injector, earlier, trace, spent, ran⟩ := reached
  exact ⟨injector, earlier ++ events, trace ++ outputs, spent, Machine.run_append ran continued⟩

theorem Reached.directed (reached : Reached recoveryTimeout network) : network.Directed := by
  obtain ⟨injector, events, trace, _, ran⟩ := reached
  exact (Network.run_allNumbered ran).directed

theorem Network.step_host {event : NetworkEvent} {outputs : List NetworkOutput}
    (stepped : network.step recoveryTimeout event = some (next, outputs)) :
    next.host = network.host ∨ (∃ id, next.host = network.host.start id) ∨
      ∃ hostEvent said, wifiExchange recoveryTimeout network.host hostEvent =
        some (next.host, said) := by
  cases Network.step_moves stepped with
  | session id returned => exact .inr (.inl ⟨id, rfl⟩)
  | host unanswered exchanged => exact .inr (.inr ⟨_, _, exchanged⟩)
  | deliver found exchanged erased => exact .inr (.inr ⟨_, _, exchanged⟩)
  | loseRequest | loseResponse | arrive | device => exact .inl rfl

theorem Reached.undisturbed (reached : Reached recoveryTimeout network) :
    Undisturbed network.host := by
  obtain ⟨injector, events, trace, spent, ran⟩ := reached
  have initially : Undisturbed (Network.start injector).host := ⟨spent, by rintro _ _ ⟨⟩⟩
  refine Machine.run_record (fun network _ _ => Undisturbed network.host) ?_ initially ran
  rintro network _ _ event next output undisturbed stepped
  rcases Network.step_host stepped with same | ⟨id, started⟩ | ⟨_, _, exchanged⟩
  · rwa [same]
  · rw [started]
    exact undisturbed.idle rfl (by rintro _ _ ⟨⟩)
  · exact undisturbed.step exchanged

/-! The device answers. -/

theorem absorbDevice_append (device after : Device) (past outputs : List DeviceOutput) :
    ((network.absorbDevice device past).1.absorbDevice after outputs).1 =
      (network.absorbDevice after (past ++ outputs)).1 := by
  simp [Network.absorbDevice, Paths.absorbDevice, List.foldl_append]

theorem run_tasks {tasks : List TaskEvent} {device : Device} {outputs : List DeviceOutput}
    (ran : Machine.run Device.task network.device tasks = some (device, outputs)) :
    Machine.run (Network.step recoveryTimeout) network (tasks.map .device) =
      some ((network.absorbDevice device outputs).1, outputs.map .device) := by
  have initially : network = (network.absorbDevice network.device []).1 := rfl
  have whole : ∃ after, Machine.run (Network.step recoveryTimeout) network (tasks.map .device) =
      some (after, outputs.map .device) ∧
        after = (network.absorbDevice device outputs).1 := by
    refine Machine.run_embed NetworkEvent.device NetworkOutput.device
      (fun device past whole => whole = (network.absorbDevice device past).1) ?_ initially ran
    rintro device past whole event next output rfl stepped
    refine ⟨_, ?_, absorbDevice_append device next past output⟩
    simp only [Network.step]
    rw [show (network.absorbDevice device past).1.device = device from rfl, stepped]
    rfl
  obtain ⟨after, continued, rfl⟩ := whole
  exact continued

/-- Nothing but the device has moved, and a response waits for the host. -/
structure Answering (recoveryTimeout : Option Nat) (direction : Direction)
    (before after : Network) : Prop where
  reached : Reached recoveryTimeout after
  host : after.host = before.host
  inFlight : after.inFlight direction = before.inFlight direction
  responses : (after.path direction).responses ≠ []

def Network.Leads (recoveryTimeout : Option Nat) (network : Network)
    (goal : Network → List NetworkOutput → Prop) : Prop :=
  Machine.Leads (Network.step recoveryTimeout) (fun event => event.faultFree = true) network goal

theorem leads_served (reached : Reached recoveryTimeout network) {direction : Direction}
    {transaction : WifiTransaction}
    (busy : (network.device.server direction).transaction = some transaction) :
    network.Leads recoveryTimeout fun after _ =>
      Answering recoveryTimeout direction network after := by
  obtain ⟨injector, events, trace, _, ran⟩ := id reached
  obtain ⟨deviceEvents, deviceRan⟩ := Network.run_device ran
  obtain ⟨tasks, device, outputs, permitted, worked, idle, response, sent, matched⟩ :=
    Device.leads_served deviceRan busy
  have continued : Machine.run (Network.step recoveryTimeout) network (tasks.map .device) = _ :=
    run_tasks worked
  refine ⟨_, _, _, ?_, continued, reached.run continued, rfl, ?_, ?_⟩
  · intro event member
    obtain ⟨task, present, rfl⟩ := List.mem_map.mp member
    exact permitted task present
  · simp [Network.inFlight, Network.absorbDevice, sent, idle, busy, matched]
  · simp [Network.absorbDevice, sent]

theorem Device.receive_enabled {device : Device} {packet : Packet Request}
    (idle : device.server packet.t.direction = .idle) : (device.receive packet).isSome := by
  obtain ⟨serial, request⟩ := packet
  cases request with
  | tx request =>
      cases phase : device.txServer with
      | recvManual =>
          simp only [Device.receive, wifiTxServerReceive, phase]
          split <;> rfl
      | _ => simp [Device.server, phase, TxServerPhase.view] at idle
  | rx request =>
      cases phase : device.rxServer with
      | recv =>
          simp only [Device.receive, wifiRxServerReceive, phase]
          split
          · split <;> rfl
          · rfl
      | _ => simp [Device.server, phase, RxServerPhase.view] at idle

theorem Device.receive_busy {device next : Device} {packet : Packet Request}
    {outputs : List DeviceOutput} (received : device.step (.request packet) = some (next, outputs)) :
    (next.server packet.t.direction).transaction = some packet.t.transaction ∧
      outputs.filterMap (DeviceOutput.responseOf packet.t.direction) = [] := by
  cases (Device.step_moves received).serverEffect packet.t.direction with
  | quiet server memory silent other => exact absurd rfl (other packet rfl)
  | receive arrived request own before after memory unknown silent =>
      cases request
      exact ⟨by rw [after]; rfl, silent.responses⟩
  | replay arrived response request own before after memory known matched kind replayed =>
      cases request
      refine ⟨by rw [after]; exact congrArg some matched, ?_⟩
      rw [replayed]
      rfl
  | execute _ _ _ scheduled => cases scheduled
  | finish _ _ _ scheduled => cases scheduled
  | respond _ _ _ scheduled => cases scheduled

theorem leads_answer (reached : Reached recoveryTimeout network) {direction : Direction}
    (active : network.inFlight direction ≠ []) :
    network.Leads recoveryTimeout fun after _ =>
      Answering recoveryTimeout direction network after := by
  by_cases waiting : (network.path direction).responses = []
  case neg => exact .now ⟨reached, rfl, rfl, waiting⟩
  cases busy : (network.device.server direction).transaction with
  | some transaction => exact leads_served reached busy
  | none =>
      have idle : network.device.server direction = .idle := by
        cases view : network.device.server direction <;>
          simp_all [ServerView.transaction]
      cases first : (network.path direction).link with
      | nil => simp [Network.inFlight, waiting, busy, first] at active
      | cons packet rest =>
          have kind : packet.t.direction = direction :=
            (reached.directed direction).1 packet (by simp [first])
          subst kind
          obtain ⟨⟨device, outputs⟩, received⟩ :=
            Option.isSome_iff_exists.mp (Device.receive_enabled idle)
          obtain ⟨serving, silent⟩ := Device.receive_busy received
          have stepped : network.step recoveryTimeout (.arrive packet.t.direction) =
              some ((network.setPath packet.t.direction
                { network.path packet.t.direction with link := rest }).absorbDevice device
                  outputs) := by
            simp [Network.step, first, received]
          refine .next rfl stepped ((leads_served (reached.step stepped) serving).mono ?_)
          intro after _ answering
          refine ⟨answering.reached, answering.host, ?_, answering.responses⟩
          rw [answering.inFlight]
          simp [Network.inFlight, Network.setPath, silent, serving, busy, first]

/-! The host resolves what it gets. -/

def Acknowledges (request : Request) (outputs : List NetworkOutput) : Prop :=
  ∃ number response, .host number (.acknowledged request response) ∈ outputs

theorem WaitPhase.exists_polled (phase : WaitPhase) : ∃ source, phase.polls source = true := by
  cases phase with
  | primaryOnly => exact ⟨.primary, rfl⟩
  | both => exact ⟨.primary, rfl⟩
  | backupPending => exact ⟨.backup, rfl⟩
  | primaryPending => exact ⟨.primary, rfl⟩

theorem Undisturbed.answer_enabled {exchange : Exchange} {request : Request} {attempt : Attempt}
    {response : Response} (undisturbed : Undisturbed exchange)
    (phase : exchange.phase = .await request attempt)
    (kind : response.direction = request.direction) (recoveryTimeout : Option Nat) :
    ∃ source, (wifiExchange recoveryTimeout exchange
      (.wait 0 (.resolved source (.ok response)))).isSome := by
  obtain ⟨source, polled⟩ := attempt.wait.phase.exists_polled
  have admitted : attempt.admits request (.resolved source (.ok response)) = true := by
    simp [Attempt.admits, undisturbed.sent request attempt phase source, kind]
  refine ⟨source, ?_⟩
  simp only [wifiExchange, phase, Exchange.waitStep, admitted, if_true,
    awaitEndpointResponseWithTimeouts, polled]
  split <;> simp_all

/-- Delivering a response acknowledges the request or, if it belongs to another transaction, makes
the host try again. -/
theorem deliver_first (reached : Reached recoveryTimeout network) {request : Request}
    {attempt : Attempt} (phase : network.host.phase = .await request attempt)
    {packet : Packet Response} {position : Nat}
    (found : (network.path request.direction).responses[position]? = some packet) :
    ∃ source next outputs,
      network.step recoveryTimeout (.deliver request.direction position 0 source) =
          some (next, outputs) ∧
        (packet.t.transaction = request.transaction → Acknowledges request outputs) ∧
        (packet.t.transaction ≠ request.transaction → next.host.phase = .retry request ∧
          next.inFlight request.direction =
            (((network.path request.direction).responses.eraseIdx position).map
                fun packet => packet.t.transaction) ++
              (network.device.server request.direction).transaction.toList ++
              (network.path request.direction).link.map fun packet => packet.t.transaction) := by
  have kind : packet.t.direction = request.direction :=
    (reached.directed request.direction).2 packet (List.mem_of_getElem? found)
  obtain ⟨source, enabled⟩ := reached.undisturbed.answer_enabled phase kind recoveryTimeout
  obtain ⟨⟨host, said⟩, exchanged⟩ := Option.isSome_iff_exists.mp enabled
  refine ⟨source, _, _, by simp only [Network.step, found, exchanged]; rfl, ?_⟩
  cases wifiExchange_moves exchanged with
  | @accept other _ _ _ _ awaiting sent polled _ same =>
      rw [phase, ExchangePhase.await.injEq] at awaiting
      obtain ⟨rfl, rfl⟩ := awaiting
      exact ⟨fun _ => ⟨_, packet.t, List.mem_map.mpr ⟨.acknowledged request packet.t, by simp, rfl⟩⟩,
        fun differs => absurd same differs⟩
  | @mismatch other _ _ _ _ awaiting sent polled differs =>
      rw [phase, ExchangePhase.await.injEq] at awaiting
      obtain ⟨rfl, rfl⟩ := awaiting
      refine ⟨fun same => absurd same differs, fun _ => ⟨rfl, ?_⟩⟩
      simp [Network.inFlight, Network.setPath, Path.absorbHost]

theorem absorbHost_requested (host : Exchange) (request : Request) (peer : Address)
    (source : ResponseSource) :
    (network.absorbHost host [.requested request peer source false]).1.inFlight
        request.direction =
      network.inFlight request.direction ++ [request.transaction] := by
  simp [Network.inFlight, Network.absorbHost, Path.absorbHost]

theorem step_of_exchanged {event : ExchangeEvent} {host : Exchange} {outputs : List ExchangeOutput}
    (unanswered : event.isResponse = false)
    (exchanged : wifiExchange recoveryTimeout network.host event = some (host, outputs)) :
    network.step recoveryTimeout (.host event) = some (network.absorbHost host outputs) := by
  simp [Network.step, unanswered, exchanged]

theorem attempt_step (reached : Reached recoveryTimeout network) {request : Request}
    (phase : network.host.phase = .retry request) :
    ∃ event next outputs, event.faultFree = true ∧
      network.step recoveryTimeout event = some (next, outputs) ∧
      (∃ attempt, next.host.phase = .await request attempt) ∧
      next.inFlight request.direction =
        network.inFlight request.direction ++ [request.transaction] := by
  have exchanged : wifiExchange recoveryTimeout network.host (.attempt 0 ⟨1, 2, 0⟩) =
      some ({ network.host with
        phase := .await request ⟨⟨1, 2, 0⟩, .begin endpointStallThreshold 0, false, false⟩ },
        [.requested request ⟨1, 2, 0⟩ .primary false]) := by
    simp [wifiExchange, phase, Exchange.beginAttempt,
      shouldDrop_spent reached.undisturbed.spent]
  exact ⟨_, _, _, rfl, step_of_exchanged rfl exchanged, ⟨_, rfl⟩,
    absorbHost_requested _ request _ _⟩

theorem backup_step (reached : Reached recoveryTimeout network) {request : Request}
    {attempt : Attempt} (phase : network.host.phase = .await request attempt)
    (first : attempt.wait.phase = .primaryOnly) :
    ∃ event next outputs, event.faultFree = true ∧
      network.step recoveryTimeout event = some (next, outputs) ∧
      (∃ attempt, next.host.phase = .await request attempt) ∧
      next.inFlight request.direction =
        network.inFlight request.direction ++ [request.transaction] := by
  have exchanged : wifiExchange recoveryTimeout network.host
      (.wait attempt.wait.warningAt .warning) =
        some ({ network.host with
          phase := .await request { attempt with
            wait := ⟨attempt.wait.started, attempt.wait.warningAt + endpointStallLogInterval, .both⟩
            backupDropped := false } },
          [.requested request attempt.peer .backup false]) := by
    simp [wifiExchange, phase, Exchange.waitStep, Attempt.admits, Exchange.makeBackup,
      awaitEndpointResponseWithTimeouts, Wait.warn, first,
      shouldDrop_spent reached.undisturbed.spent]
  exact ⟨_, _, _, rfl, step_of_exchanged rfl exchanged, ⟨_, rfl⟩,
    absorbHost_requested _ request _ _⟩

/-! Stale responses make the host try again, and each is used up. -/

/-- How many of the messages under way belong to another transaction. -/
def Network.stale (network : Network) (request : Request) : Nat :=
  (network.inFlight request.direction).countP fun transaction =>
    transaction ≠ request.transaction

theorem leads_acknowledged {request : Request} :
    ∀ {network : Network}, Reached recoveryTimeout network →
      ∀ {attempt : Attempt}, network.host.phase = .await request attempt →
        network.inFlight request.direction ≠ [] →
          network.Leads recoveryTimeout fun _ outputs => Acknowledges request outputs := by
  intro network
  induction count : network.stale request using Nat.strongRecOn generalizing network with
  | ind total ih =>
      intro reached attempt phase active
      refine (leads_answer reached active).trans ?_
      intro middle past answering
      have waiting : middle.host.phase = .await request attempt := by rw [answering.host, phase]
      cases first : (middle.path request.direction).responses with
      | nil => exact absurd first answering.responses
      | cons packet rest =>
          obtain ⟨source, next, outputs, stepped, matching, other⟩ :=
            deliver_first answering.reached waiting
              (show (middle.path request.direction).responses[0]? = some packet by simp [first])
          by_cases same : packet.t.transaction = request.transaction
          · obtain ⟨number, response, said⟩ := matching same
            exact .next rfl stepped (.now ⟨number, response, by simp [said]⟩)
          · obtain ⟨again, remaining⟩ := other same
            have nextReached := answering.reached.step stepped
            obtain ⟨event, final, sent, free, attempted, ⟨fresh, awaiting⟩, grown⟩ :=
              attempt_step nextReached again
            have fewer : final.stale request < total := by
              have before : middle.inFlight request.direction =
                  packet.t.transaction :: next.inFlight request.direction := by
                rw [remaining]
                simp [Network.inFlight, first]
              rw [← count, Network.stale, Network.stale, grown, ← answering.inFlight, before]
              simp [same]
            refine .next rfl stepped (.next free attempted ?_)
            have later := ih _ fewer rfl (nextReached.step attempted) awaiting (by simp [grown])
            refine later.mono ?_
            rintro _ outputs ⟨number, response, said⟩
            exact ⟨number, response, by simp [said]⟩

theorem leads_of_not_stalled (reached : Reached recoveryTimeout network) {request : Request}
    (current : network.host.phase.request = some request) (free : ¬network.Stalled request) :
    network.Leads recoveryTimeout fun _ outputs => Acknowledges request outputs := by
  have sends {event : NetworkEvent} {next : Network} {outputs : List NetworkOutput}
      (permitted : event.faultFree = true)
      (stepped : network.step recoveryTimeout event = some (next, outputs))
      (awaiting : ∃ attempt, next.host.phase = .await request attempt)
      (grown : next.inFlight request.direction =
        network.inFlight request.direction ++ [request.transaction]) :
      network.Leads recoveryTimeout fun _ outputs => Acknowledges request outputs := by
    obtain ⟨attempt, phase⟩ := awaiting
    refine .next permitted stepped ?_
    refine (leads_acknowledged (reached.step stepped) phase (by simp [grown])).mono ?_
    rintro _ later ⟨number, response, said⟩
    exact ⟨number, response, by simp [said]⟩
  cases phase : network.host.phase with
  | retry other =>
      rw [phase, ExchangePhase.request, Option.some.injEq] at current
      subst current
      obtain ⟨event, next, outputs, permitted, stepped, awaiting, grown⟩ := attempt_step reached phase
      exact sends permitted stepped awaiting grown
  | await other attempt =>
      rw [phase, ExchangePhase.request, Option.some.injEq] at current
      subst current
      by_cases active : network.inFlight other.direction = []
      · have first : attempt.wait.phase = .primaryOnly := by
          by_contra later
          have sent : attempt.wait.phase.backupSent = true := by
            cases wait : attempt.wait.phase <;> simp_all [WaitPhase.backupSent]
          exact free ⟨⟨attempt, phase, sent⟩, active⟩
        obtain ⟨event, next, outputs, permitted, stepped, awaiting, grown⟩ :=
          backup_step reached phase first
        exact sends permitted stepped awaiting grown
      · exact leads_acknowledged reached phase active
  | _ => simp [phase, ExchangePhase.request] at current

/-! A stalled wait stays stalled. -/

theorem wifiExchange_kind {exchange next : Exchange} {request : Request} {attempt : Attempt}
    {now : Nat} {source : ResponseSource} {response : Response} {outputs : List ExchangeOutput}
    (phase : exchange.phase = .await request attempt)
    (stepped : wifiExchange recoveryTimeout exchange (.wait now (.resolved source (.ok response))) =
      some (next, outputs)) : response.direction = request.direction := by
  simp only [wifiExchange, phase, Exchange.waitStep] at stepped
  split at stepped
  case isFalse => contradiction
  case isTrue admitted => exact Attempt.admits_kind admitted

theorem Network.Stalled.parts {request : Request} (stalled : network.Stalled request) :
    (network.path request.direction).responses = [] ∧
      network.device.server request.direction = .idle ∧
      (network.path request.direction).link = [] := by
  have quiet := stalled.quiet
  rw [Network.inFlight, List.append_eq_nil_iff, List.append_eq_nil_iff, List.map_eq_nil_iff,
    List.map_eq_nil_iff, Option.toList_eq_nil_iff] at quiet
  refine ⟨quiet.1.1, ?_, quiet.2⟩
  cases view : network.device.server request.direction with
  | idle => rfl
  | _ => simp [view, ServerView.transaction] at quiet

/-- A step of the device at the other endpoint, or of the bridge task. -/
theorem Network.Stalled.absorbDevice {request : Request} (stalled : network.Stalled request)
    {event : DeviceEvent} {device : Device} {outputs : List DeviceOutput}
    (worked : network.device.step event = some (device, outputs))
    (other : ∀ packet, event = .request packet → packet.t.direction ≠ request.direction)
    {before : Network} (host : before.host = network.host)
    (path : before.path request.direction = network.path request.direction) :
    (before.absorbDevice device outputs).1.Stalled request := by
  obtain ⟨responses, idle, link⟩ := stalled.parts
  have untouched : device.server request.direction = .idle ∧
      outputs.filterMap (DeviceOutput.responseOf request.direction) = [] := by
    cases (Device.step_moves worked).serverEffect request.direction with
    | quiet server memory silent _ => exact ⟨by rw [server, idle], silent.responses⟩
    | receive packet arrived own => exact absurd own (other packet arrived)
    | replay packet response arrived own => exact absurd own (other packet arrived)
    | execute packet result task scheduled before => simp [idle] at before
    | finish packet response task scheduled before => simp [idle] at before
    | respond packet delivered task scheduled before => simp [idle] at before
  refine ⟨?_, ?_⟩
  · rw [show (before.absorbDevice device outputs).1.host = before.host from rfl, host]
    exact stalled.waiting
  · simp [Network.inFlight, Network.absorbDevice, untouched, path, responses,
      link]

theorem Network.Stalled.step {request : Request} {event : NetworkEvent}
    {outputs : List NetworkOutput} (directed : network.Directed)
    (stalled : network.Stalled request) (free : event.faultFree = true)
    (stepped : network.step recoveryTimeout event = some (next, outputs)) :
    next.Stalled request ∧ ¬Acknowledges request outputs := by
  obtain ⟨responses, idle, link⟩ := stalled.parts
  obtain ⟨attempt, phase, sent⟩ := stalled.waiting
  cases Network.step_moves stepped with
  | session => contradiction
  | loseRequest => contradiction
  | loseResponse => contradiction
  | host unanswered exchanged =>
      cases wifiExchange_moves exchanged with
      | @log other before now warningAt awaiting _ =>
          rw [phase, ExchangePhase.await.injEq] at awaiting
          obtain ⟨rfl, rfl⟩ := awaiting
          exact ⟨⟨⟨_, rfl, sent⟩, stalled.quiet⟩,
            by simp [Acknowledges, Network.absorbHost, Paths.numbered]⟩
      | @backup other before now warningAt awaiting first =>
          rw [phase, ExchangePhase.await.injEq] at awaiting
          obtain ⟨rfl, rfl⟩ := awaiting
          simp [first, WaitPhase.backupSent] at sent
      | skip other | beginTx _ other | beginRx other | attempt _ _ other | tapSent _ other =>
          simp [phase] at other
      | fail | accept | mismatch | giveUp | recover | cancel => contradiction
  | @deliver direction position now source packet host said path found exchanged erased =>
      have kind := (directed direction).2 packet (List.mem_of_getElem? found)
      rw [wifiExchange_kind phase exchanged] at kind
      rw [← kind, responses] at found
      simp at found
  | @arrive direction packet rest device said first received =>
      have kind := (directed direction).1 packet (by simp [first])
      have other : direction ≠ request.direction := by
        rintro rfl
        simp [link] at first
      refine ⟨stalled.absorbDevice received ?_ rfl ?_, by simp [Acknowledges, Network.absorbDevice]⟩
      · rintro _ ⟨⟩
        rwa [kind]
      · simp [Network.setPath, Function.update_of_ne (Ne.symm other)]
  | @device task device said worked =>
      refine ⟨stalled.absorbDevice worked ?_ rfl rfl, by simp [Acknowledges, Network.absorbDevice]⟩
      rintro _ ⟨⟩

theorem Network.Stalled.never (reached : Reached recoveryTimeout network) {request : Request}
    (stalled : network.Stalled request) :
    ¬network.Leads recoveryTimeout fun _ outputs => Acknowledges request outputs := by
  intro leads
  have initially : Reached recoveryTimeout network ∧ network.Stalled request ∧
      ¬Acknowledges request [] := ⟨reached, stalled, by simp [Acknowledges]⟩
  have kept := Machine.Leads.keep leads (fun network past event next outputs free
      (held : Reached recoveryTimeout network ∧ network.Stalled request ∧
        ¬Acknowledges request past) stepped => ?_) initially
  · obtain ⟨_, _, _, _, _, ⟨_, _, unacknowledged⟩, acknowledged⟩ := kept
    exact unacknowledged acknowledged
  · obtain ⟨reached, stalled, unacknowledged⟩ := held
    obtain ⟨still, silent⟩ := stalled.step reached.directed free stepped
    refine ⟨reached.step stepped, still, ?_⟩
    rintro ⟨number, response, said⟩
    rcases List.mem_append.mp said with old | new
    · exact unacknowledged ⟨number, response, old⟩
    · exact silent ⟨number, response, new⟩

end

/-- Without injected faults, an open transaction can still be acknowledged, in the same session and
without any further fault, unless both its requests have been sent and no request, response or
service of its endpoint is under way; and then no run without a fault acknowledges it. -/
theorem acknowledgement_reachable_iff {recoveryTimeout : Option Nat}
    {injector : EndpointFaultInjector} {events : List NetworkEvent} {network : Network}
    {trace : List NetworkOutput} {request : Request}
    (ran : Machine.run (Network.step recoveryTimeout) (Network.start injector) events =
      some (network, trace))
    (uninjected : injector.remaining = 0)
    (current : network.host.phase.request = some request) :
    network.Leads recoveryTimeout (fun _ outputs => Acknowledges request outputs) ↔
      ¬network.Stalled request := by
  have reached : Reached recoveryTimeout network := ⟨injector, events, trace, uninjected, ran⟩
  constructor
  · intro leads stalled
    exact stalled.never reached leads
  · intro free
    exact leads_of_not_stalled reached current free

/-- Both copies of an RX request are lost; the NUSB exchange has no recovery deadline. -/
def sampleLostEvents : List NetworkEvent :=
  [.session 7, .host (.tryRecv none), .host .beginRx, .host (.attempt 0 ⟨1, 2, 0⟩),
    .loseRequest .rx 0, .host (.wait 250 .warning), .loseRequest .rx 0]

theorem sampleLost_stalled :
    ∃ network trace,
      Machine.run (Network.step none) (Network.start .default) sampleLostEvents =
          some (network, trace) ∧
        network.Stalled (.rx ⟨⟨7, 0⟩⟩) := by
  have reached : (Machine.run (Network.step none) (Network.start .default) sampleLostEvents).map
      (fun result => (result.1.host.phase, result.1.inFlight .rx)) =
        some (.await (.rx ⟨⟨7, 0⟩⟩) ⟨⟨1, 2, 0⟩, ⟨0, 5250, .both⟩, false, false⟩, []) := by
    decide +kernel
  obtain ⟨⟨network, trace⟩, ran, seen⟩ := Option.map_eq_some_iff.mp reached
  obtain ⟨phase, quiet⟩ := Prod.mk.inj seen
  exact ⟨network, trace, ran, ⟨_, phase, rfl⟩, quiet⟩

theorem acknowledgement_reachable_iff_lost :
    ∃ network trace,
      Machine.run (Network.step none) (Network.start .default) sampleLostEvents =
          some (network, trace) ∧
        ¬network.Leads none fun _ outputs => Acknowledges (.rx ⟨⟨7, 0⟩⟩) outputs := by
  obtain ⟨network, trace, ran, stalled⟩ := sampleLost_stalled
  refine ⟨network, trace, ran, ?_⟩
  obtain ⟨attempt, phase, _⟩ := stalled.waiting
  rw [acknowledgement_reachable_iff ran rfl (by rw [phase]; rfl), not_not]
  exact stalled

/-! A session that is stalled can be ended, and the next one starts from a working link. -/

/-- Nothing is lost and no request fails, but sessions may be cancelled and started. -/
def NetworkEvent.lossless : NetworkEvent → Bool
  | .session _ | .host (.wait _ .cancelled) => true
  | event => event.faultFree

theorem NetworkEvent.faultFree.lossless {event : NetworkEvent} (free : event.faultFree = true) :
    event.lossless = true := by
  unfold NetworkEvent.lossless
  split
  · rfl
  · rfl
  · exact free

/-- How far the exchange is from the next `select!` that sees a cancellation. -/
def ExchangePhase.untilCancelled : ExchangePhase → Nat
  | .tapSend _ => 5
  | .tryRecv => 4
  | .beginRx => 3
  | .retry _ => 2
  | .await _ _ => 1
  | .returned _ => 0

theorem Exchange.cancel_step (recoveryTimeout : Option Nat) (exchange : Exchange)
    (running : exchange.phase.isReturned = false) :
    ∃ event next outputs, NetworkEvent.lossless (.host event) = true ∧
      event.isResponse = false ∧
      wifiExchange recoveryTimeout exchange event = some (next, outputs) ∧
      next.phase.untilCancelled < exchange.phase.untilCancelled := by
  obtain ⟨session, nextTransactionId, phase, injector, metrics⟩ := exchange
  cases phase with
  | tryRecv => exact ⟨.tryRecv none, _, _, rfl, rfl, rfl, Nat.lt_succ_self 3⟩
  | beginRx => exact ⟨.beginRx, _, _, rfl, rfl, rfl, Nat.lt_succ_self 2⟩
  | retry request => exact ⟨.attempt 0 ⟨1, 2, 0⟩, _, _, rfl, rfl, rfl, Nat.lt_succ_self 1⟩
  | await request attempt => exact ⟨.wait 0 .cancelled, _, _, rfl, rfl, rfl, Nat.lt_succ_self 0⟩
  | tapSend frame => exact ⟨.tapSent (.ok 0), _, _, rfl, rfl, rfl, Nat.lt_succ_self 4⟩
  | returned reason => contradiction

theorem leads_returned (recoveryTimeout : Option Nat) (network : Network) :
    Machine.Leads (Network.step recoveryTimeout) (fun event => event.lossless = true) network
      fun final _ => final.host.phase.isReturned = true := by
  refine @Machine.Leads.of_measure _ _ _ _ _ network
    (fun network : Network => network.host.phase.untilCancelled) (fun _ _ => True)
    (fun final _ => final.host.phase.isReturned = true) ?_ [] trivial
  intro network _ _
  cases returned : network.host.phase.isReturned with
  | true => exact .inl rfl
  | false =>
      obtain ⟨event, host, outputs, permitted, unanswered, exchanged, closer⟩ :=
        network.host.cancel_step recoveryTimeout returned
      exact .inr ⟨.host event, _, _, permitted, step_of_exchanged unanswered exchanged, trivial, closer⟩

/-- Whatever has been lost, a new session gets through: without injected or further faults, from
every reachable state the host can end its session, start another with any id, take a frame and
have it acknowledged. -/
theorem session_recovers {recoveryTimeout : Option Nat} {injector : EndpointFaultInjector}
    {events : List NetworkEvent} {network : Network} {trace : List NetworkOutput}
    (ran : Machine.run (Network.step recoveryTimeout) (Network.start injector) events =
      some (network, trace))
    (uninjected : injector.remaining = 0) (session : UInt64) (frame : WifiFrame) :
    Machine.Leads (Network.step recoveryTimeout) (fun event => event.lossless = true) network
      fun _ outputs => Acknowledges (.tx ⟨⟨session, 0⟩, frame⟩) outputs := by
  have reached : Reached recoveryTimeout network := ⟨injector, events, trace, uninjected, ran⟩
  have returns := (leads_returned recoveryTimeout network).keep
    (fun (state : Network) (_ : List NetworkOutput) _ _ _ _
      (reached : Reached recoveryTimeout state) stepped => reached.step stepped) reached
  refine returns.trans ?_
  rintro ended past ⟨endedReached, returned⟩
  have started : ended.step recoveryTimeout (.session session) =
      some ({ ended with host := ended.host.start session }, [.session session]) := by
    simp [Network.step, returned]
  have began : wifiExchange recoveryTimeout (ended.host.start session) (.tryRecv (some frame)) =
      some ({ ended.host.start session with
        nextTransactionId := 1, phase := .retry (.tx ⟨⟨session, 0⟩, frame⟩) },
        [.began (.tx ⟨⟨session, 0⟩, frame⟩)]) := rfl
  have took : Network.step recoveryTimeout { ended with host := ended.host.start session }
      (.host (.tryRecv (some frame))) = some _ := step_of_exchanged rfl began
  refine .next rfl started (.next rfl took ?_)
  have acknowledged := leads_of_not_stalled ((endedReached.step started).step took) rfl (by
    rintro ⟨⟨attempt, phase, _⟩, _⟩
    cases phase)
  refine (acknowledged.allow fun _ => NetworkEvent.faultFree.lossless).mono ?_
  rintro _ outputs ⟨number, response, said⟩
  exact ⟨number, response, by simp [said]⟩

theorem session_recovers_lost :
    ∃ network trace,
      Machine.run (Network.step none) (Network.start .default) sampleLostEvents =
          some (network, trace) ∧
        network.Stalled (.rx ⟨⟨7, 0⟩⟩) ∧
        Machine.Leads (Network.step none) (fun event => event.lossless = true) network
          fun _ outputs => Acknowledges (.tx ⟨⟨8, 0⟩, ⟨[255, 1], by decide⟩⟩) outputs := by
  obtain ⟨network, trace, ran, stalled⟩ := sampleLost_stalled
  exact ⟨network, trace, ran, stalled, session_recovers ran rfl 8 _⟩

end Lamella

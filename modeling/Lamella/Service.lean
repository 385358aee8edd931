import Lamella.FirmwareServers
import Lamella.FirmwareTotal
import Lamella.MachineReach

/-!
Neither firmware server can get stuck on a request: from every state of the device its own tasks
can finish the request and get the response out, whatever the other server and the queues hold.
-/

namespace Lamella

def ServerView.transaction : ServerView → Option WifiTransaction
  | .idle => none
  | .received packet | .working packet => some packet.t.transaction
  | .responding packet => some packet.t.transaction

@[simp] theorem ServerView.transaction_idle : ServerView.idle.transaction = none := rfl

/-- The task loses no response. -/
def TaskEvent.delivers : TaskEvent → Bool
  | .txServer delivered | .rxServer _ delivered => delivered
  | .bridge _ => true

/-- The server has sent a response for this transaction, and no other response, and is idle. -/
def Served (direction : Direction) (transaction : WifiTransaction) (device : Device)
    (outputs : List DeviceOutput) : Prop :=
  device.server direction = .idle ∧ ∃ response : Packet Response,
    outputs.filterMap (DeviceOutput.responseOf direction) = [response] ∧
      response.t.transaction = transaction

theorem Served.after {direction : Direction} {transaction : WifiTransaction} {device : Device}
    {past outputs : List DeviceOutput} (served : Served direction transaction device outputs)
    (silent : past.filterMap (DeviceOutput.responseOf direction) = []) :
    Served direction transaction device (past ++ outputs) := by
  obtain ⟨idle, response, sent, matched⟩ := served
  exact ⟨idle, response, by rw [List.filterMap_append, silent, sent, List.nil_append], matched⟩

section

variable {device : Device} {past : List DeviceOutput}

/-! The RX server. -/

theorem leads_rxRespond {packet : Packet WifiRxResponse}
    (phase : device.rxServer = .sendResponse packet) :
    Machine.Leads Device.task (fun task => task.delivers = true) device
      (Served .rx packet.t.transaction) := by
  have stepped : device.task (.rxServer true true) =
      some ({ device with rxServer := .recv }, [.response ⟨packet.serial, .rx packet.t⟩]) := by
    simp [Device.task, wifiRxServer, phase]
  refine .next rfl stepped (.now ⟨rfl, ⟨packet.serial, .rx packet.t⟩, ?_, rfl⟩)
  simp [DeviceOutput.responseOf]

theorem leads_rxPoll {packet : Packet WifiRxRequest} (phase : device.rxServer = .pollFrame packet) :
    Machine.Leads Device.task (fun task => task.delivers = true) device
      (Served .rx packet.t.transaction) := by
  have answered : ∃ next response, device.task (.rxServer true true) =
      some (next, [.answered ⟨packet.serial, response⟩]) ∧
        next.rxServer = .sendResponse ⟨packet.serial, response⟩ ∧
        response.transaction = packet.t.transaction := by
    cases taken : device.wifiToHost.tryReceive with
    | none => exact ⟨_, _, by simp only [Device.task, wifiRxServer, phase, taken]; rfl, rfl, rfl⟩
    | some first => exact ⟨_, _, by simp only [Device.task, wifiRxServer, phase, taken]; rfl, rfl, rfl⟩
  obtain ⟨next, response, stepped, responding, matched⟩ := answered
  refine .next rfl stepped ((leads_rxRespond responding).mono fun final outputs served => ?_)
  rw [← matched]
  exact served.after rfl

/-! The TX server. -/

theorem leads_txRespond {packet : Packet WifiTxRequest}
    (phase : device.txServer = .sendResponse packet) :
    Machine.Leads Device.task (fun task => task.delivers = true) device
      (Served .tx packet.t.transaction) := by
  have stepped : device.task (.txServer true) =
      some ({ device with txServer := .recvManual },
        [.response ⟨packet.serial, .tx ⟨packet.t.transaction⟩⟩]) := by
    simp [Device.task, wifiTxServer, phase]
  refine .next rfl stepped (.now ⟨rfl, ⟨packet.serial, .tx ⟨packet.t.transaction⟩⟩, ?_, rfl⟩)
  simp [DeviceOutput.responseOf]

theorem leads_txComplete {packet : Packet WifiTxRequest}
    (phase : device.txServer = .awaitComplete packet) (posted : device.txComplete.items ≠ []) :
    Machine.Leads Device.task (fun task => task.delivers = true) device
      (Served .tx packet.t.transaction) := by
  obtain ⟨⟨token, txComplete⟩, taken⟩ : ∃ received, device.txComplete.tryReceive = some received := by
    rw [← Option.ne_none_iff_exists', ne_eq, Channel.tryReceive_eq_none_iff]
    exact posted
  have stepped : device.task (.txServer true) =
      some ({ device with
        txComplete
        lastCompleted := some packet.t.transaction
        txServer := .sendResponse packet }, []) := by
    simp [Device.task, wifiTxServer, phase, taken]
  exact .next rfl stepped (leads_txRespond rfl)

theorem BridgeMoves.unanswered {next : Device} {poll : BridgePoll} {output : List DeviceOutput}
    (moved : BridgeMoves device poll next output) (direction : Direction) :
    output.filterMap (DeviceOutput.responseOf direction) = [] := by
  cases moved <;> simp [DeviceOutput.responseOf]

theorem BridgeMoves.posted {next : Device} {poll : BridgePoll} {output : List DeviceOutput}
    (moved : BridgeMoves device poll next output) (completed : .completion ∈ output) :
    next.txComplete.items ≠ [] := by
  cases moved with
  | complete phase posted => simp [posted]
  | queueComplete phase posted => simp [posted]
  | _ => simp at completed

/-- Bridge steps until the server finds its token. -/
def Device.tokenSteps (device : Device) : Nat :=
  if device.txComplete.items = [] then device.progress else 0

structure AwaitingToken (packet : Packet WifiTxRequest) (device : Device)
    (outputs : List DeviceOutput) : Prop where
  pipeline : ∃ trace, TxPipeline device trace
  phase : device.txServer = .awaitComplete packet
  silent : outputs.filterMap (DeviceOutput.responseOf .tx) = []

theorem AwaitingToken.step {packet : Packet WifiTxRequest} {next : Device} {poll : BridgePoll}
    {output : List DeviceOutput} (awaiting : AwaitingToken packet device past)
    (moved : BridgeMoves device poll next output) :
    AwaitingToken packet next (past ++ output) := by
  obtain ⟨trace, pipeline⟩ := awaiting.pipeline
  refine ⟨⟨trace ++ output, pipeline.step (.bridge poll rfl moved)⟩, ?_, ?_⟩
  · rw [moved.txQuiet.server, awaiting.phase]
  · rw [List.filterMap_append, awaiting.silent, moved.unanswered, List.append_nil]

theorem AwaitingToken.progress {packet : Packet WifiTxRequest}
    (awaiting : AwaitingToken packet device past) (unposted : device.txComplete.items = []) :
    ∃ next output, device.task (.bridge ⟨true, none, 0⟩) = some (next, output) ∧
      AwaitingToken packet next (past ++ output) ∧ next.tokenSteps < device.tokenSteps := by
  have positive := device.progress_pos
  by_cases startup : device.bridge = .startup
  · have stepped : device.task (.bridge ⟨true, none, 0⟩) =
        some ({ device with bridge := .select }, []) := by
      simp [Device.task, wifiBridge, startup]
    refine ⟨_, _, stepped, awaiting.step (wifiBridge_moves stepped), ?_⟩
    simp [Device.tokenSteps, unposted, Device.progress, startup]
  · obtain ⟨trace, pipeline⟩ := awaiting.pipeline
    have pending : Pending device trace :=
      ⟨pipeline, startup, by rw [awaiting.phase]; rfl, unposted⟩
    have enabled : (wifiBridge device ⟨true, none, 0⟩).isSome := pending.bridge_enabled rfl
    obtain ⟨⟨next, output⟩, stepped⟩ := Option.isSome_iff_exists.mp enabled
    have moved := wifiBridge_moves stepped
    refine ⟨next, output, stepped, awaiting.step moved, ?_⟩
    rcases pending.bridge_progress rfl moved with completed | ⟨closer, _, tokens⟩
    · simp [Device.tokenSteps, unposted, moved.posted completed, positive]
    · simpa [Device.tokenSteps, unposted, tokens] using closer

/-- The bridge task alone gets a pending frame to the radio and posts its completion. -/
theorem leads_txToken {packet : Packet WifiTxRequest}
    (awaiting : AwaitingToken packet device past) :
    Machine.Leads Device.task (fun task => task.delivers = true) device fun final outputs =>
      AwaitingToken packet final (past ++ outputs) ∧ final.txComplete.items ≠ [] := by
  refine Machine.Leads.of_measure Device.tokenSteps (AwaitingToken packet)
    (fun final outputs => AwaitingToken packet final outputs ∧ final.txComplete.items ≠ []) ?_
    awaiting
  intro state outputs waiting
  by_cases unposted : state.txComplete.items = []
  · obtain ⟨next, output, stepped, kept, closer⟩ := waiting.progress unposted
    exact .inr ⟨.bridge ⟨true, none, 0⟩, next, output, rfl, stepped, kept, closer⟩
  · exact .inl ⟨waiting, unposted⟩

theorem leads_txAwait {packet : Packet WifiTxRequest} (pipeline : TxPipeline device past)
    (phase : device.txServer = .awaitComplete packet) :
    Machine.Leads Device.task (fun task => task.delivers = true) device
      (Served .tx packet.t.transaction) := by
  have awaiting : AwaitingToken packet device [] := ⟨⟨past, pipeline⟩, phase, rfl⟩
  refine (leads_txToken awaiting).trans ?_
  rintro state outputs ⟨waiting, posted⟩
  exact (leads_txComplete waiting.phase posted).mono fun final later served =>
    served.after waiting.silent

theorem leads_txSend {packet : Packet WifiTxRequest} (pipeline : TxPipeline device past)
    (phase : device.txServer = .sendFrame packet) :
    Machine.Leads Device.task (fun task => task.delivers = true) device
      (Served .tx packet.t.transaction) := by
  obtain ⟨⟨next, output⟩, stepped⟩ := Option.isSome_iff_exists.mp
    (pipeline.send_enabled phase true)
  have stepped : device.task (.txServer true) = some (next, output) := stepped
  have moved := wifiTxServer_moves stepped
  have later := pipeline.serverStep moved
  cases moved with
  | send sending pushed =>
      rw [phase, TxServerPhase.sendFrame.injEq] at sending
      subst sending
      exact .next rfl stepped ((leads_txAwait later rfl).mono fun final outputs served =>
        served.after rfl)
  | complete awaiting taken => simp [phase] at awaiting
  | respond responding => simp [phase] at responding

end

/-- In every reachable state of the device, whatever its queues, its bridge task and its other
server are doing, the device can by itself complete the request a server is working on, send
exactly one response for its transaction and be ready for the next request. -/
theorem Device.leads_served {events : List DeviceEvent} {device : Device}
    {trace : List DeviceOutput}
    (ran : Machine.run Device.step Device.boot events = some (device, trace))
    {direction : Direction} {transaction : WifiTransaction}
    (busy : (device.server direction).transaction = some transaction) :
    Machine.Leads Device.task (fun task => task.delivers = true) device
      (Served direction transaction) := by
  have pipeline := Device.run_txPipeline ran
  cases direction with
  | tx =>
      cases phase : device.txServer with
      | recvManual => simp [Device.server, phase, TxServerPhase.view, ServerView.transaction] at busy
      | sendFrame packet =>
          simp only [Device.server, phase, TxServerPhase.view, ServerView.transaction,
            Request.transaction, Option.some.injEq] at busy
          exact busy ▸ leads_txSend pipeline phase
      | awaitComplete packet =>
          simp only [Device.server, phase, TxServerPhase.view, ServerView.transaction,
            Request.transaction, Option.some.injEq] at busy
          exact busy ▸ leads_txAwait pipeline phase
      | sendResponse packet =>
          simp only [Device.server, phase, TxServerPhase.view, ServerView.transaction,
            Response.transaction, Option.some.injEq] at busy
          exact busy ▸ leads_txRespond phase
  | rx =>
      cases phase : device.rxServer with
      | recv => simp [Device.server, phase, RxServerPhase.view, ServerView.transaction] at busy
      | pollFrame packet =>
          simp only [Device.server, phase, RxServerPhase.view, ServerView.transaction,
            Request.transaction, Option.some.injEq] at busy
          exact busy ▸ leads_rxPoll phase
      | sendResponse packet =>
          simp only [Device.server, phase, RxServerPhase.view, ServerView.transaction,
            Response.transaction, Option.some.injEq] at busy
          exact busy ▸ leads_rxRespond phase

/-- Tasks alone never give an idle server work. -/
theorem Device.task_idle {device next : Device} {output : List DeviceOutput} {task : TaskEvent}
    {direction : Direction} (idle : device.server direction = .idle)
    (worked : device.task task = some (next, output)) : next.server direction = .idle := by
  have stepped : device.step (.task task) = some (next, output) := worked
  cases (Device.step_moves stepped).serverEffect direction with
  | quiet server => rw [server, idle]
  | receive _ request => cases request
  | replay _ _ request => cases request
  | execute _ _ _ _ before => simp [idle] at before
  | finish _ _ _ _ before => simp [idle] at before
  | respond _ _ _ _ before after => exact after

theorem Device.leads_idle {events : List DeviceEvent} {device : Device} {trace : List DeviceOutput}
    (ran : Machine.run Device.step Device.boot events = some (device, trace))
    (direction : Direction) :
    Machine.Leads Device.task (fun task => task.delivers = true) device fun final outputs =>
      final.server direction = .idle ∧ ∃ laterEvents,
        Machine.run Device.step Device.boot laterEvents = some (final, trace ++ outputs) := by
  cases busy : (device.server direction).transaction with
  | none =>
      have idle : device.server direction = .idle := by
        cases view : device.server direction <;> simp_all [ServerView.transaction]
      exact .now ⟨idle, events, by rw [ran, List.append_nil]⟩
  | some transaction =>
      obtain ⟨tasks, final, outputs, permitted, worked, idle, _⟩ := Device.leads_served ran busy
      refine ⟨tasks, final, outputs, permitted, worked, idle, events ++ tasks.map .task, ?_⟩
      refine Machine.run_append ran ?_
      have embedded : ∃ after, Machine.run Device.step device (tasks.map .task) =
          some (after, outputs.map id) ∧ after = final := by
        refine Machine.run_embed DeviceEvent.task id
          (fun state (_ : List DeviceOutput) whole => whole = state) ?_ rfl worked
        rintro state past _ event next output rfl stepped
        exact ⟨next, by rw [List.map_id]; exact stepped, rfl⟩
      obtain ⟨after, continued, rfl⟩ := embedded
      rwa [List.map_id] at continued

/-- Whatever requests the device has received and however its tasks have been interleaved, its
tasks can bring it to rest: both servers ready for the next request, no frame or token in the
channels between server and bridge, and every frame handed over accepted by the radio. -/
theorem firmware_quiesces {events : List DeviceEvent} {device : Device}
    {trace : List DeviceOutput}
    (ran : Machine.run Device.step Device.boot events = some (device, trace)) :
    Machine.Leads Device.task (fun task => task.delivers = true) device fun final outputs =>
      final.txServer = .recvManual ∧ final.rxServer = .recv ∧ final.hostToWifi.items = [] ∧
        final.txComplete.items = [] ∧ final.bridge.hostCustody = .idle ∧
        acceptedOf (trace ++ outputs) = (handedOf (trace ++ outputs)).map (·.t.frame) := by
  refine (Device.leads_idle ran .tx).trans ?_
  rintro middle past ⟨txIdle, earlier, middleRan⟩
  have both := (Device.leads_idle middleRan .rx).keep
    (fun (state : Device) (_ : List DeviceOutput) _ _ _ _ (idle : state.server .tx = .idle) =>
      Device.task_idle idle) txIdle
  refine both.mono ?_
  rintro final outputs ⟨txStill, rxIdle, later, finalRan⟩
  rw [List.append_assoc] at finalRan
  have server : final.txServer = .recvManual := by
    cases phase : final.txServer with
    | recvManual => rfl
    | _ => simp [Device.server, phase, TxServerPhase.view] at txStill
  have rest : final.rxServer = .recv := by
    cases phase : final.rxServer with
    | recv => rfl
    | _ => simp [Device.server, phase, RxServerPhase.view] at rxIdle
  have stage := (Device.run_txPipeline finalRan).stage
  unfold Device.TxStage at stage
  obtain ⟨frames, custody, tokens, accepted⟩ := stage.resting (by rw [server]; rfl)
  exact ⟨server, rest, frames, tokens, custody, accepted⟩

/-- The receive queue is full, the bridge holds a further frame, and a request waits. -/
theorem firmware_quiesces_full :
    ∃ device trace, Machine.run Device.step Device.boot sampleFullEvents = some (device, trace) ∧
      device.wifiToHost.items.length = 64 ∧ device.txServer.awaiting = 1 ∧
      Machine.Leads Device.task (fun task => task.delivers = true) device fun final _ =>
        final.txServer = .recvManual := by
  have reached : (Machine.run Device.step Device.boot sampleFullEvents).map (fun result =>
      (result.1.wifiToHost.items.length, result.1.txServer.awaiting)) = some (64, 1) := by
    decide +kernel
  obtain ⟨⟨device, trace⟩, ran, seen⟩ := Option.map_eq_some_iff.mp reached
  obtain ⟨full, awaiting⟩ := Prod.mk.inj seen
  exact ⟨device, trace, ran, full, awaiting, (firmware_quiesces ran).mono fun _ _ rests => rests.1⟩

end Lamella

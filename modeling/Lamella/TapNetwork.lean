import Lamella.Delivery
import Lamella.TapNetworkCore
import Lamella.TapPipeline

/-!
The whole path seen from its parts.  Forgetting the readers leaves a run of the network, and the
frames a session accepted from the TAP device are those its exchange took, followed by the one in
the channel and the one its reader holds.
-/

namespace Lamella

/-! No decision depends on the metrics, which the readers share with the exchange. -/

theorem afterWait_metrics (first second : BridgeMetrics) (request : Request)
    (outcome : EndpointWaitOutcome Response) :
    (afterWait first request outcome).2 = (afterWait second request outcome).2 := by
  cases outcome with
  | cancelled => rfl
  | recoveryRequired stalledFor => rfl
  | completed wait =>
      simp only [afterWait]
      split
      · split <;> rfl
      · rfl

theorem finishAttempt_withMetrics (exchange : Exchange) (metrics : BridgeMetrics)
    (request : Request) (outcome : EndpointWaitOutcome Response) :
    ∃ later, { exchange with metrics }.finishAttempt request outcome =
      ({ (exchange.finishAttempt request outcome).1 with metrics := later },
        (exchange.finishAttempt request outcome).2) := by
  have same := afterWait_metrics exchange.metrics metrics request outcome
  unfold Exchange.finishAttempt
  dsimp only
  generalize afterWait exchange.metrics request outcome = kept at same ⊢
  generalize afterWait metrics request outcome = changed at same ⊢
  obtain ⟨kept, ending⟩ := kept
  obtain ⟨later, _⟩ := changed
  cases same
  refine ⟨later, ?_⟩
  cases ending with
  | matched response => simp only [Exchange.matched_eq]
  | again => rfl
  | returned reason => rfl

theorem waitStep_withMetrics {recoveryTimeout : Option Nat} {exchange next : Exchange}
    {request : Request} {attempt : Attempt} {now : Nat} {event : WaitEvent Response}
    {outputs : List ExchangeOutput}
    (stepped : exchange.waitStep recoveryTimeout request attempt now event = some (next, outputs))
    (metrics : BridgeMetrics) :
    ∃ later, { exchange with metrics }.waitStep recoveryTimeout request attempt now event =
      some ({ next with metrics := later }, outputs) := by
  unfold Exchange.waitStep at stepped ⊢
  split at stepped
  case isFalse => contradiction
  case isTrue admitted =>
      rw [if_pos admitted]
      split at stepped
      case h_1 => contradiction
      case h_2 wait moved =>
          cases stepped
          exact ⟨metrics, rfl⟩
      case h_3 wait moved =>
          cases stepped
          exact ⟨metrics, rfl⟩
      case h_4 outcome moved =>
          cases stepped
          obtain ⟨later, finished⟩ := finishAttempt_withMetrics exchange metrics request outcome
          exact ⟨later, by simp only [finished]; rfl⟩

theorem wifiExchange_withMetrics {recoveryTimeout : Option Nat} {exchange next : Exchange}
    {event : ExchangeEvent} {outputs : List ExchangeOutput}
    (stepped : wifiExchange recoveryTimeout exchange event = some (next, outputs))
    (metrics : BridgeMetrics) :
    ∃ later, wifiExchange recoveryTimeout { exchange with metrics } event =
      some ({ next with metrics := later }, outputs) := by
  unfold wifiExchange at stepped ⊢
  split at stepped
  case h_5 request attempt now event phase =>
      simp only [phase]
      exact waitStep_withMetrics stepped metrics
  case h_6 frame result phase =>
      cases stepped
      exact ⟨_, by simp only [phase]; rfl⟩
  case h_7 => contradiction
  all_goals
    rename_i phase
    cases stepped
    exact ⟨metrics, by simp only [phase] <;> rfl⟩

def Network.withMetrics (network : Network) (metrics : BridgeMetrics) : Network :=
  { network with host := { network.host with metrics } }

theorem Network.step_withMetrics {recoveryTimeout : Option Nat} {network next : Network}
    {event : NetworkEvent} {outputs : List NetworkOutput}
    (stepped : network.step recoveryTimeout event = some (next, outputs))
    (metrics : BridgeMetrics) :
    ∃ later, (network.withMetrics metrics).step recoveryTimeout event =
      some (next.withMetrics later, outputs) := by
  cases Network.step_moves stepped with
  | session id returned =>
      exact ⟨metrics, by simp [Network.step, Network.withMetrics, returned, Exchange.start]⟩
  | host unanswered exchanged =>
      obtain ⟨later, same⟩ := wifiExchange_withMetrics exchanged metrics
      refine ⟨later, ?_⟩
      simp only [Network.step, Network.withMetrics, unanswered, same]
      rfl
  | deliver found exchanged erased =>
      obtain ⟨later, same⟩ := wifiExchange_withMetrics exchanged metrics
      refine ⟨later, ?_⟩
      simp only [Network.step, Network.withMetrics, found, same, erased]
      rfl
  | loseRequest direction position => exact ⟨metrics, rfl⟩
  | loseResponse direction position => exact ⟨metrics, rfl⟩
  | arrive first received =>
      refine ⟨metrics, ?_⟩
      simp only [Device.step] at received
      simp only [Network.step, Network.withMetrics, first, received]
      rfl
  | device worked =>
      refine ⟨metrics, ?_⟩
      simp only [Device.step] at worked
      simp only [Network.step, Network.withMetrics, worked]
      rfl

/-! Forgetting the readers. -/

def networkOf (trace : List TapNetworkOutput) : List NetworkOutput :=
  trace.filterMap fun
    | .network output => some output
    | .recordTapRx _ _ => none

/-- The frames a session's reader accepted from the TAP device. -/
def tapAcceptedBy (session : UInt64) (trace : List TapNetworkOutput) : List WifiFrame :=
  trace.filterMap fun
    | .recordTapRx owner frame => if owner = session then some frame else none
    | .network _ => none

theorem networkOf_append (past outputs : List TapNetworkOutput) :
    networkOf (past ++ outputs) = networkOf past ++ networkOf outputs := List.filterMap_append

theorem tapAcceptedBy_append (session : UInt64) (past outputs : List TapNetworkOutput) :
    tapAcceptedBy session (past ++ outputs) =
      tapAcceptedBy session past ++ tapAcceptedBy session outputs := List.filterMap_append

@[simp] theorem networkOf_network (outputs : List NetworkOutput) :
    networkOf (outputs.map .network) = outputs := by
  simp [networkOf, List.filterMap_map]

@[simp] theorem networkOf_reader (session : UInt64) (accepted : Option WifiFrame) :
    networkOf (accepted.toList.map (.recordTapRx session)) = [] := by
  cases accepted <;> rfl

@[simp] theorem tapAcceptedBy_network (session : UInt64) (outputs : List NetworkOutput) :
    tapAcceptedBy session (outputs.map .network) = [] := by
  simp [tapAcceptedBy]

theorem tapAcceptedBy_reader (session owner : UInt64) (accepted : Option WifiFrame) :
    tapAcceptedBy session (accepted.toList.map (.recordTapRx owner)) =
      if owner = session then accepted.toList else [] := by
  cases accepted <;> by_cases own : owner = session <;> simp [tapAcceptedBy, own]

/-- What one step does to the network and to the TAP sides. -/
inductive TapNetworkMoves (recoveryTimeout : Option Nat) (whole : TapNetwork) :
    TapNetwork → List TapNetworkOutput → Prop
  | cancel (session : UInt64) :
      TapNetworkMoves recoveryTimeout whole
        (whole.setTap session { whole.tap session with cancelled := true }) []
  | reader {session : UInt64} {event : TapReaderEvent} {tapRx : Channel WifiFrame 1}
      {reader : TapReader} {metrics : BridgeMetrics} {accepted : Option WifiFrame}
      (sent : (whole.pipeline session).send event = some tapRx)
      (read : tapReader (whole.pipeline session).exchange.metrics (whole.pipeline session).reader
        event = some (reader, metrics, accepted)) :
      TapNetworkMoves recoveryTimeout whole
        ({ whole with network := whole.network.withMetrics metrics }.setTap session
          { whole.tap session with reader, tapRx })
        (accepted.toList.map (.recordTapRx session))
  | network {event : NetworkEvent} {tap : UInt64 → TapSide} {network : Network}
      {outputs : List NetworkOutput} (received : whole.receive event = some tap)
      (stepped : whole.network.step recoveryTimeout event = some (network, outputs)) :
      TapNetworkMoves recoveryTimeout whole ⟨network, tap⟩ (outputs.map .network)

theorem TapNetwork.pipeline_metrics (whole : TapNetwork) (session : UInt64) :
    (whole.pipeline session).exchange.metrics = whole.network.host.metrics := by
  simp only [TapNetwork.pipeline]
  split <;> rfl

theorem TapNetwork.step_moves {recoveryTimeout : Option Nat} {whole next : TapNetwork}
    {event : TapNetworkEvent} {outputs : List TapNetworkOutput}
    (stepped : whole.step recoveryTimeout event = some (next, outputs)) :
    TapNetworkMoves recoveryTimeout whole next outputs := by
  cases event with
  | cancel session =>
      cases stepped
      exact .cancel session
  | reader session event =>
      simp only [TapNetwork.step, bind, Option.bind_eq_some_iff, pure, Option.some.injEq,
        Prod.mk.injEq, Prod.exists] at stepped
      obtain ⟨tapRx, sent, reader, metrics, accepted, read, rfl, rfl⟩ := stepped
      rw [← whole.pipeline_metrics session] at read
      exact .reader sent read
  | network event =>
      simp only [TapNetwork.step, bind, Option.bind_eq_some_iff, pure, Option.some.injEq,
        Prod.mk.injEq, Prod.exists] at stepped
      obtain ⟨tap, received, network, said, moved, rfl, rfl⟩ := stepped
      exact .network received moved

/-- Up to the metrics, the network part of a run is a run of the network. -/
theorem TapNetwork.run_network {recoveryTimeout : Option Nat} {injector : EndpointFaultInjector}
    {events : List TapNetworkEvent} {whole : TapNetwork} {trace : List TapNetworkOutput}
    (ran : Machine.run (TapNetwork.step recoveryTimeout) (.start injector) events =
      some (whole, trace)) :
    ∃ networkEvents metrics,
      Machine.run (Network.step recoveryTimeout) (Network.start injector) networkEvents =
        some (whole.network.withMetrics metrics, networkOf trace) := by
  have initially : ∃ networkEvents metrics,
      Machine.run (Network.step recoveryTimeout) (Network.start injector) networkEvents =
        some ((TapNetwork.start injector).network.withMetrics metrics, networkOf []) :=
    ⟨[], {}, rfl⟩
  rw [← List.nil_append trace]
  refine Machine.run_invariant (fun whole past => ∃ networkEvents metrics,
    Machine.run (Network.step recoveryTimeout) (Network.start injector) networkEvents =
      some (whole.network.withMetrics metrics, networkOf past)) (fun _ => True) ?_
    (fun _ _ => trivial) initially ran
  rintro whole past event next output _ ⟨networkEvents, metrics, reached⟩ stepped
  rw [networkOf_append]
  cases TapNetwork.step_moves stepped with
  | cancel session =>
      refine ⟨networkEvents, metrics, ?_⟩
      rw [show networkOf [] = [] from rfl, List.append_nil, reached]
      rfl
  | reader sent read =>
      refine ⟨networkEvents, metrics, ?_⟩
      rw [networkOf_reader, List.append_nil, reached]
      rfl
  | @network event tap network outputs received moved =>
      obtain ⟨later, same⟩ := Network.step_withMetrics moved metrics
      refine ⟨networkEvents ++ [event], later, ?_⟩
      rw [networkOf_network, Machine.run_snoc_iff]
      exact ⟨_, _, _, reached, same, rfl⟩

/-! The frames of one session between the TAP device and its exchange. -/

/-- The requests a session made for the frames it took from its channel. -/
def takenBy (session : UInt64) (trace : List NetworkOutput) : List (Packet WifiTxRequest) :=
  (takenOf trace).filter fun packet => packet.t.transaction.session = session

theorem takenBy_append (session : UInt64) (past output : List NetworkOutput) :
    takenBy session (past ++ output) = takenBy session past ++ takenBy session output := by
  simp [takenBy, takenOf]

def NetworkEvent.receivedFrame : NetworkEvent → Option WifiFrame
  | .host event => event.receivedFrame
  | _ => none

theorem wifiExchange_taken {recoveryTimeout : Option Nat} {exchange next : Exchange}
    {event : ExchangeEvent} {outputs : List ExchangeOutput}
    (stepped : wifiExchange recoveryTimeout exchange event = some (next, outputs))
    (number : ExchangeOutput → Nat) (session : UInt64) :
    (takenBy session (outputs.map fun output => .host (number output) output)).map (·.t.frame) =
      if exchange.session = session then event.receivedFrame.toList else [] := by
  cases wifiExchange_moves stepped with
  | beginTx frame phase =>
      by_cases own : exchange.session = session <;>
        simp [takenBy, takenOf, Exchange.beginRequest, ExchangeEvent.receivedFrame, own]
  | @accept request attempt response now source =>
      rcases tapWrite_cases request response with written | ⟨frame, written⟩ <;>
        simp [takenBy, takenOf, ExchangeEvent.receivedFrame, written]
  | _ =>
      simp [takenBy, takenOf, ExchangeEvent.receivedFrame, Exchange.beginRequest,
        Exchange.beginAttempt, Exchange.makeBackup]

theorem takenBy_device (session : UInt64) (outputs : List DeviceOutput) :
    takenBy session (outputs.map .device) = [] := by
  simp [takenBy, takenOf]

theorem Network.step_taken {recoveryTimeout : Option Nat} {network next : Network}
    {event : NetworkEvent} {outputs : List NetworkOutput}
    (stepped : network.step recoveryTimeout event = some (next, outputs)) (session : UInt64) :
    (takenBy session outputs).map (·.t.frame) =
      if network.host.session = session then event.receivedFrame.toList else [] := by
  have nothing : ([] : List WifiFrame) = if network.host.session = session then [] else [] := by
    split <;> rfl
  cases Network.step_moves stepped with
  | session id returned => exact nothing
  | host unanswered exchanged => exact wifiExchange_taken exchanged _ session
  | deliver found exchanged erased =>
      exact wifiExchange_taken exchanged _ session
  | loseRequest direction position => exact nothing
  | loseResponse direction position => exact nothing
  | arrive first received =>
      rw [Network.absorbDevice, takenBy_device]
      exact nothing
  | device worked =>
      rw [Network.absorbDevice, takenBy_device]
      exact nothing

/-- `pending` is the frame the reader holds or held when it returned. -/
structure TapFlow (session : UInt64) (whole : TapNetwork) (trace : List TapNetworkOutput)
    (pending : Option WifiFrame) : Prop where
  accepted : tapAcceptedBy session trace =
    (takenBy session (networkOf trace)).map (·.t.frame) ++ (whole.tap session).tapRx.items ++
      pending.toList
  reading : (whole.tap session).reader.isReturned = false →
    pending = (whole.tap session).reader.frame
  absent : session ∉ sessionsOf (networkOf trace) →
    whole.tap session = .absent ∧ tapAcceptedBy session trace = []

theorem TapFlow.elsewhere {session : UInt64} {whole next : TapNetwork}
    {past outputs : List TapNetworkOutput} {pending : Option WifiFrame}
    (flow : TapFlow session whole past pending) (side : next.tap session = whole.tap session)
    (unaccepted : tapAcceptedBy session outputs = [])
    (untaken : takenBy session (networkOf outputs) = []) :
    TapFlow session next (past ++ outputs) pending := by
  refine ⟨?_, ?_, ?_⟩
  · rw [tapAcceptedBy_append, networkOf_append, takenBy_append, unaccepted, untaken, side,
      List.append_nil, List.append_nil, flow.accepted]
  · rw [side]
    exact flow.reading
  · intro unstarted
    rw [networkOf_append, sessionsOf_append, List.mem_append, not_or] at unstarted
    rw [side, tapAcceptedBy_append, unaccepted, List.append_nil]
    exact flow.absent unstarted.1

theorem TapFlow.readerStep {session owner : UInt64} {whole : TapNetwork}
    {past : List TapNetworkOutput} {pending : Option WifiFrame} {event : TapReaderEvent}
    {tapRx : Channel WifiFrame 1} {reader : TapReader} {metrics : BridgeMetrics}
    {accepted : Option WifiFrame} (flow : TapFlow session whole past pending)
    (sent : (whole.pipeline owner).send event = some tapRx)
    (read : tapReader (whole.pipeline owner).exchange.metrics (whole.pipeline owner).reader event =
      some (reader, metrics, accepted)) (network : Network) :
    ∃ pending, TapFlow session
      ({ whole with network }.setTap owner { whole.tap owner with reader, tapRx })
      (past ++ accepted.toList.map (.recordTapRx owner)) pending := by
  by_cases own : owner = session
  · subst own
    obtain ⟨waiting, moves⟩ := tapReader_frames sent read
    have running : (whole.tap owner).reader.isReturned = false := tapReader_running read
    refine ⟨waiting, ?_, ?_, ?_⟩
    · rw [tapAcceptedBy_append, networkOf_append, tapAcceptedBy_reader, if_pos rfl,
        networkOf_reader, List.append_nil, flow.accepted, flow.reading running]
      have moved : (whole.tap owner).tapRx.items ++ (whole.tap owner).reader.frame.toList ++
          accepted.toList = tapRx.items ++ waiting.toList := moves.moved
      simp only [TapNetwork.setTap, Function.update_self, List.append_assoc] at moved ⊢
      rw [moved]
    · simpa [TapNetwork.setTap] using moves.running
    · intro unstarted
      rw [networkOf_append, networkOf_reader, List.append_nil] at unstarted
      rw [(flow.absent unstarted).1] at running
      contradiction
  · refine ⟨pending, flow.elsewhere ?_ ?_ ?_⟩
    · simp [TapNetwork.setTap, Function.update_of_ne (Ne.symm own)]
    · rw [tapAcceptedBy_reader, if_neg own]
    · rw [networkOf_reader]
      rfl

/-- The exchange takes the first frame of the channel of its own session. -/
theorem TapFlow.take {session : UInt64} {whole : TapNetwork} {past : List TapNetworkOutput}
    {pending : Option WifiFrame} {event : ExchangeEvent} {tapRx : Channel WifiFrame 1}
    {network : Network} {outputs : List NetworkOutput} (flow : TapFlow session whole past pending)
    (received : (whole.pipeline whole.network.host.session).receive event = some tapRx)
    (taken : (takenBy session outputs).map (·.t.frame) =
      if whole.network.host.session = session then event.receivedFrame.toList else []) :
    TapFlow session
      ⟨network, Function.update whole.tap whole.network.host.session
        { whole.tap whole.network.host.session with tapRx }⟩
      (past ++ outputs.map .network) pending := by
  by_cases own : whole.network.host.session = session
  · rw [if_pos own] at taken
    subst own
    have items := receive_items received
    refine ⟨?_, ?_, ?_⟩
    · rw [tapAcceptedBy_append, networkOf_append, tapAcceptedBy_network, networkOf_network,
        takenBy_append, List.map_append, taken, List.append_nil, flow.accepted]
      have same : (whole.tap whole.network.host.session).tapRx.items =
          event.receivedFrame.toList ++ tapRx.items := items
      simp [same]
    · simpa using flow.reading
    · intro unstarted
      rw [networkOf_append, sessionsOf_append, List.mem_append, not_or] at unstarted
      obtain ⟨side, nothing⟩ := flow.absent unstarted.1
      rw [tapAcceptedBy_append, tapAcceptedBy_network, List.append_nil]
      refine ⟨?_, nothing⟩
      -- The channel of a session that never started is empty and stays so.
      have empty : tapRx = .empty := by
        have same : (whole.tap whole.network.host.session).tapRx.items =
          event.receivedFrame.toList ++ tapRx.items := items
        rw [side] at same
        ext1
        exact (List.append_eq_nil_iff.mp same.symm).2
      simp [side, empty, TapSide.absent]
  · rw [if_neg own, List.map_eq_nil_iff] at taken
    refine flow.elsewhere ?_ (tapAcceptedBy_network _ _) ?_
    · simp [Function.update_of_ne (Ne.symm own)]
    · rwa [networkOf_network]

theorem TapFlow.start {session : UInt64} {whole : TapNetwork} {past : List TapNetworkOutput}
    {pending : Option WifiFrame} (flow : TapFlow session whole past pending) (id : UInt64)
    (network : Network)
    (once : (sessionsOf (networkOf (past ++ [.network (.session id)]))).count session ≤ 1) :
    ∃ pending, TapFlow session ⟨network, Function.update whole.tap id .spawned⟩
      (past ++ [.network (.session id)]) pending := by
  by_cases own : id = session
  · subst own
    have unstarted : id ∉ sessionsOf (networkOf past) := by
      rw [networkOf_append, sessionsOf_append, List.count_append,
        show (sessionsOf (networkOf [.network (.session id)])).count id = 1 by
          simp [networkOf, sessionsOf, NetworkOutput.sessionId]] at once
      rw [← List.count_eq_zero]
      omega
    obtain ⟨side, nothing⟩ := flow.absent unstarted
    have untaken : takenBy id (networkOf past) = [] := by
      have accepted := flow.accepted
      rw [nothing, eq_comm, List.append_eq_nil_iff, List.append_eq_nil_iff,
        List.map_eq_nil_iff] at accepted
      exact accepted.1.1
    refine ⟨none, ?_, ?_, ?_⟩
    · rw [tapAcceptedBy_append, nothing, networkOf_append, takenBy_append, untaken]
      simp [tapAcceptedBy, networkOf, takenBy, takenOf, TapSide.spawned, Channel.empty]
    · intro _
      simp [TapSide.spawned, TapReader.frame]
    · intro still
      simp [networkOf, sessionsOf, NetworkOutput.sessionId] at still
  · refine ⟨pending, flow.elsewhere ?_ rfl rfl⟩
    simp [Function.update_of_ne (Ne.symm own)]

theorem TapFlow.step {recoveryTimeout : Option Nat} {session : UInt64} {whole next : TapNetwork}
    {past outputs : List TapNetworkOutput} {pending : Option WifiFrame} {event : TapNetworkEvent}
    (flow : TapFlow session whole past pending)
    (once : (sessionsOf (networkOf (past ++ outputs))).count session ≤ 1)
    (stepped : whole.step recoveryTimeout event = some (next, outputs)) :
    ∃ pending, TapFlow session next (past ++ outputs) pending := by
  cases TapNetwork.step_moves stepped with
  | cancel owner =>
      by_cases own : owner = session
      · subst own
        rw [List.append_nil]
        refine ⟨pending, ?_, ?_, ?_⟩
        · simpa [TapNetwork.setTap] using flow.accepted
        · simpa [TapNetwork.setTap] using flow.reading
        · intro unstarted
          obtain ⟨side, nothing⟩ := flow.absent unstarted
          exact ⟨by simp [TapNetwork.setTap, side, TapSide.absent], nothing⟩
      · refine ⟨pending, flow.elsewhere ?_ rfl rfl⟩
        simp [TapNetwork.setTap, Function.update_of_ne (Ne.symm own)]
  | reader sent read => exact flow.readerStep sent read _
  | @network event tap network outputs received moved =>
      have taken := Network.step_taken moved session
      cases event with
      | session id =>
          cases received
          cases Network.step_moves moved with
          | session _ returned => exact flow.start id _ once
      | host event =>
          simp only [TapNetwork.receive, bind, Option.bind_eq_some_iff, pure,
            Option.some.injEq] at received
          obtain ⟨tapRx, received, rfl⟩ := received
          exact ⟨pending, flow.take received taken⟩
      | deliver | loseRequest | loseResponse | arrive | device =>
          cases received
          refine ⟨pending, flow.elsewhere rfl (tapAcceptedBy_network _ _) ?_⟩
          rw [networkOf_network, ← List.map_eq_nil_iff, taken]
          split <;> rfl

theorem TapNetwork.run_flow {recoveryTimeout : Option Nat} {injector : EndpointFaultInjector}
    {events : List TapNetworkEvent} {whole : TapNetwork} {trace : List TapNetworkOutput}
    (ran : Machine.run (TapNetwork.step recoveryTimeout) (.start injector) events =
      some (whole, trace))
    {session : UInt64} (once : (sessionsOf (networkOf trace)).count session ≤ 1) :
    ∃ pending, TapFlow session whole trace pending := by
  have initially : (sessionsOf (networkOf [])).count session ≤ 1 →
      ∃ pending, TapFlow session (.start injector) [] pending :=
    fun _ => ⟨none, rfl, fun _ => rfl, fun _ => ⟨rfl, rfl⟩⟩
  have kept := Machine.run_invariant
    (fun whole past => (sessionsOf (networkOf past)).count session ≤ 1 →
      ∃ pending, TapFlow session whole past pending) (fun _ => True) ?_ (fun _ _ => trivial)
    initially ran
  · rw [List.nil_append] at kept
    exact kept once
  · rintro whole past event next outputs _ flow stepped once
    have earlier : (sessionsOf (networkOf past)).count session ≤ 1 := by
      rw [networkOf_append, sessionsOf_append, List.count_append] at once
      omega
    obtain ⟨pending, flow⟩ := flow earlier
    exact flow.step once stepped

end Lamella

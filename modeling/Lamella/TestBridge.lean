import Lamella.EndToEnd
import Lamella.MachineSimulation
import Lamella.Progress
import Lamella.TestBridgeCore

/-!
The test-mode bridge behaves like the NUSB bridge to everyone but itself: each of its runs is, up
to responses that were given up, a run of `wifi_exchange` without a recovery deadline.  Delivery
between smoltcp and the radio follows.
-/

namespace Lamella

inductive TestMoves (peer : Address) (exchange : TestExchange) :
    TestEvent → TestExchange → List ExchangeOutput → Prop
  | empty (now : Nat) (phase : exchange.phase = .tryRecv) :
      TestMoves peer exchange (.tryRecv now none) { exchange with phase := .beginRx } []
  | oversized {buffer : List UInt8} (now : Nat) (phase : exchange.phase = .tryRecv)
      (refused : WifiFrame.extendFromSlice buffer = none) :
      TestMoves peer exchange (.tryRecv now (some buffer))
        { exchange with txCount := exchange.txCount + 1, phase := .beginRx } []
  | beginTx {buffer : List UInt8} {frame : WifiFrame} (now : Nat)
      (phase : exchange.phase = .tryRecv)
      (fits : WifiFrame.extendFromSlice buffer = some frame) :
      TestMoves peer exchange (.tryRecv now (some buffer))
        { exchange with
          txCount := exchange.txCount + 1
          start := now
          nextTransactionId := exchange.nextTransactionId + 1
          phase := .retry (.tx ⟨⟨exchange.session, exchange.nextTransactionId⟩, frame⟩) }
        [.began (.tx ⟨⟨exchange.session, exchange.nextTransactionId⟩, frame⟩)]
  | beginRx (phase : exchange.phase = .beginRx) :
      TestMoves peer exchange .beginRx
        { exchange with
          nextTransactionId := exchange.nextTransactionId + 1
          phase := .retry (.rx ⟨⟨exchange.session, exchange.nextTransactionId⟩⟩) }
        [.began (.rx ⟨⟨exchange.session, exchange.nextTransactionId⟩⟩)]
  | request {request : Request} (now : Nat) (phase : exchange.phase = .retry request) :
      TestMoves peer exchange (.request now)
        { exchange with phase := .await request (now + testResponseTimeout) }
        [.requested request peer .primary false]
  | accept {request : Request} {timeoutAt : Nat} {response : Response} (now : Nat)
      (phase : exchange.phase = .await request timeoutAt)
      (kind : response.direction = request.direction)
      (same : response.transaction = request.transaction) :
      TestMoves peer exchange (.resolved now (.ok response))
        (exchange.matched now request response).1
        (.resolved request .primary (.ok response) :: (exchange.matched now request response).2)
  | mismatch {request : Request} {timeoutAt : Nat} {response : Response} (now : Nat)
      (phase : exchange.phase = .await request timeoutAt)
      (kind : response.direction = request.direction)
      (other : response.transaction ≠ request.transaction) :
      TestMoves peer exchange (.resolved now (.ok response))
        { exchange with phase := .retry request } [.resolved request .primary (.ok response)]
  | fail {request : Request} {timeoutAt : Nat} (now : Nat) (error : ReqRespError)
      (phase : exchange.phase = .await request timeoutAt) :
      TestMoves peer exchange (.resolved now (.error error))
        { exchange with phase := .retry request } [.resolved request .primary (.error error)]
  | timeout {request : Request} {timeoutAt : Nat} (now : Nat)
      (phase : exchange.phase = .await request timeoutAt) (due : timeoutAt ≤ now) :
      TestMoves peer exchange (.timeout now) { exchange with phase := .retry request } []
  | cancel {request : Request} {timeoutAt : Nat}
      (phase : exchange.phase = .await request timeoutAt) :
      TestMoves peer exchange .cancelled { exchange with phase := .returned }
        [.returned .cancelled]

theorem bridgeErgotToSmoltcp_moves {peer : Address} {exchange next : TestExchange}
    {event : TestEvent} {outputs : List ExchangeOutput}
    (stepped : bridgeErgotToSmoltcp peer exchange event = some (next, outputs)) :
    TestMoves peer exchange event next outputs := by
  unfold bridgeErgotToSmoltcp at stepped
  split at stepped
  case h_1 phase =>
      cases stepped
      exact .empty _ phase
  case h_2 phase =>
      dsimp only at stepped
      split at stepped
      · rename_i refused
        cases stepped
        exact .oversized _ phase refused
      · rename_i fits
        cases stepped
        exact .beginTx _ phase fits
  case h_3 phase =>
      cases stepped
      exact .beginRx phase
  case h_4 phase =>
      cases stepped
      exact .request _ phase
  case h_5 request _ now result phase =>
      split at stepped
      case isFalse => contradiction
      case isTrue admitted =>
          cases result with
          | error error =>
              cases stepped
              exact .fail now error phase
          | ok response =>
              have kind : response.direction = request.direction := by
                simpa [Request.admits] using admitted
              by_cases same : response.transaction = request.transaction
              · simp only [TestExchange.resolve, same, ↓reduceIte, Option.some.injEq,
                  Prod.mk.injEq] at stepped
                obtain ⟨rfl, rfl⟩ := stepped
                exact .accept now phase kind same
              · simp only [TestExchange.resolve, same, ↓reduceIte, Option.some.injEq,
                  Prod.mk.injEq] at stepped
                obtain ⟨rfl, rfl⟩ := stepped
                exact .mismatch now phase kind same
  case h_6 phase =>
      split at stepped
      case isFalse => contradiction
      case isTrue due =>
          cases stepped
          exact .timeout _ phase due
  case h_7 phase =>
      cases stepped
      exact .cancel phase
  case h_8 => contradiction

/-! The production exchange in the same state. -/

inductive SamePhase : TestPhase → ExchangePhase → Prop
  | tryRecv : SamePhase .tryRecv .tryRecv
  | beginRx : SamePhase .beginRx .beginRx
  | retry (request : Request) : SamePhase (.retry request) (.retry request)
  | await (request : Request) (timeoutAt : Nat) {attempt : Attempt}
      (first : attempt.wait.phase = .primaryOnly) (sent : attempt.primaryDropped = false) :
      SamePhase (.await request timeoutAt) (.await request attempt)
  | returned : SamePhase .returned (.returned .cancelled)

theorem SamePhase.eq_tryRecv {phase : ExchangePhase} (same : SamePhase .tryRecv phase) :
    phase = .tryRecv := by
  cases same
  rfl

structure Mirrors (test : TestExchange) (exchange : Exchange) : Prop where
  session : exchange.session = test.session
  nextTransactionId : exchange.nextTransactionId = test.nextTransactionId
  uninjected : exchange.injector.remaining = 0
  phase : SamePhase test.phase exchange.phase

/-- What the two bridges say alike.  A production request that is given up resolves with an
error where the test-mode request is dropped. -/
def Echoes (said outputs : List ExchangeOutput) : Prop :=
  said = outputs ∨ outputs = [] ∧ ∃ request error, said = [.resolved request .primary (.error error)]

/-- The production exchange after `tap_device.send`, which the test-mode bridge does not have. -/
def Exchange.written (exchange : Exchange) : Exchange :=
  match exchange.phase with
  | .tapSend frame =>
      { exchange with
        metrics := tapSent exchange.metrics (.ok frame.data.length), phase := .tryRecv }
  | _ => exchange

/-- The production event that stands for an event of the test-mode bridge.  A request that is
dropped after its timeout counts as one that failed. -/
def TestEvent.production (peer : Address) : TestEvent → ExchangeEvent
  | .tryRecv _ received => .tryRecv (received.bind WifiFrame.extendFromSlice)
  | .beginRx => .beginRx
  | .request now => .attempt now peer
  | .resolved now result => .wait now (.resolved .primary result)
  | .timeout now => .wait now (.resolved .primary (.error ⟨0⟩))
  | .cancelled => .wait 0 .cancelled

theorem TestExchange.matched_mirrored {test : TestExchange} {exchange : Exchange} (now : Nat)
    (request : Request) (response : Response) (session : exchange.session = test.session)
    (nextTransactionId : exchange.nextTransactionId = test.nextTransactionId)
    (uninjected : exchange.injector.remaining = 0) :
    (exchange.matched request response).2 = (test.matched now request response).2 ∧
      Mirrors (test.matched now request response).1
        (exchange.matched request response).1.written := by
  unfold Exchange.matched TestExchange.matched
  cases request.direction with
  | tx => exact ⟨rfl, session, nextTransactionId, uninjected, .beginRx⟩
  | rx => cases response.frame <;> exact ⟨rfl, session, nextTransactionId, uninjected, .tryRecv⟩

theorem wifiExchange_resolved {exchange : Exchange} {request : Request} {attempt : Attempt}
    {result : Except ReqRespError Response} (phase : exchange.phase = .await request attempt)
    (first : attempt.wait.phase = .primaryOnly) (sent : attempt.primaryDropped = false)
    (admitted : request.admits result = true) (now : Nat) :
    wifiExchange none exchange (.wait now (.resolved .primary result)) =
      some ((exchange.finishAttempt request (.completed ⟨result, none, false, 0⟩)).1,
        .resolved request .primary result ::
          (exchange.finishAttempt request (.completed ⟨result, none, false, 0⟩)).2) := by
  have admits : attempt.admits request (.resolved .primary result) = true := by
    cases result <;> simp_all [Request.admits, Attempt.admits, Attempt.dropped]
  simp only [wifiExchange, phase, Exchange.waitStep, admits, ↓reduceIte,
    awaitEndpointResponseWithTimeouts, first, WaitPhase.polls, Wait.resolve]
  rfl

theorem TestMoves.mirrored {peer : Address} {test next : TestExchange} {event : TestEvent}
    {outputs : List ExchangeOutput} (moved : TestMoves peer test event next outputs)
    {exchange : Exchange} (mirrors : Mirrors test exchange) :
    ∃ after said, wifiExchange none exchange (event.production peer) = some (after, said) ∧
      Echoes said outputs ∧ Mirrors next after.written := by
  obtain ⟨session, nextTransactionId, exchangePhase, injector, metrics⟩ := exchange
  obtain ⟨sameSession, sameId, uninjected, samePhase⟩ := mirrors
  dsimp only at sameSession sameId uninjected samePhase
  subst sameSession sameId
  cases moved with
  | empty now phase =>
      rw [phase] at samePhase
      cases samePhase
      exact ⟨_, _, rfl, .inl rfl, rfl, rfl, uninjected, .beginRx⟩
  | oversized now phase refused =>
      rw [phase] at samePhase
      cases samePhase
      simp only [TestEvent.production, Option.bind_some, refused]
      exact ⟨_, _, rfl, .inl rfl, rfl, rfl, uninjected, .beginRx⟩
  | beginTx now phase fits =>
      rw [phase] at samePhase
      cases samePhase
      simp only [TestEvent.production, Option.bind_some, fits]
      exact ⟨_, _, rfl, .inl rfl, rfl, rfl, uninjected, .retry _⟩
  | beginRx phase =>
      rw [phase] at samePhase
      cases samePhase
      exact ⟨_, _, rfl, .inl rfl, rfl, rfl, uninjected, .retry _⟩
  | request now phase =>
      rw [phase] at samePhase
      cases samePhase
      simp only [TestEvent.production, wifiExchange, Exchange.beginAttempt,
        shouldDrop_spent uninjected]
      exact ⟨_, _, rfl, .inl rfl, rfl, rfl, uninjected, .await _ _ rfl rfl⟩
  | @accept request timeoutAt response now phase kind same =>
      rw [phase] at samePhase
      cases samePhase with
      | await _ _ first sent =>
          refine ⟨_, _, wifiExchange_resolved rfl first sent (by simp [Request.admits, kind]) now, ?_⟩
          simp only [Exchange.finishAttempt, afterWait, same, ↓reduceIte]
          have mirrored {exchange : Exchange} (session : exchange.session = test.session) :=
            TestExchange.matched_mirrored now request response session
          exact ⟨.inl (congrArg _ (mirrored rfl rfl uninjected).1), (mirrored rfl rfl uninjected).2⟩
  | mismatch now phase kind other =>
      rw [phase] at samePhase
      cases samePhase with
      | await _ _ first sent =>
          refine ⟨_, _, wifiExchange_resolved rfl first sent (by simp [Request.admits, kind]) now, ?_⟩
          simp only [Exchange.finishAttempt, afterWait, other, ↓reduceIte]
          exact ⟨.inl rfl, rfl, rfl, uninjected, .retry _⟩
  | fail now error phase =>
      rw [phase] at samePhase
      cases samePhase with
      | await _ _ first sent =>
          exact ⟨_, _, wifiExchange_resolved rfl first sent rfl now, .inl rfl, rfl, rfl, uninjected,
            .retry _⟩
  | timeout now phase due =>
      rw [phase] at samePhase
      cases samePhase with
      | await _ _ first sent =>
          exact ⟨_, _, wifiExchange_resolved rfl first sent rfl now, .inr ⟨rfl, _, _, rfl⟩, rfl,
            rfl, uninjected, .retry _⟩
  | cancel phase =>
      rw [phase] at samePhase
      cases samePhase
      exact ⟨_, _, rfl, .inl rfl, rfl, rfl, uninjected, .returned⟩

/-! The whole of exchange, link and device. -/

/-- What is left of an output when the results of single requests are not told. -/
def NetworkOutput.visible : NetworkOutput → Option NetworkOutput
  | .host _ (.resolved _ _ _) => none
  | output => some output

def TestNetworkOutput.bridged : TestNetworkOutput → Option NetworkOutput
  | .network output => some output
  | _ => none

def TestNetworkOutput.visible (output : TestNetworkOutput) : Option NetworkOutput :=
  output.bridged.bind NetworkOutput.visible

structure Simulates (whole : TestNetwork) (network : Network) : Prop where
  host : Mirrors whole.host network.host
  device : network.device = whole.device
  paths : network.toPaths = whole.toPaths

def TestNetwork.production (whole : TestNetwork) (host : Exchange) : Network :=
  ⟨whole.toPaths, host, whole.device⟩

theorem Simulates.eq_production {whole : TestNetwork} {network : Network}
    (simulates : Simulates whole network) : network = whole.production network.host := by
  obtain ⟨_, device, paths⟩ := simulates
  rw [TestNetwork.production, ← device, ← paths]

theorem Network.run_written (network : Network) :
    ∃ events, Machine.run (Network.step none) network events =
      some ({ network with host := network.host.written }, []) := by
  unfold Exchange.written
  split
  · rename_i frame phase
    refine ⟨[.host (.tapSent (.ok frame.data.length))], Machine.run_single ?_⟩
    simp only [Network.step, ExchangeEvent.isResponse, wifiExchange, phase]
    rfl
  · exact ⟨[], rfl⟩

theorem Echoes.absorbHost {said outputs : List ExchangeOutput} (echoes : Echoes said outputs)
    (whole : TestNetwork) (host : TestExchange) (exchange after : Exchange) :
    ((whole.production exchange).absorbHost after said).1 =
        (whole.absorbHost host outputs).1.production after ∧
      ((whole.production exchange).absorbHost after said).2.filterMap NetworkOutput.visible =
        (whole.absorbHost host outputs).2.filterMap TestNetworkOutput.visible := by
  rcases echoes with rfl | ⟨rfl, request, error, rfl⟩
  · refine ⟨rfl, ?_⟩
    rw [TestNetwork.absorbHost, List.filterMap_map]
    rfl
  · exact ⟨rfl, rfl⟩

theorem absorbDevice_visible (whole : TestNetwork) (exchange : Exchange) (device : Device)
    (outputs : List DeviceOutput) :
    ((whole.production exchange).absorbDevice device outputs).2.filterMap NetworkOutput.visible =
      (whole.absorbDevice device outputs).2.filterMap TestNetworkOutput.visible := by
  rw [TestNetwork.absorbDevice, List.filterMap_map]
  rfl

theorem TestNetwork.exchange_simulated {peer : Address} {whole next : TestNetwork}
    {event : TestEvent} {outputs : List TestNetworkOutput}
    (stepped : whole.exchange peer event = some (next, outputs)) {exchange : Exchange}
    (mirrors : Mirrors whole.host exchange) {network : Network} {networkEvent : NetworkEvent}
    (enabled : ∀ after said, wifiExchange none exchange (event.production peer) =
      some (after, said) → network.step none networkEvent =
        some ((whole.production exchange).absorbHost after said)) :
    ∃ events after shown, Machine.run (Network.step none) network events = some (after, shown) ∧
      shown.filterMap NetworkOutput.visible = outputs.filterMap TestNetworkOutput.visible ∧
      Simulates next after := by
  unfold TestNetwork.exchange at stepped
  split at stepped
  · contradiction
  · rename_i host said moved
    cases stepped
    obtain ⟨after, echoed, exchanged, echoes, mirrored⟩ :=
      (bridgeErgotToSmoltcp_moves moved).mirrored mirrors
    obtain ⟨state, visible⟩ := echoes.absorbHost whole host exchange after
    obtain ⟨later, finished⟩ :=
      Network.run_written ((whole.absorbHost host said).1.production after)
    rw [← state] at finished
    have ran := Machine.run_append (Machine.run_single (enabled after echoed exchanged)) finished
    refine ⟨_, _, _, ran, by rwa [List.append_nil], ?_⟩
    rw [state]
    exact ⟨mirrored, rfl, rfl⟩

theorem TestNetwork.step_simulated {peer : Address} {whole next : TestNetwork}
    {network : Network} {event : TestNetworkEvent} {outputs : List TestNetworkOutput}
    (simulates : Simulates whole network)
    (stepped : whole.step peer event = some (next, outputs)) :
    ∃ events after shown, Machine.run (Network.step none) network events = some (after, shown) ∧
      shown.filterMap NetworkOutput.visible = outputs.filterMap TestNetworkOutput.visible ∧
      Simulates next after := by
  have mirrors := simulates.host
  rw [simulates.eq_production]
  generalize network.host = exchange at mirrors
  have host {event : ExchangeEvent} (unanswered : event.isResponse = false) (after : Exchange)
      (said : List ExchangeOutput) (exchanged : wifiExchange none exchange event = some (after, said)) :
      (whole.production exchange).step none (.host event) =
        some ((whole.production exchange).absorbHost after said) := by
    simp only [Network.step, unanswered, TestNetwork.production, exchanged]
    rfl
  cases event with
  | consume buffer =>
      simp only [TestNetwork.step] at stepped
      split at stepped <;> cases stepped <;> exact ⟨[], _, [], rfl, rfl, mirrors, rfl, rfl⟩
  | receive =>
      simp only [TestNetwork.step] at stepped
      split at stepped
      · contradiction
      · cases stepped
        exact ⟨[], _, [], rfl, rfl, mirrors, rfl, rfl⟩
  | tryRecv now =>
      simp only [TestNetwork.step] at stepped
      split at stepped
      · exact TestNetwork.exchange_simulated stepped mirrors (host rfl)
      · exact TestNetwork.exchange_simulated stepped mirrors (host rfl)
  | beginRx => exact TestNetwork.exchange_simulated stepped mirrors (host rfl)
  | request now => exact TestNetwork.exchange_simulated stepped mirrors (host rfl)
  | fail now error => exact TestNetwork.exchange_simulated stepped mirrors (host rfl)
  | timeout now => exact TestNetwork.exchange_simulated stepped mirrors (host rfl)
  | cancelled => exact TestNetwork.exchange_simulated stepped mirrors (host rfl)
  | deliver direction position now =>
      simp only [TestNetwork.step] at stepped
      split at stepped
      · contradiction
      · rename_i packet found
        have delivered (after : Exchange) (said : List ExchangeOutput)
            (exchanged : wifiExchange none exchange (.wait now (.resolved .primary (.ok packet.t))) =
              some (after, said)) :
            (whole.production exchange).step none (.deliver direction position now .primary) =
              some (((whole.setPath direction { whole.path direction with
                responses := (whole.path direction).responses.eraseIdx position }).production
                  exchange).absorbHost after said) := by
          simp only [Network.step, TestNetwork.production, found, exchanged]
          rfl
        exact TestNetwork.exchange_simulated stepped mirrors delivered
  | loseRequest direction position =>
      cases stepped
      exact ⟨[.loseRequest direction position], _, _, Machine.run_single rfl, rfl, mirrors, rfl, rfl⟩
  | loseResponse direction position =>
      cases stepped
      exact ⟨[.loseResponse direction position], _, _, Machine.run_single rfl, rfl, mirrors, rfl, rfl⟩
  | arrive direction =>
      simp only [TestNetwork.step] at stepped
      split at stepped
      · contradiction
      · rename_i packet link first
        split at stepped
        · contradiction
        · rename_i device said received
          cases stepped
          have arrived : (whole.production exchange).step none (.arrive direction) =
              some (((whole.setPath direction { whole.path direction with link }).production
                exchange).absorbDevice device said) := by
            simp only [Network.step, TestNetwork.production, first, received]
            rfl
          exact ⟨_, _, _, Machine.run_single arrived,
            absorbDevice_visible (whole.setPath direction { whole.path direction with link }) exchange
              device said, mirrors, rfl, rfl⟩
  | device task =>
      simp only [TestNetwork.step] at stepped
      split at stepped
      · contradiction
      · rename_i device said worked
        cases stepped
        have polled : (whole.production exchange).step none (.device task) =
            some ((whole.production exchange).absorbDevice device said) := by
          simp only [Network.step, TestNetwork.production, worked]
        exact ⟨_, _, _, Machine.run_single polled, absorbDevice_visible whole exchange device said,
          mirrors, rfl, rfl⟩

theorem TestNetwork.start_simulated (session : UInt64) :
    ∃ network, Machine.run (Network.step none) (Network.start .default) [.session session] =
      some (network, [.session session]) ∧ Simulates (.start session) network :=
  ⟨_, Machine.run_single rfl, ⟨rfl, rfl, rfl, .tryRecv⟩, rfl, rfl⟩

/-! The frames between smoltcp and the exchange. -/

def stackSentOf (trace : List TestNetworkOutput) : List (List UInt8) :=
  trace.filterMap fun
    | .consumed buffer => some buffer
    | _ => none

def stackReceivedOf (trace : List TestNetworkOutput) : List (List UInt8) :=
  trace.filterMap fun
    | .received frame => some frame
    | _ => none

def bridgedOf (trace : List TestNetworkOutput) : List NetworkOutput :=
  trace.filterMap TestNetworkOutput.bridged

def TestEvent.received : TestEvent → List (List UInt8)
  | .tryRecv _ received => received.toList
  | _ => []

/-- `lost` is what was in the channel when the exchange dropped its receiver. -/
structure TestFlow (whole : TestNetwork) (trace : List TestNetworkOutput)
    (lost : List (List UInt8)) : Prop where
  running : whole.host.phase.isReturned = false → lost = []
  sent : (stackSentOf trace).filterMap WifiFrame.extendFromSlice =
    (takenOf (bridgedOf trace)).map (·.t.frame) ++
      (lost ++ whole.txReceiver).filterMap WifiFrame.extendFromSlice
  txCount : (stackSentOf trace).length =
    whole.host.txCount + (lost ++ whole.txReceiver).length
  received : (writesOf (bridgedOf trace)).map (·.2.data) = stackReceivedOf trace ++ whole.rxQueue
  rxCount : whole.host.rxCount = (writesOf (bridgedOf trace)).length
  sessions : sessionsOf (bridgedOf trace) = []

theorem writesOf_pushed (paths : Paths) (outputs : List ExchangeOutput) :
    (writesOf (paths.numbered outputs)).map (·.2.data) = outputs.filterMap TestNetwork.pushed := by
  rw [writesOf, Paths.numbered, List.filterMap_map, List.map_filterMap]
  congr 1
  funext output
  cases output <;> rfl

/-- What a step of the exchange does with the frames. -/
structure FrameEffect (exchange : TestExchange) (event : TestEvent) (next : TestExchange)
    (outputs : List ExchangeOutput) (paths : Paths) : Prop where
  running : exchange.phase.isReturned = false
  ends : next.phase.isReturned = true ↔ event = .cancelled
  taken : (takenOf (paths.numbered outputs)).map (·.t.frame) =
    event.received.filterMap WifiFrame.extendFromSlice
  txCount : next.txCount = exchange.txCount + event.received.length
  rxCount : next.rxCount = exchange.rxCount + (outputs.filterMap TestNetwork.pushed).length

theorem TestMoves.frameEffect {peer : Address} {exchange next : TestExchange} {event : TestEvent}
    {outputs : List ExchangeOutput} (moved : TestMoves peer exchange event next outputs)
    (paths : Paths) : FrameEffect exchange event next outputs paths := by
  cases moved with
  | @accept request timeoutAt response now phase kind same =>
      unfold TestExchange.matched
      cases request.direction with
      | tx =>
          constructor <;>
            simp [phase, TestPhase.isReturned, takenOf, Paths.numbered, TestEvent.received,
              TestNetwork.pushed]
      | rx =>
          cases response.frame <;> constructor <;>
            simp [phase, TestPhase.isReturned, takenOf, Paths.numbered, TestEvent.received,
              TestNetwork.pushed, List.filterMap_cons]
  | _ =>
      constructor <;>
        simp [*, TestPhase.isReturned, takenOf, Paths.numbered, TestEvent.received,
          TestNetwork.pushed]

theorem stackSentOf_append (past outputs : List TestNetworkOutput) :
    stackSentOf (past ++ outputs) = stackSentOf past ++ stackSentOf outputs := by
  simp [stackSentOf]

theorem stackReceivedOf_append (past outputs : List TestNetworkOutput) :
    stackReceivedOf (past ++ outputs) = stackReceivedOf past ++ stackReceivedOf outputs := by
  simp [stackReceivedOf]

theorem bridgedOf_append (past outputs : List TestNetworkOutput) :
    bridgedOf (past ++ outputs) = bridgedOf past ++ bridgedOf outputs := by
  simp [bridgedOf]

theorem takenOf_append (past outputs : List NetworkOutput) :
    takenOf (past ++ outputs) = takenOf past ++ takenOf outputs := by
  simp [takenOf]

theorem writesOf_append (past outputs : List NetworkOutput) :
    writesOf (past ++ outputs) = writesOf past ++ writesOf outputs := by
  simp [writesOf]

/-- Outputs of the bridge are not calls of the stack. -/
theorem stack_silent (said : List NetworkOutput) :
    stackSentOf (said.map .network) = [] ∧ stackReceivedOf (said.map .network) = [] ∧
      bridgedOf (said.map .network) = said := by
  refine ⟨?_, ?_, ?_⟩
  · simp [stackSentOf]
  · simp [stackReceivedOf]
  · rw [bridgedOf, List.filterMap_map]
    exact List.filterMap_some

theorem TestFlow.exchange {peer : Address} {before whole next : TestNetwork}
    {trace outputs : List TestNetworkOutput} {event : TestEvent} {lost left : List (List UInt8)}
    (flow : TestFlow before trace lost)
    (stepped : whole.exchange peer event = some (next, outputs))
    (host : whole.host = before.host) (rxQueue : whole.rxQueue = before.rxQueue)
    (split : before.txReceiver = event.received ++ (left ++ whole.txReceiver))
    (stays : event ≠ .cancelled → left = []) : TestFlow next (trace ++ outputs) left := by
  unfold TestNetwork.exchange at stepped
  split at stepped
  · contradiction
  · rename_i after said moved
    cases stepped
    have effect := (bridgeErgotToSmoltcp_moves moved).frameEffect (whole.toPaths.absorbHost said)
    rw [host] at effect
    have held := flow.running effect.running
    subst held
    obtain ⟨sent, received, bridged⟩ :=
      stack_silent ((whole.toPaths.absorbHost said).numbered said)
    refine ⟨?_, ?_, ?_, ?_, ?_, ?_⟩
    · intro running
      refine stays fun cancelled => ?_
      rw [← effect.ends] at cancelled
      exact absurd cancelled (by simpa using running)
    · rw [stackSentOf_append, bridgedOf_append, takenOf_append, sent, bridged,
        List.append_nil, List.map_append, effect.taken, flow.sent, split]
      simp
    · rw [stackSentOf_append, sent, List.append_nil, flow.txCount, split,
        effect.txCount]
      simp [Nat.add_assoc]
    · rw [stackReceivedOf_append, bridgedOf_append, writesOf_append, received,
        bridged, List.append_nil, List.map_append, writesOf_pushed, flow.received, rxQueue]
      simp
    · rw [bridgedOf_append, writesOf_append, bridged, List.length_append,
        effect.rxCount, flow.rxCount, ← writesOf_pushed, List.length_map]
    · rw [bridgedOf_append, sessionsOf_append, bridged, flow.sessions, Paths.numbered_sessions]
      rfl

/-- A step of the stack, the link or the device. -/
theorem TestFlow.aside {before next : TestNetwork} {trace outputs : List TestNetworkOutput}
    {lost : List (List UInt8)} (flow : TestFlow before trace lost) (host : next.host = before.host)
    (untaken : takenOf (bridgedOf outputs) = []) (unwritten : writesOf (bridgedOf outputs) = [])
    (unopened : sessionsOf (bridgedOf outputs) = [])
    (txReceiver : next.txReceiver = before.txReceiver ++ stackSentOf outputs)
    (rxQueue : before.rxQueue = stackReceivedOf outputs ++ next.rxQueue) :
    TestFlow next (trace ++ outputs) lost := by
  refine ⟨?_, ?_, ?_, ?_, ?_, ?_⟩
  · rw [host]
    exact flow.running
  · rw [stackSentOf_append, bridgedOf_append, takenOf_append, untaken, txReceiver, List.append_nil,
      List.filterMap_append, flow.sent]
    simp
  · rw [stackSentOf_append, List.length_append, flow.txCount, host, txReceiver]
    simp [Nat.add_assoc]
  · rw [stackReceivedOf_append, bridgedOf_append, writesOf_append, unwritten, List.append_nil,
      flow.received, rxQueue, List.append_assoc]
  · rw [bridgedOf_append, writesOf_append, unwritten, host, List.append_nil]
    exact flow.rxCount
  · rw [bridgedOf_append, sessionsOf_append, unopened, flow.sessions]
    rfl

theorem TestFlow.elsewhere {before next : TestNetwork} {trace : List TestNetworkOutput}
    {lost : List (List UInt8)} (flow : TestFlow before trace lost) (host : next.host = before.host)
    (txReceiver : next.txReceiver = before.txReceiver) (rxQueue : next.rxQueue = before.rxQueue)
    (said : List DeviceOutput) :
    TestFlow next (trace ++ (said.map NetworkOutput.device).map .network) lost := by
  obtain ⟨sent, received, bridged⟩ := stack_silent (said.map .device)
  refine flow.aside host ?_ ?_ ?_ ?_ ?_
  · rw [bridged]
    simp [takenOf]
  · rw [bridged]
    simp [writesOf]
  · rw [bridged]
    simp [sessionsOf, NetworkOutput.sessionId]
  · rw [sent, List.append_nil, txReceiver]
  · rw [received, List.nil_append, rxQueue]

theorem TestFlow.step {peer : Address} {whole next : TestNetwork} {event : TestNetworkEvent}
    {trace outputs : List TestNetworkOutput} {lost : List (List UInt8)}
    (flow : TestFlow whole trace lost)
    (stepped : whole.step peer event = some (next, outputs)) :
    ∃ left, TestFlow next (trace ++ outputs) left := by
  have stays {event : TestEvent} : event ≠ .cancelled → ([] : List (List UInt8)) = [] := fun _ => rfl
  cases event with
  | consume buffer =>
      simp only [TestNetwork.step] at stepped
      split at stepped
      · cases stepped
        refine ⟨lost, flow.elsewhere ?_ ?_ ?_ []⟩ <;> rfl
      · cases stepped
        exact ⟨lost, flow.aside rfl rfl rfl rfl rfl rfl⟩
  | receive =>
      simp only [TestNetwork.step] at stepped
      split at stepped
      · contradiction
      · rename_i frame rest queue
        cases stepped
        exact ⟨lost, flow.aside rfl rfl rfl rfl (List.append_nil _).symm queue⟩
  | tryRecv now =>
      simp only [TestNetwork.step] at stepped
      split at stepped
      · exact ⟨[], flow.exchange stepped rfl rfl rfl stays⟩
      · rename_i buffer rest queue
        exact ⟨[], flow.exchange stepped rfl rfl (by rw [queue]; rfl) stays⟩
  | beginRx => exact ⟨[], flow.exchange stepped rfl rfl rfl stays⟩
  | request now => exact ⟨[], flow.exchange stepped rfl rfl rfl stays⟩
  | fail now error => exact ⟨[], flow.exchange stepped rfl rfl rfl stays⟩
  | timeout now => exact ⟨[], flow.exchange stepped rfl rfl rfl stays⟩
  | cancelled =>
      refine ⟨whole.txReceiver, flow.exchange stepped rfl rfl ?_ fun other => absurd rfl other⟩
      exact (List.append_nil _).symm
  | deliver direction position now =>
      simp only [TestNetwork.step] at stepped
      split at stepped
      · contradiction
      · exact ⟨[], flow.exchange stepped rfl rfl rfl stays⟩
  | loseRequest direction position =>
      cases stepped
      refine ⟨lost, flow.elsewhere ?_ ?_ ?_ []⟩ <;> rfl
  | loseResponse direction position =>
      cases stepped
      refine ⟨lost, flow.elsewhere ?_ ?_ ?_ []⟩ <;> rfl
  | arrive direction =>
      simp only [TestNetwork.step] at stepped
      split at stepped
      · contradiction
      · split at stepped
        · contradiction
        · cases stepped
          refine ⟨lost, flow.elsewhere ?_ ?_ ?_ _⟩ <;> rfl
  | device task =>
      simp only [TestNetwork.step] at stepped
      split at stepped
      · contradiction
      · cases stepped
        refine ⟨lost, flow.elsewhere ?_ ?_ ?_ _⟩ <;> rfl

theorem TestNetwork.run_flow {peer : Address} {session : UInt64} {events : List TestNetworkEvent}
    {whole : TestNetwork} {trace : List TestNetworkOutput}
    (ran : Machine.run (TestNetwork.step peer) (.start session) events = some (whole, trace)) :
    ∃ lost, TestFlow whole trace lost := by
  have initially : ∃ lost, TestFlow (.start session) [] lost :=
    ⟨[], fun _ => rfl, rfl, rfl, rfl, rfl, rfl⟩
  refine Machine.run_record (fun whole _ trace => ∃ lost, TestFlow whole trace lost) ?_ initially ran
  rintro whole _ past event next output ⟨lost, flow⟩ stepped
  exact flow.step stepped

/-! What does not look at the results of single requests is the same in both bridges. -/

theorem filterMap_visible {Item : Type} (observe : NetworkOutput → Option Item)
    (blind : ∀ number request source result,
      observe (.host number (.resolved request source result)) = none)
    (trace : List NetworkOutput) :
    (trace.filterMap NetworkOutput.visible).filterMap observe = trace.filterMap observe := by
  rw [List.filterMap_filterMap]
  congr 1
  funext output
  unfold NetworkOutput.visible
  split
  · exact (blind _ _ _ _).symm
  · rfl

theorem visible_bridgedOf (trace : List TestNetworkOutput) :
    trace.filterMap TestNetworkOutput.visible =
      (bridgedOf trace).filterMap NetworkOutput.visible := by
  rw [bridgedOf, List.filterMap_filterMap]
  rfl

section

variable {peer : Address} {session : UInt64} {events : List TestNetworkEvent}
  {whole : TestNetwork} {trace : List TestNetworkOutput}
  (ran : Machine.run (TestNetwork.step peer) (.start session) events = some (whole, trace))

include ran

theorem TestNetwork.run_simulated :
    ∃ networkEvents network shown,
      Machine.run (Network.step none) (Network.start .default) networkEvents =
          some (network, .session session :: shown) ∧
        shown.filterMap NetworkOutput.visible = (bridgedOf trace).filterMap NetworkOutput.visible ∧
        Simulates whole network := by
  obtain ⟨started, begun, initially⟩ := TestNetwork.start_simulated session
  obtain ⟨networkEvents, network, shown, continued, same, simulates⟩ :=
    Machine.run_simulates TestNetworkOutput.visible NetworkOutput.visible Simulates
      (fun _ _ _ _ _ => TestNetwork.step_simulated) initially ran
  rw [visible_bridgedOf] at same
  exact ⟨_, network, shown, Machine.run_append begun continued, same, simulates⟩

/-- The test-mode bridge loses nothing between smoltcp and the radio.  The frames smoltcp sent
are those handed over to the radio, in order, and then, while the exchange runs, at most one in
the current transaction and those in the channel; only oversized buffers are skipped.  The frames
of legal length the radio delivered are those smoltcp received, in order, and then those in the
queue, at most one in the current transaction, and those on the device.  The counters of the
statistics agree with both. -/
theorem testBridge_delivery (bounded : (issuedOf (bridgedOf trace)).length < 2 ^ 32) :
    (∃ missing : List WifiFrame,
        (stackSentOf trace).filterMap WifiFrame.extendFromSlice =
          (handedOf (deviceOf (bridgedOf trace))).map (·.t.frame) ++ missing ∧
        (whole.host.phase.isReturned = false → ∃ unserved : List WifiFrame,
          unserved.length ≤ 1 ∧ (whole.host.phase = .tryRecv → unserved = []) ∧
          missing = unserved ++ whole.txReceiver.filterMap WifiFrame.extendFromSlice ∧
          (stackSentOf trace).length = whole.host.txCount + whole.txReceiver.length)) ∧
      ∃ pending : List WifiFrame, pending.length ≤ 1 ∧
        ((consumedOf (deviceOf (bridgedOf trace))).filterMap WifiFrame.extendFromSlice).map
            (·.data) =
          stackReceivedOf trace ++ whole.rxQueue ++
            (pending ++ whole.device.wifiToHost.items ++
              whole.device.bridge.heldFrame.toList).map (·.data) ∧
        whole.host.rxCount = (stackReceivedOf trace).length + whole.rxQueue.length := by
  obtain ⟨networkEvents, network, shown, networkRan, same, simulates⟩ :=
    TestNetwork.run_simulated ran
  obtain ⟨lost, flow⟩ := TestNetwork.run_flow ran
  have observed {Item : Type} (observe : NetworkOutput → Option Item)
      (blind : ∀ number request source result,
        observe (.host number (.resolved request source result)) = none) :
      shown.filterMap observe = (bridgedOf trace).filterMap observe := by
    rw [← filterMap_visible observe blind, same, filterMap_visible observe blind]
  have device : deviceOf (.session session :: shown) = deviceOf (bridgedOf trace) :=
    observed _ fun _ _ _ _ => rfl
  have taken : takenOf (.session session :: shown) = takenOf (bridgedOf trace) :=
    observed _ fun _ _ _ _ => rfl
  have writes : writesOf (.session session :: shown) = writesOf (bridgedOf trace) :=
    observed _ fun _ _ _ _ => rfl
  have issued : issuedOf (.session session :: shown) = issuedOf (bridgedOf trace) :=
    observed _ fun _ _ _ _ => rfl
  have sessions : sessionsOf (.session session :: shown) = [session] := by
    refine congrArg (List.cons session) ?_
    exact (observed NetworkOutput.sessionId fun _ _ _ _ => rfl).trans flow.sessions
  have distinct : (sessionsOf (.session session :: shown)).Nodup := by simp [sessions]
  have only : ∀ other ∈ sessionsOf (.session session :: shown), other = session := by
    simp [sessions]
  have few (id : UInt64) : (issuedBy id (.session session :: shown)).length < 2 ^ 32 := by
    refine Nat.lt_of_le_of_lt (List.length_filter_le _ _) ?_
    rwa [issued]
  obtain ⟨deviceEvents, deviceRan⟩ := Network.run_device networkRan
  refine ⟨?_, ?_⟩
  · obtain ⟨unserved, short, settled, split⟩ := takenOf_single networkRan distinct few only
    rw [taken, device] at split
    refine ⟨unserved.map (·.t.frame) ++
      (lost ++ whole.txReceiver).filterMap WifiFrame.extendFromSlice, ?_, ?_⟩
    · rw [flow.sent, split]
      simp
    · intro running
      have held := flow.running running
      subst held
      refine ⟨_, by rwa [List.length_map], ?_, rfl, flow.txCount⟩
      intro atTop
      have phase : network.host.phase = .tryRecv := SamePhase.eq_tryRecv (atTop ▸ simulates.host.phase)
      have session : network.host.runningSession = some network.host.session := by
        rw [Exchange.runningSession, phase]
        rfl
      have own := only _ ((Network.run_allNumbered networkRan .tx).running _ session)
      rw [own] at session
      have idle : network.host.phase.request = none := by
        rw [phase]
        rfl
      rw [settled session (HostView.current_of_idle idle .tx), List.map_nil]
  · obtain ⟨pending, short, split⟩ := removedOf_single networkRan distinct few only
    obtain ⟨passed, waiting⟩ := Device.run_rxPipeline deviceRan
    rw [waiting, ← removedOf_frames, split, device, simulates.device] at passed
    refine ⟨pending, short, ?_, ?_⟩
    · rw [← passed, ← flow.received, writtenOf, writes]
      simp
    · rw [flow.rxCount, ← List.length_append, ← flow.received, List.length_map]

end

/-- The first request of a frame is lost and sent again after its timeout; an oversized buffer is
skipped. -/
def sampleTestEvents : List TestNetworkEvent :=
  [.consume [255, 1], .consume (List.replicate 1515 0), .tryRecv 0, .request 0,
    .loseRequest .tx 0, .timeout 250, .request 250, .arrive .tx, .device (.txServer true),
    .device (.bridge ⟨true, none, 0⟩), .device (.bridge ⟨true, none, 0⟩),
    .device (.bridge ⟨true, none, 0⟩), .device (.bridge ⟨true, none, 3⟩),
    .device (.txServer true), .device (.txServer true), .deliver .tx 0 254,
    .device (.bridge ⟨true, some [1, 2], 0⟩), .device (.bridge ⟨true, none, 0⟩), .beginRx,
    .request 255, .arrive .rx, .device (.rxServer false true), .device (.rxServer false true),
    .deliver .rx 0 256, .receive, .tryRecv 257]

def sampleTestRun : Option (TestNetwork × List TestNetworkOutput) :=
  Machine.run (TestNetwork.step samplePeer) (.start 7) sampleTestEvents

theorem testBridge_delivery_sample :
    ∃ whole trace, sampleTestRun = some (whole, trace) ∧
      (handedOf (deviceOf (bridgedOf trace))).map (·.t.frame) = [sampleTapFrame] ∧
      stackReceivedOf trace = [[1, 2]] ∧
      ∃ missing : List WifiFrame,
        (stackSentOf trace).filterMap WifiFrame.extendFromSlice =
          (handedOf (deviceOf (bridgedOf trace))).map (·.t.frame) ++ missing := by
  have reached : sampleTestRun.map (fun result =>
      ((handedOf (deviceOf (bridgedOf result.2))).map (·.t.frame), stackReceivedOf result.2)) =
        some ([sampleTapFrame], [[1, 2]]) := by
    decide +kernel
  have issued : sampleTestRun.map (fun result => (issuedOf (bridgedOf result.2)).length) =
      some 2 := by
    decide +kernel
  obtain ⟨⟨whole, trace⟩, ran, seen⟩ := Option.map_eq_some_iff.mp reached
  obtain ⟨handed, received⟩ := Prod.mk.inj seen
  rw [ran, Option.map_some, Option.some.injEq] at issued
  have bounded : (issuedOf (bridgedOf trace)).length < 2 ^ 32 := by
    rw [issued]
    decide
  obtain ⟨missing, split, _⟩ := (testBridge_delivery ran bounded).1
  exact ⟨whole, trace, ran, handed, received, missing, split⟩

end Lamella

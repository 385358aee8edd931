import Lamella.Accounting
import Lamella.ExchangeTurns
import Lamella.TapPipelineCore

/-!
The frames between the TAP device and the acknowledged transactions.  Every accepted frame is
completed, owned by the exchange, in the channel or pending in the reader, and these stand in
the order in which the frames were accepted.
-/

namespace Lamella

def ExchangePhase.txFrame (phase : ExchangePhase) : Option WifiFrame :=
  phase.request.bind Request.txFrame

def ExchangeOutput.begunFrame : ExchangeOutput → Option WifiFrame
  | .began request => request.txFrame
  | _ => none

def ExchangeOutput.completedFrame : ExchangeOutput → Option WifiFrame
  | .acknowledged request _ => request.txFrame
  | _ => none

def TapReader.isReturned : TapReader → Bool
  | .returned => true
  | .recv | .sleep | .send _ => false

def TapReader.frame : TapReader → Option WifiFrame
  | .send frame => some frame
  | .recv | .sleep | .returned => none

def TapPipelineOutput.acceptedFrame : TapPipelineOutput → Option WifiFrame
  | .recordTapRx frame => some frame
  | .exchange _ => none

def TapPipelineOutput.begunFrame : TapPipelineOutput → Option WifiFrame
  | .recordTapRx _ => none
  | .exchange output => output.begunFrame

def TapPipelineOutput.completedFrame : TapPipelineOutput → Option WifiFrame
  | .recordTapRx _ => none
  | .exchange output => output.completedFrame

def acceptedFrames (trace : List TapPipelineOutput) : List WifiFrame :=
  trace.filterMap TapPipelineOutput.acceptedFrame

def begunFrames (trace : List TapPipelineOutput) : List WifiFrame :=
  trace.filterMap TapPipelineOutput.begunFrame

def completedFrames (trace : List TapPipelineOutput) : List WifiFrame :=
  trace.filterMap TapPipelineOutput.completedFrame

/-! One step of the exchange and one of the reader. -/

structure FrameStep (exchange : Exchange) (event : ExchangeEvent) (next : Exchange)
    (outputs : List ExchangeOutput) (owned : Option WifiFrame) : Prop where
  begun : outputs.filterMap ExchangeOutput.begunFrame = event.receivedFrame.toList
  completed : exchange.phase.txFrame.toList ++ event.receivedFrame.toList =
    outputs.filterMap ExchangeOutput.completedFrame ++ owned.toList
  running : next.phase.isReturned = false → owned = next.phase.txFrame

theorem FrameStep.keep {exchange next : Exchange} {event : ExchangeEvent}
    {outputs : List ExchangeOutput}
    (begun : outputs.filterMap ExchangeOutput.begunFrame = [])
    (completed : outputs.filterMap ExchangeOutput.completedFrame = [])
    (untaken : event.receivedFrame = none)
    (same : next.phase.isReturned = false → exchange.phase.txFrame = next.phase.txFrame) :
    FrameStep exchange event next outputs exchange.phase.txFrame := by
  refine ⟨?_, ?_, same⟩
  · rw [begun, untaken]
    rfl
  · rw [completed, untaken]
    exact List.append_nil _

theorem tapWrite_frames (request : Request) (response : Response) :
    (tapWrite request response).filterMap ExchangeOutput.begunFrame = [] ∧
      (tapWrite request response).filterMap ExchangeOutput.completedFrame = [] := by
  rcases tapWrite_cases request response with written | ⟨frame, written⟩ <;> rw [written] <;>
    exact ⟨rfl, rfl⟩

theorem ExchangePhase.txFrame_of_idle {phase : ExchangePhase} (idle : phase.isIdle = true) :
    phase.txFrame = none := by
  rw [ExchangePhase.txFrame, (ExchangePhase.request_of_idle idle).1]
  rfl

theorem wifiExchange_frames {recoveryTimeout : Option Nat} {exchange next : Exchange}
    {event : ExchangeEvent} {outputs : List ExchangeOutput}
    (stepped : wifiExchange recoveryTimeout exchange event = some (next, outputs)) :
    ∃ owned, FrameStep exchange event next outputs owned := by
  cases wifiExchange_moves stepped with
  | skip phase => exact ⟨_, .keep rfl rfl rfl fun _ => by rw [phase]; rfl⟩
  | beginTx frame phase =>
      refine ⟨some frame, rfl, ?_, fun _ => rfl⟩
      rw [phase]
      rfl
  | beginRx phase => exact ⟨_, .keep rfl rfl rfl fun _ => by rw [phase]; rfl⟩
  | attempt now peer phase => exact ⟨_, .keep rfl rfl rfl fun _ => by rw [phase]; rfl⟩
  | log now warningAt phase => exact ⟨_, .keep rfl rfl rfl fun _ => by rw [phase]; rfl⟩
  | backup now warningAt phase => exact ⟨_, .keep rfl rfl rfl fun _ => by rw [phase]; rfl⟩
  | fail now source error phase => exact ⟨_, .keep rfl rfl rfl fun _ => by rw [phase]; rfl⟩
  | mismatch now source phase => exact ⟨_, .keep rfl rfl rfl fun _ => by rw [phase]; rfl⟩
  | giveUp now source phase => exact ⟨_, .keep rfl rfl rfl fun _ => by rw [phase]; rfl⟩
  | @accept request attempt response now source phase =>
      obtain ⟨begun, completed⟩ := tapWrite_frames request response
      refine ⟨none, begun, ?_, fun _ => ?_⟩
      · have acknowledged (outputs : List ExchangeOutput) :
            (ExchangeOutput.resolved request source (.ok response) ::
              .acknowledged request response :: outputs).filterMap ExchangeOutput.completedFrame =
            request.txFrame.toList ++ outputs.filterMap ExchangeOutput.completedFrame := by
          cases request <;> rfl
        rw [phase, acknowledged, completed, List.append_nil]
        rfl
      · exact (ExchangePhase.txFrame_of_idle (afterMatch_isIdle request response)).symm
  | recover => exact ⟨_, .keep rfl rfl rfl nofun⟩
  | cancel => exact ⟨_, .keep rfl rfl rfl nofun⟩
  | tapSent result phase => exact ⟨_, .keep rfl rfl rfl fun _ => by rw [phase]; rfl⟩

structure ReaderStep (pipeline : TapPipeline) (tapRx : Channel WifiFrame 1) (next : TapReader)
    (accepted pending : Option WifiFrame) : Prop where
  moved : pipeline.tapRx.items ++ pipeline.reader.frame.toList ++ accepted.toList =
    tapRx.items ++ pending.toList
  running : next.isReturned = false → pending = next.frame

theorem tapReader_frames {pipeline : TapPipeline} {event : TapReaderEvent}
    {tapRx : Channel WifiFrame 1} {next : TapReader} {metrics : BridgeMetrics}
    {accepted : Option WifiFrame} (sent : pipeline.send event = some tapRx)
    (stepped : tapReader pipeline.exchange.metrics pipeline.reader event =
      some (next, metrics, accepted)) :
    ∃ pending, ReaderStep pipeline tapRx next accepted pending := by
  unfold tapReader at stepped
  unfold TapPipeline.send at sent
  split at stepped
  case h_1 reader buffer reading =>
      cases sent
      split at stepped
      case isTrue =>
          cases stepped
          exact ⟨none, by simp [reading, TapReader.frame], fun _ => rfl⟩
      case isFalse =>
          split at stepped
          case h_1 =>
              cases stepped
              exact ⟨none, by simp [reading, TapReader.frame], fun _ => rfl⟩
          case h_2 frame _ =>
              cases stepped
              exact ⟨some frame, by simp [reading, TapReader.frame], fun _ => rfl⟩
  case h_2 reading =>
      cases sent
      cases stepped
      exact ⟨none, by simp [reading, TapReader.frame], fun _ => rfl⟩
  case h_3 reading =>
      cases sent
      cases stepped
      exact ⟨none, by simp [reading, TapReader.frame], fun _ => rfl⟩
  case h_4 frame sending =>
      cases stepped
      simp only [sending, Channel.trySend_eq_some_iff] at sent
      exact ⟨none, by simp [sending, sent.2, TapReader.frame], fun _ => rfl⟩
  case h_5 frame sending =>
      cases stepped
      simp only [Option.ite_none_right_eq_some, Option.some.injEq] at sent
      exact ⟨some frame, by simp [sending, ← sent.2, TapReader.frame], nofun⟩
  case h_6 reading =>
      cases stepped
      simp only [Option.ite_none_right_eq_some, Option.some.injEq] at sent
      exact ⟨none, by simp [reading, ← sent.2, TapReader.frame], nofun⟩
  case h_7 frame sending =>
      cases stepped
      simp only [Option.ite_none_right_eq_some, Option.some.injEq] at sent
      exact ⟨some frame, by simp [sending, ← sent.2, TapReader.frame], nofun⟩
  case h_8 => contradiction

theorem tapReader_running {metrics : BridgeMetrics} {reader : TapReader} {event : TapReaderEvent}
    {result : TapReader × BridgeMetrics × Option WifiFrame}
    (stepped : tapReader metrics reader event = some result) : reader.isReturned = false := by
  cases reader with
  | returned => contradiction
  | recv | sleep | send => rfl

theorem receive_items {pipeline : TapPipeline} {event : ExchangeEvent}
    {tapRx : Channel WifiFrame 1} (received : pipeline.receive event = some tapRx) :
    pipeline.tapRx.items = event.receivedFrame.toList ++ tapRx.items := by
  unfold TapPipeline.receive at received
  split at received
  case h_1 frame =>
      split at received
      case h_1 first rest taken =>
          simp only [Option.ite_none_right_eq_some, Option.some.injEq] at received
          obtain ⟨rfl, rfl⟩ := received
          exact (Channel.tryReceive_eq_some_iff _ _ _).mp taken
      case h_2 empty =>
          simp only [Option.ite_none_right_eq_some, Option.some.injEq] at received
          obtain ⟨rfl, rfl⟩ := received
          rfl
  case h_2 =>
      simp only [Option.ite_none_right_eq_some, Option.some.injEq] at received
      rw [received.2]
      rfl
  case h_3 untried _ =>
      cases received
      cases event with
      | tryRecv frame => exact absurd rfl (untried frame)
      | _ => rfl

/-! Whole sessions. -/

structure LossFree (pipeline : TapPipeline) (trace : List TapPipelineOutput)
    (owned pending : Option WifiFrame) : Prop where
  begun : begunFrames trace = completedFrames trace ++ owned.toList
  accepted : acceptedFrames trace =
    completedFrames trace ++ owned.toList ++ pipeline.tapRx.items ++ pending.toList
  exchanging : pipeline.exchange.phase.isReturned = false → owned = pipeline.exchange.phase.txFrame
  reading : pipeline.reader.isReturned = false → pending = pipeline.reader.frame

theorem acceptedFrames_append (past outputs : List TapPipelineOutput) :
    acceptedFrames (past ++ outputs) = acceptedFrames past ++ acceptedFrames outputs :=
  List.filterMap_append

theorem begunFrames_append (past outputs : List TapPipelineOutput) :
    begunFrames (past ++ outputs) = begunFrames past ++ begunFrames outputs :=
  List.filterMap_append

theorem completedFrames_append (past outputs : List TapPipelineOutput) :
    completedFrames (past ++ outputs) = completedFrames past ++ completedFrames outputs :=
  List.filterMap_append

theorem accepted_exchange (outputs : List ExchangeOutput) :
    acceptedFrames (outputs.map .exchange) = [] := by
  simp [acceptedFrames, TapPipelineOutput.acceptedFrame]

theorem begun_exchange (outputs : List ExchangeOutput) :
    begunFrames (outputs.map .exchange) = outputs.filterMap ExchangeOutput.begunFrame := by
  rw [begunFrames, List.filterMap_map]
  rfl

theorem completed_exchange (outputs : List ExchangeOutput) :
    completedFrames (outputs.map .exchange) = outputs.filterMap ExchangeOutput.completedFrame := by
  rw [completedFrames, List.filterMap_map]
  rfl

theorem frames_accepted (accepted : Option WifiFrame) :
    acceptedFrames (accepted.toList.map .recordTapRx) = accepted.toList ∧
      begunFrames (accepted.toList.map .recordTapRx) = [] ∧
      completedFrames (accepted.toList.map .recordTapRx) = [] := by
  cases accepted <;> exact ⟨rfl, rfl, rfl⟩

theorem LossFree.step {recoveryTimeout : Option Nat} {pipeline next : TapPipeline}
    {event : TapPipelineEvent} {past outputs : List TapPipelineOutput}
    {owned pending : Option WifiFrame} (held : LossFree pipeline past owned pending)
    (stepped : pipeline.step recoveryTimeout event = some (next, outputs)) :
    ∃ owned pending, LossFree next (past ++ outputs) owned pending := by
  cases event with
  | cancel =>
      cases stepped
      rw [List.append_nil]
      exact ⟨owned, pending, held.begun, held.accepted, held.exchanging, held.reading⟩
  | reader event =>
      simp only [TapPipeline.step, bind, Option.bind_eq_some_iff, pure, Option.some.injEq,
        Prod.mk.injEq, Prod.exists] at stepped
      obtain ⟨tapRx, sent, reader, metrics, accepted, read, rfl, rfl⟩ := stepped
      obtain ⟨waiting, moves⟩ := tapReader_frames sent read
      obtain ⟨fresh, unbegun, uncompleted⟩ := frames_accepted accepted
      refine ⟨owned, waiting, ?_, ?_, held.exchanging, moves.running⟩
      · rw [begunFrames_append, completedFrames_append, unbegun, uncompleted, held.begun]
        simp
      · rw [acceptedFrames_append, completedFrames_append, fresh, uncompleted, held.accepted,
          held.reading (tapReader_running read)]
        have moved := moves.moved
        simp only [List.append_assoc, List.nil_append] at moved ⊢
        rw [moved]
  | exchange event =>
      simp only [TapPipeline.step, bind, Option.bind_eq_some_iff, pure, Option.some.injEq,
        Prod.mk.injEq, Prod.exists] at stepped
      obtain ⟨tapRx, received, exchange, said, stepped, rfl, rfl⟩ := stepped
      obtain ⟨kept, moves⟩ := wifiExchange_frames stepped
      have mine := held.exchanging (wifiExchange_running stepped)
      have completed := moves.completed
      rw [← mine] at completed
      refine ⟨kept, pending, ?_, ?_, moves.running, held.reading⟩
      · rw [begunFrames_append, completedFrames_append, begun_exchange, completed_exchange,
          held.begun, moves.begun]
        simp only [List.append_assoc]
        rw [completed]
      · rw [acceptedFrames_append, completedFrames_append, accepted_exchange, completed_exchange,
          held.accepted, receive_items received]
        simp only [List.append_assoc, List.append_nil]
        rw [← List.append_assoc owned.toList, completed]
        simp only [List.append_assoc]

/-- In every state of a session, whatever its tasks and the cancellation do, the accepted frames
are those of the completed transactions followed by at most one frame of the exchange, one in
the channel and one of the reader, so that at most three are discarded when it ends. -/
theorem tapPipeline_lossFree {recoveryTimeout : Option Nat} {session : UInt64}
    {injector : EndpointFaultInjector} {metrics : BridgeMetrics} {events : List TapPipelineEvent}
    {pipeline : TapPipeline} {trace : List TapPipelineOutput}
    (ran : Machine.run (TapPipeline.step recoveryTimeout) (.start session injector metrics) events =
      some (pipeline, trace)) :
    (∃ owned pending, LossFree pipeline trace owned pending) ∧
      (acceptedFrames trace).length ≤ (completedFrames trace).length + 3 := by
  have held : ∃ owned pending, LossFree pipeline trace owned pending := by
    rw [← List.nil_append trace]
    refine Machine.run_invariant (fun pipeline trace => ∃ owned pending,
      LossFree pipeline trace owned pending) (fun _ => True) ?_ (fun _ _ => trivial) ?_ ran
    · rintro pipeline past event next outputs _ ⟨owned, pending, held⟩ stepped
      exact held.step stepped
    · exact ⟨none, none, rfl, rfl, fun _ => rfl, fun _ => rfl⟩
  refine ⟨held, ?_⟩
  obtain ⟨owned, pending, held⟩ := held
  have bounded := pipeline.tapRx.bounded
  have : owned.toList.length ≤ 1 := Option.length_toList_le
  have : pending.toList.length ≤ 1 := Option.length_toList_le
  rw [held.accepted]
  simp only [List.length_append]
  omega

/-- The transaction of the first of four frames completes.  The session is cancelled while the
exchange waits for the acknowledgement of the second, with the third in the channel and the
fourth in the reader. -/
def sampleDiscarding : List TapPipelineEvent :=
  [.reader (.recv (.ok [4])), .reader (.sent true),
    .exchange (.tryRecv (WifiFrame.extendFromSlice [4])), .exchange (.attempt 0 ⟨1, 2, 0⟩),
    .exchange (.wait 1 (.resolved .primary (.ok (.tx ⟨⟨7, 0⟩⟩)))), .exchange .beginRx,
    .exchange (.attempt 1 ⟨1, 2, 0⟩),
    .exchange (.wait 2 (.resolved .primary (.ok (.rx ⟨⟨7, 1⟩, none⟩)))),
    .reader (.recv (.ok [5])), .reader (.sent true),
    .exchange (.tryRecv (WifiFrame.extendFromSlice [5])), .exchange (.attempt 2 ⟨1, 2, 0⟩),
    .reader (.recv (.ok [6])), .reader (.sent true), .reader (.recv (.ok [7])), .cancel,
    .exchange (.wait 3 .cancelled), .reader .cancelled]

theorem tapPipeline_lossFree_sample :
    ∃ pipeline trace, Machine.run (TapPipeline.step (some endpointRecoveryTimeout))
        (.start 7 .default {}) sampleDiscarding = some (pipeline, trace) ∧
      (acceptedFrames trace).map (·.data) = [[4], [5], [6], [7]] ∧
      (completedFrames trace).map (·.data) = [[4]] ∧
      ∃ owned pending, LossFree pipeline trace owned pending := by
  have reached : (Machine.run (TapPipeline.step (some endpointRecoveryTimeout))
      (.start 7 .default {}) sampleDiscarding).map (fun result =>
        ((acceptedFrames result.2).map (·.data), (completedFrames result.2).map (·.data))) =
      some ([[4], [5], [6], [7]], [[4]]) := by
    decide +kernel
  obtain ⟨⟨pipeline, trace⟩, ran, seen⟩ := Option.map_eq_some_iff.mp reached
  obtain ⟨accepted, completed⟩ := Prod.mk.inj seen
  exact ⟨pipeline, trace, ran, accepted, completed, (tapPipeline_lossFree ran).1⟩

end Lamella

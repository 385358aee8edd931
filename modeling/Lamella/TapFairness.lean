import Mathlib.Data.List.Chain
import Lamella.TapPipeline

/-!
How `wifi_exchange` shares its loop between the two directions.  The channel is looked at
before each RX transaction, so a queued frame waits for at most one of them, and each TX
transaction is followed by an RX transaction.
-/

namespace Lamella

def TapPipelineOutput.begunRequest : TapPipelineOutput → Option Request
  | .recordTapRx _ => none
  | .exchange output => output.begunRequest

def begunRequests (trace : List TapPipelineOutput) : List Request :=
  trace.filterMap TapPipelineOutput.begunRequest

theorem begunRequests_append (past outputs : List TapPipelineOutput) :
    begunRequests (past ++ outputs) = begunRequests past ++ begunRequests outputs :=
  List.filterMap_append

theorem begunRequests_exchange (outputs : List ExchangeOutput) :
    begunRequests (outputs.map .exchange) = outputs.filterMap ExchangeOutput.begunRequest := by
  rw [begunRequests, List.filterMap_map]
  rfl

theorem begunRequests_accepted (accepted : Option WifiFrame) :
    begunRequests (accepted.toList.map .recordTapRx) = [] := by
  cases accepted <;> rfl

/-! One step of the tasks. -/

theorem send_queued {pipeline : TapPipeline} {event : TapReaderEvent} {tapRx : Channel WifiFrame 1}
    {frame : WifiFrame} (queued : pipeline.tapRx.items = [frame])
    (sent : pipeline.send event = some tapRx) : tapRx.items = [frame] := by
  unfold TapPipeline.send at sent
  split at sent
  case h_1 =>
      -- the channel is full
      split at sent
      case h_1 => simp [Channel.trySend_eq_some_iff, queued] at sent
      case h_2 => contradiction
  case h_2 | h_3 =>
      obtain ⟨_, same⟩ := Option.ite_none_right_eq_some.mp sent
      cases same
      exact queued
  case h_4 | h_5 =>
      cases sent
      exact queued

theorem receive_none {pipeline : TapPipeline} {tapRx : Channel WifiFrame 1}
    (received : pipeline.receive (.tryRecv none) = some tapRx) : pipeline.tapRx.items = [] := by
  simp only [TapPipeline.receive] at received
  split at received
  case h_1 => simp at received
  case h_2 empty => exact (Channel.tryReceive_eq_none_iff _).mp empty

inductive PipelineTurn (pipeline next : TapPipeline) : List Request → Prop
  | idle (same : next.exchange.phase = pipeline.exchange.phase)
      (kept : ∀ frame, pipeline.tapRx.items = [frame] → next.tapRx.items = [frame]) :
      PipelineTurn pipeline next []
  | exchange {event : ExchangeEvent} {begun : List Request}
      (received : pipeline.tapRx.items = event.receivedFrame.toList ++ next.tapRx.items)
      (empty : event = .tryRecv none → pipeline.tapRx.items = [])
      (running : pipeline.exchange.phase.isReturned = false)
      (turn : ExchangeTurn pipeline.exchange next.exchange event begun) :
      PipelineTurn pipeline next begun

theorem TapPipeline.step_pipelineTurn {recoveryTimeout : Option Nat} {pipeline next : TapPipeline}
    {event : TapPipelineEvent} {outputs : List TapPipelineOutput}
    (stepped : pipeline.step recoveryTimeout event = some (next, outputs)) :
    PipelineTurn pipeline next (begunRequests outputs) := by
  cases event with
  | cancel =>
      cases stepped
      exact .idle rfl fun _ queued => queued
  | reader event =>
      simp only [TapPipeline.step, bind, Option.bind_eq_some_iff, pure, Option.some.injEq,
        Prod.mk.injEq, Prod.exists] at stepped
      obtain ⟨tapRx, sent, reader, metrics, accepted, read, rfl, rfl⟩ := stepped
      rw [begunRequests_accepted]
      exact .idle rfl fun _ queued => send_queued queued sent
  | exchange event =>
      simp only [TapPipeline.step, bind, Option.bind_eq_some_iff, pure, Option.some.injEq,
        Prod.mk.injEq, Prod.exists] at stepped
      obtain ⟨tapRx, received, exchange, said, stepped, rfl, rfl⟩ := stepped
      rw [begunRequests_exchange]
      refine .exchange (receive_items received) ?_ (wifiExchange_running stepped)
        (wifiExchange_exchangeTurn stepped)
      rintro rfl
      exact receive_none received

/-! A whole run. -/

/-- What has begun since `frame` was found in the channel. -/
inductive Bypassed (frame : WifiFrame) (pipeline : TapPipeline) : List Request → Prop
  | waiting {polls : List Request} (queued : pipeline.tapRx.items = [frame])
      (rx : ∀ request ∈ polls, request.direction = .rx)
      (bound : polls.length + pipeline.exchange.phase.afterTx.toNat ≤ 1) :
      Bypassed frame pipeline polls
  | taken {polls later : List Request} {request : Request} (content : request.txFrame = some frame)
      (rx : ∀ request ∈ polls, request.direction = .rx) (bound : polls.length ≤ 1) :
      Bypassed frame pipeline (polls ++ request :: later)

theorem Bypassed.step {frame : WifiFrame} {pipeline next : TapPipeline}
    {past begun : List Request} (bypassed : Bypassed frame pipeline past)
    (turned : PipelineTurn pipeline next begun) : Bypassed frame next (past ++ begun) := by
  cases bypassed with
  | @taken polls later request content rx bound =>
      rw [List.append_assoc, List.cons_append]
      exact .taken content rx bound
  | waiting queued rx bound =>
      cases turned with
      | idle same kept =>
          rw [List.append_nil]
          exact .waiting (kept frame queued) rx (by rw [same]; exact bound)
      | exchange received empty running turn =>
          rw [queued] at received
          cases turn with
          | pass untaken due kept =>
              rw [untaken] at received
              rw [List.append_nil]
              refine .waiting received.symm rx ?_
              cases after : next.exchange.phase.afterTx with
              | false => exact (Nat.le_add_right _ _).trans bound
              | true =>
                  rcases due after with before | skipped
                  · rwa [before] at bound
                  · simp [queued] at empty
                    contradiction
          | @poll request direction untaken due done =>
              rw [untaken] at received
              rw [due, Bool.toNat_true] at bound
              refine .waiting received.symm ?_ ?_
              · intro other member
                rcases List.mem_append.mp member with earlier | last
                · exact rx other earlier
                · rw [List.mem_singleton.mp last]
                  exact direction
              · rw [done]
                simpa using bound
          | take content taken clear due =>
              rw [taken] at received
              obtain ⟨rfl, _⟩ := List.cons.inj received
              exact .taken content rx ((Nat.le_add_right _ _).trans bound)

/-- Of two successive transactions at most one is TX. -/
structure Shared (pipeline : TapPipeline) (begun : List Request) : Prop where
  chain : begun.IsChain fun first second => first.direction = .tx → second.direction = .rx
  turn : ∀ last ∈ begun.getLast?, last.direction = .tx →
    pipeline.exchange.phase.afterTx = true ∨ pipeline.exchange.phase.isReturned = true

theorem Shared.extend {pipeline next : TapPipeline} {past : List Request} {request : Request}
    (shared : Shared pipeline past)
    (running : pipeline.exchange.phase.isReturned = false)
    (clear : request.direction = .tx → pipeline.exchange.phase.afterTx = false)
    (due : request.direction = .tx → next.exchange.phase.afterTx = true) :
    Shared next (past ++ [request]) := by
  constructor
  · rw [List.isChain_append]
    refine ⟨shared.chain, .singleton _, fun last member other head direction => ?_⟩
    cases Option.mem_some_iff.mp head
    cases kind : request.direction with
    | rx => rfl
    | tx => simpa [clear kind, running] using shared.turn last member direction
  · intro last member direction
    rw [List.getLast?_concat, Option.mem_some_iff] at member
    subst member
    exact .inl (due direction)

theorem Shared.step {pipeline next : TapPipeline} {past begun : List Request}
    (shared : Shared pipeline past) (turned : PipelineTurn pipeline next begun) :
    Shared next (past ++ begun) := by
  cases turned with
  | idle same kept =>
      rw [List.append_nil]
      exact ⟨shared.chain, by rw [same]; exact shared.turn⟩
  | exchange received empty running turn =>
      cases turn with
      | pass untaken due kept =>
          rw [List.append_nil]
          refine ⟨shared.chain, fun last member direction => ?_⟩
          rcases shared.turn last member direction with before | returned
          · exact kept before
          · rw [running] at returned
            contradiction
      | poll direction untaken due done =>
          exact shared.extend running (by simp [direction]) (by simp [direction])
      | take content taken clear due =>
          exact shared.extend running (fun _ => clear) fun _ => due

/-- From any state in which the channel holds a frame, at most one RX transaction begins before
the frame's own TX transaction, which is the next to begin.  In turn no TX transaction begins
right after another. -/
theorem queued_frame_bypassed_once {recoveryTimeout : Option Nat} {pipeline final : TapPipeline}
    {frame : WifiFrame} {events : List TapPipelineEvent} {trace : List TapPipelineOutput}
    (queued : pipeline.tapRx.items = [frame])
    (ran : Machine.run (TapPipeline.step recoveryTimeout) pipeline events = some (final, trace)) :
    (∃ polls rest, begunRequests trace = polls ++ rest ∧ polls.length ≤ 1 ∧
        (∀ request ∈ polls, request.direction = .rx) ∧
        (rest = [] → final.tapRx.items = [frame]) ∧
        ∀ request ∈ rest.head?, request.txFrame = some frame) ∧
      (begunRequests trace).IsChain fun first second =>
        first.direction = .tx → second.direction = .rx := by
  obtain ⟨bypassed, shared⟩ : Bypassed frame final (begunRequests trace) ∧
      Shared final (begunRequests trace) := by
    refine Machine.run_record (fun pipeline _ trace => Bypassed frame pipeline (begunRequests trace) ∧
      Shared pipeline (begunRequests trace)) ?_ ?_ ran
    · rintro pipeline _ past event next outputs ⟨bypassed, shared⟩ stepped
      have turned := TapPipeline.step_pipelineTurn stepped
      rw [begunRequests_append]
      exact ⟨bypassed.step turned, shared.step turned⟩
    · refine ⟨.waiting queued (by simp [begunRequests]) ?_, .nil, by simp [begunRequests]⟩
      simpa [begunRequests] using Bool.toNat_le _
  refine ⟨?_, shared.chain⟩
  generalize begunRequests trace = begun at bypassed
  cases bypassed with
  | waiting queued rx bound =>
      exact ⟨begun, [], by simp, (Nat.le_add_right _ _).trans bound, rx, fun _ => queued, by simp⟩
  | @taken polls later request content rx bound =>
      refine ⟨polls, request :: later, rfl, bound, rx, by simp, ?_⟩
      rintro other member
      cases Option.mem_some_iff.mp member
      exact content

/-- The frame arrives when the exchange has just found the channel empty. -/
def sampleQueued : List TapPipelineEvent :=
  [.exchange (.tryRecv none), .reader (.recv (.ok [4])), .reader (.sent true)]

def sampleBypassing : List TapPipelineEvent :=
  [.exchange .beginRx, .exchange (.attempt 0 ⟨1, 2, 0⟩),
    .exchange (.wait 1 (.resolved .primary (.ok (.rx ⟨⟨7, 0⟩, none⟩)))),
    .exchange (.tryRecv (WifiFrame.extendFromSlice [4]))]

theorem queued_frame_bypassed_once_sample :
    ∃ pipeline final queued trace, pipeline.tapRx.items = [queued] ∧
      Machine.run (TapPipeline.step (some endpointRecoveryTimeout)) pipeline sampleBypassing =
        some (final, trace) ∧
      (begunRequests trace).map Request.direction = [.rx, .tx] ∧
      ∃ polls rest, begunRequests trace = polls ++ rest ∧ polls.length ≤ 1 ∧
        ∀ request ∈ rest.head?, request.txFrame = some queued := by
  have reached : ((Machine.run (TapPipeline.step (some endpointRecoveryTimeout))
      (.start 7 .default {}) sampleQueued).bind fun first =>
        (Machine.run (TapPipeline.step (some endpointRecoveryTimeout)) first.1
          sampleBypassing).map fun second =>
            (first.1.tapRx.items, (begunRequests second.2).map Request.direction)) =
      some ([⟨[4], by decide⟩], [.rx, .tx]) := by
    decide +kernel
  obtain ⟨⟨pipeline, _⟩, _, later⟩ := Option.bind_eq_some_iff.mp reached
  obtain ⟨⟨final, trace⟩, ran, seen⟩ := Option.map_eq_some_iff.mp later
  obtain ⟨queued, directions⟩ := Prod.mk.inj seen
  obtain ⟨⟨polls, rest, begun, bound, _, _, first⟩, _⟩ := queued_frame_bypassed_once queued ran
  exact ⟨pipeline, final, _, trace, queued, ran, directions, polls, rest, begun, bound, first⟩

end Lamella

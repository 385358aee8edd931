import Lamella.ThroughputMoves
import Lamella.NetworkSessions

/-!
The throughput test over a link that loses, delays and reorders: what its counters say about the
frames that were moved, and what a passed test shows.
-/

namespace Lamella

/-! The counters. -/

def NetworkOutput.sent (direction : Direction) : NetworkOutput → Option Nat
  | .host number (.requested request _ _ _) =>
      if request.direction = direction then some number else none
  | _ => none

/-- The attempts at an endpoint, each by the number of its transaction. -/
def sentOf (direction : Direction) (trace : List NetworkOutput) : List Nat :=
  trace.filterMap (NetworkOutput.sent direction)

theorem sentOf_append (direction : Direction) (past output : List NetworkOutput) :
    sentOf direction (past ++ output) = sentOf direction past ++ sentOf direction output :=
  List.filterMap_append

theorem sentOf_device (direction : Direction) (outputs : List DeviceOutput) :
    sentOf direction (outputs.map .device) = [] := by
  simp [sentOf, NetworkOutput.sent]

theorem ThroughputTest.absorbHost_deviceOf (test : ThroughputTest) (worker : Worker)
    (outputs : List ExchangeOutput) : deviceOf (test.absorbHost worker outputs).2 = [] :=
  Paths.numbered_deviceOf _ outputs

def WorkerPhase.awaited : WorkerPhase → Option Request
  | .await request _ => some request
  | .tx | .rx | .retry _ => none

def Worker.awaiting (worker : Worker) (direction : Direction) : Nat :=
  (worker.phase.awaited.filter fun request => request.direction = direction).toList.length

/-- What the counters of a direction say about each other. -/
structure DirectionStats.Consistent (stats : DirectionStats) : Prop where
  bytes : stats.bytes = testFrameSize * stats.frames
  retries : stats.retries = stats.timeouts + stats.endpointErrors + stats.responseMismatches
  integrity : stats.integrityErrors = 0
  slowFrames : stats.slowResponses ≤ stats.frames
  slowest : 0 < stats.slowResponses ↔ slowResponseMicros ≤ stats.maxLatencyMicros

theorem DirectionStats.Consistent.frame {stats : DirectionStats} (consistent : stats.Consistent)
    (micros : Nat) : ((stats.recordLatency micros).recordFrame testFrameSize).Consistent := by
  have slowFrames := consistent.slowFrames
  have slowest := consistent.slowest
  refine ⟨?_, consistent.retries, consistent.integrity, ?_, ?_⟩
  · simp only [DirectionStats.recordFrame, DirectionStats.recordLatency, consistent.bytes, Nat.mul_add,
      Nat.mul_one]
  · simp only [DirectionStats.recordFrame, DirectionStats.recordLatency]
    split <;> omega
  · simp only [DirectionStats.recordFrame, DirectionStats.recordLatency]
    split <;> omega

/-- A retry the firmware's answers leave possible: all but the one for a wrong payload. -/
theorem Retried.consistent {request : Request} {event : WorkerEvent}
    {record : DirectionStats → DirectionStats} (retried : Retried request event record)
    (valid : ∀ now response, event = .resolved now (.ok response) → response.direction = .rx →
      response.frame = some (testFrame deviceFrameByte))
    {stats : DirectionStats} (consistent : stats.Consistent) :
    (record stats).Consistent ∧ (record stats).retries = stats.retries + 1 ∧
      (record stats).frames = stats.frames := by
  have retries := consistent.retries
  cases retried with
  | timeout =>
      refine ⟨{ consistent with retries := ?_ }, rfl, rfl⟩
      simp only [DirectionStats.recordTimeout]
      omega
  | endpointError =>
      refine ⟨{ consistent with retries := ?_ }, rfl, rfl⟩
      simp only [DirectionStats.recordEndpointError]
      omega
  | mismatch =>
      refine ⟨{ consistent with retries := ?_ }, rfl, rfl⟩
      simp only [DirectionStats.recordMismatch]
      omega
  | integrity now response same kind invalid =>
      have refused := invalid _ (valid now response rfl kind)
      simp at refused

/-- What they say about the trace.  Without a retry every transaction was sent once. -/
structure Tallied (direction : Direction) (worker : Worker) (past : List NetworkOutput) :
    Prop where
  consistent : (worker.stats direction).Consistent
  frames : (worker.stats direction).frames = (acknowledgedOf direction past).length
  begun : (begunOf direction past).length =
    (worker.stats direction).frames + (worker.current direction).toList.length
  sent : (sentOf direction past).length =
    (worker.stats direction).frames + (worker.stats direction).retries + worker.awaiting direction
  once : (worker.stats direction).retries = 0 →
    sentOf direction past = List.range ((worker.stats direction).frames + worker.awaiting direction)

theorem Tallied.keep {direction : Direction} {worker : Worker} {past output : List NetworkOutput}
    (tallied : Tallied direction worker past) {next : Worker}
    (stats : next.stats direction = worker.stats direction)
    (current : next.current direction = worker.current direction)
    (awaiting : next.awaiting direction = worker.awaiting direction)
    (acknowledged : acknowledgedOf direction output = []) (begun : begunOf direction output = [])
    (sent : sentOf direction output = []) : Tallied direction next (past ++ output) := by
  obtain ⟨consistent, frames, began, attempts, once⟩ := tallied
  constructor
  all_goals
    simpa only [acknowledgedOf_append, begunOf_append, sentOf_append, acknowledged, begun, sent,
      stats, current, awaiting, List.append_nil]

theorem Worker.awaiting_of_idle {worker : Worker} (idle : worker.phase.request = none)
    (direction : Direction) : worker.awaiting direction = 0 := by
  cases phase : worker.phase with
  | retry request => simp [phase] at idle
  | await request attemptStarted => simp [phase] at idle
  | _ => simp [Worker.awaiting, WorkerPhase.awaited, phase]

theorem Tallied.begin {direction : Direction} {worker next : Worker} {number : Nat}
    {request : Request} {past : List NetworkOutput} (tallied : Tallied direction worker past)
    (own : request.direction = direction) (idle : worker.phase.request = none)
    (stats : next.stats = worker.stats) (phase : next.phase = .retry request) :
    Tallied direction next (past ++ [.host number (.began request)]) := by
  have opened : next.current direction = some request := by simp [Worker.current_eq, phase, own]
  have rests : next.awaiting direction = 0 := by
    simp [Worker.awaiting, phase, WorkerPhase.awaited]
  have unsent : sentOf direction [.host number (.began request)] = [] := rfl
  obtain ⟨consistent, frames, began, attempts, once⟩ := tallied
  rw [Worker.current_of_idle idle] at began
  rw [Worker.awaiting_of_idle idle] at attempts once
  refine ⟨?_, ?_, ?_, ?_, ?_⟩
  · rwa [stats]
  · rw [stats, frames, acknowledgedOf_append]
    simp [acknowledgedOf, NetworkOutput.acknowledged]
  · rw [stats, opened, begunOf_append, List.length_append, began]
    simp [begunOf, NetworkOutput.begun, own]
  · rw [stats, rests, sentOf_append, unsent, List.append_nil, attempts]
  · rw [stats, rests, sentOf_append, unsent, List.append_nil]
    exact once

theorem Tallied.send {direction : Direction} {worker : Worker} {number now : Nat} {peer : Address}
    {request : Request} {past : List NetworkOutput} (tallied : Tallied direction worker past)
    (own : request.direction = direction) (ready : worker.phase = .retry request)
    (numbered : number = (begunOf direction past).length - 1) :
    Tallied direction { worker with phase := .await request now }
      (past ++ [.host number (.requested request peer .primary false)]) := by
  have opened : worker.current direction = some request := by simp [Worker.current_eq, ready, own]
  have rested : worker.awaiting direction = 0 := by
    simp [Worker.awaiting, ready, WorkerPhase.awaited]
  have waits : Worker.awaiting { worker with phase := .await request now } direction = 1 := by
    simp [Worker.awaiting, WorkerPhase.awaited, own]
  have sent : sentOf direction [.host number (.requested request peer .primary false)] =
      [number] := by
    simp [sentOf, NetworkOutput.sent, own]
  have unbegun : begunOf direction [.host number (.requested request peer .primary false)] = [] := rfl
  have still : Worker.current { worker with phase := .await request now } direction =
      some request := by
    simp [Worker.current_eq, own]
  obtain ⟨consistent, frames, began, attempts, once⟩ := tallied
  rw [opened] at began
  rw [rested] at attempts once
  refine ⟨consistent, ?_, ?_, ?_, ?_⟩
  · rw [frames, acknowledgedOf_append]
    simp [acknowledgedOf, NetworkOutput.acknowledged]
  · rw [still, begunOf_append, unbegun, List.append_nil, began]
  · rw [waits, sentOf_append, sent, List.length_append, attempts]
    rfl
  · -- Without a retry the transaction under way has just been begun and not been sent.
    intro unrepeated
    rw [waits, sentOf_append, sent, once unrepeated, List.range_succ, numbered, began]
    simp

theorem Tallied.accept {direction : Direction} {worker next : Worker} {number micros : Nat}
    {attemptStarted : Nat} {request : Request} {response : Response} {past : List NetworkOutput}
    (tallied : Tallied direction worker past) (own : request.direction = direction)
    (waiting : worker.phase = .await request attemptStarted) (idle : next.phase.request = none)
    (stats : next.stats direction =
      ((worker.stats direction).recordLatency micros).recordFrame testFrameSize) :
    Tallied direction next (past ++ [.host number (.acknowledged request response)]) := by
  have opened : worker.current direction = some request := by simp [Worker.current_eq, waiting, own]
  have waits : worker.awaiting direction = 1 := by
    simp [Worker.awaiting, waiting, WorkerPhase.awaited, own]
  have counted : (next.stats direction).frames = (worker.stats direction).frames + 1 ∧
      (next.stats direction).retries = (worker.stats direction).retries := by
    rw [stats]
    exact ⟨rfl, rfl⟩
  have unsent : sentOf direction [.host number (.acknowledged request response)] = [] := rfl
  have unbegun : begunOf direction [.host number (.acknowledged request response)] = [] := rfl
  obtain ⟨consistent, frames, began, attempts, once⟩ := tallied
  rw [opened] at began
  rw [waits] at attempts once
  refine ⟨?_, ?_, ?_, ?_, ?_⟩
  · rw [stats]
    exact consistent.frame micros
  · rw [counted.1, frames, acknowledgedOf_append]
    simp [acknowledgedOf, NetworkOutput.acknowledged, own]
  · rw [counted.1, Worker.current_of_idle idle, begunOf_append, unbegun, List.append_nil, began]
    rfl
  · rw [counted.1, counted.2, Worker.awaiting_of_idle idle, sentOf_append, unsent, List.append_nil]
    omega
  · rw [counted.1, counted.2, Worker.awaiting_of_idle idle, sentOf_append, unsent, List.append_nil]
    exact once

theorem Tallied.again {direction : Direction} {worker : Worker} {attemptStarted : Nat}
    {request : Request} {event : WorkerEvent} {record : DirectionStats → DirectionStats}
    {past : List NetworkOutput} (tallied : Tallied direction worker past)
    (own : request.direction = direction)
    (waiting : worker.phase = .await request attemptStarted) (retried : Retried request event record)
    (valid : ∀ now response, event = .resolved now (.ok response) → response.direction = .rx →
      response.frame = some (testFrame deviceFrameByte)) :
    Tallied direction (worker.again request record).1 past := by
  have stats : (worker.again request record).1.stats direction = record (worker.stats direction) := by
    simp [Worker.again, Worker.setStats, own]
  have waits : worker.awaiting direction = 1 := by
    simp [Worker.awaiting, waiting, WorkerPhase.awaited, own]
  have rests : (worker.again request record).1.awaiting direction = 0 := by
    simp [Worker.awaiting, Worker.again, WorkerPhase.awaited]
  have current : (worker.again request record).1.current direction = worker.current direction := by
    simp [Worker.current_eq, Worker.again, waiting]
  obtain ⟨consistent, frames, began, attempts, once⟩ := tallied
  obtain ⟨counted, retries, same⟩ := retried.consistent valid consistent
  rw [waits] at attempts
  refine ⟨?_, ?_, ?_, ?_, ?_⟩
  · rwa [stats]
  · rw [stats, same, frames]
  · rw [stats, same, current, began]
  · rw [stats, same, retries, rests]
    omega
  · intro unrepeated
    rw [stats, retries] at unrepeated
    omega

theorem Tallied.work {direction : Direction} {peer : Address} {test : ThroughputTest}
    {event : WorkerEvent} {worker : Worker} {outputs : List ExchangeOutput}
    {past : List NetworkOutput} (tallied : Tallied direction test.worker past)
    (moved : WorkerMoves peer test.worker event worker outputs)
    (count : (test.path direction).begun = (begunOf direction past).length)
    (valid : ∀ now response, event = .resolved now (.ok response) → response.direction = .rx →
      response.frame = some (testFrame deviceFrameByte)) :
    Tallied direction worker (past ++ (test.absorbHost worker outputs).2) := by
  cases moved with
  | skip phase idle stays =>
      refine tallied.keep rfl ?_ ?_ rfl rfl rfl
      · rw [Worker.current_of_idle idle, Worker.current_of_idle]
        exact stays
      · rw [Worker.awaiting_of_idle idle, Worker.awaiting_of_idle]
        exact stays
  | begin asked idle _ =>
      by_cases own : asked = direction
      · exact tallied.begin (by simp [own]) idle rfl rfl
      · refine tallied.keep rfl ?_ ?_ rfl ?_ rfl
        · simp [Worker.current_eq, Worker.beginRequest, idle, own]
        · rw [Worker.awaiting_of_idle idle]
          rfl
        · simp [ThroughputTest.absorbHost, Paths.numbered, begunOf, NetworkOutput.begun, own]
  | send request now ready =>
      by_cases own : request.direction = direction
      · refine tallied.send own ready ?_
        simp [Paths.numberOf, ExchangeOutput.direction, own, Path.absorbHost, count]
      · refine tallied.keep rfl ?_ ?_ rfl rfl ?_
        · simp [Worker.current_eq, ready]
        · simp [Worker.awaiting, WorkerPhase.awaited, ready, own]
        · simp [ThroughputTest.absorbHost, Paths.numbered, sentOf, NetworkOutput.sent, own]
  | accept request response attemptStarted now phase waiting matched kind idle =>
      by_cases own : request.direction = direction
      · have counted : ({ test.worker with phase }.setStats request.direction
            (((test.worker.stats request.direction).recordLatency (now - attemptStarted)).recordFrame
              testFrameSize)).stats direction =
            ((test.worker.stats direction).recordLatency (now - attemptStarted)).recordFrame
              testFrameSize := by
          simp [Worker.setStats, own]
        exact tallied.accept own waiting idle counted
      · refine tallied.keep ?_ ?_ ?_ ?_ rfl rfl
        · simp [Worker.setStats, Ne.symm own]
        · simp [Worker.current_eq, waiting, idle, Option.filter_some, own]
        · rw [Worker.awaiting_of_idle idle]
          simp [Worker.awaiting, WorkerPhase.awaited, waiting, Option.filter_some, own]
        · simp [ThroughputTest.absorbHost, Paths.numbered, acknowledgedOf,
            NetworkOutput.acknowledged, own]
  | again request attemptStarted waiting _ retried =>
      by_cases own : request.direction = direction
      · simpa [ThroughputTest.absorbHost, Paths.numbered] using tallied.again own waiting retried valid
      · refine tallied.keep ?_ ?_ ?_ rfl rfl rfl
        · simp [Worker.again, Worker.setStats, Ne.symm own]
        · simp [Worker.current_eq, Worker.again, waiting]
        · simp [Worker.awaiting, Worker.again, WorkerPhase.awaited, waiting, Option.filter_some, own]

/-! The requests. -/

/-- The transactions of the worker, numbered in the order they were begun. -/
structure Requested (mode : ThroughputMode) (session : UInt64) (worker : Worker)
    (past : List NetworkOutput) : Prop where
  runs : worker.mode = mode
  own : worker.session = session
  next : worker.nextTransactionId = UInt32.ofNat (issuedOf past).length
  made : ∀ (index : Nat) (packet : Packet Request), (issuedOf past)[index]? = some packet →
    packet.t = testRequest packet.t.direction ⟨session, UInt32.ofNat index⟩
  asked : ∀ packet ∈ issuedOf past, mode.has packet.t.direction = true

theorem Requested.keep {mode : ThroughputMode} {session : UInt64} {worker next : Worker}
    {past output : List NetworkOutput} (requested : Requested mode session worker past)
    (same : next.mode = worker.mode ∧ next.session = worker.session ∧
      next.nextTransactionId = worker.nextTransactionId)
    (unissued : issuedOf output = []) : Requested mode session next (past ++ output) := by
  have issued : issuedOf (past ++ output) = issuedOf past := by
    rw [issuedOf_append, unissued, List.append_nil]
  refine ⟨same.1.trans requested.runs, same.2.1.trans requested.own, ?_, ?_, ?_⟩
  · rw [same.2.2, issued, requested.next]
  · rw [issued]
    exact requested.made
  · rw [issued]
    exact requested.asked

theorem Requested.work {mode : ThroughputMode} {session : UInt64} {peer : Address}
    {test : ThroughputTest} {event : WorkerEvent} {worker : Worker} {outputs : List ExchangeOutput}
    {past : List NetworkOutput} (requested : Requested mode session test.worker past)
    (moved : WorkerMoves peer test.worker event worker outputs) :
    Requested mode session worker (past ++ (test.absorbHost worker outputs).2) := by
  cases moved with
  | skip phase idle stays => exact requested.keep ⟨rfl, rfl, rfl⟩ rfl
  | send request now ready => exact requested.keep ⟨rfl, rfl, rfl⟩ rfl
  | accept request response attemptStarted now phase waiting matched kind idle =>
      exact requested.keep ⟨rfl, rfl, rfl⟩ rfl
  | again request attemptStarted waiting kind retried => exact requested.keep ⟨rfl, rfl, rfl⟩ rfl
  | begin direction idle asked =>
      obtain ⟨runs, own, next, made, allAsked⟩ := requested
      obtain ⟨number, issued⟩ : ∃ number, issuedOf (past ++ (test.absorbHost
          (test.worker.beginRequest (testRequest direction)).1 [.began (testRequest direction
            ⟨test.worker.session, test.worker.nextTransactionId⟩)]).2) = issuedOf past ++
          [⟨number, testRequest direction ⟨test.worker.session, test.worker.nextTransactionId⟩⟩] :=
        ⟨_, issuedOf_append _ _⟩
      refine ⟨runs, own, ?_, ?_, ?_⟩
      · rw [issued, List.length_append, List.length_singleton, UInt32.ofNat_add, ← next]
        rfl
      · intro index packet found
        rw [issued] at found
        rcases Nat.lt_or_ge index (issuedOf past).length with earlier | later
        · rw [List.getElem?_append_left earlier] at found
          exact made index packet found
        · rw [List.getElem?_append_right later] at found
          rw [List.getElem?_singleton] at found
          split at found
          · have position : index = (issuedOf past).length := by omega
            cases found
            simp [position, own, next]
          · contradiction
      · intro packet member
        rw [issued, List.mem_append, List.mem_singleton] at member
        rcases member with old | rfl
        · exact allAsked packet old
        · simpa [← runs] using asked

theorem Requested.distinct {mode : ThroughputMode} {session : UInt64} {worker : Worker}
    {past : List NetworkOutput} (requested : Requested mode session worker past)
    (bounded : (issuedOf past).length < 2 ^ 32) :
    ((issuedOf past).map fun packet => packet.t.transaction).Nodup := by
  rw [List.nodup_iff_pairwise_ne, List.pairwise_map, List.pairwise_iff_getElem]
  intro first second firstBound secondBound below same
  rw [requested.made first _ (List.getElem?_eq_getElem firstBound),
    requested.made second _ (List.getElem?_eq_getElem secondBound), testRequest_transaction,
    testRequest_transaction] at same
  have ids := (ofNat_eq_ofNat_iff _ _).mp (WifiTransaction.mk.inj same).2
  omega

/-- Every request that is served or under way was sent. -/
def Carried (direction : Direction) (link : List (Packet Request)) (past : List NetworkOutput) :
    Prop :=
  ∀ number, ((executedOf direction past).map Prod.fst).count number +
      ((replayedOf direction past).map Prod.fst).count number +
      (link.map fun packet => packet.serial).count number ≤
    (sentOf direction past).count number

theorem Carried.fewer {direction : Direction} {link kept : List (Packet Request)}
    {past : List NetworkOutput} (carried : Carried direction link past)
    (remaining : kept.Sublist link) : Carried direction kept past := by
  intro number
  have before := carried number
  have fewer := (remaining.map fun packet => packet.serial).count_le number
  omega

theorem Carried.work {direction : Direction} {peer : Address} {test : ThroughputTest}
    {event : WorkerEvent} {worker : Worker} {outputs : List ExchangeOutput}
    {past : List NetworkOutput} (carried : Carried direction (test.path direction).link past)
    (moved : WorkerMoves peer test.worker event worker outputs) :
    Carried direction ((test.absorbHost worker outputs).1.path direction).link
      (past ++ (test.absorbHost worker outputs).2) := by
  have served {Item : Type} (select : DeviceOutput → Option Item) :
      (deviceOf (past ++ (test.absorbHost worker outputs).2)).filterMap select =
        (deviceOf past).filterMap select := by
    rw [deviceOf_append, test.absorbHost_deviceOf, List.append_nil]
  intro number
  have before := carried number
  unfold executedOf replayedOf at before ⊢
  rw [served, served, sentOf_append]
  cases moved with
  | send request now ready =>
      by_cases own : request.direction = direction
      · simp [ThroughputTest.absorbHost, Path.absorbHost, sentOf, NetworkOutput.sent, own,
          Paths.numbered, Paths.numberOf, ExchangeOutput.direction, List.count_append] at before ⊢
        omega
      · simpa [ThroughputTest.absorbHost, Path.absorbHost, Paths.numbered, sentOf, NetworkOutput.sent,
          own] using before
  | begin asked idle _ =>
      have link (request : Request) :
          (Path.absorbHost direction (test.path direction) (.began request)).link =
            (test.path direction).link := by
        simp only [Path.absorbHost]
        split <;> rfl
      simpa [ThroughputTest.absorbHost, Paths.numbered, sentOf, NetworkOutput.sent,
        List.filterMap_cons, link] using before
  | skip phase idle stays => simpa [ThroughputTest.absorbHost, Paths.numbered, sentOf] using before
  | accept request response attemptStarted now phase waiting matched kind idle =>
      simpa [ThroughputTest.absorbHost, Path.absorbHost, Paths.numbered, sentOf, NetworkOutput.sent,
        List.filterMap_cons] using before
  | again request attemptStarted waiting kind retried =>
      simpa [ThroughputTest.absorbHost, Paths.numbered, sentOf] using before

theorem Carried.serve {direction : Direction} {packet : Packet Request}
    {rest : List (Packet Request)} {firmware next : TestFirmware} {outputs : List DeviceOutput}
    {past : List NetworkOutput} (moved : ServeMoves firmware packet next outputs)
    (accepted : ∀ request, packet.t = .tx request → request.frame.isTestFrame hostFrameByte = true)
    (own : packet.t.direction = direction) (carried : Carried direction (packet :: rest) past) :
    Carried direction rest (past ++ outputs.map .device) := by
  have recorded := Recorded.ofDevice direction outputs
  intro number
  have before := carried number
  simp only [List.map_cons, List.count_cons, beq_iff_eq] at before
  rw [executedOf_append, replayedOf_append, sentOf_append, recorded.executed, recorded.replayed,
    sentOf_device, List.append_nil, List.map_append, List.map_append, List.count_append, List.count_append]
  cases moved with
  | invalid _ request asked refused =>
      rw [accepted request asked] at refused
      contradiction
  | known response free known matched kind =>
      simp [DeviceOutput.executed, DeviceOutput.replayedAs, List.filterMap_cons, kind, own,
        List.count_cons]
      omega
  | new _ output free unknown responding memory valid executed replayed responses =>
      simp [executed, replayed, own, List.count_cons]
      omega

theorem Carried.elsewhere {direction : Direction} {link : List (Packet Request)}
    {outputs : List DeviceOutput} {past : List NetworkOutput}
    (carried : Carried direction link past)
    (unexecuted : outputs.filterMap (DeviceOutput.executed direction) = [])
    (unreplayed : outputs.filterMap (DeviceOutput.replayedAs direction) = []) :
    Carried direction link (past ++ outputs.map .device) := by
  have recorded := Recorded.ofDevice direction outputs
  intro number
  rw [executedOf_append, replayedOf_append, sentOf_append, recorded.executed, recorded.replayed,
    unexecuted, unreplayed, sentOf_device, List.append_nil, List.append_nil, List.append_nil]
  exact carried number

/-! Every run. -/

structure ThroughputInvariant (mode : ThroughputMode) (session : UInt64) (test : ThroughputTest)
    (past : List NetworkOutput) : Prop where
  tracked : ∀ direction, SingleSession session direction (test.endpoint direction) past
  requested : Requested mode session test.worker past
  tallied : ∀ direction, Tallied direction test.worker past
  carried : ∀ direction, Carried direction (test.path direction).link past
  answered : ∀ entry ∈ executedOf .rx past, entry.2 = some (testFrame deviceFrameByte)
  refused : test.firmware.invalidPayloads = 0

section

variable {mode : ThroughputMode} {session : UInt64} {peer : Address} {test next : ThroughputTest}
  {past output : List NetworkOutput}

/-- Frames in answers come from executions, and so are the frames of the firmware. -/
theorem ThroughputInvariant.valid (invariant : ThroughputInvariant mode session test past)
    {direction : Direction} {packet : Packet Response}
    (member : packet ∈ (test.path direction).responses) (kind : packet.t.direction = .rx) :
    packet.t.frame = some (testFrame deviceFrameByte) := by
  have tracked := invariant.tracked direction
  have own : direction = .rx := by rw [← (tracked.numbered.responses packet member).1, kind]
  subst own
  obtain ⟨served, waiting, refines⟩ := tracked.refines
  obtain ⟨_, origin, _, executed, _⟩ := refines.reached.sound.executions.replies
    (packet.serial, packet.t.frame) (List.mem_map.mpr ⟨packet, member, rfl⟩)
  exact invariant.answered _ executed

/-- Requests on the link carry the frame of the worker. -/
theorem ThroughputInvariant.accepted (invariant : ThroughputInvariant mode session test past)
    {direction : Direction} {packet : Packet Request}
    (member : packet ∈ (test.path direction).link) :
    ∀ request, packet.t = .tx request → request.frame.isTestFrame hostFrameByte = true := by
  intro request asked
  have begun := (invariant.tracked direction).numbered.link packet member
  rw [begunOf_eq_filter] at begun
  obtain ⟨index, found⟩ := List.mem_iff_getElem?.mp (List.mem_filter.mp begun).1
  have made := invariant.requested.made index packet found
  rw [asked] at made
  cases made
  simp

/-- A step of the worker, from the state a delivered response has been taken out of. -/
theorem ThroughputInvariant.work (invariant : ThroughputInvariant mode session test past)
    {taken : ThroughputTest} {event : WorkerEvent} {worker : Worker} {outputs : List ExchangeOutput}
    (same : taken.worker = test.worker ∧ taken.firmware = test.firmware)
    (kept : ∀ direction, (taken.path direction).link = (test.path direction).link ∧
      (taken.path direction).begun = (test.path direction).begun)
    (moved : WorkerMoves peer test.worker event worker outputs)
    (valid : ∀ now response, event = .resolved now (.ok response) → response.direction = .rx →
      response.frame = some (testFrame deviceFrameByte))
    (effect : ∀ direction, EndpointEffect False direction (test.endpoint direction)
      ((taken.absorbHost worker outputs).1.endpoint direction)
      (taken.absorbHost worker outputs).2) :
    ThroughputInvariant mode session (taken.absorbHost worker outputs).1
      (past ++ (taken.absorbHost worker outputs).2) := by
  obtain ⟨tracked, requested, tallied, carried, answered, refused⟩ := invariant
  rw [← same.1] at moved requested tallied
  refine ⟨?_, requested.work moved, ?_, ?_, ?_, by rw [← refused, ← same.2]; rfl⟩
  · intro direction
    exact (tracked direction).step (effect direction) (Paths.numbered_sessions _ outputs)
  · intro direction
    refine (tallied direction).work moved ?_ valid
    rw [(kept direction).2]
    exact (tracked direction).numbered.count
  · intro direction
    have before := carried direction
    rw [← (kept direction).1] at before
    exact before.work moved
  · have executed : executedOf .rx (past ++ (taken.absorbHost worker outputs).2) =
        executedOf .rx past := by
      simp only [executedOf, deviceOf_append, taken.absorbHost_deviceOf, List.append_nil]
    rwa [executed]

/-- A step of the firmware. -/
theorem ThroughputInvariant.serve (invariant : ThroughputInvariant mode session test past)
    {outputs : List DeviceOutput} (same : next.worker = test.worker)
    (tracked : ∀ direction, SingleSession session direction (next.endpoint direction)
      (past ++ outputs.map .device))
    (carried : ∀ direction, Carried direction (next.path direction).link
      (past ++ outputs.map .device))
    (answered : ∀ entry ∈ outputs.filterMap (DeviceOutput.executed .rx),
      entry.2 = some (testFrame deviceFrameByte))
    (refused : next.firmware.invalidPayloads = test.firmware.invalidPayloads) :
    ThroughputInvariant mode session next (past ++ outputs.map .device) := by
  have recorded (direction : Direction) := Recorded.ofDevice direction outputs
  refine ⟨tracked, ?_, ?_, carried, ?_, refused.trans invariant.refused⟩
  · rw [same]
    exact invariant.requested.keep ⟨rfl, rfl, rfl⟩ (by simp [issuedOf, NetworkOutput.issued])
  · intro direction
    rw [same]
    exact (invariant.tallied direction).keep rfl rfl rfl (recorded direction).acknowledged
      (recorded direction).begun (sentOf_device direction outputs)
  · intro entry member
    rw [executedOf_append, (recorded .rx).executed, List.mem_append] at member
    rcases member with old | new
    · exact invariant.answered entry old
    · exact answered entry new

theorem ThroughputInvariant.step (invariant : ThroughputInvariant mode session test past)
    (moved : ThroughputMoves peer test next output) :
    ThroughputInvariant mode session next (past ++ output) := by
  have tracked := invariant.tracked
  have carried := invariant.carried
  cases moved with
  | work event worker outputs unanswered moved =>
      refine invariant.work ⟨rfl, rfl⟩ (fun _ => ⟨rfl, rfl⟩) moved ?_ (moved.endpoint unanswered)
      intro now response answered
      exact absurd answered (unanswered now response)
  | deliver direction position now packet worker outputs path erased found moved =>
      have member := List.mem_of_getElem? found
      have kind := ((tracked direction).numbered.responses packet member).1
      refine invariant.work ⟨rfl, rfl⟩ ?_ moved ?_ (moved.deliver found kind erased)
      · intro any
        by_cases own : any = direction
        · subst own
          simp [ThroughputTest.setPath, erased]
        · simp [ThroughputTest.setPath, own]
      · rintro _ _ ⟨⟩
        exact invariant.valid member
  | loseRequests direction kept remaining =>
      rw [List.append_nil]
      refine { invariant with
        tracked := SingleSession.setPath tracked (.loseRequests kept remaining rfl (.nil _))
        carried := ?_ }
      intro any
      by_cases own : any = direction
      · subst own
        simpa [ThroughputTest.setPath] using (carried any).fewer remaining
      · simpa [ThroughputTest.setPath, own] using carried any
  | loseResponses direction kept remaining =>
      rw [List.append_nil]
      refine { invariant with
        tracked := SingleSession.setPath tracked (.loseResponses kept false remaining rfl (.nil _))
        carried := ?_ }
      intro any
      by_cases own : any = direction
      · subst own
        simpa [ThroughputTest.setPath] using carried any
      · simpa [ThroughputTest.setPath, own] using carried any
  | serve direction packet rest firmware outputs first moved =>
      have member : packet ∈ (test.path direction).link := by simp [first]
      have accepted := invariant.accepted member
      have kind : packet.t.direction = direction :=
        (tracked direction).numbered.kind packet ((tracked direction).numbered.link packet member)
      subst kind
      obtain ⟨refused, answered⟩ := moved.produced accepted
      refine invariant.serve rfl (fun any => moved.singleSession accepted first any (tracked any)) ?_
        answered refused
      intro any
      have before := carried any
      simp only [ThroughputTest.absorbDevice, ThroughputTest.setPath, Paths.absorbDevice_path]
      by_cases own : any = packet.t.direction
      · subst own
        rw [first] at before
        simpa using before.serve moved accepted rfl
      · obtain ⟨unexecuted, unreplayed⟩ := moved.elsewhere own
        simpa [own] using before.elsewhere unexecuted unreplayed
  | respond direction delivered firmware outputs responded =>
      obtain ⟨refused, silent⟩ := TestFirmware.respond_silent responded
      refine invariant.serve rfl
        (fun any => TestFirmware.respond_singleSession responded any tracked) ?_ ?_ refused
      · intro any
        simpa only [ThroughputTest.absorbDevice, Paths.absorbDevice_path] using
          (carried any).elsewhere (silent any).1 (silent any).2
      · simp [(silent .rx).1]

end

theorem ThroughputTest.start_singleSession (mode : ThroughputMode) (session : UInt64)
    (direction : Direction) :
    SingleSession session direction ((ThroughputTest.start mode session).endpoint direction)
      [.session session] := by
  have fresh : (ThroughputTest.start mode session).endpoint direction =
      ⟨some session, none, .idle, none, ⟨[], [], 0⟩⟩ := by
    cases direction <;> rfl
  have unbegun : begunOf direction [.session session] = [] := rfl
  have started : sessionsOf [.session session] = [session] := rfl
  rw [fresh]
  refine ⟨?_, ⟨none, false, .refl, ?_, ?_, ?_⟩, started⟩
  · rw [unbegun, started]
    constructor <;> simp [ServerView.request]
  · simp [ServerView.serving]
  · simp
  · intro _
    exact .inl (by simp [unbegun])

theorem ThroughputTest.start_invariant (mode : ThroughputMode) (session : UInt64) :
    ThroughputInvariant mode session (.start mode session) [.session session] := by
  have unissued : issuedOf [.session session] = [] := rfl
  have unexecuted : executedOf .rx [.session session] = [] := rfl
  refine ⟨ThroughputTest.start_singleSession mode session,
    ⟨rfl, rfl, rfl, by simp [unissued], by simp [unissued]⟩, ?_, ?_, by simp [unexecuted], rfl⟩
  · intro direction
    refine ⟨⟨rfl, rfl, rfl, Nat.le_refl 0, ?_⟩, rfl, rfl, rfl, fun _ => rfl⟩
    simp [ThroughputTest.start, Worker.spawn, slowResponseMicros]
  · intro direction number
    exact Nat.le_refl 0

theorem ThroughputTest.run_invariant {mode : ThroughputMode} {session : UInt64}
    {requestTimeout : Nat} {peer : Address} {events : List ThroughputEvent} {test : ThroughputTest}
    {trace : List NetworkOutput}
    (ran : Machine.run (ThroughputTest.step requestTimeout peer) (.start mode session) events =
      some (test, trace)) :
    ThroughputInvariant mode session test (.session session :: trace) := by
  refine Machine.run_invariant (ThroughputInvariant mode session) (fun _ => True) ?_
    (fun _ _ => trivial) (ThroughputTest.start_invariant mode session) ran
  intro state past event next output _ invariant stepped
  exact invariant.step (ThroughputTest.step_moves stepped)

section

variable {mode : ThroughputMode} {session : UInt64} {requestTimeout : Nat} {peer : Address}
  {events : List ThroughputEvent} {test : ThroughputTest} {trace : List NetworkOutput}
  (ran : Machine.run (ThroughputTest.step requestTimeout peer) (.start mode session) events =
    some (test, trace))

include ran

/-- The counters of a direction account for every transaction, every attempt and every retry, and
neither side ever sees a wrong payload. -/
theorem throughput_counters (direction : Direction) :
    test.firmware.invalidPayloads = 0 ∧ (test.worker.stats direction).Consistent ∧
      (test.worker.stats direction).frames = (acknowledgedOf direction trace).length ∧
      (begunOf direction trace).length =
        (test.worker.stats direction).frames + (test.worker.current direction).toList.length ∧
      (sentOf direction trace).length = (test.worker.stats direction).frames +
        (test.worker.stats direction).retries + test.worker.awaiting direction ∧
      (∀ cause, (test.worker.stats direction).retriesFor cause =
        Machine.tally (ThroughputTest.step requestTimeout peer)
          (ThroughputTest.repeats direction cause) (.start mode session) events) ∧
      (mode.has direction = false → begunOf direction trace = []) := by
  have invariant := ThroughputTest.run_invariant ran
  obtain ⟨consistent, frames, begun, sent, _⟩ := invariant.tallied direction
  refine ⟨invariant.refused, consistent, frames, begun, sent, ?_, ?_⟩
  · intro cause
    have counted := Machine.run_tally (fun _ _ _ _ stepped =>
      ThroughputTest.step_retriesFor stepped direction cause) ran
    have unused : ((ThroughputTest.start mode session).worker.stats direction).retriesFor cause = 0 := by
      cases cause <;> rfl
    rwa [unused, Nat.zero_add] at counted
  · intro unasked
    rw [begunOf_eq_filter, List.filter_eq_nil_iff]
    intro packet member
    have asked := invariant.requested.asked packet member
    simp only [decide_eq_true_eq]
    rintro rfl
    rw [unasked] at asked
    contradiction

/-- Under fewer than 2^32 transactions the firmware executes the acknowledged transactions once
each, in their order, and at most one further.  When the test passes it replays none. -/
theorem throughput_exactly_once (bounded : (issuedOf trace).length < 2 ^ 32)
    (direction : Direction) :
    (∃ pending : List (Nat × Option WifiFrame), pending.length ≤ 1 ∧
        (test.worker.current direction = none → pending = []) ∧
        executedOf direction trace = acknowledgedOf direction trace ++ pending) ∧
      (test.worker.failureCount = 0 →
        (sentOf direction trace).Nodup ∧ replayedOf direction trace = []) := by
  have invariant := ThroughputTest.run_invariant ran
  have tracked := invariant.tracked direction
  have distinct := begun_distinct (invariant.requested.distinct bounded) direction
  refine ⟨tracked.executed_eq (congrArg some invariant.requested.own) distinct, ?_⟩
  intro passed
  have unrepeated : (test.worker.stats direction).retries = 0 := by
    unfold Worker.failureCount at passed
    cases direction <;> omega
  have sent : (sentOf direction trace).Nodup := by
    have once := (invariant.tallied direction).once unrepeated
    change sentOf direction trace = _ at once
    rw [once]
    exact List.nodup_range
  refine ⟨sent, ?_⟩
  rw [List.eq_nil_iff_forall_not_mem]
  intro entry member
  -- A replayed transaction was executed under the same number, so it was sent twice.
  obtain ⟨served, waiting, refines⟩ := tracked.refines
  have executed : entry ∈ executedOf direction trace :=
    (refines.reached.sound.executions.replayed entry member).executed distinct
  have carried : ((executedOf direction trace).map Prod.fst).count entry.1 +
      ((replayedOf direction trace).map Prod.fst).count entry.1 +
      ((test.path direction).link.map fun packet => packet.serial).count entry.1 ≤
        (sentOf direction trace).count entry.1 :=
    invariant.carried direction entry.1
  have first := List.count_pos_iff.mpr (List.mem_map_of_mem executed (f := Prod.fst))
  have again := List.count_pos_iff.mpr (List.mem_map_of_mem member (f := Prod.fst))
  have once := List.nodup_iff_count_le_one.mp sent entry.1
  omega

end

def sampleRetriedEvents : List ThroughputEvent :=
  [.next, .request 0, .loseRequest .tx 0, .timeout 250000, .request 250000, .serve .tx,
    .respond .tx true, .deliver .tx 0 250400]

def samplePassedEvents : List ThroughputEvent :=
  [.next, .request 0, .serve .tx, .respond .tx true, .deliver .tx 0 400, .next, .request 500,
    .serve .rx, .respond .rx true, .deliver .rx 0 900]

theorem throughput_counters_retried :
    ∃ test trace,
      Machine.run (ThroughputTest.step 250000 ⟨1, 2, 0⟩) (.start .bidir 7) sampleRetriedEvents =
          some (test, trace) ∧
        (test.worker.stats .tx).retries = 1 ∧ (sentOf .tx trace).length = 2 ∧
        (test.worker.stats .tx).timeouts = 1 ∧ (test.worker.stats .tx).Consistent := by
  have reached : (Machine.run (ThroughputTest.step 250000 ⟨1, 2, 0⟩) (.start .bidir 7)
      sampleRetriedEvents).map (fun result =>
        ((result.1.worker.stats .tx).retries, (sentOf .tx result.2).length,
          (result.1.worker.stats .tx).timeouts)) = some (1, 2, 1) := by
    decide +kernel
  obtain ⟨⟨test, trace⟩, ran, seen⟩ := Option.map_eq_some_iff.mp reached
  simp only [Prod.mk.injEq] at seen
  obtain ⟨retries, sent, timeouts⟩ := seen
  exact ⟨test, trace, ran, retries, sent, timeouts, (throughput_counters ran .tx).2.1⟩

theorem throughput_exactly_once_passed :
    ∃ test trace,
      Machine.run (ThroughputTest.step 250000 ⟨1, 2, 0⟩) (.start .bidir 7) samplePassedEvents =
          some (test, trace) ∧
        (acknowledgedOf .rx trace).length = 1 ∧ test.worker.failureCount = 0 ∧
        replayedOf .rx trace = [] := by
  have reached : (Machine.run (ThroughputTest.step 250000 ⟨1, 2, 0⟩) (.start .bidir 7)
      samplePassedEvents).map (fun result => ((acknowledgedOf .rx result.2).length,
        result.1.worker.failureCount, (issuedOf result.2).length)) = some (1, 0, 2) := by
    decide +kernel
  obtain ⟨⟨test, trace⟩, ran, seen⟩ := Option.map_eq_some_iff.mp reached
  simp only [Prod.mk.injEq] at seen
  obtain ⟨acknowledged, passed, issued⟩ := seen
  have bounded : (issuedOf trace).length < 2 ^ 32 := by
    rw [issued]
    decide
  exact ⟨test, trace, ran, acknowledged, passed,
    ((throughput_exactly_once ran bounded .rx).2 passed).2⟩

end Lamella

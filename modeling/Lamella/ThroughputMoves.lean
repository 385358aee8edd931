import Lamella.ThroughputCore
import Lamella.NetworkRefinement

/-!
What a step of the throughput test can do.  Each of its endpoints, within the one session of the
worker, refines the stop-and-wait protocol as the endpoints of the bridge do.
-/

namespace Lamella

/-! Steps of the worker. -/

def testRequest (direction : Direction) (transaction : WifiTransaction) : Request :=
  match direction with
  | .tx => .tx ⟨transaction, testFrame hostFrameByte⟩
  | .rx => .rx ⟨transaction⟩

def testResponse (direction : Direction) (transaction : WifiTransaction) : Response :=
  match direction with
  | .tx => .tx ⟨transaction⟩
  | .rx => .rx ⟨transaction, some (testFrame deviceFrameByte)⟩

@[simp] theorem testRequest_direction (direction : Direction) (transaction : WifiTransaction) :
    (testRequest direction transaction).direction = direction := by
  cases direction <;> rfl

@[simp] theorem testRequest_transaction (direction : Direction) (transaction : WifiTransaction) :
    (testRequest direction transaction).transaction = transaction := by
  cases direction <;> rfl

@[simp] theorem testResponse_direction (direction : Direction) (transaction : WifiTransaction) :
    (testResponse direction transaction).direction = direction := by
  cases direction <;> rfl

@[simp] theorem testResponse_transaction (direction : Direction) (transaction : WifiTransaction) :
    (testResponse direction transaction).transaction = transaction := by
  cases direction <;> rfl

@[simp] theorem testFrame_isTestFrame (byte : UInt8) : (testFrame byte).isTestFrame byte = true := by
  simp [WifiFrame.isTestFrame, testFrame]

def WorkerPhase.request : WorkerPhase → Option Request
  | .retry request | .await request _ => some request
  | .tx | .rx => none

@[simp] theorem WorkerPhase.request_retry (request : Request) :
    (WorkerPhase.retry request).request = some request := rfl

@[simp] theorem WorkerPhase.request_await (request : Request) (attemptStarted : Nat) :
    (WorkerPhase.await request attemptStarted).request = some request := rfl

/-- Why an attempt is repeated, and what is counted for it. -/
inductive Retried (request : Request) : WorkerEvent → (DirectionStats → DirectionStats) → Prop
  | timeout (now : Nat) : Retried request (.timeout now) .recordTimeout
  | endpointError (now : Nat) (error : ReqRespError) :
      Retried request (.resolved now (.error error)) .recordEndpointError
  | mismatch (now : Nat) (response : Response)
      (other : response.transaction ≠ request.transaction) :
      Retried request (.resolved now (.ok response)) .recordMismatch
  | integrity (now : Nat) (response : Response)
      (same : response.transaction = request.transaction) (kind : response.direction = .rx)
      (invalid : ∀ frame, response.frame = some frame →
        frame.isTestFrame deviceFrameByte = false) :
      Retried request (.resolved now (.ok response)) .recordIntegrityError

inductive WorkerMoves (peer : Address) (worker : Worker) :
    WorkerEvent → Worker → List ExchangeOutput → Prop
  | skip (phase : WorkerPhase) (idle : worker.phase.request = none) (stays : phase.request = none) :
      WorkerMoves peer worker .next { worker with phase } []
  | begin (direction : Direction) (idle : worker.phase.request = none)
      (asked : worker.mode.has direction = true) :
      WorkerMoves peer worker .next
        (worker.beginRequest (testRequest direction)).1
        [.began (testRequest direction ⟨worker.session, worker.nextTransactionId⟩)]
  | send (request : Request) (now : Nat) (ready : worker.phase = .retry request) :
      WorkerMoves peer worker (.request now) { worker with phase := .await request now }
        [.requested request peer .primary false]
  | accept (request : Request) (response : Response) (attemptStarted now : Nat)
      (phase : WorkerPhase) (waiting : worker.phase = .await request attemptStarted)
      (matched : response.transaction = request.transaction)
      (kind : response.direction = request.direction) (idle : phase.request = none) :
      WorkerMoves peer worker (.resolved now (.ok response))
        ({ worker with phase }.setStats request.direction
          (((worker.stats request.direction).recordLatency (now - attemptStarted)).recordFrame
            testFrameSize))
        [.acknowledged request response]
  | again (request : Request) (attemptStarted : Nat) {event : WorkerEvent}
      {record : DirectionStats → DirectionStats}
      (waiting : worker.phase = .await request attemptStarted)
      (kind : ∀ now response, event = .resolved now (.ok response) →
        response.direction = request.direction)
      (retried : Retried request event record) :
      WorkerMoves peer worker event (worker.again request record).1 []

theorem Worker.matched_moves {peer : Address} {worker : Worker} {request : Request}
    {response : Response} {attemptStarted now : Nat}
    (waiting : worker.phase = .await request attemptStarted)
    (same : response.transaction = request.transaction)
    (kind : response.direction = request.direction) :
    WorkerMoves peer worker (.resolved now (.ok response))
      (worker.matched now attemptStarted request response).1
      (worker.matched now attemptStarted request response).2 := by
  have only : ∀ later answer, WorkerEvent.resolved now (.ok response) = .resolved later (.ok answer) →
      answer.direction = request.direction := by
    rintro _ _ ⟨⟩
    exact kind
  cases request with
  | tx request => exact .accept (.tx request) response attemptStarted now .rx waiting same kind rfl
  | rx request =>
      have again (invalid : ∀ frame, response.frame = some frame →
          frame.isTestFrame deviceFrameByte = false) :
          WorkerMoves peer worker (.resolved now (.ok response))
            (worker.again (.rx request) .recordIntegrityError).1
            (worker.again (.rx request) .recordIntegrityError).2 :=
        .again (.rx request) attemptStarted waiting only (.integrity now response same kind invalid)
      unfold Worker.matched
      cases carried : response.frame with
      | none => simpa [Request.direction, carried] using again
      | some frame =>
          by_cases valid : frame.isTestFrame deviceFrameByte = true
          · have length : frame.data.length = testFrameSize := by
              simp only [WifiFrame.isTestFrame, Bool.and_eq_true, decide_eq_true_eq] at valid
              exact valid.1
            have accepted : WorkerMoves peer worker (.resolved now (.ok response)) _ _ :=
              .accept (.rx request) response attemptStarted now .tx waiting same kind rfl
            simpa [Request.direction, carried, valid, length] using accepted
          · simpa [Request.direction, carried, valid] using again

theorem Worker.resolve_moves {peer : Address} {worker : Worker} {request : Request}
    {result : Except ReqRespError Response} {attemptStarted now : Nat}
    (waiting : worker.phase = .await request attemptStarted)
    (kind : ∀ response, result = .ok response → response.direction = request.direction) :
    WorkerMoves peer worker (.resolved now result)
      (worker.resolve now attemptStarted request result).1
      (worker.resolve now attemptStarted request result).2 := by
  cases result with
  | error error =>
      exact .again request attemptStarted waiting (by rintro _ _ ⟨⟩) (.endpointError now error)
  | ok response =>
      by_cases same : response.transaction = request.transaction
      · rw [Worker.resolve, if_pos same]
        exact Worker.matched_moves waiting same (kind response rfl)
      · rw [Worker.resolve, if_neg same]
        refine .again request attemptStarted waiting ?_ (.mismatch now response same)
        rintro _ _ ⟨⟩
        exact kind response rfl

theorem Worker.step_moves {requestTimeout : Nat} {peer : Address} {worker next : Worker}
    {event : WorkerEvent} {outputs : List ExchangeOutput}
    (stepped : worker.step requestTimeout peer event = some (next, outputs)) :
    WorkerMoves peer worker event next outputs := by
  unfold Worker.step at stepped
  split at stepped
  next phase =>
    split at stepped
    · next asked =>
      cases stepped
      exact .begin .tx (by rw [phase]; rfl) asked
    · cases stepped
      exact .skip .rx (by rw [phase]; rfl) rfl
  next phase =>
    split at stepped
    · next asked =>
      cases stepped
      exact .begin .rx (by rw [phase]; rfl) asked
    · cases stepped
      exact .skip .tx (by rw [phase]; rfl) rfl
  next request now ready =>
    cases stepped
    exact .send request now ready
  next request attemptStarted now result waiting =>
    split at stepped
    next response =>
      split at stepped
      · next kind =>
        have resolved : worker.resolve now attemptStarted request (.ok response) = (next, outputs) :=
          Option.some.inj stepped
        have moved : WorkerMoves peer worker (.resolved now (.ok response)) _ _ :=
          Worker.resolve_moves waiting (by rintro _ ⟨⟩; exact kind)
        rwa [resolved] at moved
      · contradiction
    · cases stepped
      exact Worker.resolve_moves waiting (by rintro _ ⟨⟩)
  next request attemptStarted now waiting =>
    split at stepped
    · cases stepped
      exact .again request attemptStarted waiting (by rintro _ _ ⟨⟩) (.timeout now)
    · contradiction
  · contradiction

/-! Which retries are counted for what. -/

inductive RetryCause
  | timeout
  | endpointError
  | mismatch
deriving DecidableEq

def DirectionStats.retriesFor (stats : DirectionStats) : RetryCause → Nat
  | .timeout => stats.timeouts
  | .endpointError => stats.endpointErrors
  | .mismatch => stats.responseMismatches

/-- Why the event makes the worker repeat its request. -/
def WorkerEvent.cause (request : Request) : WorkerEvent → Option RetryCause
  | .timeout _ => some .timeout
  | .resolved _ (.error _) => some .endpointError
  | .resolved _ (.ok response) =>
      if response.transaction = request.transaction then none else some .mismatch
  | .next | .request _ => none

def Worker.repeats (worker : Worker) (direction : Direction) (cause : RetryCause)
    (event : WorkerEvent) : Bool :=
  match worker.phase with
  | .await request _ => request.direction = direction && event.cause request = some cause
  | _ => false

theorem WorkerMoves.retriesFor {peer : Address} {worker next : Worker} {event : WorkerEvent}
    {outputs : List ExchangeOutput} (moved : WorkerMoves peer worker event next outputs)
    (direction : Direction) (cause : RetryCause) :
    (next.stats direction).retriesFor cause =
      (worker.stats direction).retriesFor cause +
        (worker.repeats direction cause event).toNat := by
  have idle (unopened : worker.phase.request = none) :
      worker.repeats direction cause event = false := by
    cases phase : worker.phase <;> simp_all [Worker.repeats]
  cases moved with
  | skip phase unopened => simp [idle unopened]
  | begin asked unopened => simp [idle unopened, Worker.beginRequest]
  | send request now ready => simp [Worker.repeats, ready]
  | accept request response attemptStarted now phase waiting matched =>
      have counted : worker.repeats direction cause (.resolved now (.ok response)) = false := by
        simp [Worker.repeats, waiting, WorkerEvent.cause, matched]
      rw [counted]
      by_cases own : direction = request.direction
      · subst own
        cases cause <;> simp [Worker.setStats, DirectionStats.retriesFor,
          DirectionStats.recordFrame, DirectionStats.recordLatency]
      · simp [Worker.setStats, own]
  | again request attemptStarted waiting _ retried =>
      by_cases own : direction = request.direction
      · subst own
        simp only [Worker.repeats, waiting, Worker.again, Worker.setStats, Function.update_self]
        cases retried with
        | timeout now =>
            cases cause <;> simp [WorkerEvent.cause, DirectionStats.retriesFor,
              DirectionStats.recordTimeout]
        | endpointError now error =>
            cases cause <;> simp [WorkerEvent.cause, DirectionStats.retriesFor,
              DirectionStats.recordEndpointError]
        | mismatch now response other =>
            cases cause <;> simp [WorkerEvent.cause, DirectionStats.retriesFor,
              DirectionStats.recordMismatch, other]
        | integrity now response same =>
            cases cause <;> simp [WorkerEvent.cause, DirectionStats.retriesFor,
              DirectionStats.recordIntegrityError, same]
      · simp [Worker.repeats, waiting, Worker.again, Worker.setStats, own, Ne.symm own]

/-! Each endpoint. -/

def Worker.view (worker : Worker) : HostView :=
  ⟨some worker.session, worker.phase.request⟩

def Worker.current (worker : Worker) (direction : Direction) : Option Request :=
  worker.view.current direction

theorem Worker.current_eq (worker : Worker) (direction : Direction) :
    worker.current direction =
      worker.phase.request.filter fun request => request.direction = direction := rfl

theorem Worker.current_of_idle {worker : Worker} (idle : worker.phase.request = none)
    (direction : Direction) : worker.current direction = none :=
  HostView.current_of_idle idle direction

@[simp] theorem Worker.setStats_phase (worker : Worker) (direction : Direction)
    (stats : DirectionStats) : (worker.setStats direction stats).phase = worker.phase := rfl

def TestFirmware.server (firmware : TestFirmware) (direction : Direction) : ServerView :=
  match firmware.responding direction with
  | none => .idle
  | some packet => .responding packet

theorem TestFirmware.server_of_free {firmware : TestFirmware} {direction : Direction}
    (free : firmware.responding direction = none) : firmware.server direction = .idle := by
  rw [TestFirmware.server, free]

def TestFirmware.memory (firmware : TestFirmware) :
    Direction → Option (WifiTransaction × Option WifiFrame)
  | .tx => firmware.lastCompleted.map fun transaction => (transaction, none)
  | .rx => firmware.cachedResponse.map fun response => (response.transaction, response.frame)

def TestFirmware.view (firmware : TestFirmware) : DeviceView :=
  ⟨firmware.server, firmware.memory⟩

def ThroughputTest.endpoint (test : ThroughputTest) (direction : Direction) : Endpoint :=
  test.toPaths.endpoint test.worker.view test.firmware.view direction

/-- The endpoint refines the stop-and-wait protocol within the one session of the run. -/
structure SingleSession (session : UInt64) (direction : Direction) (endpoint : Endpoint)
    (past : List NetworkOutput) : Prop where
  numbered : Numbered direction endpoint (begunOf direction past) (sessionsOf past)
  refines : ∃ served waiting, Refines False session direction endpoint past served waiting
  started : sessionsOf past = [session]

theorem SingleSession.step {session : UInt64} {direction : Direction} {before after : Endpoint}
    {past output : List NetworkOutput} (tracked : SingleSession session direction before past)
    (effect : EndpointEffect False direction before after output)
    (unstarted : sessionsOf output = []) : SingleSession session direction after (past ++ output) := by
  have single : sessionsOf (past ++ output) = [session] := by
    rw [sessionsOf_append, unstarted, tracked.started, List.append_nil]
  obtain ⟨served, waiting, refines⟩ := tracked.refines
  refine ⟨?_, refines.step tracked.numbered effect (by simp [single]), single⟩
  rw [begunOf_append, sessionsOf_append]
  exact tracked.numbered.step effect

/-- What the endpoint executed is what was acknowledged there, and at most one result further. -/
theorem SingleSession.executed_eq {session : UInt64} {direction : Direction} {endpoint : Endpoint}
    {past : List NetworkOutput} (tracked : SingleSession session direction endpoint past)
    (running : endpoint.session = some session)
    (distinct : ((begunOf direction past).map fun packet => packet.t.transaction).Nodup) :
    ∃ pending : List (Nat × Option WifiFrame), pending.length ≤ 1 ∧
      (endpoint.current = none → pending = []) ∧
      executedOf direction past = acknowledgedOf direction past ++ pending := by
  obtain ⟨served, waiting, refines⟩ := tracked.refines
  have sound := refines.reached.sound
  have mine (number : Nat) (bound : number < (begunOf direction past).length) :
      StopAndWait.Mine (OfSession session) (endpoint.abstract direction past served waiting)
        number := by
    have member := List.getElem_mem bound
    have started := tracked.numbered.started _ member
    rw [tracked.started, List.mem_singleton] at started
    refine ⟨(begunOf direction past)[number].t.transaction, ?_, started⟩
    simp [Endpoint.abstract, bound]
  have labels : (endpoint.abstract direction past served waiting).begun.length =
      (begunOf direction past).length := by
    simp [Endpoint.abstract]
  have all {entries : List (Nat × Option WifiFrame)}
      (bounded : ∀ entry ∈ entries, entry.1 < (begunOf direction past).length) :
      StopAndWait.ofSession (OfSession session) (endpoint.abstract direction past served waiting)
        entries = entries := by
    unfold StopAndWait.ofSession
    rw [List.filter_eq_self]
    intro entry member
    simpa using mine entry.1 (bounded entry member)
  obtain ⟨pending, short, settled, split⟩ :=
    StopAndWait.executed_eq_accepted_append refines.reached distinct
  have executedBound : ∀ entry ∈ executedOf direction past,
      entry.1 < (begunOf direction past).length := by
    intro entry member
    obtain ⟨number, serving, below⟩ := sound.executions.served entry member
    have bound := sound.arrivals.servedBegun number serving
    omega
  have acceptedBound : ∀ entry ∈ acknowledgedOf direction past,
      entry.1 < (begunOf direction past).length := by
    intro entry member
    have bound := (sound.executions.accepted entry member).1
    omega
  have whole : executedOf direction past = acknowledgedOf direction past ++ pending := by
    have split := split
    change StopAndWait.ofSession _ _ (executedOf direction past) =
      StopAndWait.ofSession _ _ (acknowledgedOf direction past) ++ pending at split
    rwa [all executedBound, all acceptedBound] at split
  refine ⟨pending, short, ?_, whole⟩
  intro idle
  rcases refines.gate running with unbegun | ⟨last, acknowledged⟩
  · -- Nothing was begun here, and so nothing was executed.
    rw [List.eq_nil_iff_forall_not_mem]
    intro entry member
    have bound := executedBound entry (by rw [whole]; exact List.mem_append_right _ member)
    obtain ⟨label, begun, own⟩ := mine entry.1 bound
    exact unbegun label (List.mem_of_getElem? begun) own
  · exact settled ⟨acknowledged idle, last⟩

theorem Worker.again_view {worker : Worker} {request : Request} {attemptStarted : Nat}
    (waiting : worker.phase = .await request attemptStarted)
    (record : DirectionStats → DirectionStats) :
    (worker.again request record).1.view = worker.view := by
  simp [Worker.view, Worker.again, Worker.setStats, waiting]

theorem WorkerMoves.endpoint {peer : Address} {test : ThroughputTest} {worker : Worker}
    {event : WorkerEvent} {outputs : List ExchangeOutput}
    (moved : WorkerMoves peer test.worker event worker outputs)
    (unanswered : ∀ now response, event ≠ .resolved now (.ok response)) (direction : Direction) :
    EndpointEffect False direction (test.endpoint direction)
      ((test.absorbHost worker outputs).1.endpoint direction)
      (test.absorbHost worker outputs).2 := by
  cases moved with
  | skip phase idle stays =>
      have same : Worker.view { test.worker with phase } = test.worker.view := by
        simp [Worker.view, idle, stays]
      exact Paths.silent_effect (.inl same) (by simp)
  | begin asked idle _ => exact Paths.begin_effect (by simp [Worker.view]) idle rfl
  | send request now ready =>
      have same : Worker.view { test.worker with phase := .await request now } =
          test.worker.view := by
        simp [Worker.view, ready]
      exact Paths.send_effect (by simp [Worker.view, ready]) same
  | accept request response attemptStarted now => exact absurd rfl (unanswered now response)
  | again request attemptStarted waiting _ _ =>
      exact Paths.silent_effect (.inl (Worker.again_view waiting _)) (by simp)

/-- A response reaches the worker: it is accepted, or dropped with the attempt it ends. -/
theorem WorkerMoves.deliver {peer : Address} {test : ThroughputTest} {worker : Worker}
    {outputs : List ExchangeOutput} {direction : Direction} {position now : Nat}
    {packet : Packet Response}
    (moved : WorkerMoves peer test.worker (.resolved now (.ok packet.t)) worker outputs)
    (found : (test.path direction).responses[position]? = some packet)
    (kind : packet.t.direction = direction) {path : Path} (erased : path =
      { test.path direction with
        responses := (test.path direction).responses.eraseIdx position })
    (any : Direction) :
    EndpointEffect False any (test.endpoint any)
      (((test.setPath direction path).absorbHost worker outputs).1.endpoint any)
      ((test.setPath direction path).absorbHost worker outputs).2 := by
  cases moved with
  | again request attemptStarted waiting _ _ =>
      exact Paths.drop_effect (.inl (Worker.again_view waiting _)) (by simp) erased
  | accept request response attemptStarted _ phase waiting matched sameKind idle =>
      have alone : [ExchangeOutput.acknowledged request packet.t] =
          [] ++ .acknowledged request packet.t :: [] := rfl
      refine Paths.accept_effect ?_ ?_ (sameKind.symm.trans kind) matched found False.elim alone
        (by simp) erased
      · simp [Worker.view, waiting]
      · simp [Worker.view, ThroughputTest.absorbHost, Worker.setStats, idle]

/-! Steps of the firmware. -/

@[simp] theorem TestFirmware.setResponding_memory (firmware : TestFirmware) (direction : Direction)
    (response : Option (Packet Response)) :
    (firmware.setResponding direction response).memory = firmware.memory := by
  funext any
  cases any <;> rfl

@[simp] theorem TestFirmware.setResponding_responding (firmware : TestFirmware)
    (direction : Direction) (response : Option (Packet Response)) :
    (firmware.setResponding direction response).responding =
      Function.update firmware.responding direction response := rfl

inductive ServeMoves (firmware : TestFirmware) (packet : Packet Request) :
    TestFirmware → List DeviceOutput → Prop
  | known (response : Response) (free : firmware.responding packet.t.direction = none)
      (known : firmware.memory packet.t.direction = some (packet.t.transaction, response.frame))
      (matched : response.transaction = packet.t.transaction)
      (kind : response.direction = packet.t.direction) :
      ServeMoves firmware packet
        (firmware.setResponding packet.t.direction (some ⟨packet.serial, response⟩))
        [.replayed ⟨packet.serial, response⟩]
  | new (next : TestFirmware) (output : DeviceOutput)
      (free : firmware.responding packet.t.direction = none)
      (unknown : ∀ result, firmware.memory packet.t.direction ≠ some (packet.t.transaction, result))
      (responding : next.responding = Function.update firmware.responding packet.t.direction
        (some ⟨packet.serial, testResponse packet.t.direction packet.t.transaction⟩))
      (memory : next.memory = Function.update firmware.memory packet.t.direction
        (some (packet.t.transaction,
          (testResponse packet.t.direction packet.t.transaction).frame)))
      (valid : next.invalidPayloads = firmware.invalidPayloads)
      (executed : ∀ direction, output.executed direction =
        if direction = packet.t.direction then
          some (packet.serial, (testResponse packet.t.direction packet.t.transaction).frame)
        else none)
      (replayed : ∀ direction, output.replayedAs direction = none)
      (responses : ∀ direction, output.responseOf direction = none) :
      ServeMoves firmware packet next [output]
  | invalid (next : TestFirmware) (request : WifiTxRequest) (asked : packet.t = .tx request)
      (refused : request.frame.isTestFrame hostFrameByte = false) :
      ServeMoves firmware packet next []

theorem TestFirmware.serve_moves {firmware next : TestFirmware} {packet : Packet Request}
    {outputs : List DeviceOutput} (served : firmware.serve packet = some (next, outputs)) :
    ServeMoves firmware packet next outputs := by
  obtain ⟨serial, request⟩ := packet
  cases free : firmware.responding request.direction with
  | some response =>
      simp only [TestFirmware.serve, free] at served
      contradiction
  | none =>
      cases request with
      | rx request =>
          simp only [TestFirmware.serve, free] at served
          by_cases known : ∃ response, firmware.cachedResponse = some response ∧
              response.transaction = request.transaction
          · obtain ⟨response, cached, same⟩ := known
            simp only [frameSender, cached, same, if_true] at served
            cases served
            exact .known (.rx response) free (by simp [TestFirmware.memory, cached, same,
              Request.direction, Request.transaction, Response.frame]) same rfl
          · have computed : frameSender firmware.cachedResponse request =
                (⟨request.transaction, some (testFrame deviceFrameByte)⟩, .new) := by
              unfold frameSender
              cases cached : firmware.cachedResponse with
              | none => rfl
              | some response => exact if_neg fun same => known ⟨response, cached, same⟩
            simp only [computed] at served
            cases served
            refine .new _ _ free ?_ rfl ?_ rfl ?_ (fun _ => rfl) (fun _ => rfl)
            · intro result same
              obtain ⟨response, cached, pair⟩ := Option.map_eq_some_iff.mp same
              exact known ⟨response, cached, (Prod.mk.inj pair).1⟩
            · funext direction
              cases direction <;> rfl
            · intro direction
              cases direction <;> rfl
      | tx request =>
          simp only [TestFirmware.serve, free] at served
          by_cases known : firmware.lastCompleted = some request.transaction
          · simp only [frameReceiver, known, if_true] at served
            cases served
            exact .known (.tx ⟨request.transaction⟩) free (by simp [TestFirmware.memory, known,
              Request.direction, Request.transaction, Response.frame]) rfl rfl
          · by_cases valid : request.frame.isTestFrame hostFrameByte = true
            · simp only [frameReceiver, known, valid, if_true, if_false] at served
              cases served
              refine .new _ _ free ?_ rfl ?_ rfl ?_ (fun _ => rfl) (fun _ => rfl)
              · intro result same
                obtain ⟨transaction, completed, pair⟩ := Option.map_eq_some_iff.mp same
                exact known (completed.trans (congrArg some (Prod.mk.inj pair).1))
              · funext direction
                cases direction <;> rfl
              · intro direction
                cases direction <;> rfl
            · simp only [frameReceiver, known, valid, if_false] at served
              cases served
              exact .invalid _ request rfl (by simpa using valid)

theorem ServeMoves.elsewhere {firmware next : TestFirmware} {packet : Packet Request}
    {outputs : List DeviceOutput} (moved : ServeMoves firmware packet next outputs)
    {direction : Direction} (other : direction ≠ packet.t.direction) :
    outputs.filterMap (DeviceOutput.executed direction) = [] ∧
      outputs.filterMap (DeviceOutput.replayedAs direction) = [] := by
  cases moved with
  | known response free known matched kind =>
      simp [DeviceOutput.executed, DeviceOutput.replayedAs, List.filterMap_cons, kind, Ne.symm other]
  | new _ output free unknown responding memory valid executed replayed responses =>
      simp [executed, replayed, other]
  | invalid _ request asked refused => simp

theorem ServeMoves.produced {firmware next : TestFirmware} {packet : Packet Request}
    {outputs : List DeviceOutput} (moved : ServeMoves firmware packet next outputs)
    (accepted : ∀ request, packet.t = .tx request → request.frame.isTestFrame hostFrameByte = true) :
    next.invalidPayloads = firmware.invalidPayloads ∧
      ∀ entry ∈ outputs.filterMap (DeviceOutput.executed .rx),
        entry.2 = some (testFrame deviceFrameByte) := by
  cases moved with
  | known response free known matched kind =>
      exact ⟨rfl, by simp [DeviceOutput.executed, List.filterMap_cons]⟩
  | new _ output free unknown responding memory valid executed replayed responses =>
      refine ⟨valid, ?_⟩
      intro entry member
      rw [List.filterMap_cons, List.filterMap_nil, executed] at member
      by_cases own : Direction.rx = packet.t.direction
      · rw [if_pos own, ← own, List.mem_singleton] at member
        rw [member]
        rfl
      · rw [if_neg own] at member
        contradiction
  | invalid _ request asked refused =>
      rw [accepted request asked] at refused
      contradiction

theorem TestFirmware.respond_silent {firmware next : TestFirmware} {direction : Direction}
    {delivered : Bool} {outputs : List DeviceOutput}
    (responded : firmware.respond direction delivered = some (next, outputs)) :
    next.invalidPayloads = firmware.invalidPayloads ∧
      ∀ any, outputs.filterMap (DeviceOutput.executed any) = [] ∧
        outputs.filterMap (DeviceOutput.replayedAs any) = [] := by
  unfold TestFirmware.respond at responded
  split at responded
  · contradiction
  · cases responded
    refine ⟨rfl, fun any => ?_⟩
    cases delivered <;> exact ⟨rfl, rfl⟩

theorem ServeMoves.singleSession {session : UInt64} {test : ThroughputTest} {firmware : TestFirmware}
    {packet : Packet Request} {rest : List (Packet Request)} {outputs : List DeviceOutput}
    {past : List NetworkOutput} (moved : ServeMoves test.firmware packet firmware outputs)
    (accepted : ∀ request, packet.t = .tx request → request.frame.isTestFrame hostFrameByte = true)
    (first : (test.path packet.t.direction).link = packet :: rest) (direction : Direction)
    (tracked : SingleSession session direction (test.endpoint direction) past) :
    SingleSession session direction
      (((test.setPath packet.t.direction { test.path packet.t.direction with
        link := rest }).absorbDevice firmware outputs).1.endpoint direction)
      (past ++ outputs.map .device) := by
  have recorded := Recorded.ofDevice direction outputs
  simp only [ThroughputTest.endpoint, ThroughputTest.absorbDevice, ThroughputTest.setPath]
    at tracked ⊢
  rw [Paths.absorbDevice_endpoint _ _ test.firmware.view]
  cases moved with
  | invalid _ request asked refused =>
      rw [accepted request asked] at refused
      contradiction
  | known response free known matched kind =>
      by_cases own : direction = packet.t.direction
      · subst own
        refine tracked.step (.replay packet rest response ?_ first known matched kind ?_ ?_)
          recorded.sessions
        · exact TestFirmware.server_of_free free
        · simp [Paths.endpoint, TestFirmware.view, TestFirmware.server, DeviceOutput.responseOf,
            List.filterMap_cons]
        · simpa [DeviceOutput.executed, DeviceOutput.replayedAs, List.filterMap_cons, kind] using
            recorded
      · rw [Paths.set_endpoint_other _ _ _ own]
        refine tracked.step (.quiet ?_ ?_) recorded.sessions
        · simp [Paths.endpoint, TestFirmware.view, TestFirmware.server, DeviceOutput.responseOf,
            List.filterMap_cons, own]
        · simpa [DeviceOutput.executed, DeviceOutput.replayedAs, List.filterMap_cons, kind,
            Ne.symm own] using recorded
  | new _ output free unknown responding memory valid executed replayed responses =>
      simp only [List.filterMap_cons, List.filterMap_nil, executed, replayed] at recorded
      by_cases own : direction = packet.t.direction
      · subst own
        rw [if_pos rfl] at recorded
        -- The server runs its closure as soon as it has the request.
        have received : SingleSession session packet.t.direction
            { test.endpoint packet.t.direction with
              server := .received packet
              path := { test.path packet.t.direction with link := rest } } (past ++ []) :=
          tracked.step (.receive packet rest (TestFirmware.server_of_free free) first unknown rfl
            (.nil _)) rfl
        rw [List.append_nil] at received
        refine received.step (.execute packet _ rfl (.inr ?_) ?_ recorded) recorded.sessions
        · exact ⟨testResponse packet.t.direction packet.t.transaction,
            by simp [TestFirmware.view, TestFirmware.server, responding], by simp, by simp, rfl⟩
        · simp [ThroughputTest.endpoint, Paths.endpoint, TestFirmware.view, memory, responses]
      · rw [if_neg own] at recorded
        rw [Paths.set_endpoint_other _ _ _ own]
        refine tracked.step (.quiet ?_ recorded) recorded.sessions
        simp [Paths.endpoint, TestFirmware.view, TestFirmware.server, responding, memory,
          responses, own]

theorem TestFirmware.respond_singleSession {session : UInt64} {test : ThroughputTest}
    {firmware : TestFirmware} {any : Direction} {delivered : Bool} {outputs : List DeviceOutput}
    {past : List NetworkOutput}
    (responded : test.firmware.respond any delivered = some (firmware, outputs))
    (direction : Direction)
    (tracked : ∀ direction, SingleSession session direction (test.endpoint direction) past) :
    SingleSession session direction ((test.absorbDevice firmware outputs).1.endpoint direction)
      (past ++ outputs.map .device) := by
  have recorded := Recorded.ofDevice direction outputs
  unfold TestFirmware.respond at responded
  split at responded
  · contradiction
  · next packet busy =>
    cases responded
    have serving : test.firmware.server any = .responding packet := by
      simp [TestFirmware.server, busy]
    have kind : packet.t.direction = any := ((tracked any).numbered.responding packet serving).1
    simp only [ThroughputTest.endpoint, ThroughputTest.absorbDevice] at tracked ⊢
    rw [Paths.absorbDevice_endpoint _ _ test.firmware.view]
    by_cases own : direction = any
    · subst own
      refine (tracked direction).step (.respond packet delivered serving ?_ ?_) recorded.sessions
      · cases delivered <;>
          simp [Paths.endpoint, TestFirmware.view, TestFirmware.server, DeviceOutput.responseOf, kind]
      · cases delivered <;> exact recorded
    · refine (tracked direction).step (.quiet ?_ ?_) recorded.sessions
      · cases delivered <;>
          simp [Paths.endpoint, TestFirmware.view, TestFirmware.server, DeviceOutput.responseOf, kind,
            own, Ne.symm own]
      · cases delivered <;> exact recorded

/-! Every step. -/

inductive ThroughputMoves (peer : Address) (test : ThroughputTest) :
    ThroughputTest → List NetworkOutput → Prop
  | work (event : WorkerEvent) (worker : Worker) (outputs : List ExchangeOutput)
      (unanswered : ∀ now response, event ≠ .resolved now (.ok response))
      (moved : WorkerMoves peer test.worker event worker outputs) :
      ThroughputMoves peer test (test.absorbHost worker outputs).1 (test.absorbHost worker outputs).2
  | deliver (direction : Direction) (position now : Nat) (packet : Packet Response)
      (worker : Worker) (outputs : List ExchangeOutput) (path : Path)
      (erased : path = { test.path direction with
        responses := (test.path direction).responses.eraseIdx position })
      (found : (test.path direction).responses[position]? = some packet)
      (moved : WorkerMoves peer test.worker (.resolved now (.ok packet.t)) worker outputs) :
      ThroughputMoves peer test ((test.setPath direction path).absorbHost worker outputs).1
        ((test.setPath direction path).absorbHost worker outputs).2
  | loseRequests (direction : Direction) (kept : List (Packet Request))
      (remaining : kept.Sublist (test.path direction).link) :
      ThroughputMoves peer test
        (test.setPath direction { test.path direction with link := kept }) []
  | loseResponses (direction : Direction) (kept : List (Packet Response))
      (remaining : kept.Sublist (test.path direction).responses) :
      ThroughputMoves peer test
        (test.setPath direction { test.path direction with responses := kept }) []
  | serve (direction : Direction) (packet : Packet Request) (rest : List (Packet Request))
      (firmware : TestFirmware) (outputs : List DeviceOutput)
      (first : (test.path direction).link = packet :: rest)
      (moved : ServeMoves test.firmware packet firmware outputs) :
      ThroughputMoves peer test
        ((test.setPath direction { test.path direction with link := rest }).absorbDevice firmware
          outputs).1
        (outputs.map .device)
  | respond (direction : Direction) (delivered : Bool) (firmware : TestFirmware)
      (outputs : List DeviceOutput)
      (responded : test.firmware.respond direction delivered = some (firmware, outputs)) :
      ThroughputMoves peer test (test.absorbDevice firmware outputs).1 (outputs.map .device)

theorem ThroughputTest.work_moves {requestTimeout : Nat} {peer : Address}
    {test next : ThroughputTest} {event : WorkerEvent} {output : List NetworkOutput}
    (worked : test.work requestTimeout peer event = some (next, output)) :
    ∃ worker outputs, WorkerMoves peer test.worker event worker outputs ∧
      test.absorbHost worker outputs = (next, output) := by
  unfold ThroughputTest.work at worked
  split at worked
  · contradiction
  · next worker outputs stepped =>
    exact ⟨worker, outputs, Worker.step_moves stepped, Option.some.inj worked⟩

theorem ThroughputTest.step_moves {requestTimeout : Nat} {peer : Address}
    {test next : ThroughputTest} {event : ThroughputEvent} {output : List NetworkOutput}
    (stepped : test.step requestTimeout peer event = some (next, output)) :
    ThroughputMoves peer test next output := by
  have work {event : WorkerEvent} (unanswered : ∀ now response, event ≠ .resolved now (.ok response))
      (worked : test.work requestTimeout peer event = some (next, output)) :
      ThroughputMoves peer test next output := by
    obtain ⟨worker, outputs, moved, absorbed⟩ := ThroughputTest.work_moves worked
    cases absorbed
    exact .work event worker outputs unanswered moved
  cases event with
  | next => exact work (by rintro _ _ ⟨⟩) stepped
  | request now => exact work (by rintro _ _ ⟨⟩) stepped
  | fail now error => exact work (by rintro _ _ ⟨⟩) stepped
  | timeout now => exact work (by rintro _ _ ⟨⟩) stepped
  | deliver direction position now =>
      simp only [ThroughputTest.step] at stepped
      split at stepped
      · contradiction
      · next packet found =>
        obtain ⟨worker, outputs, moved, absorbed⟩ := ThroughputTest.work_moves stepped
        cases absorbed
        exact .deliver direction position now packet worker outputs _ rfl found moved
  | loseRequest direction position =>
      cases stepped
      exact .loseRequests direction _ (List.eraseIdx_sublist _ _)
  | loseResponse direction position =>
      cases stepped
      exact .loseResponses direction _ (List.eraseIdx_sublist _ _)
  | serve direction =>
      simp only [ThroughputTest.step] at stepped
      split at stepped
      · contradiction
      · next packet rest first =>
        split at stepped
        · contradiction
        · next firmware outputs served =>
          cases stepped
          exact .serve direction packet rest firmware outputs first (TestFirmware.serve_moves served)
  | respond direction delivered =>
      simp only [ThroughputTest.step] at stepped
      split at stepped
      · contradiction
      · next firmware outputs responded =>
        cases stepped
        exact .respond direction delivered firmware outputs responded

/-- What a step of the test is for the worker. -/
def ThroughputTest.workerEvent (test : ThroughputTest) : ThroughputEvent → Option WorkerEvent
  | .next => some .next
  | .request now => some (.request now)
  | .fail now error => some (.resolved now (.error error))
  | .timeout now => some (.timeout now)
  | .deliver direction position now =>
      (test.path direction).responses[position]?.map fun packet => .resolved now (.ok packet.t)
  | .loseRequest _ _ | .loseResponse _ _ | .serve _ | .respond _ _ => none

/-- The step makes the worker repeat a request of the direction. -/
def ThroughputTest.repeats (direction : Direction) (cause : RetryCause) (test : ThroughputTest)
    (event : ThroughputEvent) : Bool :=
  (test.workerEvent event).any (test.worker.repeats direction cause)

theorem ThroughputTest.step_retriesFor {requestTimeout : Nat} {peer : Address}
    {test next : ThroughputTest} {event : ThroughputEvent} {output : List NetworkOutput}
    (stepped : test.step requestTimeout peer event = some (next, output)) (direction : Direction)
    (cause : RetryCause) :
    (next.worker.stats direction).retriesFor cause =
      (test.worker.stats direction).retriesFor cause +
        (test.repeats direction cause event).toNat := by
  have work {taken : ThroughputTest} {workerEvent : WorkerEvent} (same : taken.worker = test.worker)
      (seen : test.workerEvent event = some workerEvent)
      (worked : taken.work requestTimeout peer workerEvent = some (next, output)) :
      (next.worker.stats direction).retriesFor cause =
        (test.worker.stats direction).retriesFor cause +
          (test.repeats direction cause event).toNat := by
    obtain ⟨worker, outputs, moved, absorbed⟩ := ThroughputTest.work_moves worked
    cases absorbed
    rw [same] at moved
    rw [ThroughputTest.repeats, seen]
    exact moved.retriesFor direction cause
  cases event with
  | next => exact work rfl rfl stepped
  | request now => exact work rfl rfl stepped
  | fail now error => exact work rfl rfl stepped
  | timeout now => exact work rfl rfl stepped
  | deliver any position now =>
      simp only [ThroughputTest.step] at stepped
      split at stepped
      · contradiction
      · next packet found =>
        refine work ?_ ?_ stepped
        · rfl
        · simp [ThroughputTest.workerEvent, found]
  | loseRequest any position =>
      cases stepped
      rfl
  | loseResponse any position =>
      cases stepped
      rfl
  | serve any =>
      simp only [ThroughputTest.step] at stepped
      split at stepped
      · contradiction
      · split at stepped
        · contradiction
        · cases stepped
          rfl
  | respond any delivered =>
      simp only [ThroughputTest.step] at stepped
      split at stepped
      · contradiction
      · cases stepped
        rfl

theorem SingleSession.setPath {session : UInt64} {test : ThroughputTest} {direction : Direction}
    {past : List NetworkOutput} {path : Path}
    (tracked : ∀ any, SingleSession session any (test.endpoint any) past)
    (lost : EndpointEffect False direction (test.endpoint direction)
      { test.endpoint direction with path } []) (any : Direction) :
    SingleSession session any ((test.setPath direction path).endpoint any) past := by
  have effect : EndpointEffect False any (test.endpoint any)
      ((test.setPath direction path).endpoint any) [] := by
    refine Paths.lose_effect fun own => ?_
    subst own
    exact lost
  simpa using (tracked any).step effect rfl

end Lamella

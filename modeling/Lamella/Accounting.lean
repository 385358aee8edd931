import Lamella.ExchangeMoves
import Lamella.MachineCore

/-!
The counters of the exchange.  Between two transactions they account for every request, every
backup, every failed request and every response to another transaction.  A wait that ends at
its recovery deadline is booked as one retry and one stall, whatever happened during it.
-/

namespace Lamella

/-! What a trace says about requests and their results. -/

@[ext]
structure Tally where
  retries : Direction → Nat
  stalls : Direction → Nat
  mismatches : Nat
  errors : Nat

def BridgeMetrics.tally (metrics : BridgeMetrics) : Tally where
  retries
    | .tx => metrics.txRetries
    | .rx => metrics.rxRetries
  stalls
    | .tx => metrics.txStalls
    | .rx => metrics.rxStalls
  mismatches := metrics.responseMismatches
  errors := metrics.endpointErrors

@[simp]
def ExchangeOutput.begins (direction : Direction) : ExchangeOutput → Bool
  | .began request => request.direction = direction
  | _ => false

@[simp]
def ExchangeOutput.requests (direction : Direction) : ExchangeOutput → Bool
  | .requested request _ _ _ => request.direction = direction
  | _ => false

@[simp]
def ExchangeOutput.backsUp (direction : Direction) : ExchangeOutput → Bool
  | .requested request _ .backup _ => request.direction = direction
  | _ => false

@[simp]
def ExchangeOutput.mismatches : ExchangeOutput → Bool
  | .resolved request _ (.ok response) => response.transaction ≠ request.transaction
  | _ => false

@[simp]
def ExchangeOutput.fails : ExchangeOutput → Bool
  | .resolved _ _ (.error _) => true
  | _ => false

/-! What the counters still lack in a phase. -/

@[simp]
def ExchangePhase.unsent (direction : Direction) : ExchangePhase → Nat
  | .retry request => if request.direction = direction then 1 else 0
  | _ => 0

@[simp]
def ExchangePhase.openBackups (direction : Direction) : ExchangePhase → Nat
  | .await request attempt =>
      if request.direction = direction ∧ attempt.wait.phase.backupSent = true then 1 else 0
  | _ => 0

@[simp]
def ExchangePhase.openFailures : ExchangePhase → Nat
  | .await _ attempt => attempt.wait.phase.failed.length
  | _ => 0

structure Booked (start : Tally) (exchange : Exchange) (trace : List ExchangeOutput) : Prop where
  retries : ∀ direction, exchange.metrics.tally.retries direction +
      trace.countP (ExchangeOutput.begins direction) + exchange.phase.openBackups direction =
    start.retries direction + trace.countP (ExchangeOutput.requests direction) +
      exchange.phase.unsent direction
  stalls : ∀ direction,
    exchange.metrics.tally.stalls direction + exchange.phase.openBackups direction =
      start.stalls direction + trace.countP (ExchangeOutput.backsUp direction)
  mismatches : exchange.metrics.tally.mismatches =
    start.mismatches + trace.countP ExchangeOutput.mismatches
  errors : exchange.metrics.tally.errors + exchange.phase.openFailures =
    start.errors + trace.countP ExchangeOutput.fails

/-! What the counters record. -/

@[simp]
def Tally.addRetry (tally : Tally) (own : Direction) : Tally :=
  { tally with retries := fun direction => tally.retries direction + if own = direction then 1 else 0 }

@[simp]
def Tally.addStall (tally : Tally) (own : Direction) : Tally :=
  { tally with stalls := fun direction => tally.stalls direction + if own = direction then 1 else 0 }

@[simp]
def Tally.addErrors (tally : Tally) (count : Nat) : Tally :=
  { tally with errors := tally.errors + count }

@[simp]
def Tally.addMismatch (tally : Tally) : Tally :=
  { tally with mismatches := tally.mismatches + 1 }

theorem tally_recordRetry (metrics : BridgeMetrics) (own : Direction) :
    (metrics.recordRetry own).tally = metrics.tally.addRetry own := by
  rw [Tally.ext_iff]
  refine ⟨?_, ?_, ?_, ?_⟩
  · funext direction
    cases own <;> cases direction <;> rfl
  all_goals cases own <;> rfl

theorem tally_recordStall (metrics : BridgeMetrics) (own : Direction) (millis : Nat) :
    (metrics.recordStall own millis).tally = metrics.tally.addStall own := by
  rw [Tally.ext_iff]
  refine ⟨?_, ?_, ?_, ?_⟩
  · cases own <;> rfl
  · funext direction
    cases own <;> cases direction <;> rfl
  all_goals cases own <;> rfl

theorem tally_recordEndpointErrors (metrics : BridgeMetrics) (count : Nat) :
    (Nat.repeat BridgeMetrics.recordEndpointError count metrics).tally =
      metrics.tally.addErrors count := by
  induction count with
  | zero => rfl
  | succ count ih =>
      calc (Nat.repeat BridgeMetrics.recordEndpointError (count + 1) metrics).tally
          = (Nat.repeat BridgeMetrics.recordEndpointError count metrics).tally.addErrors 1 := rfl
        _ = metrics.tally.addErrors (count + 1) := by
          rw [ih]
          rfl

theorem tally_recordEndpointError (metrics : BridgeMetrics) :
    metrics.recordEndpointError.tally = metrics.tally.addErrors 1 := rfl

theorem tally_recordResponseMismatch (metrics : BridgeMetrics) :
    metrics.recordResponseMismatch.tally = metrics.tally.addMismatch := rfl

theorem tally_tapSent (metrics : BridgeMetrics) (result : Except Unit Nat) :
    (tapSent metrics result).tally = metrics.tally := by
  cases result <;> rfl

theorem tally_recovered (metrics : BridgeMetrics) (own : Direction) (millis : Nat) :
    ((metrics.recordRetry own).recordStall own millis).recordRecoveryTimeout.tally =
      (metrics.tally.addRetry own).addStall own := by
  have stalled := tally_recordStall (metrics.recordRetry own) own millis
  rw [tally_recordRetry] at stalled
  exact stalled

theorem tally_recordWait (metrics : BridgeMetrics) (own : Direction) (wait : Wait) (now : Nat)
    (result : Except ReqRespError Response) :
    (recordWait metrics own (wait.completion now result)).tally =
      if wait.phase.backupSent then
        ((metrics.tally.addRetry own).addErrors wait.phase.failed.length).addStall own
      else metrics.tally.addErrors wait.phase.failed.length := by
  unfold recordWait Wait.completion
  cases wait.phase.backupSent with
  | true => simp [tally_recordStall, tally_recordEndpointErrors, tally_recordRetry]
  | false => simp [tally_recordEndpointErrors]

/-! One step of the exchange keeps the books. -/

theorem Booked.moved {start : Tally} {exchange next : Exchange}
    {past outputs : List ExchangeOutput} (booked : Booked start exchange past)
    (retries : ∀ direction, next.metrics.tally.retries direction +
        outputs.countP (ExchangeOutput.begins direction) + next.phase.openBackups direction +
        exchange.phase.unsent direction =
      exchange.metrics.tally.retries direction + outputs.countP (ExchangeOutput.requests direction) +
        next.phase.unsent direction + exchange.phase.openBackups direction)
    (stalls : ∀ direction,
      next.metrics.tally.stalls direction + next.phase.openBackups direction =
        exchange.metrics.tally.stalls direction +
          outputs.countP (ExchangeOutput.backsUp direction) + exchange.phase.openBackups direction)
    (mismatches : next.metrics.tally.mismatches =
      exchange.metrics.tally.mismatches + outputs.countP ExchangeOutput.mismatches)
    (errors : next.metrics.tally.errors + next.phase.openFailures =
      exchange.metrics.tally.errors + outputs.countP ExchangeOutput.fails +
        exchange.phase.openFailures) :
    Booked start next (past ++ outputs) := by
  refine ⟨?_, ?_, ?_, ?_⟩
  · intro direction
    have before := booked.retries direction
    have change := retries direction
    rw [List.countP_append, List.countP_append]
    omega
  · intro direction
    have before := booked.stalls direction
    have change := stalls direction
    rw [List.countP_append]
    omega
  · have before := booked.mismatches
    rw [List.countP_append]
    omega
  · have before := booked.errors
    rw [List.countP_append]
    omega

theorem openBackups_await (request : Request) (attempt : Attempt) (direction : Direction) :
    (ExchangePhase.await request attempt).openBackups direction =
      if attempt.wait.phase.backupSent then
        if request.direction = direction then 1 else 0
      else 0 := by
  cases sent : attempt.wait.phase.backupSent <;> simp [sent]

theorem ExchangePhase.closed_of_idle {phase : ExchangePhase} (idle : phase.isIdle = true) :
    (∀ direction, phase.openBackups direction = 0) ∧ (∀ direction, phase.unsent direction = 0) ∧
      phase.openFailures = 0 := by
  cases phase <;> simp_all [ExchangePhase.isIdle]

theorem Booked.begin {start : Tally} {exchange : Exchange} {past : List ExchangeOutput}
    (booked : Booked start exchange past)
    (phase : exchange.phase = .tryRecv ∨ exchange.phase = .beginRx)
    (make : WifiTransaction → Request) :
    Booked start (exchange.beginRequest make).1 (past ++ (exchange.beginRequest make).2) := by
  unfold Exchange.beginRequest
  generalize make ⟨exchange.session, exchange.nextTransactionId⟩ = request
  rcases phase with phase | phase <;> apply booked.moved <;> simp [phase]

theorem Booked.step {recoveryTimeout : Option Nat} {start : Tally} {exchange next : Exchange}
    {event : ExchangeEvent} {past outputs : List ExchangeOutput}
    (booked : Booked start exchange past)
    (moves : ExchangeMoves recoveryTimeout exchange event next outputs)
    (runs : next.phase.isReturned = false) : Booked start next (past ++ outputs) := by
  cases moves with
  | skip phase => apply booked.moved <;> simp [phase]
  | beginTx frame phase => exact booked.begin (Or.inl phase) _
  | beginRx phase => exact booked.begin (Or.inr phase) _
  | attempt now peer phase => apply booked.moved <;> simp [phase, Exchange.beginAttempt, Wait.begin,
      WaitPhase.backupSent, WaitPhase.failed]
  | log now warningAt phase sent => apply booked.moved <;> simp [phase]
  | backup now warningAt phase first =>
      apply booked.moved <;> simp [phase, Exchange.makeBackup, first, WaitPhase.backupSent,
        WaitPhase.failed]
  | fail now source error phase sent both =>
      cases source <;> apply booked.moved <;> simp [phase, both, WaitPhase.after,
        WaitPhase.backupSent, WaitPhase.failed]
  | @accept request attempt response now source phase sent polled kind same =>
      obtain ⟨backups, unsent, failures⟩ :=
        ExchangePhase.closed_of_idle (afterMatch_isIdle request response)
      rcases tapWrite_cases request response with written | ⟨frame, written⟩ <;>
        apply booked.moved <;>
        simp only [phase, tally_recordWait, openBackups_await, backups, unsent, failures, written] <;>
        split <;> simp [same]
  | mismatch now source phase sent polled other =>
      apply booked.moved <;>
        simp only [phase, tally_recordResponseMismatch, tally_recordRetry, tally_recordWait,
          openBackups_await] <;>
        split <;> simp [other]
  | giveUp now source phase =>
      apply booked.moved <;>
        simp only [phase, tally_recordEndpointError, tally_recordRetry, tally_recordWait,
          openBackups_await] <;>
        split <;> simp <;> omega
  | recover => contradiction
  | cancel now phase => contradiction
  | tapSent result phase => apply booked.moved <;> simp [phase, tally_tapSent]

/-! The counters between two transactions. -/

theorem wifiExchange_booked {recoveryTimeout : Option Nat} {session : UInt64}
    {injector : EndpointFaultInjector} {start : BridgeMetrics} {events : List ExchangeEvent}
    {exchange : Exchange} {trace : List ExchangeOutput}
    (ran : Machine.run (wifiExchange recoveryTimeout) ⟨session, 0, .tryRecv, injector, start⟩ events =
      some (exchange, trace)) (runs : exchange.phase.isReturned = false) :
    Booked start.tally exchange trace := by
  suffices exchange.phase.isReturned = true ∨ Booked start.tally exchange trace by
    rcases this with returned | booked
    · rw [runs] at returned
      contradiction
    · exact booked
  rw [← List.nil_append trace]
  refine Machine.run_invariant (fun exchange trace => exchange.phase.isReturned = true ∨
    Booked start.tally exchange trace) (fun _ => True) ?_ (fun _ _ => trivial) (Or.inr ?_) ran
  · intro exchange past event next outputs _ held stepped
    have moves := wifiExchange_moves stepped
    rcases held with returned | booked
    · rw [wifiExchange_running stepped] at returned
      contradiction
    · cases ended : next.phase.isReturned with
      | true => exact Or.inl rfl
      | false => exact Or.inr (booked.step moves ended)
  · exact ⟨by simp, by simp, by simp, by simp⟩

structure CountersAccount (start current : BridgeMetrics) (trace : List ExchangeOutput) : Prop where
  retries : ∀ direction,
    current.tally.retries direction + trace.countP (ExchangeOutput.begins direction) =
      start.tally.retries direction + trace.countP (ExchangeOutput.requests direction)
  stalls : ∀ direction, current.tally.stalls direction =
    start.tally.stalls direction + trace.countP (ExchangeOutput.backsUp direction)
  mismatches : current.responseMismatches =
    start.responseMismatches + trace.countP ExchangeOutput.mismatches
  errors : current.endpointErrors = start.endpointErrors + trace.countP ExchangeOutput.fails

/-- Between two transactions the counters of a session, serial or NUSB, account for all of its
requests: a retry for every request beyond the first of its transaction, a stall for every
backup, and every failed or mismatched result once. -/
theorem counters_account {recoveryTimeout : Option Nat} {session : UInt64}
    {injector : EndpointFaultInjector} {start : BridgeMetrics} {events : List ExchangeEvent}
    {exchange : Exchange} {trace : List ExchangeOutput}
    (ran : Machine.run (wifiExchange recoveryTimeout) ⟨session, 0, .tryRecv, injector, start⟩ events =
      some (exchange, trace)) (between : exchange.phase.isIdle = true) :
    CountersAccount start exchange.metrics trace := by
  obtain ⟨backups, unsent, failures⟩ := ExchangePhase.closed_of_idle between
  have booked := wifiExchange_booked ran (ExchangePhase.request_of_idle between).2
  refine ⟨?_, ?_, booked.mismatches, ?_⟩
  · intro direction
    have retries := booked.retries direction
    rwa [backups, unsent] at retries
  · intro direction
    have stalls := booked.stalls direction
    rwa [backups] at stalls
  · have errors := booked.errors
    rwa [failures] at errors

def sampleStalledPoll : List ExchangeEvent :=
  [.tryRecv none, .beginRx, .attempt 0 ⟨1, 2, 0⟩, .wait 250 .warning]

def sampleFailedPoll : List ExchangeEvent :=
  sampleStalledPoll ++ [.wait 300 (.resolved .primary (.error ⟨0⟩))]

theorem counters_account_sample :
    ∃ exchange trace, Machine.run (wifiExchange none) ⟨7, 0, .tryRecv, .default, {}⟩
        (sampleFailedPoll ++ [.wait 400 (.resolved .backup (.ok (.rx ⟨⟨7, 0⟩, none⟩)))]) =
        some (exchange, trace) ∧
      exchange.metrics.rxRetries = 1 ∧ exchange.metrics.endpointErrors = 1 ∧
      CountersAccount {} exchange.metrics trace := by
  have reached : (Machine.run (wifiExchange none) ⟨7, 0, .tryRecv, .default, {}⟩
      (sampleFailedPoll ++ [.wait 400 (.resolved .backup (.ok (.rx ⟨⟨7, 0⟩, none⟩)))])).map
        (fun result => (result.1.phase, result.1.metrics.rxRetries,
          result.1.metrics.endpointErrors)) = some (.tryRecv, 1, 1) := by
    decide +kernel
  obtain ⟨⟨exchange, trace⟩, ran, seen⟩ := Option.map_eq_some_iff.mp reached
  obtain ⟨idle, counted⟩ := Prod.mk.inj seen
  obtain ⟨retries, errors⟩ := Prod.mk.inj counted
  exact ⟨exchange, trace, ran, retries, errors, counters_account ran (by rw [idle]; rfl)⟩

/-! The counters of a session that is given up. -/

def ExchangeEvent.isAttempt : ExchangeEvent → Bool
  | .attempt _ _ => true
  | _ => false

def ExchangeEvent.isStall : ExchangeEvent → Bool
  | .wait _ .warning => true
  | _ => false

def ExchangeEvent.isFailure : ExchangeEvent → Bool
  | .wait _ (.resolved _ (.error _)) => true
  | _ => false

/-- The events of the last attempt, from the last one back. -/
def lastAttempt (events : List ExchangeEvent) : List ExchangeEvent :=
  events.reverse.takeWhile fun event => !event.isAttempt

theorem lastAttempt_snoc (events : List ExchangeEvent) (event : ExchangeEvent) :
    lastAttempt (events ++ [event]) =
      if event.isAttempt then [] else event :: lastAttempt events := by
  cases attempt : event.isAttempt <;> simp [lastAttempt, attempt]

structure LastWait (phase : WaitPhase) (events : List ExchangeEvent) : Prop where
  stalled : phase.backupSent = true ↔ ∃ event ∈ lastAttempt events, event.isStall = true
  failed : phase.failed = [] ↔ ∀ event ∈ lastAttempt events, event.isFailure = false

theorem LastWait.wait {phase next : WaitPhase} {events : List ExchangeEvent}
    (last : LastWait phase events) (now : Nat) (event : WaitEvent Response)
    (stalled : next.backupSent = true ↔
      (ExchangeEvent.wait now event).isStall = true ∨ phase.backupSent = true)
    (failed : next.failed = [] ↔
      (ExchangeEvent.wait now event).isFailure = false ∧ phase.failed = []) :
    LastWait next (events ++ [.wait now event]) := by
  have grown : lastAttempt (events ++ [.wait now event]) = .wait now event :: lastAttempt events :=
    lastAttempt_snoc events (.wait now event)
  constructor
  · rw [stalled, last.stalled, grown]
    simp
  · rw [failed, last.failed, grown]
    simp

theorem wifiExchange_lastWait {recoveryTimeout : Option Nat} {session : UInt64}
    {injector : EndpointFaultInjector} {start : BridgeMetrics} {events : List ExchangeEvent}
    {exchange : Exchange} {trace : List ExchangeOutput}
    (ran : Machine.run (wifiExchange recoveryTimeout) ⟨session, 0, .tryRecv, injector, start⟩ events =
      some (exchange, trace)) {request : Request} {attempt : Attempt}
    (phase : exchange.phase = .await request attempt) : LastWait attempt.wait.phase events := by
  suffices ∀ request attempt, exchange.phase = .await request attempt →
      LastWait attempt.wait.phase events from this request attempt phase
  refine Machine.run_record (fun exchange events _ => ∀ request attempt,
    exchange.phase = .await request attempt → LastWait attempt.wait.phase events) ?_ ?_ ran
  · intro exchange past trace event next outputs held stepped request attempt phase
    have snoc := lastAttempt_snoc past event
    cases wifiExchange_moves stepped with
    | skip | beginTx | beginRx | mismatch | giveUp | recover | cancel | tapSent => contradiction
    | accept => exact absurd phase (afterMatch_ne rfl _ _)
    | attempt now peer =>
        cases phase
        constructor <;> simp [snoc, ExchangeEvent.isAttempt, Wait.begin, WaitPhase.backupSent,
          WaitPhase.failed]
    | log now warningAt before sent =>
        cases phase
        exact (held _ _ before).wait now .warning (by simp [sent]) (by simp [ExchangeEvent.isFailure])
    | backup now warningAt before first =>
        cases phase
        refine (held _ _ before).wait now .warning ?_ ?_ <;> rw [first] <;>
          simp [ExchangeEvent.isStall, ExchangeEvent.isFailure, WaitPhase.backupSent, WaitPhase.failed]
    | fail now source error before sent both =>
        cases phase
        refine (held _ _ before).wait now _ ?_ ?_ <;> rw [both] <;> cases source <;>
          simp [ExchangeEvent.isFailure, WaitPhase.after, WaitPhase.backupSent, WaitPhase.failed]
  · intro request attempt phase
    contradiction

theorem ExchangeMoves.recovered {recoveryTimeout : Option Nat} {exchange next : Exchange}
    {event : ExchangeEvent} {outputs : List ExchangeOutput}
    (moves : ExchangeMoves recoveryTimeout exchange event next outputs)
    (ended : next.phase = .returned .recoveryRequired) :
    ∃ request attempt now, exchange.phase = .await request attempt ∧
      event = .wait now .recoveryDeadline ∧ outputs = [.returned .recoveryRequired] ∧
      next.metrics.tally =
        (exchange.metrics.tally.addRetry request.direction).addStall request.direction := by
  cases moves with
  | skip | beginTx | beginRx | attempt | log | backup | fail | mismatch | giveUp | tapSent =>
      contradiction
  | cancel => cases ended
  | accept => exact absurd ended (afterMatch_ne rfl _ _)
  | @recover request attempt _ now phase given =>
      exact ⟨request, attempt, now, phase, rfl, rfl, tally_recovered _ _ _⟩

theorem Booked.recovered_retries_iff {start tally : Tally} {exchange : Exchange}
    {past : List ExchangeOutput} (booked : Booked start exchange past) {request : Request}
    {attempt : Attempt} (phase : exchange.phase = .await request attempt)
    (recorded : tally =
      (exchange.metrics.tally.addRetry request.direction).addStall request.direction) :
    (∀ direction, tally.retries direction + past.countP (ExchangeOutput.begins direction) =
        start.retries direction + past.countP (ExchangeOutput.requests direction)) ↔
      attempt.wait.phase.backupSent = true := by
  have before := booked.retries
  simp only [phase, openBackups_await, ExchangePhase.unsent] at before
  subst recorded
  constructor
  · intro complete
    by_contra unsent
    have own := before request.direction
    have exact_ := complete request.direction
    simp only [unsent, if_false, Tally.addRetry, Tally.addStall, if_true] at own exact_
    omega
  · intro sent direction
    have own := before direction
    simp only [sent, if_true] at own
    simp only [Tally.addRetry, Tally.addStall]
    omega

theorem Booked.recovered_errors_iff {start tally : Tally} {exchange : Exchange}
    {past : List ExchangeOutput} (booked : Booked start exchange past) {request : Request}
    {attempt : Attempt} (phase : exchange.phase = .await request attempt)
    (recorded : tally =
      (exchange.metrics.tally.addRetry request.direction).addStall request.direction) :
    tally.errors = start.errors + past.countP ExchangeOutput.fails ↔
      attempt.wait.phase.failed = [] := by
  have before := booked.errors
  simp only [phase, ExchangePhase.openFailures] at before
  subst recorded
  rw [← List.length_eq_zero_iff]
  simp only [Tally.addRetry, Tally.addStall]
  omega

/-- A session that is given up has complete retry and error counters exactly when, in its last
attempt, the stall timer was taken and no request failed before the deadline: the recovery
branch books one retry and no error in any case. -/
theorem given_up_counters_iff {recoveryTimeout : Option Nat} {session : UInt64}
    {injector : EndpointFaultInjector} {start : BridgeMetrics} {events : List ExchangeEvent}
    {exchange : Exchange} {trace : List ExchangeOutput}
    (ran : Machine.run (wifiExchange recoveryTimeout) ⟨session, 0, .tryRecv, injector, start⟩ events =
      some (exchange, trace)) (ended : exchange.phase = .returned .recoveryRequired) :
    ((∀ direction,
        exchange.metrics.tally.retries direction + trace.countP (ExchangeOutput.begins direction) =
          start.tally.retries direction + trace.countP (ExchangeOutput.requests direction)) ∧
      exchange.metrics.endpointErrors =
        start.endpointErrors + trace.countP ExchangeOutput.fails) ↔
    (∃ event ∈ lastAttempt events, event.isStall = true) ∧
      ∀ event ∈ lastAttempt events, event.isFailure = false := by
  rcases List.eq_nil_or_concat events with rfl | ⟨before, event, rfl⟩
  · cases ran
    contradiction
  rw [List.concat_eq_append] at ran ⊢
  obtain ⟨state, past, outputs, earlier, stepped, rfl⟩ := (Machine.run_snoc_iff _ _ _ _ _).mp ran
  obtain ⟨request, attempt, now, phase, rfl, rfl, tally⟩ := (wifiExchange_moves stepped).recovered ended
  have booked := wifiExchange_booked earlier (by rw [phase]; rfl)
  have last := wifiExchange_lastWait earlier phase
  have retries := booked.recovered_retries_iff phase tally
  have errors := booked.recovered_errors_iff phase tally
  have ends : LastWait attempt.wait.phase (before ++ [.wait now .recoveryDeadline]) :=
    last.wait now .recoveryDeadline (by simp [ExchangeEvent.isStall])
      (by simp [ExchangeEvent.isFailure])
  simp only [List.countP_append, List.countP_singleton, ExchangeOutput.begins,
    ExchangeOutput.requests, ExchangeOutput.fails, Bool.false_eq_true, if_false, Nat.add_zero]
  exact and_congr (retries.trans ends.stalled) (errors.trans ends.failed)

theorem given_up_counters_iff_sample :
    ∃ exchange trace, Machine.run (wifiExchange (some endpointRecoveryTimeout))
        ⟨7, 0, .tryRecv, .default, {}⟩ (sampleStalledPoll ++ [.wait 5000 .recoveryDeadline]) =
        some (exchange, trace) ∧
      exchange.phase = .returned .recoveryRequired ∧
      exchange.metrics.endpointErrors = 0 + trace.countP ExchangeOutput.fails := by
  have reached : (Machine.run (wifiExchange (some endpointRecoveryTimeout))
      ⟨7, 0, .tryRecv, .default, {}⟩ (sampleStalledPoll ++ [.wait 5000 .recoveryDeadline])).map
        (fun result => result.1.phase) = some (.returned .recoveryRequired) := by
    decide +kernel
  obtain ⟨⟨exchange, trace⟩, ran, ended⟩ := Option.map_eq_some_iff.mp reached
  have complete := (given_up_counters_iff ran ended).mpr (by decide)
  exact ⟨exchange, trace, ran, ended, complete.2⟩

/-- The primary request fails while the backup is pending, and the deadline passes: the failure
is not counted. -/
theorem given_up_counters_fail :
    (Machine.run (wifiExchange (some endpointRecoveryTimeout)) ⟨7, 0, .tryRecv, .default, {}⟩
        (sampleFailedPoll ++ [.wait 5000 .recoveryDeadline])).map
      (fun result => (result.1.phase, result.2.countP ExchangeOutput.fails,
        result.1.metrics.endpointErrors)) = some (.returned .recoveryRequired, 1, 0) := by
  decide +kernel

/-- The deadline is taken before the stall timer: a retry is counted, though only the first
request of the transaction was made. -/
example :
    (Machine.run (wifiExchange (some endpointRecoveryTimeout)) ⟨7, 0, .tryRecv, .default, {}⟩
        [.tryRecv none, .beginRx, .attempt 0 ⟨1, 2, 0⟩, .wait 5000 .recoveryDeadline]).map
      (fun result => (result.2.countP (ExchangeOutput.requests .rx),
        result.2.countP (ExchangeOutput.begins .rx), result.1.metrics.rxRetries)) =
      some (1, 1, 1) := by
  decide +kernel

end Lamella

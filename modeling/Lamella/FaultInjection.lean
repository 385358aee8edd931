import Lamella.Accounting
import Lamella.FaultBudget

/-!
Fault injection over the sessions of a hot-plug run.  The budget is shared by all sessions, so
the invariant goes through every step of the exchange and through the start of a session.
-/

namespace Lamella

structure Injecting (budget : Nat) (fault : EndpointFaultDirection) (start : BridgeMetrics)
    (exchange : Exchange) (trace : List ExchangeOutput) : Prop where
  budgeted : Budgeted budget fault exchange.injector trace
  spending : ∃ retries, exchange.metrics.totalRetries = start.totalRetries + retries ∧
    Spending budget fault exchange.phase (transactionsOf fault trace) (madeOf fault trace)
      (recoveriesOf trace) retries

theorem totalRetries_of_tally {metrics : BridgeMetrics} {tally : Tally}
    (same : metrics.tally = tally) :
    metrics.totalRetries = tally.retries .tx + tally.retries .rx := by
  subst same
  rfl

theorem totalRetries_addRetry (tally : Tally) (own : Direction) :
    (tally.addRetry own).retries .tx + (tally.addRetry own).retries .rx =
      tally.retries .tx + tally.retries .rx + 1 := by
  cases own <;> simp [Tally.addRetry] <;> omega

theorem totalRetries_recordWait (metrics : BridgeMetrics) (own : Direction) (wait : Wait) (now : Nat)
    (result : Except ReqRespError Response) :
    (recordWait metrics own (wait.completion now result)).totalRetries =
      metrics.totalRetries + if wait.phase.backupSent then 1 else 0 := by
  rw [totalRetries_of_tally (tally_recordWait metrics own wait now result)]
  split
  · exact totalRetries_addRetry metrics.tally own
  · rfl

def ExchangeOutput.isCounted : ExchangeOutput → Bool
  | .began _ | .requested _ _ _ _ | .returned .recoveryRequired => true
  | .resolved _ _ _ | .acknowledged _ _ | .tapSend _ _ | .returned .cancelled => false

theorem Injecting.quiet {budget retries : Nat} {fault : EndpointFaultDirection}
    {start : BridgeMetrics} {next : Exchange} {past outputs : List ExchangeOutput}
    (budgeted : Budgeted budget fault next.injector past)
    (silent : ∀ output ∈ outputs, output.isCounted = false)
    (total : next.metrics.totalRetries = start.totalRetries + retries)
    (spending : Spending budget fault next.phase (transactionsOf fault past) (madeOf fault past)
      (recoveriesOf past) retries) :
    Injecting budget fault start next (past ++ outputs) := by
  have unrequested : ∀ output ∈ outputs, output.isRequest = false := by
    intro output member
    have uncounted := silent output member
    cases output <;> first | rfl | contradiction
  have unbegun : transactionsOf fault outputs = [] := by
    rw [transactionsOf, List.filterMap_eq_nil_iff]
    intro output member
    have uncounted := silent output member
    cases output <;> first | rfl | contradiction
  have unrecovered : recoveriesOf outputs = 0 := by
    rw [recoveriesOf, List.countP_eq_zero]
    intro output member
    have uncounted := silent output member
    revert uncounted
    unfold ExchangeOutput.isCounted ExchangeOutput.isRecovery
    split <;> simp
  refine ⟨budgeted.quiet unrequested, retries, total, ?_⟩
  have begun : transactionsOf fault (past ++ outputs) = transactionsOf fault past := by
    rw [transactionsOf_append, unbegun, List.append_nil]
  have made : madeOf fault (past ++ outputs) = madeOf fault past := by
    rw [madeOf_append, madeOf, madeOf, requestsOf_silent fault unrequested, List.map_nil, List.append_nil]
  have recoveries : recoveriesOf (past ++ outputs) = recoveriesOf past := by
    rw [recoveriesOf_append, unrecovered, Nat.add_zero]
  rw [begun, made, recoveries]
  exact spending

theorem Injecting.begin {budget retries : Nat} {fault : EndpointFaultDirection}
    {start : BridgeMetrics} {exchange : Exchange} {past : List ExchangeOutput}
    (budgeted : Budgeted budget fault exchange.injector past)
    (total : exchange.metrics.totalRetries = start.totalRetries + retries)
    (settled : Settled budget (transactionsOf fault past) (madeOf fault past) (recoveriesOf past)
      retries) (make : WifiTransaction → Request) :
    Injecting budget fault start (exchange.beginRequest make).1
      (past ++ (exchange.beginRequest make).2) := by
  refine ⟨budgeted.quiet (by simp [Exchange.beginRequest, ExchangeOutput.isRequest]), retries,
    total, ?_⟩
  have begun : ∀ request, transactionsOf fault [.began request] =
      if fault.selects request.direction then [request] else [] := by
    intro request
    cases selected : fault.selects request.direction <;>
      simp [transactionsOf, ExchangeOutput.begunSelected, selected]
  have unmade : ∀ request, madeOf fault [.began request] = [] := fun _ => rfl
  have unrecovered : ∀ request, recoveriesOf [.began request] = 0 := fun _ => rfl
  simp only [Exchange.beginRequest]
  rw [transactionsOf_append, madeOf_append, recoveriesOf_append, begun, unmade, unrecovered,
    List.append_nil, Nat.add_zero]
  exact Spending.begin settled _

theorem Injecting.request {budget retries : Nat} {fault : EndpointFaultDirection}
    {start : BridgeMetrics} {exchange next : Exchange} {past : List ExchangeOutput}
    {request : Request} {source : ResponseSource} (peer : Address)
    (budgeted : Budgeted budget fault exchange.injector past)
    (injector : next.injector =
      (exchange.injector.shouldDrop (request.direction.label source)).2)
    (total : next.metrics.totalRetries = start.totalRetries + retries)
    (spending : Spending budget fault next.phase (transactionsOf fault past)
      (madeOf fault past ++ if fault.selects request.direction then [(request, source)] else [])
      (recoveriesOf past) retries) :
    Injecting budget fault start next (past ++ [.requested request peer source
      (exchange.injector.shouldDrop (request.direction.label source)).1]) := by
  refine ⟨?_, retries, total, ?_⟩
  · rw [injector]
    exact budgeted.request request peer source
  · have made : ∀ dropped, madeOf fault [.requested request peer source dropped] =
        if fault.selects request.direction then [(request, source)] else [] := by
      intro dropped
      cases selected : fault.selects request.direction <;>
        simp [madeOf, requestsOf, ExchangeOutput.made, selected]
    have unbegun : ∀ dropped, transactionsOf fault [.requested request peer source dropped] = [] :=
      fun _ => rfl
    have unrecovered : ∀ dropped, recoveriesOf [.requested request peer source dropped] = 0 :=
      fun _ => rfl
    rw [transactionsOf_append, madeOf_append, recoveriesOf_append, made, unbegun, unrecovered,
      List.append_nil, Nat.add_zero]
    exact spending

/-- A transaction whose response is accepted is settled. -/
theorem Injecting.accept {budget retries : Nat} {fault : EndpointFaultDirection}
    {start : BridgeMetrics} {exchange : Exchange} {past : List ExchangeOutput} {request : Request}
    {attempt : Attempt} {source : ResponseSource}
    (budgeted : Budgeted budget fault exchange.injector past)
    (total : exchange.metrics.totalRetries = start.totalRetries + retries)
    (spending : Spending budget fault (.await request attempt) (transactionsOf fault past)
      (madeOf fault past) (recoveriesOf past) retries)
    (sent : attempt.dropped source = false) (polled : attempt.wait.phase.polls source = true)
    (response : Response) (now : Nat) :
    Injecting budget fault start
      { exchange with
        metrics :=
          recordWait exchange.metrics request.direction (attempt.wait.completion now (.ok response))
        phase := .afterMatch request response }
      (past ++ .resolved request source (.ok response) :: .acknowledged request response ::
        tapWrite request response) := by
  have apart : (ExchangePhase.afterMatch request response).apart fault = true :=
    ExchangePhase.apart_of_idle (afterMatch_isIdle request response)
  refine .quiet budgeted ?_ ?_ (.apart apart (spending.finish sent polled))
  · rcases tapWrite_cases request response with written | ⟨frame, written⟩ <;>
      simp [written, ExchangeOutput.isCounted]
  · rw [totalRetries_recordWait, total, Nat.add_assoc]

/-- A session ends when the backup was dropped as well. -/
theorem Injecting.recover {budget retries : Nat} {fault : EndpointFaultDirection}
    {start : BridgeMetrics} {exchange next : Exchange} {past : List ExchangeOutput}
    {request : Request} {attempt : Attempt}
    (budgeted : Budgeted budget fault exchange.injector past)
    (total : exchange.metrics.totalRetries = start.totalRetries + retries)
    (spending : Spending budget fault (.await request attempt) (transactionsOf fault past)
      (madeOf fault past) (recoveriesOf past) retries)
    (stalled : attempt.wait.phase.backupSent = true) (dropped : attempt.backupDropped = true)
    (injector : next.injector = exchange.injector)
    (ended : next.phase = .returned .recoveryRequired)
    (recorded : next.metrics.tally =
      (exchange.metrics.tally.addRetry request.direction).addStall request.direction) :
    Injecting budget fault start next (past ++ [.returned .recoveryRequired]) := by
  refine ⟨?_, retries + 1, ?_, ?_⟩
  · rw [injector]
    exact budgeted.quiet (by simp [ExchangeOutput.isRequest])
  · calc next.metrics.totalRetries = exchange.metrics.totalRetries + 1 :=
          (totalRetries_of_tally recorded).trans
            (totalRetries_addRetry exchange.metrics.tally request.direction)
      _ = start.totalRetries + (retries + 1) := by rw [total, Nat.add_assoc]
  · have begun : transactionsOf fault (past ++ [.returned .recoveryRequired]) =
        transactionsOf fault past := by
      rw [transactionsOf_append]
      exact List.append_nil _
    have made : madeOf fault (past ++ [.returned .recoveryRequired]) = madeOf fault past := by
      rw [madeOf_append]
      exact List.append_nil _
    rw [begun, made, recoveriesOf_append, ended]
    exact .apart rfl (spending.recover stalled dropped)

theorem Injecting.step {budget : Nat} {fault : EndpointFaultDirection} {start : BridgeMetrics}
    {exchange next : Exchange} {event : SessionEvent} {past outputs : List ExchangeOutput}
    (held : Injecting budget fault start exchange past) (answered : exchange.answered event = true)
    (stallFirst : exchange.stallFirst event = true)
    (stepped : hotplugSessions exchange event = some (next, outputs)) :
    Injecting budget fault start next (past ++ outputs) := by
  obtain ⟨budgeted, retries, total, spending⟩ := held
  cases event with
  | session id =>
      simp only [hotplugSessions, Option.ite_none_right_eq_some, Option.some.injEq,
        Prod.mk.injEq] at stepped
      obtain ⟨ended, rfl, rfl⟩ := stepped
      have settled := spending.settled_of_idle (Or.inr ended)
      exact .quiet budgeted (by simp) total (.apart rfl settled)
  | exchange event =>
      cases wifiExchange_moves stepped with
      | skip phase =>
          have settled := spending.settled_of_idle (Or.inl (by rw [phase]; rfl))
          exact .quiet budgeted (by simp) total (.apart rfl settled)
      | tapSent result phase =>
          have settled := spending.settled_of_idle (Or.inl (by rw [phase]; rfl))
          refine .quiet budgeted (by simp) ?_ (.apart rfl settled)
          rw [totalRetries_of_tally (tally_tapSent exchange.metrics result)]
          exact total
      | beginTx frame phase =>
          exact .begin budgeted total (spending.settled_of_idle (Or.inl (by rw [phase]; rfl))) _
      | beginRx phase =>
          exact .begin budgeted total (spending.settled_of_idle (Or.inl (by rw [phase]; rfl))) _
      | @attempt request now peer phase =>
          rw [phase] at spending
          refine .request peer budgeted rfl total ?_
          simp only [Exchange.beginAttempt, budgeted.shouldDrop]
          exact spending.attempt peer now
      | log now warningAt phase sent =>
          rw [phase] at spending
          exact .quiet budgeted (by simp) total (spending.log sent warningAt)
      | @backup request attempt now warningAt phase first =>
          rw [phase] at spending
          simp only [Exchange.answered, phase] at answered
          obtain ⟨selected, next⟩ := spending.backup first answered warningAt
          refine .request _ budgeted rfl total ?_
          simp only [Exchange.makeBackup, budgeted.shouldDrop, selected, if_true, Bool.true_and]
          exact next
      | fail now source error phase =>
          simp only [Exchange.answered, phase] at answered
          contradiction
      | giveUp now source phase =>
          simp only [Exchange.answered, phase] at answered
          contradiction
      | mismatch now source phase sent polled other =>
          simp [Exchange.answered, phase, Attempt.answered, other] at answered
      | accept now source phase sent polled =>
          rw [phase] at spending
          exact .accept budgeted total spending sent polled _ now
      | @recover request attempt duration now phase given due =>
          rw [phase] at spending
          simp only [Exchange.stallFirst, phase] at stallFirst
          simp only [Exchange.answered, phase] at answered
          have dropped : attempt.backupDropped = true := by
            simp_all [Attempt.answered]
          have recorded := tally_recovered exchange.metrics request.direction (attempt.wait.elapsed now)
          exact .recover budgeted total spending stallFirst dropped rfl rfl recorded
      | cancel now phase =>
          exact .quiet budgeted (by simp [ExchangeOutput.isCounted]) total spending.cancel

theorem hotplugSessions_injecting {budget : Nat} {fault : EndpointFaultDirection}
    {session : UInt64} {start : BridgeMetrics} {events : List SessionEvent} {exchange : Exchange}
    {trace : List ExchangeOutput}
    (ran : Machine.run hotplugSessions (injectedStart budget fault session start) events =
      some (exchange, trace))
    (answered : SessionsObey Exchange.answered
      (injectedStart budget fault session start) events)
    (stallFirst : SessionsObey Exchange.stallFirst
      (injectedStart budget fault session start) events) :
    Injecting budget fault start exchange trace := by
  refine Machine.run_obeying_trace (fun exchange trace => Injecting budget fault start exchange trace)
    ?_ ?_ (fun before event front state past earlier =>
      (And.intro (answered before event front state past earlier)
        (stallFirst before event front state past earlier))) ran
  · intro exchange past event next outputs held allowed stepped
    exact held.step allowed.1 allowed.2 stepped
  · refine ⟨⟨by simp [injectedStart, requestsOf], rfl, by simp [requestsOf]⟩, 0, rfl,
      .apart rfl ⟨by simp [madeOf, requestsOf, transactionsOf, plannedRequests], ?_, ?_⟩⟩
    · simp [recoveriesOf, transactionsOf]
    · simp [transactionsOf]

structure BudgetSpent (budget : Nat) (fault : EndpointFaultDirection)
    (start current : BridgeMetrics) (trace : List ExchangeOutput) : Prop where
  first : (requestsOf fault trace).map MadeRequest.dropped =
    (List.range (requestsOf fault trace).length).map fun index => decide (index < budget)
  drops : trace.countP ExchangeOutput.isDropped = budget
  pairs : (madeOf fault trace).take budget =
    ((transactionsOf fault trace).flatMap requestPair).take budget
  recoveries : recoveriesOf trace = budget / 2
  retries : current.txRetries + current.rxRetries =
    start.txRetries + start.rxRetries + (budget + 1) / 2

theorem Injecting.budgetSpent {budget : Nat} {fault : EndpointFaultDirection}
    {start : BridgeMetrics} {exchange : Exchange} {trace : List ExchangeOutput}
    (held : Injecting budget fault start exchange trace)
    (enough : (budget + 1) / 2 < (transactionsOf fault trace).length) :
    BudgetSpent budget fault start exchange.metrics trace := by
  obtain ⟨budgeted, retries, total, spending⟩ := held
  obtain ⟨pairs, all, recoveries, rfl⟩ := spending.spent enough
  refine ⟨budgeted.first, ?_, pairs, recoveries, total⟩
  rw [madeOf_length] at all
  rw [budgeted.drops, Nat.min_eq_left all]

/-- When the device answers every request that is sent and the stall timer of a wait is taken
before its recovery deadline, the first requests of the selected direction use up the budget,
primary and backup of one transaction after the other; every second drop ends a session, and
afterwards no request is dropped and no session ends. -/
theorem fault_budget_spent {budget : Nat} {fault : EndpointFaultDirection} {session : UInt64}
    {start : BridgeMetrics} {events later : List SessionEvent} {exchange final : Exchange}
    {trace rest : List ExchangeOutput}
    (ran : Machine.run hotplugSessions (injectedStart budget fault session start) events =
      some (exchange, trace))
    (continued : Machine.run hotplugSessions exchange later = some (final, rest))
    (answered : SessionsObey Exchange.answered
      (injectedStart budget fault session start) (events ++ later))
    (stallFirst : SessionsObey Exchange.stallFirst
      (injectedStart budget fault session start) (events ++ later))
    (enough : (budget + 1) / 2 < (transactionsOf fault trace).length) :
    BudgetSpent budget fault start exchange.metrics trace ∧
      (∀ output ∈ rest, output.isDropped = false) ∧ ∀ output ∈ rest, output.isRecovery = false := by
  have spent := (hotplugSessions_injecting ran answered.initial stallFirst.initial).budgetSpent enough
  have all := hotplugSessions_injecting (Machine.run_append ran continued) answered stallFirst
  have still := all.budgetSpent (by rw [transactionsOf_append, List.length_append]; omega)
  refine ⟨spent, ?_, ?_⟩
  · have drops := still.drops
    rw [List.countP_append, spent.drops, Nat.add_eq_left, List.countP_eq_zero] at drops
    simpa using drops
  · have recoveries := still.recoveries
    rw [recoveriesOf_append, spent.recoveries, Nat.add_eq_left, recoveriesOf,
      List.countP_eq_zero] at recoveries
    simpa using recoveries

/-- One poll whose primary and backup are dropped, and two polls that are answered at once. -/
def sampleBudgetEvents : List SessionEvent :=
  [.exchange (.tryRecv none), .exchange .beginRx, .exchange (.attempt 0 ⟨1, 2, 0⟩),
    .exchange (.wait 250 .warning), .exchange (.wait 5000 .recoveryDeadline), .session 8,
    .exchange (.tryRecv none), .exchange .beginRx, .exchange (.attempt 9000 ⟨1, 2, 0⟩)]

def sampleBudgetAnswer : List SessionEvent :=
  [.exchange (.wait 9010 (.resolved .primary (.ok (.rx ⟨⟨8, 0⟩, none⟩))))]

theorem fault_budget_spent_sample :
    ∃ exchange trace, Machine.run hotplugSessions (injectedStart 2 .any 7 {}) sampleBudgetEvents =
        some (exchange, trace) ∧ BudgetSpent 2 .any {} exchange.metrics trace := by
  have reached : (Machine.run hotplugSessions (injectedStart 2 .any 7 {}) sampleBudgetEvents).map
      (fun result => ((transactionsOf .any result.2).length,
        (Machine.run hotplugSessions result.1 sampleBudgetAnswer).isSome)) = some (2, true) := by
    decide +kernel
  obtain ⟨⟨exchange, trace⟩, ran, seen⟩ := Option.map_eq_some_iff.mp reached
  obtain ⟨begun, continues⟩ := Prod.mk.inj seen
  obtain ⟨⟨final, rest⟩, continued⟩ := Option.isSome_iff_exists.mp continues
  refine ⟨exchange, trace, ran, (fault_budget_spent ran continued ?_ ?_ ?_).1⟩
  · exact Machine.obeys_sound (by decide +kernel)
  · exact Machine.obeys_sound (by decide +kernel)
  · rw [begun]
    decide

/-- The host is not scheduled for five seconds after each of the first two requests, and the
`select!` takes the recovery deadline although the stall timer is due as well. -/
def sampleStarvedEvents : List SessionEvent :=
  [.exchange (.tryRecv none), .exchange .beginRx, .exchange (.attempt 0 ⟨1, 2, 0⟩),
    .exchange (.wait 5000 .recoveryDeadline), .session 8,
    .exchange (.tryRecv none), .exchange .beginRx, .exchange (.attempt 9000 ⟨1, 2, 0⟩),
    .exchange (.wait 14000 .recoveryDeadline), .session 9,
    .exchange (.tryRecv none), .exchange .beginRx, .exchange (.attempt 18000 ⟨1, 2, 0⟩)]

/-- A budget of two then ends two sessions. -/
theorem fault_budget_starved :
    SessionsObey Exchange.answered (injectedStart 2 .any 7 {}) sampleStarvedEvents ∧
      (Machine.run hotplugSessions (injectedStart 2 .any 7 {}) sampleStarvedEvents).map
        (fun result => ((transactionsOf .any result.2).length, recoveriesOf result.2)) =
          some (3, 2) := by
  refine ⟨Machine.obeys_sound ?_, ?_⟩ <;> decide +kernel

end Lamella

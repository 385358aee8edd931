import Lamella.FaultInjectionCore

/-!
The budget of the fault injector.  It is taken by the first requests of the selected direction;
when the device answers every request that is sent, a transaction takes two drops, a primary
and its backup, and ends its session, until the budget is gone.
-/

namespace Lamella

/-! The budget is taken by the first requests of the selected direction. -/

theorem shouldDrop_budget (budget made : Nat) (fault : EndpointFaultDirection)
    (direction : Direction) (source : ResponseSource) :
    EndpointFaultInjector.shouldDrop ⟨budget - made, fault⟩ (direction.label source) =
      (fault.selects direction && decide (made < budget),
        ⟨budget - (made + if fault.selects direction then 1 else 0), fault⟩) := by
  unfold EndpointFaultInjector.shouldDrop
  simp only [fault.matches_label]
  cases fault.selects direction with
  | false => rfl
  | true =>
      simp only [if_true, Bool.true_and]
      split
      case h_1 spent =>
          simp only [Prod.mk.injEq, EndpointFaultInjector.mk.injEq, and_true]
          refine ⟨(decide_eq_false ?_).symm, ?_⟩ <;> omega
      case h_2 remaining left =>
          simp only [Prod.mk.injEq, EndpointFaultInjector.mk.injEq, and_true]
          refine ⟨(decide_eq_true ?_).symm, ?_⟩ <;> omega

structure Budgeted (budget : Nat) (fault : EndpointFaultDirection)
    (injector : EndpointFaultInjector) (trace : List ExchangeOutput) : Prop where
  injector : injector = ⟨budget - (requestsOf fault trace).length, fault⟩
  first : (requestsOf fault trace).map MadeRequest.dropped =
    (List.range (requestsOf fault trace).length).map fun index => decide (index < budget)
  drops : trace.countP ExchangeOutput.isDropped = min budget (requestsOf fault trace).length

theorem Budgeted.shouldDrop {budget : Nat} {fault : EndpointFaultDirection}
    {injector : EndpointFaultInjector} {trace : List ExchangeOutput}
    (budgeted : Budgeted budget fault injector trace) (direction : Direction)
    (source : ResponseSource) :
    (injector.shouldDrop (direction.label source)).1 =
      (fault.selects direction && decide ((madeOf fault trace).length < budget)) := by
  rw [budgeted.injector, shouldDrop_budget, madeOf_length]

theorem requestsOf_silent (fault : EndpointFaultDirection) {outputs : List ExchangeOutput}
    (silent : ∀ output ∈ outputs, output.isRequest = false) : requestsOf fault outputs = [] := by
  rw [requestsOf, List.filterMap_eq_nil_iff]
  intro output member
  have other := silent output member
  cases output <;> first | rfl | contradiction

theorem Budgeted.quiet {budget : Nat} {fault : EndpointFaultDirection}
    {injector : EndpointFaultInjector} {past outputs : List ExchangeOutput}
    (budgeted : Budgeted budget fault injector past)
    (silent : ∀ output ∈ outputs, output.isRequest = false) :
    Budgeted budget fault injector (past ++ outputs) := by
  have same : requestsOf fault (past ++ outputs) = requestsOf fault past := by
    rw [requestsOf_append, requestsOf_silent fault silent, List.append_nil]
  have undropped : outputs.countP ExchangeOutput.isDropped = 0 := by
    rw [List.countP_eq_zero]
    intro output member
    have other := silent output member
    cases output <;> simp_all [ExchangeOutput.isRequest, ExchangeOutput.isDropped]
  refine ⟨?_, ?_, ?_⟩
  · rw [same]
    exact budgeted.injector
  · rw [same]
    exact budgeted.first
  · rw [same, List.countP_append, undropped]
    exact budgeted.drops

theorem Budgeted.request {budget : Nat} {fault : EndpointFaultDirection}
    {injector : EndpointFaultInjector} {past : List ExchangeOutput}
    (budgeted : Budgeted budget fault injector past) (request : Request) (peer : Address)
    (source : ResponseSource) :
    Budgeted budget fault (injector.shouldDrop (request.direction.label source)).2
      (past ++ [.requested request peer source
        (injector.shouldDrop (request.direction.label source)).1]) := by
  obtain ⟨known, first, drops⟩ := budgeted
  have decision := shouldDrop_budget budget (requestsOf fault past).length fault
    request.direction source
  rw [← known] at decision
  rw [decision]
  cases selected : fault.selects request.direction with
  | false =>
      have unmade : requestsOf fault [.requested request peer source false] = [] := by
        simp [requestsOf, ExchangeOutput.made, selected]
      simp only [Bool.false_and, Bool.false_eq_true, if_false, Nat.add_zero]
      refine ⟨?_, ?_, ?_⟩
      · rw [requestsOf_append, unmade, List.append_nil]
      · rw [requestsOf_append, unmade, List.append_nil]
        exact first
      · rw [requestsOf_append, unmade, List.append_nil, List.countP_append]
        exact drops
  | true =>
      have made : ∀ dropped, requestsOf fault [.requested request peer source dropped] =
          [⟨request, source, dropped⟩] := by
        intro dropped
        simp [requestsOf, ExchangeOutput.made, selected]
      simp only [Bool.true_and, if_true]
      refine ⟨?_, ?_, ?_⟩
      · rw [requestsOf_append, made, List.length_append, List.length_singleton]
      · rw [requestsOf_append, made, List.length_append, List.length_singleton, List.range_succ,
          List.map_append, List.map_append, first]
        rfl
      · rw [requestsOf_append, made, List.length_append, List.length_singleton, List.countP_append,
          drops, List.countP_singleton]
        simp only [ExchangeOutput.isDropped, decide_eq_true_eq]
        split <;> omega

/-! What the transactions have used up when each of them is over. -/

def plannedRequests (budget : Nat) (begun : List Request) : List (Request × ResponseSource) :=
  (begun.take ((budget + 1) / 2)).flatMap requestPair ++
    (begun.drop ((budget + 1) / 2)).map fun request => (request, .primary)

theorem length_flatMap_requestPair (requests : List Request) :
    (requests.flatMap requestPair).length = 2 * requests.length := by
  induction requests with
  | nil => rfl
  | cons request rest ih =>
      rw [List.flatMap_cons, List.length_append, ih, List.length_cons]
      simp only [requestPair, List.length_cons, List.length_nil]
      omega

theorem plannedRequests_length (budget : Nat) (begun : List Request) :
    (plannedRequests budget begun).length =
      begun.length + min begun.length ((budget + 1) / 2) := by
  rw [plannedRequests, List.length_append, length_flatMap_requestPair, List.length_map,
    List.length_take, List.length_drop]
  omega

theorem plannedRequests_snoc (budget : Nat) (begun : List Request) (request : Request) :
    plannedRequests budget (begun ++ [request]) = plannedRequests budget begun ++
      if begun.length < (budget + 1) / 2 then requestPair request else [(request, .primary)] := by
  unfold plannedRequests
  split
  case isTrue short =>
      rw [List.take_of_length_le (by simp; omega), List.take_of_length_le (by omega),
        List.drop_of_length_le (by simp; omega), List.drop_of_length_le (by omega)]
      simp
  case isFalse long =>
      rw [List.take_append_of_le_length (by omega), List.drop_append_of_le_length (by omega)]
      simp

theorem plannedRequests_take {budget : Nat} {begun : List Request}
    (enough : (budget + 1) / 2 ≤ begun.length) (later : List Request)
    (more : List (Request × ResponseSource)) :
    (plannedRequests budget begun ++ more).take budget =
      ((begun ++ later).flatMap requestPair).take budget := by
  have twice : ((begun.take ((budget + 1) / 2)).flatMap requestPair).length =
      2 * ((budget + 1) / 2) := by
    rw [length_flatMap_requestPair, List.length_take, Nat.min_eq_left enough]
  have split : begun ++ later =
      begun.take ((budget + 1) / 2) ++ (begun.drop ((budget + 1) / 2) ++ later) := by
    rw [← List.append_assoc, List.take_append_drop]
  rw [split, List.flatMap_append, plannedRequests, List.append_assoc,
    List.take_append_of_le_length (by omega), List.take_append_of_le_length (by omega)]

structure Settled (budget : Nat) (begun : List Request) (made : List (Request × ResponseSource))
    (recoveries retries : Nat) : Prop where
  made : made = plannedRequests budget begun
  recoveries : recoveries = min begun.length (budget / 2)
  retries : retries = min begun.length ((budget + 1) / 2)

/-- The next transaction makes a pair of requests while the budget lasts and ends its session
when both are dropped. -/
theorem Settled.snoc {budget recoveries retries : Nat} {begun : List Request}
    {made : List (Request × ResponseSource)}
    (settled : Settled budget begun made recoveries retries) (request : Request) :
    Settled budget (begun ++ [request])
      (made ++ if made.length < budget then requestPair request else [(request, .primary)])
      (recoveries + if made.length + 1 < budget then 1 else 0)
      (retries + if made.length < budget then 1 else 0) := by
  obtain ⟨rfl, rfl, rfl⟩ := settled
  have pairs : (plannedRequests budget begun).length < budget ↔ begun.length < (budget + 1) / 2 := by
    rw [plannedRequests_length]
    omega
  have recovers : (plannedRequests budget begun).length + 1 < budget ↔ begun.length < budget / 2 := by
    rw [plannedRequests_length]
    omega
  refine ⟨?_, ?_, ?_⟩
  · rw [plannedRequests_snoc, if_congr pairs rfl rfl]
  · rw [List.length_append, List.length_singleton, if_congr recovers rfl rfl]
    split <;> omega
  · rw [List.length_append, List.length_singleton, if_congr pairs rfl rfl]
    split <;> omega

/-! What is used up in each phase of the exchange. -/

/-- No transaction of the selected direction is under way. -/
def ExchangePhase.apart (fault : EndpointFaultDirection) : ExchangePhase → Bool
  | .tryRecv | .beginRx | .tapSend _ | .returned .recoveryRequired => true
  | .retry request => !fault.selects request.direction
  | .await request attempt =>
      !fault.selects request.direction && !attempt.primaryDropped &&
        attempt.wait.phase = .primaryOnly
  | .returned .cancelled => false

inductive Spending (budget : Nat) (fault : EndpointFaultDirection) :
    ExchangePhase → List Request → List (Request × ResponseSource) → Nat → Nat → Prop
  | apart {phase : ExchangePhase} {begun : List Request}
      {made : List (Request × ResponseSource)} {recoveries retries : Nat}
      (apart : phase.apart fault = true)
      (settled : Settled budget begun made recoveries retries) :
      Spending budget fault phase begun made recoveries retries
  | begun {request : Request} {begun : List Request} {made : List (Request × ResponseSource)}
      {recoveries retries : Nat} (selected : fault.selects request.direction = true)
      (settled : Settled budget begun made recoveries retries) :
      Spending budget fault (.retry request) (begun ++ [request]) made recoveries retries
  | primary {request : Request} {attempt : Attempt} {begun : List Request}
      {made : List (Request × ResponseSource)} {recoveries retries : Nat}
      (settled : Settled budget begun made recoveries retries)
      (only : attempt.wait.phase = .primaryOnly)
      (dropped : attempt.primaryDropped = decide (made.length < budget))
      (selected : fault.selects request.direction = true) :
      Spending budget fault (.await request attempt) (begun ++ [request])
        (made ++ [(request, .primary)]) recoveries retries
  | both {request : Request} {attempt : Attempt} {begun : List Request}
      {made : List (Request × ResponseSource)} {recoveries retries : Nat}
      (settled : Settled budget begun made recoveries retries)
      (both : attempt.wait.phase = .both) (primary : attempt.primaryDropped = true)
      (short : made.length < budget)
      (backup : attempt.backupDropped = decide (made.length + 1 < budget)) :
      Spending budget fault (.await request attempt) (begun ++ [request])
        (made ++ requestPair request) recoveries retries
  | cancelled {begun rest : List Request} {made more : List (Request × ResponseSource)}
      {recoveries retries : Nat} (settled : Settled budget begun made recoveries retries)
      (one : rest.length ≤ 1) :
      Spending budget fault (.returned .cancelled) (begun ++ rest) (made ++ more) recoveries retries

theorem ExchangePhase.apart_of_idle {fault : EndpointFaultDirection} {phase : ExchangePhase}
    (idle : phase.isIdle = true) : phase.apart fault = true := by
  cases phase <;> first | rfl | contradiction

section

variable {budget recoveries retries : Nat} {fault : EndpointFaultDirection}
  {phase : ExchangePhase} {begun : List Request} {made : List (Request × ResponseSource)}

theorem Spending.settled_of_idle
    (spending : Spending budget fault phase begun made recoveries retries)
    (idle : phase.isIdle = true ∨ phase = .returned .recoveryRequired) :
    Settled budget begun made recoveries retries := by
  cases spending with
  | apart apart settled => exact settled
  | begun | primary | both | cancelled => simp [ExchangePhase.isIdle] at idle

theorem Spending.begin (settled : Settled budget begun made recoveries retries)
    (request : Request) :
    Spending budget fault (.retry request)
      (begun ++ if fault.selects request.direction then [request] else []) made recoveries
      retries := by
  cases selected : fault.selects request.direction with
  | true => exact .begun selected settled
  | false =>
      simp only [Bool.false_eq_true, if_false, List.append_nil]
      exact .apart (by simp [ExchangePhase.apart, selected]) settled

theorem Spending.attempt {request : Request}
    (spending : Spending budget fault (.retry request) begun made recoveries retries)
    (peer : Address) (now : Nat) :
    Spending budget fault
      (.await request ⟨peer, .begin endpointStallThreshold now,
        fault.selects request.direction && decide (made.length < budget), false⟩)
      begun (made ++ if fault.selects request.direction then [(request, .primary)] else [])
      recoveries retries := by
  cases spending with
  | apart apart settled =>
      have other : fault.selects request.direction = false := by simpa [ExchangePhase.apart] using apart
      simp only [other, Bool.false_eq_true, if_false, List.append_nil, Bool.false_and]
      refine .apart ?_ settled
      simp [ExchangePhase.apart, other, Wait.begin]
  | begun selected settled =>
      simp only [selected, if_true, Bool.true_and]
      exact .primary settled rfl rfl selected

/-- The stall timer is taken only for a primary request that was dropped. -/
theorem Spending.backup {request : Request} {attempt : Attempt}
    (spending : Spending budget fault (.await request attempt) begun made recoveries retries)
    (first : attempt.wait.phase = .primaryOnly) (answered : attempt.primaryDropped = true)
    (warningAt : Nat) :
    fault.selects request.direction = true ∧
      Spending budget fault
        (.await request
          { attempt with
            wait := { attempt.wait with warningAt, phase := .both }
            backupDropped := decide (made.length < budget) })
        begun (made ++ [(request, .backup)]) recoveries retries := by
  cases spending with
  | apart apart settled => simp [ExchangePhase.apart, answered] at apart
  | both settled both => simp [first] at both
  | @primary _ _ begun made _ _ settled only dropped selected =>
      have short : made.length < budget := by simpa [answered] using dropped
      refine ⟨selected, ?_⟩
      rw [List.append_assoc]
      exact .both settled rfl answered short (by simp)

theorem Spending.log {request : Request} {attempt : Attempt}
    (spending : Spending budget fault (.await request attempt) begun made recoveries retries)
    (sent : attempt.wait.phase.backupSent = true) (warningAt : Nat) :
    Spending budget fault
      (.await request { attempt with wait := { attempt.wait with warningAt } }) begun made recoveries
      retries := by
  cases spending with
  | apart apart settled =>
      have only : attempt.wait.phase = .primaryOnly := by simp_all [ExchangePhase.apart]
      simp [only, WaitPhase.backupSent] at sent
  | primary settled only => simp [only, WaitPhase.backupSent] at sent
  | both settled both primary short backup => exact .both settled both primary short backup

/-- A request that was sent is answered: at once when the budget is gone, and as the backup of a
dropped request when this used up the budget. -/
theorem Spending.finish {request : Request} {attempt : Attempt} {source : ResponseSource}
    (spending : Spending budget fault (.await request attempt) begun made recoveries retries)
    (sent : attempt.dropped source = false) (polled : attempt.wait.phase.polls source = true) :
    Settled budget begun made recoveries
      (retries + if attempt.wait.phase.backupSent then 1 else 0) := by
  cases spending with
  | apart apart settled =>
      have only : attempt.wait.phase = .primaryOnly := by simp_all [ExchangePhase.apart]
      rw [only]
      exact settled
  | @primary _ _ begun made _ _ settled only dropped selected =>
      rw [only] at polled ⊢
      cases source with
      | backup => contradiction
      | primary =>
          have undropped : attempt.primaryDropped = false := sent
          have spent : budget ≤ made.length := by simpa [undropped] using dropped
          simpa [Nat.not_lt.mpr spent, Nat.not_lt.mpr (Nat.le_succ_of_le spent),
            WaitPhase.backupSent] using settled.snoc request
  | both settled both primary short backup =>
      rw [both]
      cases source with
      | primary =>
          rw [Attempt.dropped, primary] at sent
          contradiction
      | backup =>
          have undropped : attempt.backupDropped = false := sent
          rw [undropped] at backup
          have last := of_decide_eq_false backup.symm
          simpa [short, last, WaitPhase.backupSent] using settled.snoc request

theorem Spending.recover {request : Request} {attempt : Attempt}
    (spending : Spending budget fault (.await request attempt) begun made recoveries retries)
    (stalled : attempt.wait.phase.backupSent = true) (dropped : attempt.backupDropped = true) :
    Settled budget begun made (recoveries + 1) (retries + 1) := by
  cases spending with
  | apart apart settled =>
      have only : attempt.wait.phase = .primaryOnly := by simp_all [ExchangePhase.apart]
      simp [only, WaitPhase.backupSent] at stalled
  | primary settled only => simp [only, WaitPhase.backupSent] at stalled
  | @both _ _ begun made _ _ settled both primary short backup =>
      have left : made.length + 1 < budget := by simpa [dropped] using backup
      simpa [short, left] using settled.snoc request

theorem Spending.cancel (spending : Spending budget fault phase begun made recoveries retries) :
    Spending budget fault (.returned .cancelled) begun made recoveries retries := by
  cases spending with
  | apart apart settled =>
      have ended := @Spending.cancelled budget fault begun [] made [] _ _ settled (by simp)
      rwa [List.append_nil, List.append_nil] at ended
  | @begun request begun made _ _ selected settled =>
      have ended := @Spending.cancelled budget fault begun [request] made [] _ _ settled (by simp)
      rwa [List.append_nil] at ended
  | primary settled => exact .cancelled settled (by simp)
  | both settled => exact .cancelled settled (by simp)
  | cancelled settled one => exact .cancelled settled one

/-- Once more transactions were begun than the budget can disturb, all of it is used up. -/
theorem Spending.spent (spending : Spending budget fault phase begun made recoveries retries)
    (enough : (budget + 1) / 2 < begun.length) :
    made.take budget = (begun.flatMap requestPair).take budget ∧ budget ≤ made.length ∧
      recoveries = budget / 2 ∧ retries = (budget + 1) / 2 := by
  cases spending.cancel with
  | apart apart => contradiction
  | @cancelled begun rest made more _ _ settled one =>
      rw [List.length_append] at enough
      obtain ⟨rfl, rfl, rfl⟩ := settled
      refine ⟨plannedRequests_take (by omega) rest more, ?_, ?_, ?_⟩
      · rw [List.length_append, plannedRequests_length]
        omega
      · omega
      · omega

end

end Lamella

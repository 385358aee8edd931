import Mathlib.Algebra.GroupWithZero.Nat
import Mathlib.Data.List.Nodup
import Lamella.NetworkChecks

/-!
Transaction ids.  Both endpoints draw from one counter, which starts at zero with each
session and wraps, so the ids of a session that runs once count up from zero modulo 2^32.
-/

namespace Lamella

def NetworkOutput.issued : NetworkOutput → Option (Packet Request)
  | .host number (.began request) => some ⟨number, request⟩
  | _ => none

def issuedOf (trace : List NetworkOutput) : List (Packet Request) :=
  trace.filterMap NetworkOutput.issued

def issuedBy (session : UInt64) (trace : List NetworkOutput) : List (Packet Request) :=
  (issuedOf trace).filter fun packet => packet.t.transaction.session = session

theorem issuedOf_append (past output : List NetworkOutput) :
    issuedOf (past ++ output) = issuedOf past ++ issuedOf output :=
  List.filterMap_append

theorem begunOf_eq_filter (direction : Direction) (trace : List NetworkOutput) :
    begunOf direction trace =
      (issuedOf trace).filter fun packet => packet.t.direction = direction := by
  unfold begunOf issuedOf
  rw [List.filter_filterMap]
  congr 1
  funext output
  cases output with
  | host number output =>
      cases output with
      | began request =>
          simp only [NetworkOutput.begun, NetworkOutput.issued, Option.filter_some,
            decide_eq_true_eq]
      | _ => rfl
  | _ => rfl

def NetworkOutput.isReturn : NetworkOutput → Bool
  | .host _ output => output.isReturn
  | _ => false

def endedOf (trace : List NetworkOutput) : Nat := trace.countP NetworkOutput.isReturn

inductive IssueEffect (before after : Exchange) (output : List NetworkOutput) : Prop
  | quiet (running : after.runningSession = before.runningSession)
      (counter : after.nextTransactionId = before.nextTransactionId)
      (issued : issuedOf output = []) (sessions : sessionsOf output = [])
      (ended : endedOf output = 0)
  | finish (id : UInt64) (running : before.runningSession = some id)
      (idle : after.runningSession = none)
      (issued : issuedOf output = []) (sessions : sessionsOf output = [])
      (ended : endedOf output = 1)
  | start (id : UInt64) (idle : before.runningSession = none)
      (running : after.runningSession = some id) (counter : after.nextTransactionId = 0)
      (issued : issuedOf output = []) (sessions : sessionsOf output = [id])
      (ended : endedOf output = 0)
  | issue (packet : Packet Request)
      (running : before.runningSession = some packet.t.transaction.session)
      (still : after.runningSession = before.runningSession)
      (id : packet.t.transaction.id = before.nextTransactionId)
      (counter : after.nextTransactionId = before.nextTransactionId + 1)
      (issued : issuedOf output = [packet]) (sessions : sessionsOf output = [])
      (ended : endedOf output = 0)

theorem absorbHost_ended (network : Network) (host : Exchange) (outputs : List ExchangeOutput) :
    endedOf (network.absorbHost host outputs).2 = outputs.countP ExchangeOutput.isReturn := by
  simp only [endedOf, Network.absorbHost, Paths.numbered, List.countP_map]
  rfl

theorem absorbHost_unissued {network : Network} {host : Exchange} {outputs : List ExchangeOutput}
    (silent : ∀ output ∈ outputs, ∀ request, output ≠ .began request) :
    issuedOf (network.absorbHost host outputs).2 = [] := by
  simp only [issuedOf, Network.absorbHost, Paths.numbered, List.filterMap_eq_nil_iff, List.mem_map]
  rintro _ ⟨output, member, rfl⟩
  cases output with
  | began request => exact absurd rfl (silent _ member request)
  | _ => rfl

theorem ExchangeEffect.issue {network : Network} {event : ExchangeEvent} {host : Exchange}
    {outputs : List ExchangeOutput} (effect : ExchangeEffect network.host event host outputs)
    (session : host.session = network.host.session) {target : Network} :
    IssueEffect network.host host (target.absorbHost host outputs).2 := by
  have sessions : sessionsOf (target.absorbHost host outputs).2 = [] :=
    Paths.numbered_sessions _ outputs
  have ended := absorbHost_ended target host outputs
  cases effect with
  | quiet still counter silent running returns =>
      have unissued : issuedOf (target.absorbHost host outputs).2 = [] := by
        apply absorbHost_unissued
        rintro output member request rfl
        simpa [ExchangeOutput.isQuiet] using silent _ member
      rw [returns] at ended
      rcases still with ⟨_, stays⟩ | returned
      · rw [if_neg (by simp [stays])] at ended
        exact .quiet (runningSession_eq session running stays) counter unissued sessions ended
      · rw [if_pos returned] at ended
        refine .finish network.host.session ?_ (runningSession_returned returned) unissued
          sessions ended
        simp [Exchange.runningSession, running]
  | begin request before after transaction counter began running stays _ =>
      subst began
      refine .issue ⟨_, request⟩ ?_ (runningSession_eq session running stays) ?_ counter rfl sessions
        ended
      · simp [Exchange.runningSession, running, transaction]
      · simp [transaction]
  | send request peer source dropped before after counter requested running stays _ =>
      subst requested
      exact .quiet (runningSession_eq session running stays) counter
        (absorbHost_unissued (by simp)) sessions ended
  | accept request response source now received before after running stays counter matched kind
      acknowledged =>
      subst acknowledged
      refine .quiet (runningSession_eq session running stays) counter (absorbHost_unissued ?_)
        sessions (ended.trans ?_)
      all_goals
        unfold tapWrite
        split <;> simp [ExchangeOutput.isReturn]

theorem absorbDevice_issue (network : Network) (device : Device) (outputs : List DeviceOutput) :
    IssueEffect network.host (network.absorbDevice device outputs).1.host
      (network.absorbDevice device outputs).2 := by
  refine .quiet rfl rfl ?_ ?_ ?_
  · simp [issuedOf, Network.absorbDevice, NetworkOutput.issued]
  · simp [sessionsOf, Network.absorbDevice, NetworkOutput.sessionId]
  · simp [endedOf, Network.absorbDevice, NetworkOutput.isReturn]

theorem Network.step_issue {recoveryTimeout : Option Nat} {network next : Network}
    {event : NetworkEvent} {output : List NetworkOutput}
    (stepped : network.step recoveryTimeout event = some (next, output)) :
    IssueEffect network.host next.host output := by
  cases Network.step_moves stepped with
  | session id returned =>
      exact .start id (runningSession_returned returned) rfl rfl rfl rfl rfl
  | host unanswered exchanged =>
      exact (wifiExchange_effect exchanged).issue (wifiExchange_session exchanged)
  | deliver found exchanged erased =>
      exact (wifiExchange_effect exchanged).issue (wifiExchange_session exchanged)
  | loseRequest direction position => exact .quiet rfl rfl rfl rfl rfl
  | loseResponse direction position => exact .quiet rfl rfl rfl rfl rfl
  | arrive first received => exact absorbDevice_issue (network.setPath _ _) _ _
  | device worked => exact absorbDevice_issue network _ _

/-- The sessions of a run are those that have ended and then the running one. -/
theorem Network.run_sessions {recoveryTimeout : Option Nat} {injector : EndpointFaultInjector}
    {events : List NetworkEvent} {network : Network} {trace : List NetworkOutput}
    (ran : Machine.run (Network.step recoveryTimeout) (Network.start injector) events =
      some (network, trace)) :
    ∃ finished, sessionsOf trace = finished ++ network.host.runningSession.toList ∧
      finished.length = endedOf trace := by
  have initially : ∃ finished,
      sessionsOf [] = finished ++ (Network.start injector).host.runningSession.toList ∧
        finished.length = endedOf [] := ⟨[], rfl, rfl⟩
  have kept := Machine.run_invariant
    (fun network past => ∃ finished,
      sessionsOf past = finished ++ network.host.runningSession.toList ∧
        finished.length = endedOf past)
    (fun _ => True) ?_ (fun _ _ => trivial) initially ran
  · simpa using kept
  · rintro network past event next output _ ⟨finished, log, count⟩ stepped
    have ended : endedOf (past ++ output) = endedOf past + endedOf output := List.countP_append
    rw [sessionsOf_append, log, ended]
    cases Network.step_issue stepped with
    | quiet running counter issued sessions none =>
        exact ⟨finished, by rw [sessions, running, List.append_nil], by rw [none, count]; rfl⟩
    | finish id running idle issued sessions one =>
        exact ⟨finished ++ [id], by simp [running, idle, sessions], by simp [one, count]⟩
    | start id idle running counter issued sessions none =>
        exact ⟨finished, by simp [running, idle, sessions], by rw [none, count]; rfl⟩
    | issue packet running still id counter issued sessions none =>
        exact ⟨finished, by rw [sessions, still, List.append_nil], by rw [none, count]; rfl⟩

theorem issuedBy_append (session : UInt64) (past output : List NetworkOutput) :
    issuedBy session (past ++ output) = issuedBy session past ++ issuedBy session output := by
  simp [issuedBy, issuedOf_append]

theorem issuedBy_same (session : UInt64) (past : List NetworkOutput) {output : List NetworkOutput}
    (issued : issuedOf output = []) : issuedBy session (past ++ output) = issuedBy session past := by
  rw [issuedBy_append, issuedBy, issuedBy, issued, List.filter_nil, List.append_nil]

theorem Network.AllNumbered.issued_started {network : Network} {trace : List NetworkOutput}
    (numbered : network.AllNumbered trace) {packet : Packet Request}
    (member : packet ∈ issuedOf trace) : packet.t.transaction.session ∈ sessionsOf trace := by
  apply (numbered packet.t.direction).started packet
  rw [begunOf_eq_filter]
  simpa using member

theorem Network.AllNumbered.unissued {network : Network} {past output : List NetworkOutput}
    (numbered : network.AllNumbered past) {session : UInt64} (started : sessionsOf output = [session])
    (once : (sessionsOf (past ++ output)).count session ≤ 1) : issuedBy session past = [] := by
  rw [sessionsOf_append, started, List.count_append, List.count_singleton_self] at once
  rw [issuedBy, List.filter_eq_nil_iff]
  intro packet member own
  have earlier := numbered.issued_started member
  rw [of_decide_eq_true own] at earlier
  have := List.count_pos_iff.mpr earlier
  omega

/-- The ids of the session count up from zero. -/
structure Counted (session : UInt64) (host : Exchange) (trace : List NetworkOutput) : Prop where
  ids : ∀ (index : Nat) (packet : Packet Request), (issuedBy session trace)[index]? = some packet →
    packet.t.transaction = ⟨session, UInt32.ofNat index⟩
  next : host.runningSession = some session →
    host.nextTransactionId = UInt32.ofNat (issuedBy session trace).length

theorem Counted.step {session : UInt64} {network : Network} {host : Exchange}
    {past output : List NetworkOutput} (numbered : network.AllNumbered past)
    (counted : Counted session network.host past) (effect : IssueEffect network.host host output)
    (once : (sessionsOf (past ++ output)).count session ≤ 1) :
    Counted session host (past ++ output) := by
  cases effect with
  | quiet running counter issued sessions ended =>
      have same := issuedBy_same session past issued
      refine ⟨by rw [same]; exact counted.ids, fun own => ?_⟩
      rw [same, counter]
      exact counted.next (running ▸ own)
  | finish id running idle issued sessions ended =>
      refine ⟨by rw [issuedBy_same session past issued]; exact counted.ids, fun own => ?_⟩
      rw [idle] at own
      contradiction
  | start id idle running counter issued sessions ended =>
      have same := issuedBy_same session past issued
      refine ⟨by rw [same]; exact counted.ids, fun own => ?_⟩
      rw [running, Option.some.injEq] at own
      subst own
      rw [same, numbered.unissued sessions once, counter]
      rfl
  | issue packet running still id counter issued sessions ended =>
      by_cases own : packet.t.transaction.session = session
      · have grown : issuedBy session (past ++ output) = issuedBy session past ++ [packet] := by
          rw [issuedBy_append]
          simp [issuedBy, issued, own]
        have next := counted.next (by rw [running, own])
        rw [next] at id counter
        constructor
        · intro index other found
          rw [grown] at found
          rcases Nat.lt_or_ge index (issuedBy session past).length with old | new
          · rw [List.getElem?_append_left old] at found
            exact counted.ids index other found
          · rw [List.getElem?_append_right new, List.getElem?_singleton] at found
            split at found
            · cases found
              have last : index = (issuedBy session past).length := by omega
              rw [last, ← id, ← own]
            · contradiction
        · intro _
          rw [counter, grown, List.length_append, List.length_singleton, UInt32.ofNat_add]
          rfl
      · have same : issuedBy session (past ++ output) = issuedBy session past := by
          rw [issuedBy_append]
          simp [issuedBy, issued, own]
        refine ⟨by rw [same]; exact counted.ids, fun mine => ?_⟩
        rw [still, running, Option.some.injEq] at mine
        exact absurd mine own

theorem Network.start_counted (session : UInt64) (injector : EndpointFaultInjector) :
    Counted session (Network.start injector).host [] := by
  constructor
  · intro index packet found
    simp [issuedBy, issuedOf] at found
  · intro running
    simp [Network.start, Exchange.runningSession, ExchangePhase.isReturned] at running

theorem Network.run_counted {recoveryTimeout : Option Nat} {injector : EndpointFaultInjector}
    {events : List NetworkEvent} {network : Network} {trace : List NetworkOutput}
    (ran : Machine.run (Network.step recoveryTimeout) (Network.start injector) events =
      some (network, trace))
    {session : UInt64} (once : (sessionsOf trace).count session ≤ 1) :
    Counted session network.host trace := by
  have kept := Machine.run_invariant
    (fun network past => network.AllNumbered past ∧
      ((sessionsOf past).count session ≤ 1 → Counted session network.host past))
    (fun _ => True) ?_ (fun _ _ => trivial)
    ⟨Network.start_allNumbered injector, fun _ => Network.start_counted session injector⟩ ran
  · rw [List.nil_append] at kept
    exact kept.2 once
  · rintro network past event next output _ ⟨numbered, counted⟩ stepped
    refine ⟨numbered.step stepped, fun once => ?_⟩
    have earlier : (sessionsOf past).count session ≤ 1 := by
      rw [sessionsOf_append, List.count_append] at once
      omega
    exact (counted earlier).step numbered (Network.step_issue stepped) once

theorem ofNat_eq_ofNat_iff (first second : Nat) :
    UInt32.ofNat first = UInt32.ofNat second ↔ first % 2 ^ 32 = second % 2 ^ 32 := by
  rw [← UInt32.toNat_inj, UInt32.toNat_ofNat', UInt32.toNat_ofNat']

/-- Sessions that run once and issue fewer than 2^32 ids never repeat a transaction. -/
theorem issued_distinct {recoveryTimeout : Option Nat} {injector : EndpointFaultInjector}
    {events : List NetworkEvent} {network : Network} {trace : List NetworkOutput}
    (ran : Machine.run (Network.step recoveryTimeout) (Network.start injector) events =
      some (network, trace))
    (distinct : (sessionsOf trace).Nodup)
    (bounded : ∀ session, (issuedBy session trace).length < 2 ^ 32) :
    ((issuedOf trace).map fun packet => packet.t.transaction).Nodup := by
  have own (session : UInt64) :
      (issuedBy session trace).Pairwise fun first second =>
        first.t.transaction ≠ second.t.transaction := by
    have counted := Network.run_counted ran (List.nodup_iff_count_le_one.mp distinct session)
    rw [List.pairwise_iff_getElem]
    intro first second firstBound secondBound below same
    rw [counted.ids first _ (List.getElem?_eq_getElem firstBound),
      counted.ids second _ (List.getElem?_eq_getElem secondBound)] at same
    have ids := (ofNat_eq_ofNat_iff _ _).mp (WifiTransaction.mk.inj same).2
    have limit := bounded session
    omega
  rw [List.nodup_iff_pairwise_ne, List.pairwise_map, List.pairwise_iff_getElem]
  intro first second firstBound secondBound below same
  have pairs := own (issuedOf trace)[first].t.transaction.session
  rw [issuedBy, List.pairwise_filter, List.pairwise_iff_getElem] at pairs
  exact pairs first second firstBound secondBound below (by simp) (by simp [same]) same

theorem begun_distinct {trace : List NetworkOutput}
    (distinct : ((issuedOf trace).map fun packet => packet.t.transaction).Nodup)
    (direction : Direction) :
    ((begunOf direction trace).map fun packet => packet.t.transaction).Nodup := by
  rw [begunOf_eq_filter]
  exact distinct.sublist (List.filter_sublist.map _)

end Lamella

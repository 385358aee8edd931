import Lamella.FaultBudget
import Lamella.Target

/-!
The fault injector of the serial transport as the environment configures it.  Whatever the
device and the scheduling do, it drops the configured number of requests and no others.
-/

namespace Lamella

/-- A variable that is unset or not valid Unicode is `none`. -/
def EndpointFaultDirection.fromEnv : Option String → EndpointFaultDirection
  | some "tx" => .tx
  | some "rx" => .rx
  | some _ | none => .any

def parseUsize (text : List Char) : Option Nat := parseUnsigned 18446744073709551615 text

def EndpointFaultInjector.fromEnv (dropRequests direction : Option String) :
    EndpointFaultInjector :=
  ⟨(dropRequests.bind fun value => parseUsize value.toList).getD 0, .fromEnv direction⟩

theorem hotplugSessions_budgeted {budget : Nat} {fault : EndpointFaultDirection}
    {exchange next : Exchange} {event : SessionEvent} {past outputs : List ExchangeOutput}
    (budgeted : Budgeted budget fault exchange.injector past)
    (stepped : hotplugSessions exchange event = some (next, outputs)) :
    Budgeted budget fault next.injector (past ++ outputs) := by
  cases event with
  | session id =>
      simp only [hotplugSessions, Option.ite_none_right_eq_some, Option.some.injEq,
        Prod.mk.injEq] at stepped
      obtain ⟨_, rfl, rfl⟩ := stepped
      exact budgeted.quiet (by simp)
  | exchange event =>
      cases wifiExchange_moves stepped with
      | @attempt request now peer phase => exact budgeted.request request peer .primary
      | @backup request attempt now warningAt phase =>
          exact budgeted.request request attempt.peer .backup
      | @accept request attempt response now source phase =>
          refine budgeted.quiet ?_
          rcases tapWrite_cases request response with written | ⟨frame, written⟩ <;>
            simp [written, ExchangeOutput.isRequest]
      | _ => exact budgeted.quiet (by simp [Exchange.beginRequest, ExchangeOutput.isRequest])

/-- The text of a number that fits into a `usize`, as `str::parse` takes it. -/
def IsUsize (text : String) (number : Nat) : Prop :=
  ∃ digits, (text.toList = digits ∨ text.toList = '+' :: digits) ∧ digits ≠ [] ∧
    (∀ digit ∈ digits, digit.isDigit = true) ∧ digitsValue 0 digits = number ∧
    number ≤ 18446744073709551615

theorem fromEnv_remaining_of_number {value : String} {number : Nat} (valid : IsUsize value number)
    (direction : Option String) :
    (EndpointFaultInjector.fromEnv (some value) direction).remaining = number := by
  have parsed : parseUsize value.toList = some number :=
    (parseUnsigned_eq_some_iff _ _ _).mpr valid
  simp [EndpointFaultInjector.fromEnv, parsed]

theorem fromEnv_remaining_of_invalid {dropRequests : Option String}
    (invalid : ∀ value ∈ dropRequests, ∀ number, ¬IsUsize value number)
    (direction : Option String) :
    (EndpointFaultInjector.fromEnv dropRequests direction).remaining = 0 := by
  cases dropRequests with
  | none => rfl
  | some value =>
      have unparsed : parseUsize value.toList = none := by
        rw [Option.eq_none_iff_forall_ne_some]
        intro number parsed
        exact invalid value rfl number ((parseUnsigned_eq_some_iff _ _ _).mp parsed)
      simp [EndpointFaultInjector.fromEnv, unparsed]

/-- In every run of sessions the dropped requests are the first of the selected direction, primary
and backup requests alike, as many as the environment says.  Without a number in the environment
no request is dropped. -/
theorem fault_environment {dropRequests direction : Option String} {session : UInt64}
    {metrics : BridgeMetrics} {events : List SessionEvent} {exchange : Exchange}
    {trace : List ExchangeOutput}
    (ran : Machine.run hotplugSessions
      ⟨session, 0, .tryRecv, .fromEnv dropRequests direction, metrics⟩ events =
        some (exchange, trace)) :
    (∀ value ∈ dropRequests, ∀ number, IsUsize value number →
        (requestsOf (.fromEnv direction) trace).map MadeRequest.dropped =
            (List.range (requestsOf (.fromEnv direction) trace).length).map (fun index =>
              decide (index < number)) ∧
          trace.countP ExchangeOutput.isDropped =
            min number (requestsOf (.fromEnv direction) trace).length) ∧
      ((∀ value ∈ dropRequests, ∀ number, ¬IsUsize value number) →
        ∀ output ∈ trace, output.isDropped = false) := by
  have budgeted : Budgeted (EndpointFaultInjector.fromEnv dropRequests direction).remaining
      (.fromEnv direction) exchange.injector trace := by
    refine Machine.run_record (fun exchange _ trace => Budgeted
      (EndpointFaultInjector.fromEnv dropRequests direction).remaining (.fromEnv direction)
      exchange.injector trace) ?_ ⟨rfl, rfl, by simp [requestsOf]⟩ ran
    intro exchange _ past event next outputs budgeted stepped
    exact hotplugSessions_budgeted budgeted stepped
  constructor
  · rintro value ⟨⟩ number valid
    rw [fromEnv_remaining_of_number valid] at budgeted
    exact ⟨budgeted.first, budgeted.drops⟩
  · intro invalid
    have drops := budgeted.drops
    rw [fromEnv_remaining_of_invalid invalid, Nat.zero_min, List.countP_eq_zero] at drops
    simpa using drops

/-- One poll is dropped, and its backup, which the selected number no longer covers, is sent. -/
def sampleEnvironmentEvents : List SessionEvent :=
  [.exchange (.tryRecv none), .exchange .beginRx, .exchange (.attempt 0 ⟨1, 2, 0⟩),
    .exchange (.wait 250 .warning)]

theorem fault_environment_sample :
    ∃ exchange trace, Machine.run hotplugSessions
        ⟨7, 0, .tryRecv, .fromEnv (some "+1") (some "rx"), {}⟩ sampleEnvironmentEvents =
          some (exchange, trace) ∧
      (requestsOf .rx trace).length = 2 ∧ trace.countP ExchangeOutput.isDropped = min 1 2 := by
  have reached : (Machine.run hotplugSessions
      ⟨7, 0, .tryRecv, .fromEnv (some "+1") (some "rx"), {}⟩ sampleEnvironmentEvents).map
        (fun result => (requestsOf .rx result.2).length) = some 2 := by
    decide +kernel
  obtain ⟨⟨exchange, trace⟩, ran, seen⟩ := Option.map_eq_some_iff.mp reached
  have valid : IsUsize "+1" 1 :=
    ⟨['1'], .inr rfl, by simp, List.forall_mem_singleton.mpr rfl, rfl, by decide⟩
  have drops := ((fault_environment ran).1 "+1" rfl 1 valid).2
  exact ⟨exchange, trace, ran, seen, seen ▸ drops⟩

end Lamella

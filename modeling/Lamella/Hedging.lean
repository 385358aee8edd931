import Lamella.AwaitMoves
import Lamella.MachineCore

/-!
The result of a hedged request: one run of `await_endpoint_response_with_timeouts` from its
first `select!` to its return.  The events of a run are the branches its `select!`s take, so
every choice among ready branches is some run.
-/

namespace Lamella

inductive WaitState (Answer : Type)
  | waiting (wait : Wait)
  | returned (outcome : EndpointWaitOutcome Answer)

inductive WaitCall
  | makeBackup
deriving DecidableEq

variable {Answer : Type}

def awaitRun (recoveryTimeout : Option Nat) :
    WaitState Answer → Nat × WaitEvent Answer → Option (WaitState Answer × List WaitCall)
  | .waiting wait, (now, event) =>
      match awaitEndpointResponseWithTimeouts recoveryTimeout wait now event with
      | none => none
      | some (.waiting wait) => some (.waiting wait, [])
      | some (.makeBackup wait) => some (.waiting wait, [.makeBackup])
      | some (.returned outcome) => some (.returned outcome, [])
  | .returned _, _ => none

/-! What a run has seen while it waits and when it returns. -/

def WaitEvent.ends : WaitEvent Answer → Bool
  | .resolved _ (.ok _) | .recoveryDeadline | .cancelled => true
  | .resolved _ (.error _) | .warning => false

def WaitEvent.isWarning : WaitEvent Answer → Bool
  | .warning => true
  | .resolved _ _ | .recoveryDeadline | .cancelled => false

def WaitEvent.failure : WaitEvent Answer → Option (ResponseSource × ReqRespError)
  | .resolved source (.error error) => some (source, error)
  | _ => none

def failuresOf (events : List (Nat × WaitEvent Answer)) : List (ResponseSource × ReqRespError) :=
  events.filterMap fun entry => entry.2.failure

theorem failuresOf_snoc (events : List (Nat × WaitEvent Answer)) (now : Nat)
    (event : WaitEvent Answer) :
    failuresOf (events ++ [(now, event)]) = failuresOf events ++ event.failure.toList := by
  rw [failuresOf, List.filterMap_append]
  cases failure : event.failure <;> simp [failuresOf, failure]

/-- When the stall timer is due: after the threshold, and then at the log interval. -/
def timerDue (stallThreshold started : Nat) (events : List (Nat × WaitEvent Answer)) : Nat :=
  match (events.filter fun entry => entry.2.isWarning).getLast? with
  | none => started + stallThreshold
  | some (last, _) => last + endpointStallLogInterval

theorem timerDue_warning (stallThreshold started now : Nat)
    (events : List (Nat × WaitEvent Answer)) :
    timerDue stallThreshold started (events ++ [(now, .warning)]) =
      now + endpointStallLogInterval := by
  simp [timerDue, WaitEvent.isWarning]

theorem timerDue_other (stallThreshold started now : Nat) (events : List (Nat × WaitEvent Answer))
    {event : WaitEvent Answer} (other : event.isWarning = false) :
    timerDue stallThreshold started (events ++ [(now, event)]) =
      timerDue stallThreshold started events := by
  simp [timerDue, other]

structure Waited (stallThreshold started : Nat) (wait : Wait)
    (events : List (Nat × WaitEvent Answer)) (calls : List WaitCall) : Prop where
  since : wait.started = started
  timer : wait.warningAt = timerDue stallThreshold started events
  quiet : ∀ entry ∈ events, entry.2.ends = false
  failed : (failuresOf events).map Prod.fst = wait.phase.failed
  fresh : wait.phase.backupSent = false → events = []
  stalled : wait.phase.backupSent = true → ∃ now rest, events = (now, .warning) :: rest
  calls : calls = if wait.phase.backupSent then [.makeBackup] else []

def Tracked (recoveryTimeout : Option Nat) (stallThreshold started : Nat)
    (events : List (Nat × WaitEvent Answer)) (calls : List WaitCall) : WaitState Answer → Prop
  | .waiting wait => Waited stallThreshold started wait events calls
  | .returned outcome => ∃ wait before now event, events = before ++ [(now, event)] ∧
      Waited stallThreshold started wait before calls ∧
      WaitMoves recoveryTimeout wait now event (.returned outcome)

section

variable {stallThreshold started : Nat} {wait : Wait} {events : List (Nat × WaitEvent Answer)}
  {calls : List WaitCall}

theorem Waited.log (waited : Waited stallThreshold started wait events calls)
    (sent : wait.phase.backupSent = true) (now : Nat) :
    Waited stallThreshold started { wait with warningAt := now + endpointStallLogInterval }
      (events ++ [(now, .warning)]) calls := by
  obtain ⟨since, timer, quiet, failed, fresh, stalled, called⟩ := waited
  refine ⟨since, (timerDue_warning _ _ _ _).symm, ?_, ?_, ?_, ?_, called⟩
  · rw [List.forall_mem_append, List.forall_mem_singleton]
    exact ⟨quiet, rfl⟩
  · rw [failuresOf_snoc, ← failed]
    simp [WaitEvent.failure]
  · intro unsent
    exact absurd (sent.symm.trans unsent) (by simp)
  · intro _
    obtain ⟨first, rest, rfl⟩ := stalled sent
    exact ⟨first, rest ++ [(now, .warning)], rfl⟩

theorem Waited.backup (waited : Waited stallThreshold started wait events calls)
    (first : wait.phase = .primaryOnly) (now : Nat) :
    Waited stallThreshold started
      { wait with warningAt := now + endpointStallLogInterval, phase := .both }
      (events ++ [(now, .warning)]) (calls ++ [.makeBackup]) := by
  obtain rfl := waited.fresh (by rw [first]; rfl)
  have uncalled := waited.calls
  rw [first] at uncalled
  subst uncalled
  exact ⟨waited.since, rfl, by simp [WaitEvent.ends], rfl, by simp [WaitPhase.backupSent],
    fun _ => ⟨now, [], rfl⟩, rfl⟩

theorem Waited.fail (waited : Waited stallThreshold started wait events calls)
    (both : wait.phase = .both) (now : Nat) (source : ResponseSource) (error : ReqRespError) :
    Waited stallThreshold started { wait with phase := .after source }
      (events ++ [(now, .resolved source (.error error))]) calls := by
  obtain ⟨since, timer, quiet, failed, fresh, stalled, called⟩ := waited
  rw [both] at failed stalled called
  have sent : (WaitPhase.after source).backupSent = true := by cases source <;> rfl
  refine ⟨since, timer.trans (timerDue_other _ _ _ _ rfl).symm, ?_, ?_, ?_, ?_, ?_⟩
  · rw [List.forall_mem_append, List.forall_mem_singleton]
    exact ⟨quiet, rfl⟩
  · rw [failuresOf_snoc, List.map_append, failed]
    cases source <;> rfl
  · intro unsent
    exact absurd (sent.symm.trans unsent) (by simp)
  · intro _
    obtain ⟨first, rest, rfl⟩ := stalled rfl
    exact ⟨first, rest ++ [(now, .resolved source (.error error))], rfl⟩
  · simp only [sent]
    exact called

end

theorem awaitRun_tracked {recoveryTimeout : Option Nat} {stallThreshold started : Nat}
    {events : List (Nat × WaitEvent Answer)} {state : WaitState Answer} {calls : List WaitCall}
    (ran : Machine.run (awaitRun recoveryTimeout) (.waiting (.begin stallThreshold started)) events =
      some (state, calls)) :
    Tracked recoveryTimeout stallThreshold started events calls state := by
  refine Machine.run_record (fun state events calls =>
    Tracked recoveryTimeout stallThreshold started events calls state) ?_ ?_ ran
  · rintro (wait | outcome) past trace ⟨now, event⟩ next output tracked stepped
    · simp only [awaitRun] at stepped
      split at stepped
      case h_1 => contradiction
      case h_2 moved =>
          cases stepped
          rw [List.append_nil]
          cases await_moves moved with
          | fail both => exact tracked.fail both now _ _
          | log due sent => exact tracked.log sent now
      case h_3 moved =>
          cases stepped
          cases await_moves moved with
          | backup due first => exact tracked.backup first now
      case h_4 moved =>
          cases stepped
          rw [List.append_nil]
          exact ⟨wait, past, now, event, rfl, tracked, await_moves moved⟩
    · contradiction
  · exact ⟨rfl, rfl, by simp, rfl, fun _ => rfl, by simp [WaitPhase.backupSent, Wait.begin], rfl⟩

/-! The result of a run. -/

structure Hedged (recoveryTimeout : Option Nat) (stallThreshold started : Nat)
    (events : List (Nat × WaitEvent Answer)) (calls : List WaitCall) (state : WaitState Answer) :
    Prop where
  once : calls.length ≤ 1
  backup : .makeBackup ∈ calls ↔ ∃ now rest, events = (now, .warning) :: rest
  answered : ∀ before now source value after,
    events = before ++ (now, .resolved source (.ok value)) :: after →
      after = [] ∧ ∃ wait, state = .returned (.completed wait) ∧ wait.result = .ok value
  failed : ∀ wait error, state = .returned (.completed wait) → wait.result = .error error →
    ((∃ now, events = [(now, .resolved .primary (.error error))]) ∧
        wait = ⟨.error error, none, false, 0⟩) ∨
      ∃ first second earlier, first ≠ second ∧
        failuresOf events = [(first, earlier), (second, error)] ∧
        wait.backupSent = true ∧ wait.discardedErrors = 1
  booked : ∀ wait value, state = .returned (.completed wait) → wait.result = .ok value →
    (wait.backupSent = true ↔ .makeBackup ∈ calls) ∧
      wait.discardedErrors = (failuresOf events).length
  listens : ∀ wait, state = .waiting wait → ∀ now source result,
    (awaitRun recoveryTimeout state (now, .resolved source result)).isSome = true ↔
      (source = .primary ∨ .makeBackup ∈ calls) ∧ ∀ error, (source, error) ∉ failuresOf events
  stallTimer : ∀ wait, state = .waiting wait → ∀ now,
    (awaitRun recoveryTimeout state (now, .warning)).isSome = true ↔
      timerDue stallThreshold started events ≤ now
  deadline : ∀ wait, state = .waiting wait → ∀ now,
    (awaitRun recoveryTimeout state (now, .recoveryDeadline)).isSome = true ↔
      ∃ duration, recoveryTimeout = some duration ∧ started + duration ≤ now
  cancellation : ∀ wait, state = .waiting wait → ∀ now,
    awaitRun recoveryTimeout state (now, .cancelled) = some (.returned .cancelled, [])
  stalledFor : ∀ wait, state = .returned (.completed wait) →
    ∃ before now event, events = before ++ [(now, event)] ∧
      wait.stalledFor = if wait.backupSent then some (now - started) else none
  recovery : ∀ stalledFor, state = .returned (.recoveryRequired stalledFor) →
    ∃ duration before now, recoveryTimeout = some duration ∧ started + duration ≤ now ∧
      events = before ++ [(now, .recoveryDeadline)] ∧ stalledFor = now - started
  cancelled : state = .returned .cancelled →
    ∃ before now, events = before ++ [(now, .cancelled)]

theorem WaitPhase.polls_iff (phase : WaitPhase) (source : ResponseSource) :
    phase.polls source = true ↔
      (source = .primary ∨ phase.backupSent = true) ∧ source ∉ phase.failed := by
  cases phase <;> cases source <;> decide

section

variable {stallThreshold started : Nat} {wait : Wait} {events : List (Nat × WaitEvent Answer)}
  {calls : List WaitCall}

theorem Waited.sent_iff (waited : Waited stallThreshold started wait events calls) :
    .makeBackup ∈ calls ↔ wait.phase.backupSent = true := by
  rw [waited.calls]
  cases wait.phase.backupSent <;> simp

theorem Waited.once (waited : Waited stallThreshold started wait events calls) :
    calls.length ≤ 1 := by
  rw [waited.calls]
  split <;> simp

theorem Waited.stalled_iff (waited : Waited stallThreshold started wait events calls) :
    wait.phase.backupSent = true ↔ ∃ now rest, events = (now, .warning) :: rest := by
  refine ⟨waited.stalled, ?_⟩
  rintro ⟨now, rest, taken⟩
  cases sent : wait.phase.backupSent with
  | true => rfl
  | false =>
      rw [waited.fresh sent] at taken
      contradiction

theorem Waited.unfailed_iff (waited : Waited stallThreshold started wait events calls)
    (source : ResponseSource) :
    source ∉ wait.phase.failed ↔ ∀ error, (source, error) ∉ failuresOf events := by
  rw [← waited.failed]
  simp

theorem Waited.hedged {recoveryTimeout : Option Nat}
    (waited : Waited stallThreshold started wait events calls) :
    Hedged recoveryTimeout stallThreshold started events calls (.waiting wait) where
  once := waited.once
  backup := waited.sent_iff.trans waited.stalled_iff
  answered before now source value after split := by
    have open_ := waited.quiet (now, .resolved source (.ok value)) (by simp [split])
    contradiction
  failed := nofun
  booked := nofun
  listens other same now source result := by
    cases same
    have taken : (awaitRun recoveryTimeout (.waiting wait) (now, .resolved source result)).isSome =
        wait.phase.polls source := by
      simp only [awaitRun, awaitEndpointResponseWithTimeouts]
      cases wait.phase.polls source with
      | false => rfl
      | true =>
          simp only [if_true]
          split <;> simp_all
    rw [taken, wait.phase.polls_iff, waited.sent_iff, waited.unfailed_iff]
  stallTimer other same now := by
    rw [← waited.timer]
    simp only [awaitRun, awaitEndpointResponseWithTimeouts]
    by_cases due : wait.warningAt ≤ now
    · cases phase : wait.phase <;> simp [due, Wait.warn, phase]
    · simp [due]
  deadline other same now := by
    rw [← waited.since]
    cases recoveryTimeout with
    | none => simp [awaitRun, awaitEndpointResponseWithTimeouts]
    | some duration =>
        by_cases due : wait.started + duration ≤ now <;>
          simp [awaitRun, awaitEndpointResponseWithTimeouts, due]
  cancellation other same now := rfl
  stalledFor := nofun
  recovery := nofun
  cancelled := nofun

theorem snoc_eq_append_cons {Item : Type} {items before after : List Item} {last item : Item}
    (split : items ++ [last] = before ++ item :: after) :
    (after = [] ∧ item = last) ∨ item ∈ items := by
  rcases List.eq_nil_or_concat after with rfl | ⟨middle, final, rfl⟩
  · obtain ⟨_, same⟩ := List.append_inj' split rfl
    exact Or.inl ⟨rfl, (List.singleton_inj.mp same).symm⟩
  · rw [List.concat_eq_append, ← List.cons_append, ← List.append_assoc] at split
    obtain ⟨same, _⟩ := List.append_inj' split rfl
    exact Or.inr (by simp [same])

theorem Waited.giveUp (waited : Waited stallThreshold started wait events calls)
    {source : ResponseSource} (polled : wait.phase.polls source = true) (last : wait.phase ≠ .both) :
    (wait.phase = .primaryOnly ∧ source = .primary) ∨ ∃ first earlier, first ≠ source ∧
      failuresOf events = [(first, earlier)] ∧ wait.phase.failed = [first] ∧
      wait.phase.backupSent = true := by
  have failed := waited.failed
  obtain ⟨_, unfailed⟩ := (wait.phase.polls_iff source).mp polled
  cases phase : wait.phase with
  | both => exact absurd phase last
  | primaryOnly =>
      rw [phase] at polled
      cases source with
      | primary => exact Or.inl ⟨rfl, rfl⟩
      | backup => contradiction
  | backupPending | primaryPending =>
      right
      rw [phase] at failed unfailed
      obtain ⟨⟨first, earlier⟩, only, _⟩ := List.map_eq_singleton_iff.mp failed
      rw [only] at failed
      refine ⟨first, earlier, ?_, only, failed.symm, rfl⟩
      rintro rfl
      rw [← failed] at unfailed
      exact unfailed (List.mem_singleton_self _)

theorem Waited.returned {recoveryTimeout : Option Nat} {now : Nat} {event : WaitEvent Answer}
    {outcome : EndpointWaitOutcome Answer}
    (waited : Waited stallThreshold started wait events calls)
    (moves : WaitMoves recoveryTimeout wait now event (.returned outcome)) :
    Hedged recoveryTimeout stallThreshold started (events ++ [(now, event)]) calls
      (.returned outcome) where
  once := waited.once
  backup := by
    have unwarned : event ≠ .warning := by
      rintro rfl
      cases moves
    rw [waited.sent_iff, waited.stalled_iff]
    cases events with
    | nil => simp [unwarned]
    | cons first rest => simp
  answered := by
    intro earlier time source value after split
    rcases snoc_eq_append_cons split with ⟨rfl, same⟩ | old
    · cases same
      cases moves with
      | answer polled => exact ⟨rfl, _, rfl, rfl⟩
    · have open_ := waited.quiet _ old
      contradiction
  failed := by
    rintro result error ⟨⟩ failed
    cases moves with
    | answer polled => contradiction
    | @giveUp source _ polled last =>
        cases failed
        rcases waited.giveUp polled last with
          ⟨first, rfl⟩ | ⟨first, other, distinct, only, one, sent⟩
        · left
          obtain rfl := waited.fresh (by rw [first]; rfl)
          refine ⟨⟨now, rfl⟩, ?_⟩
          simp [Wait.completion, first, WaitPhase.backupSent, WaitPhase.failed]
        · right
          refine ⟨first, source, other, distinct, ?_, sent, ?_⟩
          · rw [failuresOf_snoc, only]
            rfl
          · simp [Wait.completion, one]
  booked := by
    rintro result value ⟨⟩ completed
    cases moves with
    | giveUp polled last => contradiction
    | answer polled =>
        refine ⟨waited.sent_iff.symm, ?_⟩
        rw [failuresOf_snoc, ← List.length_map Prod.fst]
        simp [Wait.completion, WaitEvent.failure, waited.failed]
  listens := nofun
  stallTimer := nofun
  deadline := nofun
  cancellation := nofun
  stalledFor := by
    rintro result ⟨⟩
    refine ⟨events, now, event, rfl, ?_⟩
    cases moves <;> simp [Wait.completion, Wait.elapsed, waited.since]
  recovery := by
    rintro stalledFor ⟨⟩
    cases moves with
    | deadline given due =>
        rw [waited.since] at due
        exact ⟨_, events, now, given, due, rfl, by rw [Wait.elapsed, waited.since]⟩
  cancelled := by
    rintro ⟨⟩
    cases moves with
    | cancel => exact ⟨events, now, rfl⟩

end

/-- Whatever branches the `select!`s of the wait take, in any order and however often the log
timer fires, its result is that of the hedged request.  An infinite order is covered by its
prefixes. -/
theorem hedged_request {recoveryTimeout : Option Nat} {stallThreshold started : Nat}
    {events : List (Nat × WaitEvent Answer)} {state : WaitState Answer} {calls : List WaitCall}
    (ran : Machine.run (awaitRun recoveryTimeout) (.waiting (.begin stallThreshold started)) events =
      some (state, calls)) : Hedged recoveryTimeout stallThreshold started events calls state := by
  have tracked := awaitRun_tracked ran
  cases state with
  | waiting wait => exact tracked.hedged
  | returned outcome =>
      obtain ⟨wait, before, now, event, rfl, waited, moves⟩ := tracked
      exact waited.returned moves

def sampleHedgedEvents : List (Nat × WaitEvent Nat) :=
  [(250, .warning), (300, .resolved .primary (.error ⟨1⟩)), (5300, .warning),
    (5400, .resolved .backup (.ok 7))]

theorem hedged_request_sample :
    Machine.run (awaitRun none) (.waiting (.begin 250 0)) sampleHedgedEvents =
        some (.returned (.completed ⟨.ok 7, some 5400, true, 1⟩), [.makeBackup]) ∧
      Hedged none 250 0 sampleHedgedEvents [.makeBackup]
        (.returned (.completed ⟨.ok 7, some 5400, true, 1⟩)) := by
  have ran : Machine.run (awaitRun none) (.waiting (.begin 250 0)) sampleHedgedEvents =
      some (.returned (.completed ⟨.ok 7, some 5400, true, 1⟩), [.makeBackup]) := rfl
  exact ⟨ran, hedged_request ran⟩

end Lamella

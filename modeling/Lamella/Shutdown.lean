import Lamella.MachineCore
import Lamella.MainCore
import Lamella.SystemNetwork

/-!
How `main` ends, over every interleaving of its tasks: what has happened to the temporary profile,
to the final report of the metrics, and to the errors of transport and network.
-/

namespace Lamella

def networkOutputsOf (trace : List MainOutput) : List SystemNetworkOutput :=
  trace.filterMap fun
    | .network output => some output
    | _ => none

/-- The reports in order, each with whether it is the final one. -/
def emitsOf (trace : List MainOutput) : List Bool :=
  trace.filterMap fun
    | .emit finalReport => some finalReport
    | _ => none

theorem networkOutputsOf_append (past outputs : List MainOutput) :
    networkOutputsOf (past ++ outputs) = networkOutputsOf past ++ networkOutputsOf outputs := by
  simp [networkOutputsOf]

theorem emitsOf_append (past outputs : List MainOutput) :
    emitsOf (past ++ outputs) = emitsOf past ++ emitsOf outputs := by
  simp [emitsOf]

theorem networkOutputsOf_map (outputs : List SystemNetworkOutput) :
    networkOutputsOf (outputs.map .network) = outputs := by
  rw [networkOutputsOf, List.filterMap_map]
  exact List.filterMap_some

theorem emitsOf_map (outputs : List SystemNetworkOutput) :
    emitsOf (outputs.map .network) = [] := by
  simp [emitsOf]

def NetworkPhase.failed : NetworkPhase → Bool
  | .returned (.error _) => true
  | _ => false

inductive MainMoves (settings : ProfileSettings) (tasks : MainTasks) :
    MainEvent → MainTasks → List MainOutput → Prop
  | signal : MainMoves settings tasks .shutdownSignal { tasks with isCancelled := true } []
  | network {event : SystemNetworkEvent} {phase next : NetworkPhase}
      {outputs : List SystemNetworkOutput} (present : tasks.network = some phase)
      (moved : SystemNetworkMoves settings tasks.isCancelled phase event next outputs) :
      MainMoves settings tasks (.network event)
        { tasks with network := some next, isCancelled := next.failed || tasks.isCancelled }
        (outputs.map .network)
  | tick (running : tasks.metrics = some .running) :
      MainMoves settings tasks .metricsTick tasks [.emit false]
  | finalReport (running : tasks.metrics = some .running) (cancelled : tasks.isCancelled = true) :
      MainMoves settings tasks .metricsCancelled { tasks with metrics := some .returned }
        [.emit true]
  | transport (result : Except IoError Unit) (phase : tasks.phase = .transport) :
      MainMoves settings tasks (.transport result)
        { tasks with isCancelled := true, phase := .awaitNetwork result } []
  | joinNetwork {result : Except IoError Unit} {next : MainPhase}
      (phase : tasks.phase = .awaitNetwork result)
      (joined : tasks.joinNetwork result = some next) :
      MainMoves settings tasks .joinNetwork { tasks with phase := next } []
  | joinMetrics {result : Except IoError Unit} (phase : tasks.phase = .awaitMetrics result)
      (done : tasks.metrics ≠ some .running) :
      MainMoves settings tasks .joinMetrics { tasks with phase := .returned result } []

theorem MainTasks.networkStep_moves {settings : ProfileSettings} {tasks next : MainTasks}
    {event : SystemNetworkEvent} {outputs : List MainOutput}
    (stepped : tasks.networkStep settings event = some (next, outputs)) :
    MainMoves settings tasks (.network event) next outputs := by
  simp only [MainTasks.networkStep, bind, Option.bind_eq_some_iff, pure, Prod.exists,
    Option.some.injEq, Prod.mk.injEq] at stepped
  obtain ⟨phase, present, after, said, ran, rfl, rfl⟩ := stepped
  have moved := MainMoves.network present (systemNetworkRun_moves ran)
  convert moved using 2
  unfold NetworkPhase.failed
  split <;> simp

theorem MainTasks.step_moves {settings : ProfileSettings} {tasks next : MainTasks}
    {event : MainEvent} {outputs : List MainOutput}
    (stepped : tasks.step settings event = some (next, outputs)) :
    (∀ result, tasks.phase ≠ .returned result) ∧ MainMoves settings tasks event next outputs := by
  unfold MainTasks.step at stepped
  split at stepped
  case h_1 => contradiction
  case h_2 running =>
      cases stepped
      exact ⟨running, .signal⟩
  case h_3 running => exact ⟨running, MainTasks.networkStep_moves stepped⟩
  case h_4 running =>
      split at stepped
      · cases stepped
        exact ⟨running, .tick ‹_›⟩
      · contradiction
  case h_5 running =>
      split at stepped
      · split at stepped
        · cases stepped
          exact ⟨running, .finalReport ‹_› ‹_›⟩
        · contradiction
      · contradiction
  case h_6 phase =>
      cases stepped
      exact ⟨by simp [phase], .transport _ phase⟩
  case h_7 phase =>
      simp only [bind, Option.bind_eq_some_iff, pure, Option.some.injEq, Prod.mk.injEq] at stepped
      obtain ⟨after, joined, rfl, rfl⟩ := stepped
      exact ⟨by simp [phase], .joinNetwork phase joined⟩
  case h_8 phase =>
      split at stepped
      · contradiction
      · rename_i done
        cases stepped
        exact ⟨by simp [phase], .joinMetrics phase done⟩
  case h_9 => contradiction

/-- What the network task has done. -/
structure NetworkRecord (settings : ProfileSettings) (phase : NetworkPhase)
    (outputs : List SystemNetworkOutput) : Prop where
  lifecycle : Lifecycle phase.stage outputs
  failure : ∀ err, phase.outcome = some (.error err) →
    ∃ command result, .ran command result ∈ outputs ∧ command.failure settings result = some err

theorem NetworkRecord.step {settings : ProfileSettings} {isCancelled : Bool}
    {phase next : NetworkPhase} {event : SystemNetworkEvent}
    {past outputs : List SystemNetworkOutput} (record : NetworkRecord settings phase past)
    (moved : SystemNetworkMoves settings isCancelled phase event next outputs) :
    NetworkRecord settings next (past ++ outputs) := by
  refine ⟨record.lifecycle.step moved.profileEffect, ?_⟩
  intro err failed
  have effect := moved.outcomeEffect
  rw [failed] at effect
  generalize earlier : phase.outcome = outcome at effect
  cases effect with
  | same =>
      obtain ⟨command, result, ran, cause⟩ := record.failure err earlier
      exact ⟨command, result, List.mem_append_left _ ran, cause⟩
  | fail ran cause => exact ⟨_, _, List.mem_append_right _ ran, cause⟩

def NetworkTask (settings : ProfileSettings) (task : Option NetworkPhase)
    (outputs : List SystemNetworkOutput) : Prop :=
  match task with
  | none => outputs = []
  | some phase => NetworkRecord settings phase outputs

/-- The reports so far: periodic ones, and the final one if the task has returned. -/
def Reported (task : Option ReportPhase) (emits : List Bool) : Prop :=
  ∃ ticks, emits = List.replicate ticks false ++ if task = some .returned then [true] else []

/-- How the network task ended, when it was joined. -/
def Joined (transport result : Except IoError Unit) (task : Option NetworkPhase) : Prop :=
  match task with
  | none => result = transport
  | some phase => ∃ outcome, phase = .returned outcome ∧
      result = if transport = .ok () then outcome else transport

inductive MainRecord (tasks : MainTasks) (events : List MainEvent) : Prop
  | transport (phase : tasks.phase = .transport)
  | awaitNetwork {result : Except IoError Unit} (phase : tasks.phase = .awaitNetwork result)
      (returned : .transport result ∈ events)
  | awaitMetrics {result : Except IoError Unit} (phase : tasks.phase = .awaitMetrics result)
      (returned : .transport result ∈ events) (joined : Joined result result tasks.network)
  | returned {transport result : Except IoError Unit} (phase : tasks.phase = .returned result)
      (returned : .transport transport ∈ events) (joined : Joined transport result tasks.network)
      (reported : tasks.metrics = some .running → transport = .ok () ∧ result ≠ .ok ())

structure MainInvariant (settings : ProfileSettings) (tasks : MainTasks)
    (events : List MainEvent) (trace : List MainOutput) : Prop where
  network : NetworkTask settings tasks.network (networkOutputsOf trace)
  reported : Reported tasks.metrics (emitsOf trace)
  record : MainRecord tasks events

theorem MainTasks.joined {tasks : MainTasks} {result : Except IoError Unit} {next : MainPhase}
    (joined : tasks.joinNetwork result = some next) :
    (next = .awaitMetrics result ∧ Joined result result tasks.network) ∨
      ∃ err, next = .returned (.error err) ∧ result = .ok () ∧
        Joined result (.error err) tasks.network := by
  unfold MainTasks.joinNetwork at joined
  unfold Joined
  split at joined
  · rename_i absent
    cases joined
    exact .inl ⟨rfl, by rw [absent]⟩
  · rename_i done
    cases joined
    refine .inl ⟨rfl, ?_⟩
    rw [done]
    exact ⟨.ok (), rfl, by split <;> simp_all⟩
  · rename_i err failed
    split at joined
    · cases joined
      refine .inr ⟨err, rfl, rfl, ?_⟩
      rw [failed]
      exact ⟨.error err, rfl, by simp⟩
    · cases joined
      refine .inl ⟨rfl, ?_⟩
      rw [failed]
      exact ⟨.error err, rfl, by simp⟩
  · contradiction

/-- A step that is none of `main` itself. -/
theorem MainRecord.elsewhere {tasks next : MainTasks} {events : List MainEvent}
    (record : MainRecord tasks events) (event : MainEvent) (same : next.phase = tasks.phase)
    (kept : ∀ transport result, Joined transport result tasks.network →
      Joined transport result next.network)
    (running : ∀ result, tasks.phase ≠ .returned result) : MainRecord next (events ++ [event]) := by
  cases record with
  | transport phase => exact .transport (same.trans phase)
  | awaitNetwork phase returned =>
      exact .awaitNetwork (same.trans phase) (List.mem_append_left _ returned)
  | awaitMetrics phase returned joined =>
      exact .awaitMetrics (same.trans phase) (List.mem_append_left _ returned) (kept _ _ joined)
  | returned phase => exact absurd phase (running _)

theorem SystemNetworkMoves.not_returned {settings : ProfileSettings} {isCancelled : Bool}
    {outcome : Except IoError Unit} {next : NetworkPhase} {event : SystemNetworkEvent}
    {outputs : List SystemNetworkOutput} :
    ¬SystemNetworkMoves settings isCancelled (.returned outcome) event next outputs := by
  intro moved
  cases moved with
  | ran result running => contradiction

theorem MainInvariant.step {settings : ProfileSettings} {tasks next : MainTasks}
    {events : List MainEvent} {past outputs : List MainOutput} {event : MainEvent}
    (invariant : MainInvariant settings tasks events past)
    (stepped : tasks.step settings event = some (next, outputs)) :
    MainInvariant settings next (events ++ [event]) (past ++ outputs) := by
  obtain ⟨running, moved⟩ := MainTasks.step_moves stepped
  obtain ⟨network, ⟨ticks, emits⟩, record⟩ := invariant
  have same : ∀ transport result, Joined transport result tasks.network →
      Joined transport result tasks.network := fun _ _ joined => joined
  cases moved with
  | signal =>
      rw [List.append_nil]
      exact ⟨network, ⟨ticks, emits⟩, record.elsewhere _ rfl same running⟩
  | @network event phase after said present moved =>
      rw [present] at network
      refine ⟨?_, ⟨ticks, ?_⟩, record.elsewhere _ rfl ?_ running⟩
      · rw [networkOutputsOf_append, networkOutputsOf_map]
        exact NetworkRecord.step network moved
      · rw [emitsOf_append, emitsOf_map, List.append_nil]
        exact emits
      · intro transport result joined
        rw [present] at joined
        obtain ⟨outcome, rfl, _⟩ := joined
        exact absurd moved SystemNetworkMoves.not_returned
  | tick reporting =>
      refine ⟨?_, ⟨ticks + 1, ?_⟩, record.elsewhere _ rfl same running⟩
      · rw [networkOutputsOf_append]
        simpa [networkOutputsOf] using network
      · rw [emitsOf_append, emits, reporting]
        simp [emitsOf, List.replicate_succ']
  | finalReport reporting cancelled =>
      refine ⟨?_, ⟨ticks, ?_⟩, record.elsewhere _ rfl same running⟩
      · rw [networkOutputsOf_append]
        simpa [networkOutputsOf] using network
      · rw [emitsOf_append, emits, reporting]
        simp [emitsOf]
  | transport result phase =>
      rw [List.append_nil]
      exact ⟨network, ⟨ticks, emits⟩, .awaitNetwork rfl (by simp)⟩
  | @joinNetwork result after phase joined =>
      rw [List.append_nil]
      refine ⟨network, ⟨ticks, emits⟩, ?_⟩
      cases record with
      | awaitNetwork earlier returned =>
          rw [phase, MainPhase.awaitNetwork.injEq] at earlier
          subst earlier
          have returned := List.mem_append_left [MainEvent.joinNetwork] returned
          rcases MainTasks.joined joined with ⟨rfl, settled⟩ | ⟨err, rfl, ok, settled⟩
          · exact .awaitMetrics rfl returned settled
          · exact .returned rfl returned settled fun _ => ⟨ok, by simp⟩
      | transport earlier => simp [phase] at earlier
      | awaitMetrics earlier => simp [phase] at earlier
      | returned earlier => simp [phase] at earlier
  | @joinMetrics result phase done =>
      rw [List.append_nil]
      refine ⟨network, ⟨ticks, emits⟩, ?_⟩
      cases record with
      | awaitMetrics earlier returned joined =>
          rw [phase, MainPhase.awaitMetrics.injEq] at earlier
          subst earlier
          exact .returned rfl (List.mem_append_left _ returned) joined fun still => absurd still done
      | transport earlier => simp [phase] at earlier
      | awaitNetwork earlier => simp [phase] at earlier
      | returned earlier => simp [phase] at earlier

theorem MainTasks.run_invariant {settings : ProfileSettings} {test systemNetwork : Bool}
    {events : List MainEvent} {tasks : MainTasks} {trace : List MainOutput}
    (ran : Machine.run (MainTasks.step settings) (.start test systemNetwork) events =
      some (tasks, trace)) : MainInvariant settings tasks events trace := by
  have initially : MainInvariant settings (.start test systemNetwork) [] [] := by
    refine ⟨?_, ⟨0, ?_⟩, .transport rfl⟩
    · unfold MainTasks.start NetworkTask
      cases systemNetwork && !test with
      | true => exact ⟨.absent (by simp [Untouched, networkOutputsOf]), by rintro _ ⟨⟩⟩
      | false => rfl
    · cases test <;> rfl
  refine Machine.run_record (MainInvariant settings) ?_ initially ran
  intro tasks past trace event next outputs invariant stepped
  exact invariant.step stepped

/-- When `main` returns, under every interleaving: a profile that was added has been used only
after that and its removal was run exactly once, as the last command of the network task; an
error of the transport is returned before one of the network, which comes from a command that
failed and never from the inspection of routes; and after the periodic reports there was exactly
one final report, which only a failed network setup can cut off. -/
theorem main_shutdown {settings : ProfileSettings} {test systemNetwork : Bool}
    {events : List MainEvent} {tasks : MainTasks} {trace : List MainOutput}
    {result : Except IoError Unit}
    (ran : Machine.run (MainTasks.step settings) (.start test systemNetwork) events =
      some (tasks, trace))
    (returned : tasks.phase = .returned result) :
    ∃ transport, .transport transport ∈ events ∧
      (tasks.network = none → networkOutputsOf trace = [] ∧ result = transport) ∧
      (∀ phase, tasks.network = some phase → ∃ outcome, phase = .returned outcome ∧
        Lifecycle .finished (networkOutputsOf trace) ∧
        (result = if transport = .ok () then outcome else transport) ∧
        ∀ err, outcome = .error err → ∃ command ended,
          .ran command ended ∈ networkOutputsOf trace ∧
            command.failure settings ended = some err) ∧
      ∃ ticks, emitsOf trace =
          List.replicate ticks false ++ (if tasks.metrics = some .returned then [true] else []) ∧
        (tasks.metrics = some .running → transport = .ok () ∧ result ≠ .ok ()) := by
  obtain ⟨network, ⟨ticks, emits⟩, record⟩ := MainTasks.run_invariant ran
  cases record with
  | @returned transport other phase called joined reported =>
      rw [returned, MainPhase.returned.injEq] at phase
      subst phase
      refine ⟨transport, called, ?_, ?_, ticks, emits, reported⟩
      · intro absent
        rw [absent] at network joined
        exact ⟨network, joined⟩
      · intro phase present
        rw [present] at network joined
        obtain ⟨outcome, rfl, settled⟩ := joined
        refine ⟨outcome, rfl, network.lifecycle, settled, ?_⟩
        rintro err rfl
        exact network.failure err rfl
  | transport phase => simp [returned] at phase
  | awaitNetwork phase => simp [returned] at phase
  | awaitMetrics phase => simp [returned] at phase

/-- The activation fails, the network task cancels the rest, and `main` returns its error before
the final report. -/
def sampleFailedEvents : List MainEvent :=
  [.network .slept, .network (.exited (.exited true "" "")),
    .network (.exited (.exited true "" "")), .network (.exited (.exited true "" "")),
    .metricsTick, .network (.exited (.exited true "" "")),
    .network (.exited (.exited false "" "no carrier")),
    .network (.exited (.exited true "" "")), .transport (.ok ()), .joinNetwork]

theorem main_shutdown_failed :
    ∃ tasks trace err,
      Machine.run (MainTasks.step ⟨1, 2, 5⟩) (.start false true) sampleFailedEvents =
          some (tasks, trace) ∧
        tasks.phase = .returned (.error err) ∧ emitsOf trace = [false] ∧
        (networkOutputsOf trace).countP (·.creates) = 1 ∧
        Lifecycle .finished (networkOutputsOf trace) := by
  have reached : (Machine.run (MainTasks.step ⟨1, 2, 5⟩) (.start false true)
      sampleFailedEvents).map (fun result => (result.1.phase, result.1.network)) =
        some (.returned (.error (.other
          "nmcli --wait 45 connection up id lamella-esp32tap-1-2 ifname esp32tap failed: no carrier")),
        some (.returned (.error (.other
          "nmcli --wait 45 connection up id lamella-esp32tap-1-2 ifname esp32tap failed: no carrier")))) := by
    decide +kernel
  have counted : (Machine.run (MainTasks.step ⟨1, 2, 5⟩) (.start false true)
      sampleFailedEvents).map (fun result =>
        (emitsOf result.2, (networkOutputsOf result.2).countP (·.creates))) = some ([false], 1) := by
    decide +kernel
  obtain ⟨⟨tasks, trace⟩, ran, seen⟩ := Option.map_eq_some_iff.mp reached
  obtain ⟨phase, network⟩ := Prod.mk.inj seen
  rw [ran, Option.map_some, Option.some.injEq] at counted
  obtain ⟨emits, created⟩ := Prod.mk.inj counted
  obtain ⟨_, _, _, settled, _⟩ := main_shutdown ran phase
  obtain ⟨_, _, lifecycle, _⟩ := settled _ network
  exact ⟨tasks, trace, _, ran, phase, emits, created, lifecycle⟩

end Lamella

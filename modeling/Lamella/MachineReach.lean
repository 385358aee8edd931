import Lamella.MachineCore

/-!
What a machine can still do: from a state, some run of allowed events reaches a goal, which may
refer to the outputs of that run.
-/

namespace Machine

variable {State Event Output : Type}

def Leads (step : State → Event → Option (State × List Output)) (allowed : Event → Prop)
    (start : State) (goal : State → List Output → Prop) : Prop :=
  ∃ events final trace, (∀ event ∈ events, allowed event) ∧
    run step start events = some (final, trace) ∧ goal final trace

section

variable {step : State → Event → Option (State × List Output)} {allowed : Event → Prop}
  {start : State} {goal : State → List Output → Prop}

theorem Leads.now (reached : goal start []) : Leads step allowed start goal :=
  ⟨[], start, [], by simp, rfl, reached⟩

theorem Leads.trans {middle : State → List Output → Prop}
    (first : Leads step allowed start middle)
    (second : ∀ state past, middle state past →
      Leads step allowed state fun final trace => goal final (past ++ trace)) :
    Leads step allowed start goal := by
  obtain ⟨events, state, past, permitted, ran, reached⟩ := first
  obtain ⟨later, final, trace, laterPermitted, continued, arrived⟩ := second state past reached
  refine ⟨events ++ later, final, past ++ trace, ?_, run_append ran continued, arrived⟩
  intro event member
  rcases List.mem_append.mp member with old | new
  · exact permitted event old
  · exact laterPermitted event new

theorem Leads.next {event : Event} {state : State} {output : List Output}
    (permitted : allowed event)
    (stepped : step start event = some (state, output))
    (later : Leads step allowed state fun final trace => goal final (output ++ trace)) :
    Leads step allowed start goal := by
  have one : Leads step allowed start fun reached past => reached = state ∧ past = output :=
    ⟨[event], state, output, by simpa using permitted,
      (run_cons_iff _ _ _ _ _).mpr ⟨state, output, [], stepped, rfl, by simp⟩, rfl, rfl⟩
  refine one.trans ?_
  rintro reached past ⟨rfl, rfl⟩
  exact later

theorem Leads.mono {weaker : State → List Output → Prop} (leads : Leads step allowed start goal)
    (implies : ∀ state trace, goal state trace → weaker state trace) :
    Leads step allowed start weaker := by
  obtain ⟨events, final, trace, permitted, ran, reached⟩ := leads
  exact ⟨events, final, trace, permitted, ran, implies final trace reached⟩

theorem Leads.allow {more : Event → Prop} (leads : Leads step allowed start goal)
    (wider : ∀ event, allowed event → more event) : Leads step more start goal := by
  obtain ⟨events, final, trace, permitted, ran, reached⟩ := leads
  exact ⟨events, final, trace, fun event member => wider event (permitted event member), ran, reached⟩

/-- Where an allowed step can be taken that keeps `holds` and lowers the measure until `done`
holds, `done` can be reached. -/
theorem Leads.of_measure (measure : State → Nat) (holds done : State → List Output → Prop)
    (progress : ∀ state past, holds state past → done state past ∨
      ∃ event next output, allowed event ∧ step state event = some (next, output) ∧
        holds next (past ++ output) ∧ measure next < measure state)
    {past : List Output} (initially : holds start past) :
    Leads step allowed start fun final trace => done final (past ++ trace) := by
  induction bound : measure start using Nat.strongRecOn generalizing start past with
  | ind bound ih =>
      rcases progress start past initially with finished |
        ⟨event, next, output, permitted, stepped, kept, closer⟩
      · exact .now (by simpa using finished)
      · refine .next permitted stepped ?_
        have later := ih (measure next) (bound ▸ closer) kept rfl
        exact later.mono fun final trace reached => by simpa using reached

/-- What every allowed step keeps holds wherever the goal is reached. -/
theorem Leads.keep {holds : State → List Output → Prop} (leads : Leads step allowed start goal)
    (preserved : ∀ state past event next output, allowed event → holds state past →
      step state event = some (next, output) → holds next (past ++ output))
    (initially : holds start []) :
    Leads step allowed start fun final trace => holds final trace ∧ goal final trace := by
  obtain ⟨events, final, trace, permitted, ran, reached⟩ := leads
  exact ⟨events, final, trace, permitted, ran,
    run_invariant holds allowed preserved permitted initially ran, reached⟩

end

/-- A run of a component is a run of the whole whose steps `matched` supplies. -/
theorem run_embed {Part PartEvent PartOutput : Type}
    {partStep : Part → PartEvent → Option (Part × List PartOutput)}
    {step : State → Event → Option (State × List Output)} (embed : PartEvent → Event)
    (shown : PartOutput → Output) (related : Part → List PartOutput → State → Prop)
    (matched : ∀ part past whole event next output, related part past whole →
      partStep part event = some (next, output) →
        ∃ after, step whole (embed event) = some (after, output.map shown) ∧
          related next (past ++ output) after)
    {part final : Part} {whole : State} (initially : related part [] whole)
    {events : List PartEvent} {trace : List PartOutput}
    (ran : run partStep part events = some (final, trace)) :
    ∃ after, run step whole (events.map embed) = some (after, trace.map shown) ∧
      related final trace after := by
  induction events using List.reverseRecOn generalizing final trace with
  | nil =>
      cases ran
      exact ⟨whole, rfl, initially⟩
  | append_singleton events event ih =>
      obtain ⟨state, past, output, earlier, stepped, rfl⟩ := (run_snoc_iff _ _ _ _ _).mp ran
      obtain ⟨middle, reached, kept⟩ := ih earlier
      obtain ⟨after, moved, arrived⟩ := matched _ _ _ _ _ _ kept stepped
      refine ⟨after, ?_, arrived⟩
      rw [List.map_append, List.map_append]
      exact (run_snoc_iff _ _ _ _ _).mpr ⟨middle, _, _, reached, moved, rfl⟩

end Machine

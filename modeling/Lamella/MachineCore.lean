import Mathlib.Data.List.Induction

/-!
Runs of a partial step function that also produces outputs.  A run fails as soon
as one of its events is not enabled, so every prefix of a run is a run.
-/

namespace Machine

variable {State Event Output : Type}

def run (step : State → Event → Option (State × List Output)) :
    State → List Event → Option (State × List Output)
  | state, [] => some (state, [])
  | state, event :: rest => do
      let (next, output) ← step state event
      let (final, outputs) ← run step next rest
      return (final, output ++ outputs)

section

variable {step : State → Event → Option (State × List Output)}

theorem run_cons_iff (state final : State) (event : Event) (rest : List Event)
    (trace : List Output) :
    run step state (event :: rest) = some (final, trace) ↔
      ∃ next output outputs, step state event = some (next, output) ∧
        run step next rest = some (final, outputs) ∧ trace = output ++ outputs := by
  simp only [run, bind, Option.bind_eq_some_iff, pure, Option.some.injEq, Prod.mk.injEq,
    Prod.exists]
  constructor
  · rintro ⟨next, output, stepped, reached, outputs, ran, rfl, rfl⟩
    exact ⟨next, output, outputs, stepped, ran, rfl⟩
  · rintro ⟨next, output, outputs, stepped, ran, rfl⟩
    exact ⟨next, output, stepped, final, outputs, ran, rfl, rfl⟩

/-- A property of the state and of everything output so far holds at the end of a
run when it holds at its start and every enabled step keeps it. -/
theorem run_invariant (holds : State → List Output → Prop) (allowed : Event → Prop)
    (preserved : ∀ state past event next output, allowed event → holds state past →
      step state event = some (next, output) → holds next (past ++ output))
    {events : List Event} (allAllowed : ∀ event ∈ events, allowed event) :
    ∀ {start : State} {past : List Output}, holds start past →
      ∀ {final : State} {trace : List Output},
        run step start events = some (final, trace) → holds final (past ++ trace) := by
  induction events with
  | nil =>
      intro start past initially final trace ran
      simp only [run, Option.some.injEq, Prod.mk.injEq] at ran
      obtain ⟨rfl, rfl⟩ := ran
      simpa using initially
  | cons event rest ih =>
      intro start past initially final trace ran
      obtain ⟨next, output, outputs, stepped, later, rfl⟩ := (run_cons_iff _ _ _ _ _).mp ran
      have kept := preserved _ _ _ _ _ (allAllowed event (by simp)) initially stepped
      have finished := ih (fun event member => allAllowed event (by simp [member])) kept later
      simpa [List.append_assoc] using finished

theorem run_append {start middle final : State} {first second : List Event}
    {past future : List Output} (ran : run step start first = some (middle, past))
    (continued : run step middle second = some (final, future)) :
    run step start (first ++ second) = some (final, past ++ future) := by
  induction first generalizing start past with
  | nil =>
      simp only [run, Option.some.injEq, Prod.mk.injEq] at ran
      obtain ⟨rfl, rfl⟩ := ran
      simpa using continued
  | cons event rest ih =>
      obtain ⟨next, output, outputs, stepped, later, rfl⟩ := (run_cons_iff _ _ _ _ _).mp ran
      rw [List.cons_append, run_cons_iff]
      exact ⟨next, output, outputs ++ future, stepped, ih later, by simp⟩

theorem run_snoc_iff (start final : State) (events : List Event) (event : Event)
    (trace : List Output) :
    run step start (events ++ [event]) = some (final, trace) ↔
      ∃ state past output, run step start events = some (state, past) ∧
        step state event = some (final, output) ∧ trace = past ++ output := by
  induction events generalizing start trace with
  | nil =>
      rw [List.nil_append, run_cons_iff]
      constructor
      · rintro ⟨next, output, outputs, stepped, ended, rfl⟩
        cases ended
        exact ⟨start, [], output, rfl, stepped, by simp⟩
      · rintro ⟨state, past, output, ran, stepped, rfl⟩
        cases ran
        exact ⟨final, output, [], stepped, rfl, by simp⟩
  | cons first rest ih =>
      rw [List.cons_append, run_cons_iff]
      constructor
      · rintro ⟨next, output, outputs, stepped, later, rfl⟩
        obtain ⟨state, past, last, ran, finished, rfl⟩ := (ih next outputs).mp later
        exact ⟨state, output ++ past, last,
          (run_cons_iff _ _ _ _ _).mpr ⟨next, output, past, stepped, ran, rfl⟩, finished, by simp⟩
      · rintro ⟨state, past, last, ran, finished, rfl⟩
        obtain ⟨next, output, outputs, stepped, later, rfl⟩ := (run_cons_iff _ _ _ _ _).mp ran
        exact ⟨next, output, outputs ++ last, stepped,
          (ih next _).mpr ⟨state, outputs, last, later, finished, rfl⟩, by simp⟩

/-- The same for a property of the state, the events and the outputs so far. -/
theorem run_record (holds : State → List Event → List Output → Prop)
    (preserved : ∀ state past trace event next output, holds state past trace →
      step state event = some (next, output) → holds next (past ++ [event]) (trace ++ output))
    {start : State} (initially : holds start [] []) {events : List Event} {final : State}
    {trace : List Output} (ran : run step start events = some (final, trace)) :
    holds final events trace := by
  induction events using List.reverseRecOn generalizing final trace with
  | nil =>
      cases ran
      exact initially
  | append_singleton events event ih =>
      obtain ⟨state, past, output, earlier, stepped, rfl⟩ := (run_snoc_iff _ _ _ _ _).mp ran
      exact preserved state events past event final output (ih earlier) stepped

/-- Every event meets a condition on the state it is taken in. -/
def Obeys (step : State → Event → Option (State × List Output)) (allowed : State → Event → Prop)
    (start : State) (events : List Event) : Prop :=
  ∀ before event, before ++ [event] <+: events → ∀ state past,
    run step start before = some (state, past) → allowed state event

theorem Obeys.initial {allowed : State → Event → Prop} {start : State} {events later : List Event}
    (obeys : Obeys step allowed start (events ++ later)) : Obeys step allowed start events := by
  intro before event front
  exact obeys before event (front.trans (List.prefix_append _ _))

theorem obeys_snoc_iff {allowed : State → Event → Prop} {start state : State}
    {events : List Event} {past : List Output} {event : Event}
    (ran : run step start events = some (state, past)) :
    Obeys step allowed start (events ++ [event]) ↔
      Obeys step allowed start events ∧ allowed state event := by
  constructor
  · intro obeys
    exact ⟨obeys.initial, obeys events event (List.prefix_refl _) state past ran⟩
  · rintro ⟨obeys, last⟩ before other front reached output earlier
    rcases List.prefix_concat_iff.mp front with whole | inside
    · obtain ⟨rfl, same⟩ := List.append_inj' whole rfl
      obtain ⟨rfl⟩ := List.singleton_inj.mp same
      rw [ran] at earlier
      cases earlier
      exact last
    · exact obeys before other inside reached output earlier

/-- Whether a run meets a condition that can be evaluated. -/
def obeys (step : State → Event → Option (State × List Output)) (allowed : State → Event → Bool) :
    State → List Event → Bool
  | _, [] => true
  | state, event :: rest =>
      allowed state event &&
        match step state event with
        | none => true
        | some (next, _) => obeys step allowed next rest

theorem obeys_sound {allowed : State → Event → Bool} {start : State} {events : List Event}
    (checked : obeys step allowed start events = true) :
    Obeys step (fun state event => allowed state event = true) start events := by
  induction events generalizing start with
  | nil =>
      intro before event front
      simp at front
  | cons first rest ih =>
      simp only [obeys, Bool.and_eq_true] at checked
      intro before event front state past ran
      cases before with
      | nil =>
          cases ran
          obtain ⟨rfl, _⟩ := List.cons_prefix_cons.mp front
          exact checked.1
      | cons other before =>
          obtain ⟨rfl, behind⟩ := List.cons_prefix_cons.mp front
          obtain ⟨next, output, outputs, stepped, later, _⟩ := (run_cons_iff _ _ _ _ _).mp ran
          have tail := checked.2
          rw [stepped] at tail
          exact ih tail before event behind state outputs later

/-- How many steps of a run meet a condition in the state they are taken in. -/
def tally (step : State → Event → Option (State × List Output)) (counts : State → Event → Bool) :
    State → List Event → Nat
  | _, [] => 0
  | state, event :: rest =>
      (counts state event).toNat +
        match step state event with
        | none => 0
        | some (next, _) => tally step counts next rest

/-- A counter that goes up by one with each of these steps has counted them all. -/
theorem run_tally {counts : State → Event → Bool} {counter : State → Nat}
    (counted : ∀ state event next output, step state event = some (next, output) →
      counter next = counter state + (counts state event).toNat)
    {start final : State} {events : List Event} {trace : List Output}
    (ran : run step start events = some (final, trace)) :
    counter final = counter start + tally step counts start events := by
  induction events generalizing start trace with
  | nil =>
      cases ran
      rfl
  | cons event rest ih =>
      obtain ⟨next, output, outputs, stepped, later, rfl⟩ := (run_cons_iff _ _ _ _ _).mp ran
      rw [ih later, counted start event next output stepped]
      simp only [tally, stepped]
      omega

/-- A property of the state and of everything output so far that every step meeting the
condition keeps holds at the end of a run all of whose steps meet it. -/
theorem run_obeying_trace {allowed : State → Event → Prop} (holds : State → List Output → Prop)
    (preserved : ∀ state past event next output, holds state past → allowed state event →
      step state event = some (next, output) → holds next (past ++ output))
    {start : State} (initially : holds start []) {events : List Event}
    (obeys : Obeys step allowed start events) {final : State} {trace : List Output}
    (ran : run step start events = some (final, trace)) : holds final trace := by
  induction events using List.reverseRecOn generalizing final trace with
  | nil =>
      cases ran
      exact initially
  | append_singleton events event ih =>
      obtain ⟨state, past, output, earlier, stepped, rfl⟩ := (run_snoc_iff _ _ _ _ _).mp ran
      obtain ⟨before, allowed⟩ := (obeys_snoc_iff earlier).mp obeys
      exact preserved state past event final output (ih before earlier) allowed stepped

theorem run_obeying {allowed : State → Event → Prop} (holds : State → Prop)
    (preserved : ∀ state event next output, holds state → allowed state event →
      step state event = some (next, output) → holds next)
    {start : State} (initially : holds start) {events : List Event}
    (obeys : Obeys step allowed start events) {final : State} {trace : List Output}
    (ran : run step start events = some (final, trace)) : holds final :=
  run_obeying_trace (fun state _ => holds state)
    (fun state _ event next output => preserved state event next output) initially obeys ran

end

def Justified (good : List Output → Output → Prop) (trace : List Output) : Prop :=
  ∀ before output after, trace = before ++ output :: after → good before output

theorem justified_nil (good : List Output → Output → Prop) : Justified good [] := by
  intro before output after split
  simp at split

theorem Justified.append {good : List Output → Output → Prop} {past new : List Output}
    (old : Justified good past)
    (fresh : ∀ before output after, new = before ++ output :: after → good (past ++ before) output) :
    Justified good (past ++ new) := by
  intro before output after split
  rcases List.append_eq_append_iff.mp split with ⟨middle, rfl, later⟩ | ⟨middle, pastEq, rest⟩
  · exact fresh middle output after later
  · cases middle with
    | nil =>
        rw [List.append_nil] at pastEq
        subst pastEq
        simpa using fresh [] output after rest.symm
    | cons first tail =>
        obtain ⟨rfl, _⟩ := List.cons.inj rest
        exact old before output tail pastEq

theorem Justified.initial {good : List Output → Output → Prop} {past new : List Output}
    (all : Justified good (past ++ new)) : Justified good past := by
  intro before output after split
  refine all before output (after ++ new) ?_
  rw [split, List.append_assoc]
  rfl

theorem justified_snoc_iff {good : List Output → Output → Prop} {past : List Output}
    {output : Output} :
    Justified good (past ++ [output]) ↔ Justified good past ∧ good past output := by
  constructor
  · exact fun all => ⟨all.initial, all past output [] rfl⟩
  · rintro ⟨old, fresh⟩
    refine old.append ?_
    intro before other after split
    obtain ⟨rfl, rfl, rfl⟩ : before = [] ∧ other = output ∧ after = [] := by
      cases before <;> simp_all
    simpa using fresh

end Machine

import Lamella.MachineCore

/-!
Forward simulation between two machines.  A step of the one is matched by any number of steps
of the other, and the outputs both show are the same.
-/

namespace Machine

variable {State Event Output Model ModelEvent ModelOutput Shown : Type}

theorem run_single {step : State → Event → Option (State × List Output)} {state next : State}
    {event : Event} {output : List Output} (stepped : step state event = some (next, output)) :
    run step state [event] = some (next, output) :=
  (run_cons_iff _ _ _ _ _).mpr ⟨next, output, [], stepped, rfl, by simp⟩

theorem run_simulates {step : State → Event → Option (State × List Output)}
    {modelStep : Model → ModelEvent → Option (Model × List ModelOutput)}
    (shows : Output → Option Shown) (modelShows : ModelOutput → Option Shown)
    (related : State → Model → Prop)
    (matched : ∀ state model event next output, related state model →
      step state event = some (next, output) →
        ∃ events after outputs, run modelStep model events = some (after, outputs) ∧
          outputs.filterMap modelShows = output.filterMap shows ∧ related next after)
    {start final : State} {model : Model} (initially : related start model)
    {events : List Event} {trace : List Output}
    (ran : run step start events = some (final, trace)) :
    ∃ modelEvents after modelTrace, run modelStep model modelEvents = some (after, modelTrace) ∧
      modelTrace.filterMap modelShows = trace.filterMap shows ∧ related final after := by
  induction events using List.reverseRecOn generalizing final trace with
  | nil =>
      cases ran
      exact ⟨[], model, [], rfl, rfl, initially⟩
  | append_singleton events event ih =>
      obtain ⟨state, past, output, earlier, stepped, rfl⟩ := (run_snoc_iff _ _ _ _ _).mp ran
      obtain ⟨before, middle, shownPast, reached, samePast, kept⟩ := ih earlier
      obtain ⟨later, after, outputs, moved, same, arrived⟩ := matched _ _ _ _ _ kept stepped
      refine ⟨before ++ later, after, shownPast ++ outputs, run_append reached moved, ?_, arrived⟩
      rw [List.filterMap_append, List.filterMap_append, samePast, same]

end Machine

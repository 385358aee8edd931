import Mathlib.Data.List.Sort
import Lamella.StopAndWaitCore

/-!
What every run of the stop-and-wait protocol keeps, whatever the labels are: requests
reach the server in the order of their transactions, no transaction is executed twice,
and every reply repeats the result of an execution under the same label.  With
distinct labels that execution belongs to the transaction itself.
-/

namespace StopAndWait

variable {Label Result : Type} {ordered : Prop} {mine : Label → Prop}

/-! Requests arrive in the order of their transactions. -/

theorem forall_mem_snoc {Item : Type} {holds : Item → Prop} {items : List Item} {item : Item}
    (old : ∀ other ∈ items, holds other) (new : holds item) :
    ∀ other ∈ items ++ [item], holds other := by
  rw [List.forall_mem_append, List.forall_mem_singleton]
  exact ⟨old, new⟩

theorem pairwise_fst_snoc {relation : Nat → Nat → Prop} {entries : List (Nat × Result)}
    {entry : Nat × Result} (sorted : (entries.map Prod.fst).Pairwise relation)
    (earlier : ∀ old ∈ entries, relation old.1 entry.1) :
    ((entries ++ [entry]).map Prod.fst).Pairwise relation := by
  rw [List.pairwise_map] at sorted ⊢
  refine List.pairwise_append.mpr ⟨sorted, List.pairwise_singleton _ _, ?_⟩
  intro old member new atEnd
  rw [List.mem_singleton.mp atEnd]
  exact earlier old member

theorem removed_sublist {Item : Type} {items before after : List Item} {item : Item}
    (split : items = before ++ item :: after) : (before ++ after).Sublist items := by
  rw [split]
  exact List.Sublist.append_left (List.sublist_cons_self _ _) before

structure Arrivals (state : State Label Result) : Prop where
  sorted : state.requests.Pairwise (· ≤ ·)
  begun : ∀ number ∈ state.requests, number < state.begun.length
  servedBegun : ∀ number, state.served = some number → number < state.begun.length
  servedFirst : ∀ number, state.served = some number → ∀ later ∈ state.requests, number ≤ later

theorem Arrivals.takeFirst {state : State Label Result} (arrivals : Arrivals state)
    {number : Nat} {rest : List Nat} (first : state.requests = number :: rest) :
    rest.Pairwise (· ≤ ·) ∧ (∀ later ∈ rest, later < state.begun.length) ∧
      number < state.begun.length ∧ ∀ later ∈ rest, number ≤ later := by
  have sorted := arrivals.sorted
  have begun := arrivals.begun
  rw [first] at sorted begun
  have parts := List.pairwise_cons.mp sorted
  exact ⟨parts.2, fun later member => begun later (by simp [member]), begun number (by simp),
    parts.1⟩

theorem Arrivals.serve {state next : State Label Result} (arrivals : Arrivals state)
    {number : Nat} (first : state.requests = number :: next.requests)
    (begun : next.begun = state.begun) (served : next.served = some number) : Arrivals next := by
  obtain ⟨sorted, restBegun, bound, later⟩ := arrivals.takeFirst first
  rw [← begun] at restBegun bound
  refine ⟨sorted, restBegun, ?_, ?_⟩
  · intro handled same
    rw [served] at same
    rwa [← Option.some.inj same]
  · intro handled same
    rw [served] at same
    rwa [← Option.some.inj same]

theorem Arrivals.served_le {state : State Label Result} (arrivals : Arrivals state)
    {entries : List (Nat × Result)}
    (served : ∀ entry ∈ entries, ∃ number, state.served = some number ∧ entry.1 ≤ number)
    {number : Nat} {rest : List Nat} (first : state.requests = number :: rest) :
    ∀ entry ∈ entries, entry.1 ≤ number := by
  intro entry member
  obtain ⟨previous, handled, below⟩ := served entry member
  exact Nat.le_trans below (arrivals.servedFirst previous handled number (by simp [first]))

theorem Arrivals.step {state next : State Label Result} (arrivals : Arrivals state)
    (step : Step ordered mine state next) : Arrivals next := by
  obtain ⟨sorted, begun, servedBegun, servedFirst⟩ := id arrivals
  cases step with
  | begin label gate =>
      refine ⟨sorted, ?_, ?_, servedFirst⟩
      · intro number member
        have := begun number member
        simp only [List.length_append, List.length_singleton]
        omega
      · intro number handled
        have := servedBegun number handled
        simp only [List.length_append, List.length_singleton]
        omega
  | @send current latest =>
      refine ⟨?_, ?_, servedBegun, ?_⟩
      · rw [List.pairwise_append]
        refine ⟨sorted, List.pairwise_singleton _ _, ?_⟩
        intro number member later atEnd
        have := begun number member
        rw [List.mem_singleton.mp atEnd]
        omega
      · exact forall_mem_snoc begun (by dsimp only; omega)
      · intro number handled
        have := servedBegun number handled
        exact forall_mem_snoc (servedFirst number handled) (by omega)
  | loseRequests remaining =>
      exact ⟨sorted.sublist remaining, fun number member => begun number (remaining.subset member),
        servedBegun, fun number handled later member =>
          servedFirst number handled later (remaining.subset member)⟩
  | execute result first labelled unknown => exact arrivals.serve first rfl rfl
  | replay first labelled known => exact arrivals.serve first rfl rfl
  | reply handled known => exact ⟨sorted, begun, servedBegun, servedFirst⟩
  | loseReplies remaining => exact ⟨sorted, begun, servedBegun, servedFirst⟩
  | accept received inOrder open_ latest matched => exact ⟨sorted, begun, servedBegun, servedFirst⟩

/-! Every result a client sees was computed once, under the label it asked for. -/

def Originates (state : State Label Result) (entry : Nat × Result) : Prop :=
  entry.1 < state.begun.length ∧ ∃ origin ≤ entry.1, (origin, entry.2) ∈ state.executed ∧
    state.begun[origin]? = state.begun[entry.1]?

theorem Originates.grow {state next : State Label Result} {entry : Nat × Result}
    (originates : Originates state entry) {later : List Label}
    (begun : next.begun = state.begun ++ later)
    (executed : ∀ old ∈ state.executed, old ∈ next.executed) : Originates next entry := by
  obtain ⟨bound, origin, before, member, same⟩ := originates
  refine ⟨by rw [begun, List.length_append]; omega, origin, before, executed _ member, ?_⟩
  rw [begun, List.getElem?_append_left bound, List.getElem?_append_left (by omega), same]

theorem Step.begun_grows {state next : State Label Result} (step : Step ordered mine state next) :
    ∃ later, next.begun = state.begun ++ later := by
  cases step with
  | begin label gate => exact ⟨[label], rfl⟩
  | _ => exact ⟨[], by simp⟩

theorem Step.executed_grows {state next : State Label Result}
    (step : Step ordered mine state next) : ∀ old ∈ state.executed, old ∈ next.executed := by
  intro old member
  cases step with
  | execute result first labelled unknown => exact List.mem_append_left _ member
  | _ => exact member

theorem Originates.step {state next : State Label Result} {entry : Nat × Result}
    (originates : Originates state entry) (step : Step ordered mine state next) :
    Originates next entry := by
  obtain ⟨later, begun⟩ := step.begun_grows
  exact originates.grow begun step.executed_grows

structure Executions (state : State Label Result) : Prop where
  sorted : (state.executed.map Prod.fst).Pairwise (· < ·)
  served : ∀ entry ∈ state.executed, ∃ number, state.served = some number ∧ entry.1 ≤ number
  remembered : ∀ number, state.served = some number → ∃ label result,
    state.memory = some (label, result) ∧ state.begun[number]? = some label ∧
      Originates state (number, result)
  forgotten : state.served = none → state.memory = none
  replies : ∀ entry ∈ state.replies, Originates state entry
  replayed : ∀ entry ∈ state.replayed, Originates state entry
  accepted : ∀ entry ∈ state.accepted, Originates state entry

theorem Executions.execute_later {state : State Label Result} (arrivals : Arrivals state)
    (executions : Executions state) {number : Nat} {rest : List Nat} {label : Label}
    (first : state.requests = number :: rest) (labelled : state.begun[number]? = some label)
    (unknown : ∀ remembered, state.memory ≠ some (label, remembered)) :
    ∀ entry ∈ state.executed, entry.1 < number := by
  intro entry member
  obtain ⟨handled, served, below⟩ := executions.served entry member
  have next : handled ≤ number := arrivals.servedFirst handled served number (by simp [first])
  rcases Nat.lt_or_ge handled number with earlier | late
  · omega
  · -- The server would remember the label of the request it is about to execute.
    have same : handled = number := by omega
    obtain ⟨other, result, memory, begun, _⟩ := executions.remembered handled served
    rw [same, labelled] at begun
    rw [← Option.some.inj begun] at memory
    exact absurd memory (unknown result)

theorem Executions.replay_originates {state : State Label Result} (arrivals : Arrivals state)
    (executions : Executions state) {number : Nat} {rest : List Nat} {label : Label}
    {result : Result} (first : state.requests = number :: rest)
    (labelled : state.begun[number]? = some label)
    (known : state.memory = some (label, result)) : Originates state (number, result) := by
  cases handled : state.served with
  | none =>
      rw [executions.forgotten handled] at known
      contradiction
  | some previous =>
      obtain ⟨other, value, memory, begun, _, origin, before, member, same⟩ :=
        executions.remembered previous handled
      rw [known] at memory
      simp only [Option.some.injEq, Prod.mk.injEq] at memory
      obtain ⟨rfl, rfl⟩ := memory
      have next := arrivals.servedFirst previous handled number (by simp [first])
      exact ⟨arrivals.begun number (by simp [first]), origin, Nat.le_trans before next, member,
        by rw [same, begun, labelled]⟩

theorem Executions.step {state next : State Label Result} (arrivals : Arrivals state)
    (executions : Executions state) (step : Step ordered mine state next) :
    Executions next := by
  have grown (entry : Nat × Result) (originates : Originates state entry) :
      Originates next entry := originates.step step
  obtain ⟨sorted, served, remembered, forgotten, replies, replayed, accepted⟩ := id executions
  cases step with
  | begin label gate =>
      refine ⟨sorted, served, ?_, forgotten, fun entry member => grown _ (replies entry member),
        fun entry member => grown _ (replayed entry member),
        fun entry member => grown _ (accepted entry member)⟩
      intro number handled
      obtain ⟨old, result, memory, begun, originates⟩ := remembered number handled
      refine ⟨old, result, memory, ?_, grown _ originates⟩
      rw [List.getElem?_append_left (arrivals.servedBegun number handled), begun]
  | send latest => exact ⟨sorted, served, remembered, forgotten, replies, replayed, accepted⟩
  | loseRequests remaining => exact ⟨sorted, served, remembered, forgotten, replies, replayed, accepted⟩
  | @execute number rest label result first labelled unknown =>
      have earlier := executions.execute_later arrivals first labelled unknown
      refine ⟨?_, ?_, ?_, nofun, fun entry member => grown _ (replies entry member),
        fun entry member => grown _ (replayed entry member),
        fun entry member => grown _ (accepted entry member)⟩
      · exact pairwise_fst_snoc sorted earlier
      · exact forall_mem_snoc (fun entry member => ⟨number, rfl, Nat.le_of_lt (earlier entry member)⟩)
          ⟨number, rfl, Nat.le_refl number⟩
      · intro handled same
        obtain rfl := Option.some.inj same
        refine ⟨label, result, rfl, labelled, ?_⟩
        exact ⟨arrivals.begun _ (by simp [first]), _, Nat.le_refl _, by simp, rfl⟩
  | @replay number rest label result first labelled known =>
      have originates := executions.replay_originates arrivals first labelled known
      refine ⟨sorted, ?_, ?_, nofun, replies, ?_, accepted⟩
      · intro entry member
        exact ⟨number, rfl, arrivals.served_le served first entry member⟩
      · intro handled same
        obtain rfl := Option.some.inj same
        exact ⟨label, result, known, labelled, originates⟩
      · exact forall_mem_snoc replayed originates
  | @reply number label result handled known =>
      refine ⟨sorted, served, remembered, forgotten, ?_, replayed, accepted⟩
      obtain ⟨other, value, memory, _, originates⟩ := remembered number handled
      rw [known] at memory
      obtain ⟨rfl, rfl⟩ := Prod.mk.inj (Option.some.inj memory)
      exact forall_mem_snoc replies originates
  | loseReplies remaining =>
      exact ⟨sorted, served, remembered, forgotten,
        fun entry member => replies entry (remaining.subset member), replayed, accepted⟩
  | @accept before after number current result received inOrder open_ latest matched =>
      refine ⟨sorted, served, remembered, forgotten, ?_, replayed, ?_⟩
      · intro entry member
        exact replies entry ((removed_sublist received).subset member)
      · obtain ⟨bound, origin, before, executed, same⟩ := replies (number, result) (by simp [received])
        dsimp only at bound before same
        exact forall_mem_snoc accepted
          ⟨by dsimp only; omega, origin, by dsimp only; omega, executed, same.trans matched⟩

/-! A client acknowledges its transactions in order, each of them once. -/

structure Acceptances (state : State Label Result) : Prop where
  sorted : (state.accepted.map Prod.fst).Pairwise (· < ·)
  begun : ∀ entry ∈ state.accepted, entry.1 < state.begun.length
  earlier : state.waiting = true → ∀ entry ∈ state.accepted, entry.1 + 1 < state.begun.length

theorem Acceptances.step {state next : State Label Result} (acceptances : Acceptances state)
    (step : Step ordered mine state next) : Acceptances next := by
  obtain ⟨sorted, begun, earlier⟩ := acceptances
  cases step with
  | begin label gate =>
      refine ⟨sorted, ?_, ?_⟩
      · intro entry member
        have := begun entry member
        simp only [List.length_append, List.length_singleton]
        omega
      · intro _ entry member
        have := begun entry member
        simp only [List.length_append, List.length_singleton]
        omega
  | @accept before after number current result received inOrder open_ latest matched =>
      have below := earlier open_
      refine ⟨?_, ?_, nofun⟩
      · refine pairwise_fst_snoc sorted fun entry member => ?_
        have := below entry member
        omega
      · exact forall_mem_snoc begun (by dsimp only; omega)
  | _ => exact ⟨sorted, begun, earlier⟩

structure Sound (state : State Label Result) : Prop where
  arrivals : Arrivals state
  executions : Executions state
  acceptances : Acceptances state

theorem initial_sound : Sound (initial Label Result) where
  arrivals := ⟨by simp [initial], by simp [initial], nofun, nofun⟩
  executions := ⟨by simp [initial], by simp [initial], nofun, fun _ => rfl, by simp [initial],
    by simp [initial], by simp [initial]⟩
  acceptances := ⟨by simp [initial], by simp [initial], nofun⟩

theorem Sound.step {state next : State Label Result} (sound : Sound state)
    (step : Step ordered mine state next) : Sound next :=
  ⟨sound.arrivals.step step, sound.executions.step sound.arrivals step,
    sound.acceptances.step step⟩

theorem Reachable.sound {state : State Label Result} (reached : Reachable ordered mine state) :
    Sound state :=
  reachable_invariant Sound initial_sound (fun _ _ sound step => sound.step step) reached

/-! Distinct labels: the result belongs to the transaction itself. -/

theorem Originates.executed {state : State Label Result} {entry : Nat × Result}
    (distinct : state.begun.Nodup) (originates : Originates state entry) :
    entry ∈ state.executed := by
  obtain ⟨bound, origin, before, member, same⟩ := originates
  have equal : origin = entry.1 := (List.getElem?_inj (by omega) distinct).mp same
  rwa [equal] at member

theorem increasing_inj {Item : Type} {key : Item → Nat} {entries : List Item}
    (sorted : (entries.map key).Pairwise (· < ·)) {first second : Item}
    (firstMember : first ∈ entries) (secondMember : second ∈ entries)
    (same : key first = key second) : first = second :=
  List.inj_on_of_nodup_map sorted.nodup firstMember secondMember same

theorem increasing_sublist {Item : Type} {key : Item → Nat} {entries all : List Item}
    (sorted : (entries.map key).Pairwise (· < ·)) (allSorted : (all.map key).Pairwise (· < ·))
    (subset : entries ⊆ all) : entries.Sublist all := by
  have antisymm : Std.Antisymm fun first second : Item => key first < key second :=
    ⟨fun first second below above => absurd below (Nat.lt_asymm above)⟩
  have nodup : entries.Nodup := sorted.nodup.of_map key
  exact List.sublist_of_subperm_of_pairwise (List.subperm_of_subset nodup subset)
    (List.pairwise_map.mp sorted) (List.pairwise_map.mp allSorted)

theorem Reachable.executed_of_accepted {state : State Label Result}
    (reached : Reachable ordered mine state) (distinct : state.begun.Nodup) {entry : Nat × Result}
    (accepted : entry ∈ state.accepted) : entry ∈ state.executed :=
  (reached.sound.executions.accepted entry accepted).executed distinct

/-- No acknowledged transaction is lost, and the acknowledged results are the
executed ones in order. -/
theorem accepted_sublist_executed {state : State Label Result}
    (reached : Reachable ordered mine state) (distinct : state.begun.Nodup) :
    state.accepted.Sublist state.executed := by
  apply increasing_sublist reached.sound.acceptances.sorted reached.sound.executions.sorted
  intro entry member
  exact reached.executed_of_accepted distinct member

end StopAndWait

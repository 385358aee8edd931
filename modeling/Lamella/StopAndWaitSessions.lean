import Lamella.StopAndWait

/-!
Per-session accounting.  Within a session the client waits for each acknowledgement, so
of the transactions a session had executed only the last one can be missing from the
acknowledged ones.
-/

namespace StopAndWait

variable {Label Result : Type} {ordered : Prop} {mine : Label → Prop}

def Mine (mine : Label → Prop) (state : State Label Result) (number : Nat) : Prop :=
  ∃ label, state.begun[number]? = some label ∧ mine label

theorem Mine.bound {state : State Label Result} {number : Nat} (own : Mine mine state number) :
    number < state.begun.length := by
  obtain ⟨label, begun, _⟩ := own
  exact (List.getElem?_eq_some_iff.mp begun).1

theorem mine_begin {state next : State Label Result} {label : Label}
    (begun : next.begun = state.begun ++ [label]) (number : Nat) :
    Mine mine next number ↔
      Mine mine state number ∨ (number = state.begun.length ∧ mine label) := by
  simp only [Mine, begun]
  rcases Nat.lt_trichotomy number state.begun.length with below | same | above
  · simp [List.getElem?_append_left below, Nat.ne_of_lt below]
  · simp [same]
  · have old : state.begun[number]? = none := List.getElem?_eq_none (Nat.le_of_lt above)
    have new : (state.begun ++ [label])[number]? = none := by
      rw [List.getElem?_eq_none_iff, List.length_append, List.length_singleton]
      omega
    simp [old, new, Nat.ne_of_gt above]

theorem mine_append {state next : State Label Result} {later : List Label}
    (begun : next.begun = state.begun ++ later) {number : Nat}
    (bound : number < state.begun.length) :
    Mine mine next number ↔ Mine mine state number := by
  simp only [Mine, begun, List.getElem?_append_left bound]

theorem Mine.congr {state : State Label Result} {first second : Nat}
    (own : Mine mine state first) (same : state.begun[second]? = state.begun[first]?) :
    Mine mine state second := by
  obtain ⟨label, begun, isMine⟩ := own
  exact ⟨label, same.trans begun, isMine⟩

theorem own_of_getLast? {state : State Label Result} {last : Label}
    (final : state.begun.getLast? = some last) (own : mine last) :
    ∃ number, Mine mine state number ∧ state.begun.length = number + 1 := by
  have nonempty : state.begun ≠ [] := by
    rintro empty
    simp [empty] at final
  have positive := List.length_pos_iff.mpr nonempty
  refine ⟨state.begun.length - 1, ⟨last, ?_, own⟩, by omega⟩
  rwa [← List.getLast?_eq_getElem?]

theorem previous_of_gate {state : State Label Result} {label : Label}
    (gate : Gate mine state label) {number : Nat} (own : Mine mine state number)
    (isMine : mine label) :
    state.waiting = false ∧ ∃ last, Mine mine state last ∧ state.begun.length = last + 1 := by
  rcases gate isMine with unbegun | ⟨idle, last, final, ownLast⟩
  · obtain ⟨old, begun, oldMine⟩ := own
    exact absurd oldMine (unbegun old (List.mem_of_getElem? begun))
  · exact ⟨idle, own_of_getLast? final ownLast⟩

structure Gated (mine : Label → Prop) (state : State Label Result) : Prop where
  acknowledged : ∀ number later, Mine mine state number → Mine mine state later →
    number < later → ∃ result, (number, result) ∈ state.accepted
  latest : state.waiting = false → ∀ number, Mine mine state number →
    state.begun.length = number + 1 → ∃ result, (number, result) ∈ state.accepted
  contiguous : ∀ first middle last, Mine mine state first → Mine mine state last →
    first ≤ middle → middle ≤ last → Mine mine state middle

theorem initial_gated : Gated mine (initial Label Result) where
  acknowledged _ _ own := absurd own.bound (by simp [initial])
  latest _ _ own := absurd own.bound (by simp [initial])
  contiguous _ _ _ own := absurd own.bound (by simp [initial])

theorem Gated.begin {state : State Label Result} {label : Label} (gated : Gated mine state)
    (gate : Gate mine state label) :
    Gated mine { state with begun := state.begun ++ [label], waiting := true } := by
  have old {number : Nat} (bound : number < state.begun.length)
      (own : Mine mine { state with begun := state.begun ++ [label], waiting := true } number) :
      Mine mine state number := (mine_append rfl bound).mp own
  refine ⟨?_, nofun, ?_⟩
  · intro number later own ownLater below
    have bound := ownLater.bound
    simp only [List.length_append, List.length_singleton] at bound
    have ownOld := old (by omega) own
    rcases (mine_begin rfl later).mp ownLater with oldLater | ⟨rfl, isMine⟩
    · exact gated.acknowledged number later ownOld oldLater below
    · obtain ⟨idle, last, ownLast, final⟩ := previous_of_gate gate ownOld isMine
      by_cases atLast : number = last
      · exact gated.latest idle number ownOld (by omega)
      · exact gated.acknowledged number last ownOld ownLast (by omega)
  · intro first middle last own ownLast lower upper
    have bound := ownLast.bound
    simp only [List.length_append, List.length_singleton] at bound
    by_cases atEnd : middle = state.begun.length
    · have same : middle = last := by omega
      rwa [same]
    · have ownOld := old (by omega) own
      refine (mine_append rfl (by omega)).mpr ?_
      rcases (mine_begin rfl last).mp ownLast with oldLast | ⟨rfl, isMine⟩
      · exact gated.contiguous first middle last ownOld oldLast lower upper
      · obtain ⟨_, final, ownFinal, length⟩ := previous_of_gate gate ownOld isMine
        exact gated.contiguous first middle final ownOld ownFinal lower (by omega)

theorem Gated.step {state next : State Label Result} (gated : Gated mine state)
    (step : Step ordered mine state next) : Gated mine next := by
  obtain ⟨acknowledged, latest, contiguous⟩ := id gated
  cases step with
  | begin label gate => exact gated.begin gate
  | @accept before after number current result received inOrder open_ last matched =>
      refine ⟨?_, ?_, contiguous⟩
      · intro first later own ownLater below
        obtain ⟨value, member⟩ := acknowledged first later own ownLater below
        exact ⟨value, List.mem_append_left _ member⟩
      · intro _ first own final
        have same : first = current := by
          dsimp only at final
          omega
        exact ⟨result, by simp [same]⟩
  | _ => exact ⟨acknowledged, latest, contiguous⟩

theorem Reachable.gated {state : State Label Result} (reached : Reachable ordered mine state) :
    Gated mine state :=
  reachable_invariant (Gated mine) initial_gated (fun _ _ gated step => gated.step step) reached

noncomputable def ofSession (mine : Label → Prop) (state : State Label Result)
    (entries : List (Nat × Result)) : List (Nat × Result) :=
  open Classical in entries.filter fun entry => Mine mine state entry.1

theorem mem_ofSession {state : State Label Result} {entries : List (Nat × Result)}
    {entry : Nat × Result} :
    entry ∈ ofSession mine state entries ↔ entry ∈ entries ∧ Mine mine state entry.1 := by
  simp [ofSession]

theorem ofSession_increasing {state : State Label Result} {entries : List (Nat × Result)}
    (sorted : (entries.map Prod.fst).Pairwise (· < ·)) :
    (ofSession mine state entries).Pairwise fun first second => first.1 < second.1 :=
  (List.pairwise_map.mp sorted).sublist List.filter_sublist

theorem length_le_one_of_increasing {entries : List (Nat × Result)}
    (sorted : entries.Pairwise fun first second => first.1 < second.1)
    (same : ∀ first ∈ entries, ∀ second ∈ entries, second.1 ≤ first.1) : entries.length ≤ 1 := by
  match entries with
  | [] => simp
  | [_] => simp
  | first :: second :: rest =>
      have below := List.rel_of_pairwise_cons sorted (show second ∈ second :: rest by simp)
      have above := same first (by simp) second (by simp)
      omega

def Rests (mine : Label → Prop) (state : State Label Result) : Prop :=
  state.waiting = false ∧ ∃ last, state.begun.getLast? = some last ∧ mine last

theorem increasing_eq_append {all some rest : List (Nat × Result)}
    (allSorted : all.Pairwise fun first second => first.1 < second.1)
    (someSorted : some.Pairwise fun first second => first.1 < second.1)
    (restSorted : rest.Pairwise fun first second => first.1 < second.1)
    (later : ∀ old ∈ some, ∀ new ∈ rest, old.1 < new.1)
    (split : ∀ entry, entry ∈ all ↔ entry ∈ some ∨ entry ∈ rest) : all = some ++ rest := by
  have antisymm : Std.Antisymm fun first second : Nat × Result => first.1 < second.1 :=
    ⟨fun first second below above => absurd below (Nat.lt_asymm above)⟩
  have irrefl : Std.Irrefl fun first second : Nat × Result => first.1 < second.1 :=
    ⟨fun entry => Nat.lt_irrefl entry.1⟩
  refine allSorted.eq_of_mem_iff (List.pairwise_append.mpr ⟨someSorted, restSorted, later⟩) ?_
  intro entry
  rw [split, List.mem_append]

theorem Reachable.acknowledged_eq {state : State Label Result}
    (reached : Reachable ordered mine state) (distinct : state.begun.Nodup) {entry : Nat × Result}
    (executed : entry ∈ state.executed) {result : Result}
    (accepted : (entry.1, result) ∈ state.accepted) : entry ∈ state.accepted := by
  have same := increasing_inj reached.sound.executions.sorted
    (reached.executed_of_accepted distinct accepted) executed rfl
  exact same ▸ accepted

/-- An executed transaction without acknowledgement is the last one of its session. -/
theorem Reachable.last_of_unaccepted {state : State Label Result}
    (reached : Reachable ordered mine state) (distinct : state.begun.Nodup) {entry : Nat × Result}
    (executed : entry ∈ state.executed) (missing : entry ∉ state.accepted)
    (own : Mine mine state entry.1) {number : Nat} (other : Mine mine state number) :
    number ≤ entry.1 := by
  by_contra above
  obtain ⟨result, accepted⟩ := reached.gated.acknowledged entry.1 number own other (by omega)
  exact missing (reached.acknowledged_eq distinct executed accepted)

theorem Reachable.accepted_of_rests {state : State Label Result}
    (reached : Reachable ordered mine state) (distinct : state.begun.Nodup)
    (rests : Rests mine state) {entry : Nat × Result} (executed : entry ∈ state.executed)
    (own : Mine mine state entry.1) : entry ∈ state.accepted := by
  obtain ⟨idle, label, final, ownLast⟩ := rests
  obtain ⟨number, ownNumber, latest⟩ := own_of_getLast? final ownLast
  obtain ⟨result, accepted⟩ := reached.gated.latest idle number ownNumber latest
  by_contra missing
  have above := reached.last_of_unaccepted distinct executed missing own ownNumber
  have bound := own.bound
  have same : number = entry.1 := by omega
  rw [same] at accepted
  exact missing (reached.acknowledged_eq distinct executed accepted)

/-- With distinct labels, what was executed for a session is what the session had
acknowledged, followed by at most one further result, and by none while it rests. -/
theorem executed_eq_accepted_append {state : State Label Result}
    (reached : Reachable ordered mine state) (distinct : state.begun.Nodup) :
    ∃ pending : List (Nat × Result), pending.length ≤ 1 ∧ (Rests mine state → pending = []) ∧
      ofSession mine state state.executed = ofSession mine state state.accepted ++ pending := by
  classical
  have executedSorted :
      (ofSession mine state state.executed).Pairwise fun first second => first.1 < second.1 :=
    ofSession_increasing reached.sound.executions.sorted
  let pending := (ofSession mine state state.executed).filter fun entry => entry ∉ state.accepted
  have inPending (entry : Nat × Result) : entry ∈ pending ↔
      (entry ∈ state.executed ∧ Mine mine state entry.1) ∧ entry ∉ state.accepted := by
    simp [pending, mem_ofSession]
  have last {entry : Nat × Result} (member : entry ∈ pending) {number : Nat}
      (own : Mine mine state number) : number ≤ entry.1 := by
    obtain ⟨⟨executed, ownEntry⟩, missing⟩ := (inPending entry).mp member
    exact reached.last_of_unaccepted distinct executed missing ownEntry own
  have pendingSorted := executedSorted.sublist
    (show pending.Sublist (ofSession mine state state.executed) from List.filter_sublist)
  refine ⟨pending, ?_, ?_, ?_⟩
  · apply length_le_one_of_increasing pendingSorted
    intro first firstMember second secondMember
    exact last firstMember ((inPending second).mp secondMember).1.2
  · intro rests
    rw [List.eq_nil_iff_forall_not_mem]
    intro entry member
    obtain ⟨⟨executed, own⟩, missing⟩ := (inPending entry).mp member
    exact missing (reached.accepted_of_rests distinct rests executed own)
  · refine increasing_eq_append executedSorted
      (ofSession_increasing reached.sound.acceptances.sorted) pendingSorted ?_ ?_
    · intro old oldMember new newMember
      obtain ⟨accepted, own⟩ := mem_ofSession.mp oldMember
      obtain ⟨⟨executed, _⟩, missing⟩ := (inPending new).mp newMember
      rcases Nat.lt_or_eq_of_le (last newMember own) with below | same
      · exact below
      · have acknowledged : (new.1, old.2) ∈ state.accepted := by
          rw [← same]
          exact accepted
        exact absurd (reached.acknowledged_eq distinct executed acknowledged) missing
    · intro entry
      rw [inPending, mem_ofSession, mem_ofSession]
      have included : entry ∈ state.accepted → entry ∈ state.executed :=
        reached.executed_of_accepted distinct
      tauto

noncomputable def numbersOf (mine : Label → Prop) (state : State Label Result) : List Nat :=
  open Classical in (List.range state.begun.length).filter fun number => Mine mine state number

theorem mem_numbersOf {state : State Label Result} {number : Nat} :
    number ∈ numbersOf mine state ↔ Mine mine state number := by
  simp only [numbersOf, List.mem_filter, List.mem_range, decide_eq_true_eq, and_iff_right_iff_imp]
  exact Mine.bound

theorem numbersOf_increasing (state : State Label Result) :
    (numbersOf mine state).Pairwise (· < ·) :=
  List.pairwise_lt_range.filter _

/-- An own transaction that was not executed is the last one of its session. -/
theorem Reachable.last_of_unexecuted {state : State Label Result}
    (reached : Reachable ordered mine state) (distinct : state.begun.Nodup) {number other : Nat}
    (own : Mine mine state number) (missing : ∀ result, (number, result) ∉ state.executed)
    (ownOther : Mine mine state other) : other ≤ number := by
  by_contra above
  obtain ⟨result, accepted⟩ := reached.gated.acknowledged number other own ownOther (by omega)
  exact missing result (reached.executed_of_accepted distinct accepted)

/-- With distinct labels, the transactions a session began are those executed for it, in
order, followed by at most one further, and by none while it rests. -/
theorem begun_eq_executed_append {state : State Label Result}
    (reached : Reachable ordered mine state) (distinct : state.begun.Nodup) :
    ∃ unserved : List Nat, unserved.length ≤ 1 ∧ (Rests mine state → unserved = []) ∧
      numbersOf mine state = (ofSession mine state state.executed).map Prod.fst ++ unserved := by
  classical
  have executedSorted :
      ((ofSession mine state state.executed).map Prod.fst).Pairwise (· < ·) :=
    List.pairwise_map.mpr (ofSession_increasing reached.sound.executions.sorted)
  have inExecuted (number : Nat) : number ∈ (ofSession mine state state.executed).map Prod.fst ↔
      Mine mine state number ∧ ∃ result, (number, result) ∈ state.executed := by
    simp [mem_ofSession, and_comm]
  let unserved := (numbersOf mine state).filter fun number =>
    number ∉ (ofSession mine state state.executed).map Prod.fst
  have inUnserved (number : Nat) : number ∈ unserved ↔
      Mine mine state number ∧ ∀ result, (number, result) ∉ state.executed := by
    rw [List.mem_filter, mem_numbersOf, decide_eq_true_iff, inExecuted]
    constructor
    · rintro ⟨own, outside⟩
      exact ⟨own, fun result executed => outside ⟨own, result, executed⟩⟩
    · rintro ⟨own, missing⟩
      exact ⟨own, fun ⟨_, result, executed⟩ => missing result executed⟩
  have last {number other : Nat} (member : number ∈ unserved) (own : Mine mine state other) :
      other ≤ number := by
    obtain ⟨mineToo, missing⟩ := (inUnserved number).mp member
    exact reached.last_of_unexecuted distinct mineToo missing own
  have unservedSorted : unserved.Pairwise (· < ·) :=
    (numbersOf_increasing state).sublist List.filter_sublist
  refine ⟨unserved, ?_, ?_, ?_⟩
  · match unserved with
    | [] => simp
    | [_] => simp
    | first :: second :: rest =>
        have below := List.rel_of_pairwise_cons unservedSorted
          (show second ∈ second :: rest by simp)
        have own := ((inUnserved second).mp (by simp)).1
        exact absurd (last (show first ∈ first :: second :: rest by simp) own)
          (Nat.not_le_of_lt below)
  · rintro ⟨idle, label, final, ownLast⟩
    obtain ⟨latest, ownLatest, length⟩ := own_of_getLast? final ownLast
    obtain ⟨result, accepted⟩ := reached.gated.latest idle latest ownLatest length
    rw [List.eq_nil_iff_forall_not_mem]
    intro number member
    obtain ⟨own, missing⟩ := (inUnserved number).mp member
    have same : number = latest := by
      have := last member ownLatest
      have := own.bound
      omega
    exact missing result (same ▸ reached.executed_of_accepted distinct accepted)
  · refine List.Pairwise.eq_of_mem_iff (numbersOf_increasing state)
      (List.pairwise_append.mpr ⟨executedSorted, unservedSorted, ?_⟩) ?_
    · intro old oldMember new newMember
      obtain ⟨own, result, executed⟩ := (inExecuted old).mp oldMember
      rcases Nat.lt_or_eq_of_le (last newMember own) with below | same
      · exact below
      · exact absurd executed (same ▸ ((inUnserved new).mp newMember).2 result)
    · intro number
      rw [mem_numbersOf, List.mem_append, inExecuted, inUnserved]
      constructor
      · intro own
        by_cases executed : ∃ result, (number, result) ∈ state.executed
        · exact .inl ⟨own, executed⟩
        · exact .inr ⟨own, not_exists.mp executed⟩
      · rintro (⟨own, _⟩ | ⟨own, _⟩) <;> exact own

end StopAndWait

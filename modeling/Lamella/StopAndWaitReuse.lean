import Lamella.StopAndWaitSessions

/-!
Labels that repeat within a session, over links that keep the order of requests and of
replies.  A transaction of the session is then acknowledged without being executed
exactly when it has the label of the transaction right before it.
-/

namespace StopAndWait

variable {Label Result : Type} {ordered : Prop} {mine : Label → Prop}

/-- A copy, a reply or the server's memory still refers to this transaction. -/
def InFlight (state : State Label Result) (number : Nat) : Prop :=
  number ∈ state.requests ∨ state.served = some number ∨
    ∃ result, (number, result) ∈ state.replies

structure ReplyOrder (state : State Label Result) : Prop where
  sorted : (state.replies.map Prod.fst).Pairwise (· ≤ ·)
  served : ∀ entry ∈ state.replies, ∃ number, state.served = some number ∧ entry.1 ≤ number

theorem initial_replyOrder : ReplyOrder (initial Label Result) :=
  ⟨by simp [initial], by simp [initial]⟩

theorem ReplyOrder.step {state next : State Label Result} (arrivals : Arrivals state)
    (order : ReplyOrder state) (step : Step ordered mine state next) : ReplyOrder next := by
  obtain ⟨sorted, served⟩ := order
  cases step with
  | @execute number rest label result first labelled unknown =>
      exact ⟨sorted, fun entry member => ⟨number, rfl, arrivals.served_le served first entry member⟩⟩
  | @replay number rest label result first labelled known =>
      exact ⟨sorted, fun entry member => ⟨number, rfl, arrivals.served_le served first entry member⟩⟩
  | @reply number label result handled known =>
      refine ⟨pairwise_fst_snoc sorted fun entry member => ?_,
        forall_mem_snoc served ⟨number, handled, Nat.le_refl number⟩⟩
      obtain ⟨previous, same, below⟩ := served entry member
      rw [handled, Option.some.injEq] at same
      omega
  | loseReplies remaining =>
      exact ⟨sorted.sublist (remaining.map _),
        fun entry member => served entry (remaining.subset member)⟩
  | @accept before after number current result received inOrder open_ latest matched =>
      have fewer := removed_sublist received
      exact ⟨sorted.sublist (fewer.map _),
        fun entry member => served entry (fewer.subset member)⟩
  | _ => exact ⟨sorted, served⟩

theorem inFlight_after_accept {state : State Label Result} (arrivals : Arrivals state)
    (order : ReplyOrder state) {number : Nat} {result : Result} {after : List (Nat × Result)}
    (received : state.replies = (number, result) :: after) {later : Nat}
    (flying : later ∈ state.requests ∨ state.served = some later ∨
      ∃ value, (later, value) ∈ after) : number ≤ later := by
  obtain ⟨handled, served, below⟩ := order.served (number, result) (by simp [received])
  rcases flying with inLink | last | ⟨value, inReplies⟩
  · exact Nat.le_trans below (arrivals.servedFirst handled served later inLink)
  · rw [served, Option.some.injEq] at last
    exact last ▸ below
  · have sorted := order.sorted
    rw [received, List.map_cons, List.pairwise_cons] at sorted
    exact sorted.1 later (List.mem_map.mpr ⟨(later, value), inReplies, rfl⟩)

structure Stale (mine : Label → Prop) (state : State Label Result) : Prop where
  constant : ∀ number later, InFlight state number → Mine mine state number →
    Mine mine state later → ∀ between, number ≤ between → between < later →
      state.begun[between]? = state.begun[number]?
  acknowledged : ∀ number later result, InFlight state number → Mine mine state number →
    Mine mine state later → (later, result) ∈ state.accepted → number ≤ later →
      state.begun[later]? = state.begun[number]?

theorem initial_stale : Stale mine (initial Label Result) where
  constant _ _ _ own := absurd own.bound (by simp [initial])
  acknowledged _ _ _ _ own := absurd own.bound (by simp [initial])

theorem Stale.of_inFlight {state next : State Label Result} (stale : Stale mine state)
    (begun : next.begun = state.begun) (accepted : next.accepted = state.accepted)
    (flying : ∀ number, InFlight next number →
      InFlight state number ∨ state.begun.length = number + 1) : Stale mine next := by
  have own (number : Nat) : Mine mine next number ↔ Mine mine state number := by
    simp only [Mine, begun]
  constructor
  · intro number later inFlight ownNumber ownLater between lower upper
    rw [own] at ownNumber ownLater
    rw [begun]
    rcases flying number inFlight with old | latest
    · exact stale.constant number later old ownNumber ownLater between lower upper
    · have := ownLater.bound
      omega
  · intro number later result inFlight ownNumber ownLater member bound
    rw [own] at ownNumber ownLater
    rw [accepted] at member
    rw [begun]
    rcases flying number inFlight with old | latest
    · exact stale.acknowledged number later result old ownNumber ownLater member bound
    · have same : later = number := by
        have := ownLater.bound
        omega
      rw [same]

theorem InFlight.bound {state : State Label Result} (arrivals : Arrivals state)
    (replyOrder : ReplyOrder state) {number : Nat} (flying : InFlight state number) :
    number < state.begun.length := by
  rcases flying with inLink | last | ⟨result, inReplies⟩
  · exact arrivals.begun number inLink
  · exact arrivals.servedBegun number last
  · obtain ⟨handled, served, below⟩ := replyOrder.served _ inReplies
    exact Nat.lt_of_le_of_lt below (arrivals.servedBegun handled served)

theorem Stale.begin {state : State Label Result} {label : Label} (stale : Stale mine state)
    (sound : Sound state) (gated : Gated mine state) (replyOrder : ReplyOrder state)
    (gate : Gate mine state label) :
    Stale mine { state with begun := state.begun ++ [label], waiting := true } := by
  have old {number : Nat} (bound : number < state.begun.length)
      (own : Mine mine { state with begun := state.begun ++ [label], waiting := true } number) :
      Mine mine state number := (mine_append rfl bound).mp own
  constructor
  · intro number later flying ownNumber ownLater between lower upper
    have bound := InFlight.bound sound.arrivals replyOrder (show InFlight state number from flying)
    have ownOld := old bound ownNumber
    have laterBound := ownLater.bound
    simp only [List.length_append, List.length_singleton] at laterBound
    change (state.begun ++ [label])[between]? = (state.begun ++ [label])[number]?
    rw [List.getElem?_append_left (by omega), List.getElem?_append_left bound]
    rcases (mine_begin rfl later).mp ownLater with oldLater | ⟨rfl, isMine⟩
    · exact stale.constant number later flying ownOld oldLater between lower upper
    · obtain ⟨idle, last, ownLast, final⟩ := previous_of_gate gate ownOld isMine
      rcases Nat.lt_or_eq_of_le (show between ≤ last by omega) with below | atLast
      · exact stale.constant number last flying ownOld ownLast between lower below
      · obtain ⟨result, accepted⟩ := gated.latest idle last ownLast final
        rw [atLast]
        exact stale.acknowledged number last result flying ownOld ownLast accepted (by omega)
  · intro number later result flying ownNumber ownLater accepted bound
    have laterBound := sound.acceptances.begun _ accepted
    change later < state.begun.length at laterBound
    change (state.begun ++ [label])[later]? = (state.begun ++ [label])[number]?
    rw [List.getElem?_append_left laterBound, List.getElem?_append_left (by omega)]
    exact stale.acknowledged number later result flying (old (by omega) ownNumber)
      (old laterBound ownLater) accepted bound

theorem Stale.accept {state : State Label Result} {after : List (Nat × Result)}
    {number current : Nat} {result : Result} (stale : Stale mine state)
    (sound : Sound state) (replyOrder : ReplyOrder state)
    (received : state.replies = (number, result) :: after)
    (latest : state.begun.length = current + 1)
    (matched : state.begun[number]? = state.begun[current]?) :
    Stale mine
      { state with
        replies := after
        accepted := state.accepted ++ [(current, result)]
        waiting := false } := by
  have numberFlying : InFlight state number := Or.inr (Or.inr ⟨result, by simp [received]⟩)
  have wasFlying (other : Nat) (flying : other ∈ state.requests ∨ state.served = some other ∨
      ∃ value, (other, value) ∈ after) : InFlight state other := by
    rcases flying with inLink | last | ⟨value, inReplies⟩
    · exact Or.inl inLink
    · exact Or.inr (Or.inl last)
    · exact Or.inr (Or.inr ⟨value, by simp [received, inReplies]⟩)
  constructor
  · intro older later flying own ownLater between lower upper
    exact stale.constant older later (wasFlying older flying) own ownLater between lower upper
  · intro older later value flying own ownLater member bound
    rcases List.mem_append.mp member with old | atEnd
    · exact stale.acknowledged older later value (wasFlying older flying) own ownLater old bound
    · obtain ⟨rfl, rfl⟩ := Prod.mk.inj (List.mem_singleton.mp atEnd)
      have oldest := inFlight_after_accept sound.arrivals replyOrder received flying
      have ownNumber : Mine mine state number := Mine.congr ownLater matched
      change state.begun[later]? = state.begun[older]?
      rcases Nat.lt_or_eq_of_le bound with below | same
      · rw [← matched, stale.constant number later numberFlying ownNumber ownLater older oldest below]
      · rw [same]

theorem Stale.serve {state next : State Label Result} (stale : Stale mine state) {number : Nat}
    (first : state.requests = number :: next.requests) (served : next.served = some number)
    (begun : next.begun = state.begun) (accepted : next.accepted = state.accepted)
    (replies : next.replies = state.replies) : Stale mine next := by
  refine stale.of_inFlight begun accepted ?_
  rintro other (inLink | last | inReplies)
  · exact Or.inl (Or.inl (by simp [first, inLink]))
  · rw [served] at last
    exact Or.inl (Or.inl (by simp [first, Option.some.inj last]))
  · rw [replies] at inReplies
    exact Or.inl (Or.inr (Or.inr inReplies))

theorem Stale.step {state next : State Label Result} (stale : Stale mine state)
    (sound : Sound state) (gated : Gated mine state) (replyOrder : ReplyOrder state)
    (holds : ordered) (step : Step ordered mine state next) : Stale mine next := by
  cases step with
  | begin label gate => exact stale.begin sound gated replyOrder gate
  | @send current latest =>
      refine stale.of_inFlight rfl rfl ?_
      rintro number (inLink | last | inReplies)
      · rcases List.mem_append.mp inLink with old | atEnd
        · exact Or.inl (Or.inl old)
        · exact Or.inr (by rw [latest, List.mem_singleton.mp atEnd])
      · exact Or.inl (Or.inr (Or.inl last))
      · exact Or.inl (Or.inr (Or.inr inReplies))
  | loseRequests remaining =>
      refine stale.of_inFlight rfl rfl ?_
      rintro number (inLink | rest)
      · exact Or.inl (Or.inl (remaining.subset inLink))
      · exact Or.inl (Or.inr rest)
  | execute result first labelled unknown => exact stale.serve first rfl rfl rfl rfl
  | replay first labelled known => exact stale.serve first rfl rfl rfl rfl
  | @reply number label result handled known =>
      refine stale.of_inFlight rfl rfl ?_
      rintro other (inLink | last | ⟨value, inReplies⟩)
      · exact Or.inl (Or.inl inLink)
      · exact Or.inl (Or.inr (Or.inl last))
      · rcases List.mem_append.mp inReplies with old | atEnd
        · exact Or.inl (Or.inr (Or.inr ⟨value, old⟩))
        · have same := (Prod.mk.inj (List.mem_singleton.mp atEnd)).1
          exact Or.inl (Or.inr (Or.inl (same ▸ handled)))
  | loseReplies remaining =>
      refine stale.of_inFlight rfl rfl ?_
      rintro number (inLink | last | ⟨value, inReplies⟩)
      · exact Or.inl (Or.inl inLink)
      · exact Or.inl (Or.inr (Or.inl last))
      · exact Or.inl (Or.inr (Or.inr ⟨value, remaining.subset inReplies⟩))
  | @accept before after number current result received inOrder open_ latest matched =>
      obtain rfl := inOrder holds
      exact stale.accept sound replyOrder received latest matched

/-- The transaction has the label of the one begun right before it. -/
def Repeated (state : State Label Result) (number : Nat) : Prop :=
  ∃ previous, number = previous + 1 ∧ state.begun[previous]? = state.begun[number]?

theorem repeated_append {state next : State Label Result} {later : List Label}
    (begun : next.begun = state.begun ++ later) {number : Nat}
    (bound : number < state.begun.length) :
    Repeated next number ↔ Repeated state number := by
  constructor
  · rintro ⟨previous, rfl, same⟩
    rw [begun, List.getElem?_append_left bound, List.getElem?_append_left (by omega)] at same
    exact ⟨previous, rfl, same⟩
  · rintro ⟨previous, rfl, same⟩
    refine ⟨previous, rfl, ?_⟩
    rw [begun, List.getElem?_append_left bound, List.getElem?_append_left (by omega), same]

theorem Stale.repeated {state : State Label Result} (stale : Stale mine state)
    {older number : Nat} (flying : InFlight state older) (own : Mine mine state number)
    (below : older < number) (same : state.begun[older]? = state.begun[number]?) :
    Repeated state number := by
  have ownOlder : Mine mine state older := own.congr same
  refine ⟨number - 1, by omega, ?_⟩
  rw [stale.constant older number flying ownOlder own (number - 1) (by omega) (by omega), same]

def Settled (state : State Label Result) (entry : Nat × Result) : Prop :=
  Repeated state entry.1 ∨ entry ∈ state.executed

structure Reuse (mine : Label → Prop) (state : State Label Result) : Prop where
  executed : ∀ entry ∈ state.executed, Mine mine state entry.1 → ¬Repeated state entry.1
  served : ∀ number label result, state.served = some number →
    state.memory = some (label, result) → Mine mine state number → Settled state (number, result)
  replies : ∀ entry ∈ state.replies, Mine mine state entry.1 → Settled state entry
  replayed : ∀ entry ∈ state.replayed, Mine mine state entry.1 → Settled state entry
  accepted : ∀ entry ∈ state.accepted, Mine mine state entry.1 → Settled state entry

theorem initial_reuse : Reuse mine (initial Label Result) :=
  ⟨by simp [initial], nofun, by simp [initial], by simp [initial], by simp [initial]⟩

theorem Settled.step {state next : State Label Result} {entry : Nat × Result}
    (settled : Settled state entry) (bound : entry.1 < state.begun.length)
    (step : Step ordered mine state next) : Settled next entry := by
  obtain ⟨later, begun⟩ := step.begun_grows
  rcases settled with repeated | executed
  · exact Or.inl ((repeated_append begun bound).mpr repeated)
  · exact Or.inr (step.executed_grows entry executed)

theorem execute_not_repeated {state : State Label Result} (sound : Sound state)
    (gated : Gated mine state) (stale : Stale mine state) {number : Nat} {rest : List Nat}
    {label : Label} (first : state.requests = number :: rest)
    (labelled : state.begun[number]? = some label)
    (unknown : ∀ remembered, state.memory ≠ some (label, remembered))
    (own : Mine mine state number) : ¬Repeated state number := by
  rintro ⟨previous, rfl, same⟩
  have ownPrevious : Mine mine state previous := own.congr same
  -- The previous transaction was acknowledged, so the server has handled one of the session.
  obtain ⟨value, accepted⟩ :=
    gated.acknowledged previous (previous + 1) ownPrevious own (Nat.lt_succ_self previous)
  obtain ⟨_, origin, before, executed, sameOrigin⟩ := sound.executions.accepted _ accepted
  obtain ⟨handled, served, above⟩ := sound.executions.served _ executed
  have next := sound.arrivals.servedFirst handled served (previous + 1) (by simp [first])
  have ownHandled := gated.contiguous origin handled (previous + 1)
    (ownPrevious.congr sameOrigin) own above next
  obtain ⟨other, result, memory, begun, _⟩ := sound.executions.remembered handled served
  have sameLabel : other = label := by
    rcases Nat.lt_or_eq_of_le next with below | atNumber
    · have constant := stale.constant handled (previous + 1) (Or.inr (Or.inl served)) ownHandled
        own previous (by omega) (Nat.lt_succ_self previous)
      rw [same, labelled, begun, Option.some.injEq] at constant
      exact constant.symm
    · rw [atNumber, labelled, Option.some.injEq] at begun
      exact begun.symm
  exact unknown result (sameLabel ▸ memory)

theorem replay_settled {state : State Label Result} (sound : Sound state)
    (stale : Stale mine state) (reuse : Reuse mine state) {number : Nat} {rest : List Nat}
    {label : Label} {result : Result} (first : state.requests = number :: rest)
    (labelled : state.begun[number]? = some label)
    (known : state.memory = some (label, result)) (own : Mine mine state number) :
    Settled state (number, result) := by
  cases handled : state.served with
  | none =>
      rw [sound.executions.forgotten handled] at known
      contradiction
  | some previous =>
      obtain ⟨other, value, memory, begun, _⟩ := sound.executions.remembered previous handled
      rw [known] at memory
      obtain ⟨rfl, rfl⟩ := Prod.mk.inj (Option.some.inj memory)
      have next := sound.arrivals.servedFirst previous handled number (by simp [first])
      rcases Nat.lt_or_eq_of_le next with below | same
      · exact Or.inl (stale.repeated (Or.inr (Or.inl handled)) own below
          (begun.trans labelled.symm))
      · exact reuse.served number label result (same ▸ handled) known own

theorem accept_settled {state : State Label Result} (sound : Sound state)
    (stale : Stale mine state) (reuse : Reuse mine state) {number current : Nat}
    {result : Result} (received : (number, result) ∈ state.replies)
    (latest : state.begun.length = current + 1)
    (matched : state.begun[number]? = state.begun[current]?) (own : Mine mine state current) :
    Settled state (current, result) := by
  have bound := (sound.executions.replies _ received).1
  dsimp only at bound
  rcases Nat.lt_or_eq_of_le (show number ≤ current by omega) with below | same
  · exact Or.inl (stale.repeated (Or.inr (Or.inr ⟨result, received⟩)) own below matched)
  · rw [same] at received
    exact reuse.replies _ received own

theorem Reuse.step {state next : State Label Result} (reuse : Reuse mine state)
    (sound : Sound state) (gated : Gated mine state) (stale : Stale mine state)
    (step : Step ordered mine state next) : Reuse mine next := by
  obtain ⟨later, begun⟩ := step.begun_grows
  have grown (entry : Nat × Result) (bound : entry.1 < state.begun.length)
      (known : Mine mine state entry.1 → Settled state entry) (own : Mine mine next entry.1) :
      Settled next entry :=
    (known ((mine_append begun bound).mp own)).step bound step
  obtain ⟨executed, served, replies, replayed, accepted⟩ := id reuse
  have oldReplies (entry : Nat × Result) (member : entry ∈ state.replies) :=
    grown entry (sound.executions.replies entry member).1 (replies entry member)
  have oldReplayed (entry : Nat × Result) (member : entry ∈ state.replayed) :=
    grown entry (sound.executions.replayed entry member).1 (replayed entry member)
  have oldAccepted (entry : Nat × Result) (member : entry ∈ state.accepted) :=
    grown entry (sound.executions.accepted entry member).1 (accepted entry member)
  have oldExecuted (entry : Nat × Result) (member : entry ∈ state.executed)
      (own : Mine mine next entry.1) : ¬Repeated next entry.1 := by
    obtain ⟨handled, same, below⟩ := sound.executions.served entry member
    have bound := Nat.lt_of_le_of_lt below (sound.arrivals.servedBegun handled same)
    rw [repeated_append begun bound]
    exact executed entry member ((mine_append begun bound).mp own)
  cases step with
  | begin label gate =>
      refine ⟨oldExecuted, ?_, oldReplies, oldReplayed, oldAccepted⟩
      intro number label result handled known
      exact grown (number, result) (sound.arrivals.servedBegun number handled)
        (served number label result handled known)
  | send latest => exact ⟨executed, served, replies, replayed, accepted⟩
  | loseRequests remaining => exact ⟨executed, served, replies, replayed, accepted⟩
  | @execute number rest label result first labelled unknown =>
      refine ⟨?_, ?_, oldReplies, oldReplayed, oldAccepted⟩
      · exact forall_mem_snoc oldExecuted
          (execute_not_repeated sound gated stale first labelled unknown)
      · rintro handled other value same known _
        obtain rfl := Option.some.inj same
        obtain ⟨rfl, rfl⟩ := Prod.mk.inj (Option.some.inj known)
        exact Or.inr (by simp)
  | @replay number rest label result first labelled known =>
      have settled := replay_settled sound stale reuse first labelled known
      refine ⟨executed, ?_, replies, ?_, accepted⟩
      · rintro handled other value same memory own
        obtain rfl := Option.some.inj same
        change state.memory = some (other, value) at memory
        rw [known] at memory
        obtain ⟨rfl, rfl⟩ := Prod.mk.inj (Option.some.inj memory)
        exact settled own
      · exact forall_mem_snoc replayed settled
  | @reply number label result handled known =>
      exact ⟨executed, served, forall_mem_snoc replies (served number label result handled known),
        replayed, accepted⟩
  | loseReplies remaining =>
      exact ⟨executed, served, fun entry member => replies entry (remaining.subset member),
        replayed, accepted⟩
  | @accept before after number current result received inOrder open_ latest matched =>
      refine ⟨executed, served, ?_, replayed, ?_⟩
      · intro entry member
        exact replies entry ((removed_sublist received).subset member)
      · exact forall_mem_snoc accepted
          (accept_settled sound stale reuse (by simp [received]) latest matched)

theorem Reachable.reuse {state : State Label Result} (holds : ordered)
    (reached : Reachable ordered mine state) : Reuse mine state := by
  have all : Sound state ∧ Gated mine state ∧ ReplyOrder state ∧ Stale mine state ∧
      Reuse mine state := by
    refine reachable_invariant
      (fun state => Sound state ∧ Gated mine state ∧ ReplyOrder state ∧ Stale mine state ∧
        Reuse mine state)
      ⟨initial_sound, initial_gated, initial_replyOrder, initial_stale, initial_reuse⟩ ?_ reached
    rintro before next ⟨sound, gated, order, stale, reuse⟩ step
    exact ⟨sound.step step, gated.step step, order.step sound.arrivals step,
      stale.step sound gated order holds step, reuse.step sound gated stale step⟩
  exact all.2.2.2.2

/-- Over ordered links an acknowledged transaction of the session went unexecuted
exactly when it repeats the label of the transaction before it. -/
theorem unexecuted_iff_repeated {state : State Label Result} (holds : ordered)
    (reached : Reachable ordered mine state) {number : Nat} {result : Result}
    (accepted : (number, result) ∈ state.accepted) (own : Mine mine state number) :
    (∀ value, (number, value) ∉ state.executed) ↔ Repeated state number := by
  have reuse := reached.reuse holds
  constructor
  · intro missing
    exact (reuse.accepted _ accepted own).resolve_right (missing result)
  · intro repeated value executed
    exact reuse.executed _ executed own repeated

/-- Over ordered links a transaction of the session that does not repeat the label
before it is only ever answered with its own result. -/
theorem replayed_executed {state : State Label Result} (holds : ordered)
    (reached : Reachable ordered mine state) {entry : Nat × Result}
    (replayed : entry ∈ state.replayed) (own : Mine mine state entry.1)
    (different : ¬Repeated state entry.1) : entry ∈ state.executed :=
  ((reached.reuse holds).replayed entry replayed own).resolve_left different

end StopAndWait

import Mathlib.Data.List.Chain
import Lamella.ExchangeTurns
import Lamella.TapDelivery

/-!
Sessions of any length.  Ids repeat after 2^32 transactions, and a server only remembers
the latest transaction of its endpoint, so what matters is how many ids a session issues
between two successive transactions of one endpoint.
-/

namespace Lamella

/-! Every TX transaction is followed by an RX transaction. -/

structure NetworkTurn (before after : Exchange) (output : List NetworkOutput) : Prop where
  issued : ∀ packet ∈ issuedOf output, packet.t.direction = .tx →
    before.phase.afterTx = false ∧ after.phase.afterTx = true
  kept : issuedOf output = [] → before.phase.afterTx = true → after.phase.isReturned = false →
    after.phase.afterTx = true

theorem absorbHost_issued (target : Network) (host : Exchange) (outputs : List ExchangeOutput) :
    (issuedOf (target.absorbHost host outputs).2).map (·.t) =
      outputs.filterMap ExchangeOutput.begunRequest := by
  simp only [issuedOf, Network.absorbHost, Paths.numbered, List.filterMap_map, List.map_filterMap]
  refine List.filterMap_congr ?_
  intro output _
  cases output <;> rfl

theorem ExchangeTurn.network {before after : Exchange} {event : ExchangeEvent}
    {outputs : List ExchangeOutput}
    (turn : ExchangeTurn before after event (outputs.filterMap ExchangeOutput.begunRequest))
    (target : Network) : NetworkTurn before after (target.absorbHost after outputs).2 := by
  rw [← absorbHost_issued target after outputs] at turn
  constructor
  · intro packet member
    exact turn.begun packet.t (List.mem_map_of_mem member)
  · intro unissued
    rw [unissued] at turn
    exact turn.kept

theorem absorbDevice_turn (host : Exchange) (network : Network) (device : Device)
    (outputs : List DeviceOutput) :
    NetworkTurn host host (network.absorbDevice device outputs).2 := by
  refine ⟨?_, fun _ afterTx _ => afterTx⟩
  simp [issuedOf, Network.absorbDevice, NetworkOutput.issued]

theorem Network.step_turn {recoveryTimeout : Option Nat} {network next : Network}
    {event : NetworkEvent} {output : List NetworkOutput}
    (stepped : network.step recoveryTimeout event = some (next, output)) :
    NetworkTurn network.host next.host output := by
  have still : NetworkTurn network.host network.host [] :=
    ⟨by simp [issuedOf], fun _ afterTx _ => afterTx⟩
  cases Network.step_moves stepped with
  | session id returned =>
      refine ⟨by simp [issuedOf, NetworkOutput.issued], fun _ afterTx => ?_⟩
      cases phase : network.host.phase <;> simp_all [ExchangePhase.afterTx, ExchangePhase.isReturned]
  | host unanswered exchanged => exact (wifiExchange_exchangeTurn exchanged).network network
  | deliver found exchanged erased => exact (wifiExchange_exchangeTurn exchanged).network _
  | loseRequest direction position => exact still
  | loseResponse direction position => exact still
  | arrive first received => exact absorbDevice_turn _ _ _ _
  | device worked => exact absorbDevice_turn _ _ _ _

/-- Of two successive transactions of the session at most one is TX. -/
structure Alternating (session : UInt64) (host : Exchange) (trace : List NetworkOutput) : Prop where
  chain : (issuedBy session trace).IsChain fun first second =>
    first.t.direction = .tx → second.t.direction = .rx
  turn : host.runningSession = some session → ∀ last ∈ (issuedBy session trace).getLast?,
    last.t.direction = .tx → host.phase.afterTx = true

theorem Alternating.step {session : UInt64} {network : Network} {host : Exchange}
    {past output : List NetworkOutput} (numbered : network.AllNumbered past)
    (alternating : Alternating session network.host past)
    (effect : IssueEffect network.host host output) (turn : NetworkTurn network.host host output)
    (once : (sessionsOf (past ++ output)).count session ≤ 1) :
    Alternating session host (past ++ output) := by
  cases effect with
  | quiet running counter issued sessions ended =>
      have same := issuedBy_same session past issued
      refine ⟨by rw [same]; exact alternating.chain, fun own last member direction => ?_⟩
      rw [same] at member
      refine turn.kept issued (alternating.turn (running ▸ own) last member direction) ?_
      have facts : host.phase.isReturned = false ∧ host.session = session := by
        simpa [Exchange.runningSession] using own
      exact facts.1
  | finish id running idle issued sessions ended =>
      refine ⟨by rw [issuedBy_same session past issued]; exact alternating.chain, fun own => ?_⟩
      rw [idle] at own
      contradiction
  | start id idle running counter issued sessions ended =>
      have same := issuedBy_same session past issued
      refine ⟨by rw [same]; exact alternating.chain, fun own last member => ?_⟩
      rw [running, Option.some.injEq] at own
      subst own
      rw [same, numbered.unissued sessions once] at member
      contradiction
  | issue packet running still id counter issued sessions ended =>
      by_cases own : packet.t.transaction.session = session
      · have grown : issuedBy session (past ++ output) = issuedBy session past ++ [packet] := by
          rw [issuedBy_append]
          simp [issuedBy, issued, own]
        have turned := turn.issued packet (by simp [issued])
        have started := alternating.turn (by rw [running, own])
        constructor
        · rw [grown, List.isChain_append]
          refine ⟨alternating.chain, by simp, ?_⟩
          intro last member next head direction
          cases Option.mem_some_iff.mp head
          cases kind : packet.t.direction with
          | rx => rfl
          | tx =>
              have afterTx := started last member direction
              rw [(turned kind).1] at afterTx
              contradiction
        · intro _ last member direction
          rw [grown] at member
          simp at member
          subst member
          exact (turned direction).2
      · have same : issuedBy session (past ++ output) = issuedBy session past := by
          rw [issuedBy_append]
          simp [issuedBy, issued, own]
        refine ⟨by rw [same]; exact alternating.chain, fun mine => ?_⟩
        rw [still, running, Option.some.injEq] at mine
        exact absurd mine own

theorem Network.run_alternating {recoveryTimeout : Option Nat} {injector : EndpointFaultInjector}
    {events : List NetworkEvent} {network : Network} {trace : List NetworkOutput}
    (ran : Machine.run (Network.step recoveryTimeout) (Network.start injector) events =
      some (network, trace))
    {session : UInt64} (once : (sessionsOf trace).count session ≤ 1) :
    Alternating session network.host trace := by
  have initially : Alternating session (Network.start injector).host [] :=
    ⟨.nil, fun _ _ member => absurd member (by simp [issuedBy, issuedOf])⟩
  have kept := Machine.run_invariant
    (fun network past => network.AllNumbered past ∧
      ((sessionsOf past).count session ≤ 1 → Alternating session network.host past))
    (fun _ => True) ?_ (fun _ _ => trivial)
    ⟨Network.start_allNumbered injector, fun _ => initially⟩ ran
  · rw [List.nil_append] at kept
    exact kept.2 once
  · rintro network past event next output _ ⟨numbered, alternating⟩ stepped
    refine ⟨numbered.step stepped, fun once => ?_⟩
    have earlier : (sessionsOf past).count session ≤ 1 := by
      rw [sessionsOf_append, List.count_append] at once
      omega
    exact (alternating earlier).step numbered (Network.step_issue stepped)
      (Network.step_turn stepped) once

/-! Successive transactions of one endpoint. -/

/-- The ids a session issued from `first` up to `second`, where `first` is the latest
transaction of the same endpoint before `second`, are `between` and `first` itself. -/
def Successive (session : UInt64) (trace : List NetworkOutput) (first : Packet Request)
    (between : List (Packet Request)) (second : Packet Request) : Prop :=
  first.t.direction = second.t.direction ∧
    (∀ packet ∈ between, packet.t.direction ≠ second.t.direction) ∧
    ∃ earlier later, issuedBy session trace = earlier ++ first :: (between ++ second :: later)

theorem filter_begunOf (session : UInt64) (direction : Direction) (trace : List NetworkOutput) :
    ((begunOf direction trace).filter fun packet => packet.t.transaction.session = session) =
      (issuedBy session trace).filter fun packet => packet.t.direction = direction := by
  rw [begunOf_eq_filter, issuedBy, List.filter_filter, List.filter_filter]
  apply List.filter_congr
  intro packet _
  rw [Bool.and_comm]

theorem filter_eq_append_cons_cons {Item : Type} {keep : Item → Bool} {items before after : List Item}
    {first second : Item} (filtered : items.filter keep = before ++ first :: second :: after) :
    ∃ earlier between later, items = earlier ++ first :: (between ++ second :: later) ∧
      ∀ item ∈ between, ¬keep item = true := by
  obtain ⟨front, rest, rfl, _, next⟩ := List.filter_eq_append_iff.mp filtered
  obtain ⟨gap, tail, rfl, _, _, more⟩ := List.filter_eq_cons_iff.mp next
  obtain ⟨between, later, rfl, rejected, _, _⟩ := List.filter_eq_cons_iff.mp more
  exact ⟨front ++ gap, between, later, by simp, rejected⟩

section

variable {session : UInt64} {direction : Direction} {endpoint : Endpoint}
  {trace : List NetworkOutput} {first second : Packet Request} {between : List (Packet Request)}

theorem Numbered.successive {sessions : List UInt64}
    (numbered : Numbered direction endpoint (begunOf direction trace) sessions)
    (firstMember : first ∈ begunOf direction trace) (secondMember : second ∈ begunOf direction trace)
    (next : second.serial = first.serial + 1) (own : first.t.transaction.session = session)
    (ownSecond : second.t.transaction.session = session) :
    ∃ between, Successive session trace first between second := by
  have secondFound := numbered.found secondMember
  rw [next] at secondFound
  have split := getElem?_split (numbered.found firstMember)
  obtain ⟨bound, here⟩ := List.getElem?_eq_some_iff.mp secondFound
  rw [List.drop_eq_getElem_cons bound, here] at split
  have filtered := filter_begunOf session direction trace
  rw [split, List.filter_append, List.filter_cons_of_pos (by simp [own]),
    List.filter_cons_of_pos (by simp [ownSecond])] at filtered
  obtain ⟨earlier, between, later, issued, others⟩ := filter_eq_append_cons_cons filtered.symm
  have kind := numbered.kind second secondMember
  refine ⟨between, (numbered.kind first firstMember).trans kind.symm, ?_, earlier, later, issued⟩
  intro packet member
  simpa [kind] using others packet member

theorem Successive.adjacent {sessions : List UInt64}
    (numbered : Numbered direction endpoint (begunOf direction trace) sessions)
    (successive : Successive session trace first between second)
    (kind : second.t.direction = direction)
    (contiguous : ∀ middle ∈ begunOf direction trace, first.serial ≤ middle.serial →
      middle.serial ≤ second.serial → middle.t.transaction.session = session) :
    second.serial = first.serial + 1 := by
  obtain ⟨same, others, earlier, later, issued⟩ := successive
  have nothingBetween : (between.filter fun packet => packet.t.direction = direction) = [] := by
    rw [List.filter_eq_nil_iff]
    intro packet member
    simpa [kind] using others packet member
  have filtered := filter_begunOf session direction trace
  rw [issued, List.filter_append, List.filter_cons_of_pos (by simp [same, kind]),
    List.filter_append, nothingBetween, List.nil_append, List.filter_cons_of_pos (by simp [kind])] at filtered
  obtain ⟨front, gap, back, begun, foreign⟩ := filter_eq_append_cons_cons filtered
  have firstSerial : first.serial = front.length :=
    numbered.indexed front.length first (by simp [begun])
  have secondSerial : second.serial = front.length + 1 + gap.length := by
    refine numbered.indexed _ second ?_
    rw [begun, List.getElem?_append_right (by omega),
      show front.length + 1 + gap.length - front.length = gap.length + 1 by omega]
    simp
  cases gap with
  | nil => simpa [firstSerial] using secondSerial
  | cons middle rest =>
      have middleSerial : middle.serial = front.length + 1 := by
        refine numbered.indexed _ middle ?_
        simp [begun]
      have own := contiguous middle (by simp [begun]) (by omega) (by omega)
      exact absurd (decide_eq_true own) (foreign middle (by simp))

/-- Successive transactions repeat an id exactly when the ids issued meanwhile are a
multiple of 2^32. -/
theorem Counted.same_iff {host : Exchange} (counted : Counted session host trace)
    (successive : Successive session trace first between second) :
    first.t.transaction = second.t.transaction ↔ 2 ^ 32 ∣ between.length + 1 := by
  obtain ⟨_, _, earlier, later, issued⟩ := successive
  have firstId := counted.ids earlier.length first (by simp [issued])
  have secondId := counted.ids (earlier.length + 1 + between.length) second (by
    rw [issued, List.getElem?_append_right (by omega),
      show earlier.length + 1 + between.length - earlier.length = between.length + 1 by omega]
    simp)
  rw [firstId, secondId, WifiTransaction.mk.injEq, ofNat_eq_ofNat_iff]
  simp only [true_and]
  omega

theorem Alternating.between_le {host : Exchange} (alternating : Alternating session host trace)
    (successive : Successive session trace first between second)
    (kind : second.t.direction = .rx) : between.length ≤ 1 := by
  obtain ⟨_, others, earlier, later, issued⟩ := successive
  rw [kind] at others
  have chain := alternating.chain.infix
    (show between <:+: issuedBy session trace from ⟨earlier ++ [first], second :: later, by simp [issued]⟩)
  match between with
  | [] => simp
  | [_] => simp
  | older :: newer :: rest =>
      have tx : older.t.direction = .tx := by
        cases direction : older.t.direction with
        | tx => rfl
        | rx => exact absurd direction (others older (by simp))
      exact absurd ((List.isChain_cons_cons.mp chain).1 tx) (others newer (by simp))

end

/-- The session had an earlier transaction of this endpoint, and the ids it issued from
the latest such one, inclusive, up to this one, exclusive, are a multiple of 2^32. -/
def Wrapped (session : UInt64) (trace : List NetworkOutput) (packet : Packet Request) : Prop :=
  ∃ first between, Successive session trace first between packet ∧ 2 ^ 32 ∣ between.length + 1

section

variable {recoveryTimeout : Option Nat} {injector : EndpointFaultInjector}
  {events : List NetworkEvent} {network : Network} {trace : List NetworkOutput}
  (ran : Machine.run (Network.step recoveryTimeout) (Network.start injector) events =
    some (network, trace))
  {session : UInt64} (once : (sessionsOf trace).count session ≤ 1)

include ran once

theorem repeated_iff_wrapped {ordered : Prop} {direction : Direction} {served : Option Nat}
    {waiting : Bool}
    (refines : Refines ordered session direction (network.endpoint direction) trace served waiting)
    {packet : Packet Request} (member : packet ∈ begunOf direction trace)
    (own : packet.t.transaction.session = session) :
    StopAndWait.Repeated ((network.endpoint direction).abstract direction trace served waiting)
        packet.serial ↔ Wrapped session trace packet := by
  have numbered := Network.run_allNumbered ran direction
  have counted := Network.run_counted ran once
  have labelled := numbered.labelled member served waiting
  constructor
  · rintro ⟨previous, next, same⟩
    rw [labelled] at same
    obtain ⟨first, found, transaction⟩ : ∃ first, (begunOf direction trace)[previous]? = some first ∧
        first.t.transaction = packet.t.transaction := by
      simpa [Endpoint.abstract] using same
    have serial := numbered.indexed previous first found
    obtain ⟨between, successive⟩ := numbered.successive (List.mem_of_getElem? found) member
      (by rw [next, serial]) (by rw [transaction, own]) own
    exact ⟨first, between, successive, (counted.same_iff successive).mp transaction⟩
  · rintro ⟨first, between, successive, wraps⟩
    have transaction := (counted.same_iff successive).mpr wraps
    have firstMember : first ∈ begunOf direction trace := by
      obtain ⟨same, _, earlier, later, issued⟩ := successive
      have present : first ∈ issuedBy session trace := by simp [issued]
      rw [begunOf_eq_filter, List.mem_filter, same, numbered.kind packet member]
      exact ⟨(List.mem_filter.mp present).1, by simp⟩
    have mine {other : Packet Request} (present : other ∈ begunOf direction trace) :=
      numbered.mine_iff present served waiting session
    refine ⟨first.serial, successive.adjacent numbered (numbered.kind packet member) ?_, ?_⟩
    · intro middle present lower upper
      exact (mine present).mp (refines.reached.gated.contiguous first.serial middle.serial
        packet.serial ((mine firstMember).mpr (by rw [transaction, own])) ((mine member).mpr own)
        lower upper)
    · rw [labelled, numbered.labelled firstMember served waiting, transaction]

/-- RX ids of a session repeat too late for the cached response to be of an earlier
transaction. -/
theorem rx_not_wrapped {packet : Packet Request} (kind : packet.t.direction = .rx) :
    ¬Wrapped session trace packet := by
  rintro ⟨first, between, successive, wraps⟩
  have short := (Network.run_alternating ran once).between_le successive kind
  have := Nat.le_of_dvd (Nat.succ_pos _) wraps
  omega

omit once in
theorem unhanded_iff {packet : Packet WifiTxRequest} (taken : packet ∈ takenOf trace) :
    packet ∉ handedOf (deviceOf trace) ↔
      ∀ value, (packet.serial, value) ∉ executedOf .tx trace := by
  rw [executedOf_tx]
  constructor
  · intro missing value executed
    obtain ⟨handed, present, same⟩ := List.mem_map.mp executed
    have handedTaken := Network.run_attributed ran _ (mem_deviceOf.mp (mem_handedOf.mp present))
    have requests := StopAndWait.increasing_inj (Network.run_allNumbered ran .tx).increasing
      handedTaken (mem_takenOf_iff.mp taken) (Prod.mk.inj same).1
    obtain ⟨serials, contents⟩ := Packet.mk.inj requests
    obtain ⟨serial, request⟩ := packet
    obtain ⟨_, _⟩ := handed
    cases serials
    cases contents
    exact missing present
  · intro missing handed
    exact missing none (List.mem_map.mpr ⟨_, handed, rfl⟩)

variable (inOrder : ∀ event ∈ events, event.inOrder)

include inOrder

theorem ordered_refines (direction : Direction) :
    ∃ served waiting,
      Refines True session direction (network.endpoint direction) trace served waiting :=
  Network.run_refines ran (fun event member _ => inOrder event member) once direction

theorem replayed_answered {serial : Nat} {response : WifiRxResponse}
    (replayed : .replayed ⟨serial, .rx response⟩ ∈ deviceOf trace)
    (own : response.transaction.session = session) :
    .answered ⟨serial, response⟩ ∈ deviceOf trace := by
  obtain ⟨served, waiting, refines⟩ := ordered_refines ran once inOrder .rx
  have numbered := Network.run_allNumbered ran .rx
  have attributed := Network.run_attributed ran
  obtain ⟨_, request, begun, matched⟩ := attributed _ (mem_deviceOf.mp replayed)
  have ownRequest : request.transaction.session = session := by rw [← matched]; exact own
  have entry : (serial, response.frame) ∈ replayedOf .rx trace :=
    List.mem_filterMap.mpr ⟨_, replayed, rfl⟩
  have executed := StopAndWait.replayed_executed trivial refines.reached entry
    ((numbered.mine_iff begun served waiting session).mpr ownRequest) ?_
  · simp only [Endpoint.abstract] at executed
    rw [executedOf_rx] at executed
    obtain ⟨⟨_, answer⟩, answered, same⟩ := List.mem_map.mp executed
    obtain ⟨rfl, frame⟩ := Prod.mk.inj same
    rw [mem_answeredOf] at answered
    obtain ⟨_, other, otherBegun, otherMatched⟩ := attributed _ (mem_deviceOf.mp answered)
    have requests := StopAndWait.increasing_inj numbered.increasing begun otherBegun rfl
    rw [← (Packet.mk.inj requests).2] at otherMatched
    obtain ⟨transaction, _⟩ := response
    obtain ⟨_, _⟩ := answer
    cases otherMatched.trans matched.symm
    cases frame
    exact answered
  · rw [repeated_iff_wrapped ran once refines begun ownRequest]
    exact rx_not_wrapped ran once (numbered.kind _ begun)

/-- A session that starts once may wrap its ids any number of times.  Its RX requests are
never answered with the frame of an earlier transaction, and one of its TX transactions
is acknowledged without its frame being handed over exactly when its id wraps around to
that of the latest TX transaction before it; such a frame is never handed over. -/
theorem transactionId_wraparound :
    (∀ serial response, .replayed ⟨serial, .rx response⟩ ∈ deviceOf trace →
        response.transaction.session = session →
          .answered ⟨serial, response⟩ ∈ deviceOf trace) ∧
      (∀ packet ∈ acknowledgedTxOf trace, packet.t.transaction.session = session →
        (packet ∉ handedOf (deviceOf trace) ↔
          Wrapped session trace ⟨packet.serial, .tx packet.t⟩)) ∧
      ∀ packet ∈ takenOf trace, packet.t.transaction.session = session →
        Wrapped session trace ⟨packet.serial, .tx packet.t⟩ →
          packet ∉ handedOf (deviceOf trace) := by
  obtain ⟨served, waiting, refines⟩ := ordered_refines ran once inOrder .tx
  have numbered := Network.run_allNumbered ran .tx
  refine ⟨fun serial response replayed own => replayed_answered ran once inOrder replayed own,
    ?_, ?_⟩
  · intro packet member own
    obtain ⟨response, said⟩ := mem_acknowledgedTxOf member
    have begun := (Network.run_attributed ran _ said).1
    have accepted : (packet.serial, response.frame) ∈ acknowledgedOf .tx trace :=
      List.mem_filterMap.mpr ⟨_, said, rfl⟩
    rw [unhanded_iff ran (mem_takenOf_iff.mpr begun),
      ← repeated_iff_wrapped ran once refines begun own]
    exact StopAndWait.unexecuted_iff_repeated trivial refines.reached accepted
      ((numbered.mine_iff begun served waiting session).mpr own)
  · intro packet taken own wrapped
    have begun := mem_takenOf_iff.mp taken
    rw [← repeated_iff_wrapped ran once refines begun own] at wrapped
    rw [unhanded_iff ran taken]
    intro value executed
    exact (refines.reached.reuse trivial).executed _ executed
      ((numbered.mine_iff begun served waiting session).mpr own) wrapped

end

def sampleOrderedEvents : List NetworkEvent :=
  [.session 7, .host (.tryRecv (some sampleTapFrame)), .host (.attempt 0 samplePeer),
    .host (.wait 250 .warning), .arrive .tx, .device (.txServer true),
    .device (.bridge ⟨true, none, 0⟩), .device (.bridge ⟨true, none, 0⟩),
    .device (.bridge ⟨true, none, 0⟩), .device (.bridge ⟨true, none, 2⟩),
    .device (.txServer true), .device (.txServer true), .deliver .tx 0 260 .primary,
    .host .beginRx, .host (.attempt 260 samplePeer), .host (.wait 510 .warning), .arrive .rx,
    .device (.rxServer true true), .device (.rxServer false false), .arrive .rx,
    .device (.rxServer false true), .deliver .rx 0 520 .backup]

def sampleOrderedTrace : List NetworkOutput :=
  let request : WifiTxRequest := ⟨⟨7, 0⟩, sampleTapFrame⟩
  let poll : Request := .rx ⟨⟨7, 1⟩⟩
  let response : WifiRxResponse := ⟨⟨7, 1⟩, none⟩
  [.session 7, .host 0 (.began (.tx request)),
    .host 0 (.requested (.tx request) samplePeer .primary false),
    .host 0 (.requested (.tx request) samplePeer .backup false), .device (.handed ⟨0, request⟩),
    .device (.accepted sampleTapFrame), .device .completion, .device (.response ⟨0, .tx ⟨⟨7, 0⟩⟩⟩),
    .host 0 (.resolved (.tx request) .primary (.ok (.tx ⟨⟨7, 0⟩⟩))),
    .host 0 (.acknowledged (.tx request) (.tx ⟨⟨7, 0⟩⟩)), .host 0 (.began poll),
    .host 0 (.requested poll samplePeer .primary false),
    .host 0 (.requested poll samplePeer .backup false), .device (.answered ⟨0, response⟩),
    .device (.replayed ⟨0, .rx response⟩), .device (.response ⟨0, .rx response⟩),
    .host 0 (.resolved poll .backup (.ok (.rx response))),
    .host 0 (.acknowledged poll (.rx response))]

theorem transactionId_wraparound_sample :
    ∃ network,
      Machine.run (Network.step (some endpointRecoveryTimeout)) (Network.start .default)
          sampleOrderedEvents = some (network, sampleOrderedTrace) ∧
        .answered ⟨0, ⟨⟨7, 1⟩, none⟩⟩ ∈ deviceOf sampleOrderedTrace ∧
        ¬Wrapped 7 sampleOrderedTrace ⟨0, .tx ⟨⟨7, 0⟩, sampleTapFrame⟩⟩ := by
  have traced : (Machine.run (Network.step (some endpointRecoveryTimeout)) (Network.start .default)
      sampleOrderedEvents).map Prod.snd = some sampleOrderedTrace := by decide +kernel
  obtain ⟨⟨network, _⟩, ran, rfl⟩ := Option.map_eq_some_iff.mp traced
  have inOrder : ∀ event ∈ sampleOrderedEvents, event.inOrder := by
    simp [sampleOrderedEvents, NetworkEvent.inOrder]
  have holds := transactionId_wraparound ran (show (sessionsOf _).count 7 ≤ 1 by decide) inOrder
  refine ⟨network, ran, holds.1 0 ⟨⟨7, 1⟩, none⟩ (by decide) rfl, ?_⟩
  rw [← holds.2.1 ⟨0, ⟨7, 0⟩, sampleTapFrame⟩ (by decide) rfl]
  decide

end Lamella

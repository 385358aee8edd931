import Lamella.Delivery

/-!
Delivery from the radio to the TAP device: per session, the frames written are the frames
`wifi_rx_server` removed for it, in order, up to one frame of a transaction that was never
acknowledged.
-/

namespace Lamella

def writesOf (trace : List NetworkOutput) : List (Packet Request × WifiFrame) :=
  trace.filterMap fun
    | .host number (.tapSend request frame) => some (⟨number, request⟩, frame)
    | _ => none

/-- The frames the exchange of a session passed to `tap_device.send`. -/
def writtenBy (session : UInt64) (trace : List NetworkOutput) : List WifiFrame :=
  ((writesOf trace).filter fun write => write.1.t.transaction.session = session).map Prod.snd

def removalsOf (outputs : List DeviceOutput) : List (Packet WifiRxResponse × WifiFrame) :=
  (answeredOf outputs).filterMap fun packet => packet.t.frame.map fun frame => (packet, frame)

/-- The frames `wifi_rx_server` removed while answering requests of a session. -/
def removedFor (session : UInt64) (outputs : List DeviceOutput) : List WifiFrame :=
  ((removalsOf outputs).filter fun removal =>
    removal.1.t.transaction.session = session).map Prod.snd

def rxResponsesOf (outputs : List DeviceOutput) : List WifiRxResponse :=
  outputs.filterMap fun
    | .answered packet => some packet.t
    | .replayed ⟨_, .rx response⟩ | .response ⟨_, .rx response⟩ => some response
    | _ => none

def framed (entries : List (Nat × Option WifiFrame)) : List (Nat × WifiFrame) :=
  entries.filterMap fun entry => entry.2.map fun frame => (entry.1, frame)

def removedOf (outputs : List DeviceOutput) : List (Nat × WifiFrame) :=
  (removalsOf outputs).map fun removal => (removal.1.serial, removal.2)

def writtenOf (trace : List NetworkOutput) : List (Nat × WifiFrame) :=
  (writesOf trace).map fun write => (write.1.serial, write.2)

theorem executedOf_rx (trace : List NetworkOutput) :
    executedOf .rx trace =
      (answeredOf (deviceOf trace)).map fun packet => (packet.serial, packet.t.frame) := by
  unfold executedOf answeredOf
  rw [List.map_filterMap]
  congr 1
  funext output
  cases output <;> rfl

theorem framed_executedOf_rx (trace : List NetworkOutput) :
    framed (executedOf .rx trace) = removedOf (deviceOf trace) := by
  rw [framed, executedOf_rx, List.filterMap_map, removedOf, removalsOf, List.map_filterMap]
  congr 1
  funext packet
  simp [Option.map_map, Function.comp_def]

/-! A write follows the acknowledgement of its transaction. -/

theorem ExchangeEffect.writes {exchange host : Exchange} {event : ExchangeEvent} {target : Network}
    {outputs : List ExchangeOutput} (effect : ExchangeEffect exchange event host outputs) :
    writtenOf (target.absorbHost host outputs).2 =
      framed (acknowledgedOf .rx (target.absorbHost host outputs).2) := by
  have unended (silent : ∀ output ∈ outputs, output.isEnd = false) :
      writtenOf (target.absorbHost host outputs).2 =
        framed (acknowledgedOf .rx (target.absorbHost host outputs).2) := by
    have unwritten : writesOf (target.absorbHost host outputs).2 = [] := by
      rw [writesOf, List.filterMap_eq_nil_iff]
      intro said member
      obtain ⟨output, present, rfl⟩ := List.mem_map.mp member
      have other := silent output present
      cases output <;> first | rfl | contradiction
    have unacknowledged : acknowledgedOf .rx (target.absorbHost host outputs).2 = [] := by
      rw [acknowledgedOf, List.filterMap_eq_nil_iff]
      intro said member
      obtain ⟨output, present, rfl⟩ := List.mem_map.mp member
      have other := silent output present
      cases output <;> first | rfl | contradiction
    rw [writtenOf, unwritten, unacknowledged]
    rfl
  cases effect with
  | quiet still counter silent running returns =>
      apply unended
      intro output member
      have quiet := silent output member
      cases output <;> first | rfl | contradiction
  | begin request before after transaction counter began running stays _ =>
      subst began
      exact unended (by simp [ExchangeOutput.isEnd])
  | send request peer source dropped before after counter requested running stays _ =>
      subst requested
      exact unended (by simp [ExchangeOutput.isEnd])
  | accept request response source now received before after running stays counter matched kind
      acknowledged =>
      subst acknowledged
      unfold Network.absorbHost
      rw [accept_paths]
      cases direction : request.direction <;> cases frame : response.frame <;>
        simp [writtenOf, writesOf, framed, acknowledgedOf, NetworkOutput.acknowledged, tapWrite,
          direction, frame, List.filterMap_cons, Paths.numbered, Paths.numberOf,
          ExchangeOutput.direction]

theorem Network.step_writes {recoveryTimeout : Option Nat} {network next : Network}
    {event : NetworkEvent} {output : List NetworkOutput}
    (stepped : network.step recoveryTimeout event = some (next, output)) :
    writtenOf output = framed (acknowledgedOf .rx output) := by
  cases Network.step_moves stepped with
  | host unanswered exchanged => exact (wifiExchange_effect exchanged).writes
  | deliver found exchanged erased => exact (wifiExchange_effect exchanged).writes
  | session id returned => rfl
  | loseRequest direction position => rfl
  | loseResponse direction position => rfl
  | arrive first received =>
      simp [Network.absorbDevice, writtenOf, writesOf, framed, acknowledgedOf,
        NetworkOutput.acknowledged]
  | device worked =>
      simp [Network.absorbDevice, writtenOf, writesOf, framed, acknowledgedOf,
        NetworkOutput.acknowledged]

theorem Network.run_writes {recoveryTimeout : Option Nat} {injector : EndpointFaultInjector}
    {events : List NetworkEvent} {network : Network} {trace : List NetworkOutput}
    (ran : Machine.run (Network.step recoveryTimeout) (Network.start injector) events =
      some (network, trace)) : writtenOf trace = framed (acknowledgedOf .rx trace) := by
  have initially : writtenOf [] = framed (acknowledgedOf .rx []) := rfl
  have kept := Machine.run_invariant
    (fun (_ : Network) past => writtenOf past = framed (acknowledgedOf .rx past))
    (fun _ => True) ?_ (fun _ _ => trivial) initially ran
  · simpa using kept
  · rintro network past event next output _ same stepped
    rw [acknowledgedOf_append, framed, List.filterMap_append, ← framed, ← framed, ← same,
      ← Network.step_writes stepped]
    simp [writtenOf, writesOf]

/-! Frames of one session. -/

theorem framed_filter (entries : List (Nat × Option WifiFrame)) (keep : Nat → Bool) :
    ((framed entries).filter fun entry => keep entry.1).map Prod.snd =
      (entries.filter fun entry => keep entry.1).filterMap Prod.snd := by
  induction entries with
  | nil => rfl
  | cons entry rest ih =>
      obtain ⟨number, frame⟩ := entry
      unfold framed at ih ⊢
      cases frame with
      | none => by_cases kept : keep number <;> simp [kept, ih]
      | some frame => by_cases kept : keep number <;> simp [kept, ih]

theorem framed_increasing {entries : List (Nat × Option WifiFrame)}
    (sorted : (entries.map Prod.fst).Pairwise (· < ·)) :
    ((framed entries).map Prod.fst).Pairwise (· < ·) := by
  rw [List.pairwise_map] at sorted ⊢
  refine List.pairwise_filterMap.mpr (sorted.imp ?_)
  intro first second below entry found other otherFound
  obtain ⟨_, _, rfl⟩ := Option.map_eq_some_iff.mp found
  obtain ⟨_, _, rfl⟩ := Option.map_eq_some_iff.mp otherFound
  exact below

theorem Numbered.mine_iff {direction : Direction} {endpoint : Endpoint}
    {trace : List NetworkOutput} {sessions : List UInt64}
    (numbered : Numbered direction endpoint (begunOf direction trace) sessions)
    {packet : Packet Request} (member : packet ∈ begunOf direction trace) (served : Option Nat)
    (waiting : Bool) (session : UInt64) :
    StopAndWait.Mine (OfSession session) (endpoint.abstract direction trace served waiting)
        packet.serial ↔ packet.t.transaction.session = session := by
  have labelled := numbered.labelled member served waiting
  constructor
  · rintro ⟨label, found, own⟩
    rw [labelled] at found
    cases found
    exact own
  · intro own
    exact ⟨_, labelled, own⟩

theorem mem_writesOf {trace : List NetworkOutput} {write : Packet Request × WifiFrame}
    (member : write ∈ writesOf trace) :
    .host write.1.serial (.tapSend write.1.t write.2) ∈ trace := by
  obtain ⟨output, inTrace, wrote⟩ := List.mem_filterMap.mp member
  split at wrote
  · cases wrote
    exact inTrace
  · contradiction

theorem mem_removalsOf {trace : List NetworkOutput} {removal : Packet WifiRxResponse × WifiFrame}
    (member : removal ∈ removalsOf (deviceOf trace)) :
    .device (.answered removal.1) ∈ trace ∧ removal.1.t.frame = some removal.2 := by
  obtain ⟨packet, answered, found⟩ := List.mem_filterMap.mp member
  obtain ⟨frame, taken, rfl⟩ := Option.map_eq_some_iff.mp found
  exact ⟨mem_deviceOf.mp (mem_answeredOf.mp answered), taken⟩

theorem ofSession_frames {Item : Type} (own : Item → Bool) {items : List (Item × WifiFrame)}
    {number : Item → Nat} {session : UInt64}
    {state : StopAndWait.State WifiTransaction (Option WifiFrame)}
    {entries : List (Nat × Option WifiFrame)}
    (numbered : (items.map fun item => (number item.1, item.2)) = framed entries)
    (mine : ∀ item ∈ items,
      StopAndWait.Mine (OfSession session) state (number item.1) ↔ own item.1 = true) :
    (items.filter fun item => own item.1).map Prod.snd =
      (StopAndWait.ofSession (OfSession session) state entries).filterMap Prod.snd := by
  classical
  rw [StopAndWait.ofSession, ← framed_filter entries fun number =>
    StopAndWait.Mine (OfSession session) state number, ← numbered, List.filter_map, List.map_map]
  have same : (items.filter fun item => own item.1) =
      items.filter ((fun entry : Nat × WifiFrame =>
        decide (StopAndWait.Mine (OfSession session) state entry.1)) ∘
          fun item => (number item.1, item.2)) := by
    apply List.filter_congr
    intro item member
    rw [Function.comp_apply, Bool.eq_iff_iff, decide_eq_true_iff]
    exact (mine item member).symm
  rw [same]
  rfl

/-! Counting frames session by session. -/

theorem countP_mem_cons {Item Key : Type} [DecidableEq Key] (key : Item → Key) {first : Key}
    {rest : List Key} (fresh : first ∉ rest) (items : List Item) :
    items.countP (fun item => key item ∈ first :: rest) =
      items.countP (fun item => key item = first) + items.countP fun item => key item ∈ rest := by
  induction items with
  | nil => rfl
  | cons item items ih =>
      rw [List.countP_cons, List.countP_cons, List.countP_cons, ih]
      by_cases own : key item = first
      · simp [own, fresh]
        omega
      · simp [own]
        omega

theorem countP_mem_eq_sum {Item Key : Type} [DecidableEq Key] (key : Item → Key)
    {keys : List Key} (distinct : keys.Nodup) (items : List Item) :
    items.countP (fun item => key item ∈ keys) =
      (keys.map fun own => items.countP fun item => key item = own).sum := by
  induction keys with
  | nil => simp
  | cons first rest ih =>
      obtain ⟨fresh, others⟩ := List.nodup_cons.mp distinct
      rw [countP_mem_cons key fresh items, ih others, List.map_cons, List.sum_cons]

theorem sum_le_sum_add {Key : Type} {keys : List Key} {more fewer : Key → Nat} {bound : Nat}
    (close : ∀ key ∈ keys, more key ≤ fewer key + bound) :
    (keys.map more).sum ≤ (keys.map fewer).sum + keys.length * bound := by
  induction keys with
  | nil => simp
  | cons key rest ih =>
      have here := close key (by simp)
      have there := ih fun other member => close other (by simp [member])
      simp only [List.map_cons, List.sum_cons, List.length_cons, Nat.succ_mul]
      omega

section

variable {recoveryTimeout : Option Nat} {injector : EndpointFaultInjector}
  {events : List NetworkEvent} {network : Network} {trace : List NetworkOutput}
  (ran : Machine.run (Network.step recoveryTimeout) (Network.start injector) events =
    some (network, trace))

include ran

theorem removedFor_eq (session : UInt64) (served : Option Nat) (waiting : Bool) :
    removedFor session (deviceOf trace) =
      (StopAndWait.ofSession (OfSession session)
        ((network.endpoint .rx).abstract .rx trace served waiting)
        (executedOf .rx trace)).filterMap Prod.snd := by
  refine ofSession_frames (fun packet => packet.t.transaction.session = session)
    (framed_executedOf_rx trace).symm ?_
  intro removal member
  obtain ⟨_, request, begun, matched⟩ :=
    Network.run_attributed ran _ (mem_removalsOf member).1
  have own := (Network.run_allNumbered ran .rx).mine_iff begun served waiting session
  rw [decide_eq_true_iff, show removal.1.t.transaction = request.transaction from matched]
  exact own

theorem writtenBy_eq (session : UInt64) (served : Option Nat) (waiting : Bool) :
    writtenBy session trace =
      (StopAndWait.ofSession (OfSession session)
        ((network.endpoint .rx).abstract .rx trace served waiting)
        (acknowledgedOf .rx trace)).filterMap Prod.snd := by
  refine ofSession_frames (fun packet => packet.t.transaction.session = session)
    (Network.run_writes ran) ?_
  intro write member
  have begun : write.1 ∈ begunOf .rx trace := Network.run_attributed ran _ (mem_writesOf member)
  rw [decide_eq_true_iff]
  exact (Network.run_allNumbered ran .rx).mine_iff begun served waiting session

variable (distinct : (sessionsOf trace).Nodup)
  (bounded : ∀ session, (issuedBy session trace).length < 2 ^ 32)

include distinct bounded

/-- What a session removed is what it wrote and at most one further frame, and nothing
further while the session runs without an RX transaction of its own. -/
theorem removedFor_eq_append (session : UInt64) :
    ∃ pending : List WifiFrame, pending.length ≤ 1 ∧
      (network.host.runningSession = some session → network.host.current .rx = none →
        pending = []) ∧
      removedFor session (deviceOf trace) = writtenBy session trace ++ pending := by
  obtain ⟨served, waiting, refines, labels⟩ := delivery_refines ran distinct bounded session .rx
  obtain ⟨pending, short, settled, split⟩ :=
    StopAndWait.executed_eq_accepted_append refines.reached labels
  refine ⟨pending.filterMap Prod.snd, Nat.le_trans (List.length_filterMap_le _ _) short, ?_, ?_⟩
  · intro running idle
    rcases refines.gate running with unbegun | ⟨last, acknowledged⟩
    · -- The session has begun no RX transaction, so nothing was removed for it.
      have empty : StopAndWait.ofSession (OfSession session)
          ((network.endpoint .rx).abstract .rx trace served waiting) (executedOf .rx trace) = [] := by
        rw [List.eq_nil_iff_forall_not_mem]
        intro entry member
        obtain ⟨label, begun, own⟩ := (StopAndWait.mem_ofSession.mp member).2
        exact unbegun label (List.mem_of_getElem? begun) own
      have split := split
      change StopAndWait.ofSession _ _ (executedOf .rx trace) = _ at split
      rw [empty] at split
      rw [(List.append_eq_nil_iff.mp split.symm).2, List.filterMap_nil]
    · rw [settled ⟨acknowledged idle, last⟩, List.filterMap_nil]
  · rw [removedFor_eq ran session served waiting, writtenBy_eq ran session served waiting,
      ← List.filterMap_append]
    exact congrArg (List.filterMap Prod.snd) split

theorem rxResponse_executed {served : Option Nat} {waiting : Bool}
    (refines : Refines False 0 .rx (network.endpoint .rx) trace served waiting)
    {response : WifiRxResponse} (member : response ∈ rxResponsesOf (deviceOf trace)) :
    ∃ serial, (serial, response.frame) ∈ executedOf .rx trace ∧
      ((network.endpoint .rx).abstract .rx trace served waiting).begun[serial]? =
        some response.transaction := by
  have labels := begun_distinct (issued_distinct ran distinct bounded) .rx
  have numbered := Network.run_allNumbered ran .rx
  have attributed := Network.run_attributed ran
  have produced (packet : Packet WifiRxResponse) (made : Produced (deviceOf trace) packet) :
      ∃ serial, (serial, packet.t.frame) ∈ executedOf .rx trace ∧
        ((network.endpoint .rx).abstract .rx trace served waiting).begun[serial]? =
          some packet.t.transaction := by
    rcases made with answered | replayed
    · obtain ⟨_, request, begun, matched⟩ := attributed _ (mem_deviceOf.mp answered)
      refine ⟨packet.serial, List.mem_filterMap.mpr ⟨_, answered, rfl⟩, ?_⟩
      rw [show packet.t.transaction = request.transaction from matched]
      exact numbered.labelled begun served waiting
    · obtain ⟨_, request, begun, matched⟩ := attributed _ (mem_deviceOf.mp replayed)
      have origin : (packet.serial, packet.t.frame) ∈ replayedOf .rx trace :=
        List.mem_filterMap.mpr ⟨_, replayed, rfl⟩
      refine ⟨packet.serial, (refines.reached.sound.executions.replayed _ origin).executed labels, ?_⟩
      rw [show packet.t.transaction = request.transaction from matched]
      exact numbered.labelled begun served waiting
  obtain ⟨output, present, said⟩ := List.mem_filterMap.mp member
  obtain ⟨deviceEvents, deviceRan⟩ := Network.run_device ran
  have responses := (Device.run_rxProduced deviceRan).responses
  split at said
  · cases said
    exact produced _ (.inl present)
  · cases said
    exact produced ⟨_, _⟩ (.inr present)
  · cases said
    exact produced ⟨_, _⟩ (responses _ _ present)
  · contradiction

/-- All responses the server produces for one RX transaction are identical. -/
theorem rxResponse_unique {first second : WifiRxResponse}
    (firstMember : first ∈ rxResponsesOf (deviceOf trace))
    (secondMember : second ∈ rxResponsesOf (deviceOf trace))
    (same : first.transaction = second.transaction) : first = second := by
  obtain ⟨served, waiting, refines, labels⟩ := delivery_refines ran distinct bounded 0 .rx
  obtain ⟨serial, executed, labelled⟩ :=
    rxResponse_executed ran distinct bounded refines firstMember
  obtain ⟨other, otherExecuted, otherLabelled⟩ :=
    rxResponse_executed ran distinct bounded refines secondMember
  have serials : serial = other := by
    refine (List.getElem?_inj ?_ labels).mp (labelled.trans ?_)
    · exact (List.getElem?_eq_some_iff.mp labelled).1
    · rw [same, otherLabelled]
  have entries := StopAndWait.increasing_inj refines.reached.sound.executions.sorted executed
    otherExecuted serials
  obtain ⟨transaction, frame⟩ := first
  obtain ⟨_, _⟩ := second
  cases same
  cases (Prod.mk.inj entries).2
  rfl

omit bounded in
theorem length_removedOf :
    (removedOf (deviceOf trace)).length =
      ((sessionsOf trace).map fun session => (removedFor session (deviceOf trace)).length).sum := by
  have split := countP_mem_eq_sum
    (fun removal : Packet WifiRxResponse × WifiFrame => removal.1.t.transaction.session) distinct
    (removalsOf (deviceOf trace))
  have all : (removalsOf (deviceOf trace)).countP
      (fun removal => removal.1.t.transaction.session ∈ sessionsOf trace) =
        (removalsOf (deviceOf trace)).length := by
    rw [List.countP_eq_length]
    intro removal member
    obtain ⟨_, request, begun, matched⟩ := Network.run_attributed ran _ (mem_removalsOf member).1
    have started := (Network.run_allNumbered ran .rx).started _ begun
    rw [decide_eq_true_iff, show removal.1.t.transaction = request.transaction from matched]
    exact started
  rw [removedOf, List.length_map, ← all, split]
  simp only [removedFor, List.length_map, List.countP_eq_length_filter]

omit bounded in
theorem length_writtenOf :
    (writtenOf trace).length =
      ((sessionsOf trace).map fun session => (writtenBy session trace).length).sum := by
  have split := countP_mem_eq_sum
    (fun write : Packet Request × WifiFrame => write.1.t.transaction.session) distinct
    (writesOf trace)
  have all : (writesOf trace).countP
      (fun write => write.1.t.transaction.session ∈ sessionsOf trace) = (writesOf trace).length := by
    rw [List.countP_eq_length]
    intro write member
    rw [decide_eq_true_iff]
    exact (Network.run_allNumbered ran .rx).started _
      (Network.run_attributed ran _ (mem_writesOf member))
  rw [writtenOf, List.length_map, ← all, split]
  simp only [writtenBy, List.length_map, List.countP_eq_length_filter]

/-- Each ended session loses at most one frame, and so does the current transaction. -/
theorem length_removedOf_le :
    (removedOf (deviceOf trace)).length ≤ (writtenOf trace).length + endedOf trace +
      if (network.host.current .rx).isSome then 1 else 0 := by
  obtain ⟨finished, sessions, ended⟩ := Network.run_sessions ran
  have lost := removedFor_eq_append ran distinct bounded
  rw [length_removedOf ran distinct, length_writtenOf ran distinct, sessions, List.map_append,
    List.map_append, List.sum_append, List.sum_append, ← ended]
  have past : (finished.map fun session => (removedFor session (deviceOf trace)).length).sum ≤
      (finished.map fun session => (writtenBy session trace).length).sum + finished.length * 1 := by
    apply sum_le_sum_add
    intro session _
    obtain ⟨pending, short, _, split⟩ := lost session
    rw [split, List.length_append]
    omega
  have present : ((network.host.runningSession.toList).map fun session =>
        (removedFor session (deviceOf trace)).length).sum ≤
      ((network.host.runningSession.toList).map fun session =>
        (writtenBy session trace).length).sum +
          if (network.host.current .rx).isSome then 1 else 0 := by
    cases running : network.host.runningSession with
    | none => simp
    | some session =>
        obtain ⟨pending, short, settled, split⟩ := lost session
        simp only [Option.toList_some, List.map_cons, List.map_nil, List.sum_cons, List.sum_nil,
          split, List.length_append]
        cases current : network.host.current .rx with
        | none => simp [settled running current]
        | some request =>
            simp only [Option.isSome_some, if_true]
            omega
  omega

/-- Per session the frames written are the frames removed for it, in order, up to at most
one further frame; all responses of one transaction are identical; and over all sessions
the writes are a duplicate-free subsequence of the removed frames that misses at most one
frame for each session that has ended and one for the current transaction. -/
theorem wifiToTap_delivery :
    (∀ session, ∃ pending : List WifiFrame, pending.length ≤ 1 ∧
        removedFor session (deviceOf trace) = writtenBy session trace ++ pending) ∧
      (∀ first ∈ rxResponsesOf (deviceOf trace), ∀ second ∈ rxResponsesOf (deviceOf trace),
        first.transaction = second.transaction → first = second) ∧
      (removedOf (deviceOf trace)).map Prod.snd = dequeuedOf (deviceOf trace) ∧
      (writtenOf trace).Sublist (removedOf (deviceOf trace)) ∧
      ((removedOf (deviceOf trace)).map Prod.fst).Nodup ∧
      (removedOf (deviceOf trace)).length ≤ (writtenOf trace).length + endedOf trace +
        if (network.host.current .rx).isSome then 1 else 0 := by
  obtain ⟨served, waiting, refines, labels⟩ := delivery_refines ran distinct bounded 0 .rx
  refine ⟨?_, ?_, ?_, ?_, ?_, length_removedOf_le ran distinct bounded⟩
  · intro session
    obtain ⟨pending, short, _, split⟩ := removedFor_eq_append ran distinct bounded session
    exact ⟨pending, short, split⟩
  · intro first firstMember second secondMember same
    exact rxResponse_unique ran distinct bounded firstMember secondMember same
  · rw [removedOf, removalsOf, List.map_map, List.map_filterMap, dequeuedOf]
    congr 1
    funext packet
    cases packet.t.frame <;> rfl
  · rw [Network.run_writes ran, ← framed_executedOf_rx]
    exact (StopAndWait.accepted_sublist_executed refines.reached labels).filterMap _
  · rw [← framed_executedOf_rx]
    exact (framed_increasing refines.reached.sound.executions.sorted).nodup

end

def sampleAirFrame : WifiFrame := ⟨[1, 2], by decide⟩

def sampleLostFrame : WifiFrame := ⟨[3], by decide⟩

def sampleTapEvents : List NetworkEvent :=
  [.session 5, .device (.bridge ⟨true, none, 0⟩), .device (.bridge ⟨true, some [1, 2], 0⟩),
    .device (.bridge ⟨true, none, 0⟩), .device (.bridge ⟨true, some [3], 0⟩),
    .device (.bridge ⟨true, none, 0⟩), .host (.tryRecv none), .host .beginRx,
    .host (.attempt 0 samplePeer), .host (.wait 250 .warning), .arrive .rx,
    .device (.rxServer false true), .device (.rxServer false false), .arrive .rx,
    .device (.rxServer false true), .deliver .rx 0 260 .backup, .host (.tapSent (.ok 2)),
    .host (.tryRecv none), .host .beginRx, .host (.attempt 260 samplePeer), .arrive .rx,
    .device (.rxServer false true), .host (.wait 300 .cancelled)]

def sampleTapTrace : List NetworkOutput :=
  let first : Request := .rx ⟨⟨5, 0⟩⟩
  let second : Request := .rx ⟨⟨5, 1⟩⟩
  let response : WifiRxResponse := ⟨⟨5, 0⟩, some sampleAirFrame⟩
  [.session 5, .device (.consumed [1, 2]), .device (.queued sampleAirFrame),
    .device (.consumed [3]), .device (.queued sampleLostFrame), .host 0 (.began first),
    .host 0 (.requested first samplePeer .primary false),
    .host 0 (.requested first samplePeer .backup false), .device (.answered ⟨0, response⟩),
    .device (.replayed ⟨0, .rx response⟩), .device (.response ⟨0, .rx response⟩),
    .host 0 (.resolved first .backup (.ok (.rx response))),
    .host 0 (.acknowledged first (.rx response)), .host 0 (.tapSend first sampleAirFrame),
    .host 1 (.began second), .host 1 (.requested second samplePeer .primary false),
    .device (.answered ⟨1, ⟨⟨5, 1⟩, some sampleLostFrame⟩⟩), .host 0 (.returned .cancelled)]

theorem wifiToTap_delivery_sample :
    ∃ network,
      Machine.run (Network.step (some endpointRecoveryTimeout)) (Network.start .default)
          sampleTapEvents = some (network, sampleTapTrace) ∧
        removedOf (deviceOf sampleTapTrace) = [(0, sampleAirFrame), (1, sampleLostFrame)] ∧
        writtenOf sampleTapTrace = [(0, sampleAirFrame)] ∧ endedOf sampleTapTrace = 1 ∧
        (writtenOf sampleTapTrace).Sublist (removedOf (deviceOf sampleTapTrace)) := by
  have traced : (Machine.run (Network.step (some endpointRecoveryTimeout)) (Network.start .default)
      sampleTapEvents).map Prod.snd = some sampleTapTrace := by decide +kernel
  obtain ⟨⟨network, _⟩, ran, rfl⟩ := Option.map_eq_some_iff.mp traced
  refine ⟨network, ran, rfl, rfl, rfl, (wifiToTap_delivery ran (by decide) ?_).2.2.2.1⟩
  intro session
  exact Nat.lt_of_le_of_lt (List.length_filter_le _ _) (by decide)

end Lamella

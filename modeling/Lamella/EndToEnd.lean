import Lamella.FirmwareChecks
import Lamella.TapDelivery
import Lamella.TapNetwork

/-!
Delivery from end to end: from the TAP device to the radio and from the radio to the TAP device,
over every run of sessions, readers, link and device.
-/

namespace Lamella

/-- The requests `wifi_tx_server` handed over for a session. -/
def handedFor (session : UInt64) (outputs : List DeviceOutput) : List (Packet WifiTxRequest) :=
  (handedOf outputs).filter fun packet => packet.t.transaction.session = session

section

variable {recoveryTimeout : Option Nat} {injector : EndpointFaultInjector}
  {events : List NetworkEvent} {network : Network} {trace : List NetworkOutput}
  (ran : Machine.run (Network.step recoveryTimeout) (Network.start injector) events =
    some (network, trace))

include ran

theorem takenOf_increasing :
    ((takenOf trace).map fun packet => packet.serial).Pairwise (· < ·) := by
  have increasing := (Network.run_allNumbered ran .tx).increasing
  rwa [begunOf_tx, List.map_map] at increasing

theorem handedOf_subset_takenOf : handedOf (deviceOf trace) ⊆ takenOf trace := by
  intro packet member
  exact mem_takenOf_iff.mpr
    (Network.run_attributed ran _ (mem_deviceOf.mp (mem_handedOf.mp member)))

theorem mine_iff_of_taken {packet : Packet WifiTxRequest} (member : packet ∈ takenOf trace)
    (session : UInt64) (served : Option Nat) (waiting : Bool) :
    StopAndWait.Mine (OfSession session)
        ((network.endpoint .tx).abstract .tx trace served waiting) packet.serial ↔
      packet.t.transaction.session = session :=
  (Network.run_allNumbered ran .tx).mine_iff (mem_takenOf_iff.mp member) served waiting session

theorem numbersOf_eq_takenBy (session : UInt64) (served : Option Nat) (waiting : Bool) :
    StopAndWait.numbersOf (OfSession session)
        ((network.endpoint .tx).abstract .tx trace served waiting) =
      (takenBy session trace).map fun packet => packet.serial := by
  have sorted : ((takenBy session trace).map fun packet => packet.serial).Pairwise (· < ·) :=
    (takenOf_increasing ran).sublist (List.filter_sublist.map _)
  refine (StopAndWait.numbersOf_increasing _).eq_of_mem_iff sorted ?_
  intro number
  rw [StopAndWait.mem_numbersOf, List.mem_map]
  constructor
  · intro own
    obtain ⟨label, begun, _⟩ := id own
    simp only [Endpoint.abstract, List.getElem?_map, Option.map_eq_some_iff] at begun
    obtain ⟨packet, found, rfl⟩ := begun
    have index := (Network.run_allNumbered ran .tx).indexed number packet found
    have member := List.mem_of_getElem? found
    rw [begunOf_tx, List.mem_map] at member
    obtain ⟨taken, present, rfl⟩ := member
    rw [← index] at own
    refine ⟨taken, List.mem_filter.mpr ⟨present, ?_⟩, index⟩
    rw [decide_eq_true_iff]
    exact (mine_iff_of_taken ran present session served waiting).mp own
  · rintro ⟨packet, member, rfl⟩
    obtain ⟨taken, own⟩ := List.mem_filter.mp member
    exact (mine_iff_of_taken ran taken session served waiting).mpr (of_decide_eq_true own)

theorem executed_eq_handedFor (session : UInt64) (served : Option Nat) (waiting : Bool) :
    (StopAndWait.ofSession (OfSession session)
        ((network.endpoint .tx).abstract .tx trace served waiting)
        (executedOf .tx trace)).map Prod.fst =
      (handedFor session (deviceOf trace)).map fun packet => packet.serial := by
  classical
  rw [StopAndWait.ofSession, executedOf_tx, List.filter_map, List.map_map, handedFor]
  refine congrArg (List.map _) (List.filter_congr ?_)
  intro packet member
  rw [Function.comp_apply, decide_eq_decide]
  exact mine_iff_of_taken ran (handedOf_subset_takenOf ran member) session served waiting

/-- The frames a session took are those handed over for it, in order, and at most one
further, and none further while the session runs without a TX transaction. -/
theorem takenBy_eq_append (distinct : (sessionsOf trace).Nodup)
    (bounded : ∀ session, (issuedBy session trace).length < 2 ^ 32) (session : UInt64) :
    ∃ unserved : List (Packet WifiTxRequest), unserved.length ≤ 1 ∧
      (network.host.runningSession = some session → network.host.current .tx = none →
        unserved = []) ∧
      takenBy session trace = handedFor session (deviceOf trace) ++ unserved := by
  obtain ⟨served, waiting, refines, labels⟩ := delivery_refines ran distinct bounded session .tx
  obtain ⟨numbers, short, settled, split⟩ :=
    StopAndWait.begun_eq_executed_append refines.reached labels
  have executed := executed_eq_handedFor ran session served waiting
  rw [numbersOf_eq_takenBy ran session] at split
  change _ = (StopAndWait.ofSession _ _ (executedOf .tx trace)).map Prod.fst ++ numbers at split
  rw [executed, List.map_eq_append_iff] at split
  obtain ⟨front, unserved, whole, same, rest⟩ := split
  have frontTaken : front ⊆ takenOf trace := by
    intro packet member
    exact List.mem_of_mem_filter (show packet ∈ takenBy session trace by simp [whole, member])
  have handedSorted : ((handedFor session (deviceOf trace)).map
      fun packet => packet.serial).Pairwise (· < ·) := by
    rw [← executed, List.pairwise_map]
    exact StopAndWait.ofSession_increasing refines.reached.sound.executions.sorted
  have handed : handedFor session (deviceOf trace) = front := by
    have sublist : (handedFor session (deviceOf trace)).Sublist front := by
      refine StopAndWait.increasing_sublist handedSorted (by rwa [same]) ?_
      intro packet member
      have number : packet.serial ∈ front.map fun packet => packet.serial := by
        rw [same]
        exact List.mem_map_of_mem member
      obtain ⟨other, present, equal⟩ := List.mem_map.mp number
      have taken := handedOf_subset_takenOf ran (List.mem_of_mem_filter member)
      rwa [StopAndWait.increasing_inj (takenOf_increasing ran) taken (frontTaken present)
        equal.symm]
    refine sublist.eq_of_length ?_
    simpa using congrArg List.length same.symm
  refine ⟨unserved, ?_, ?_, by rw [whole, handed]⟩
  · rw [← List.length_map, rest]
    exact short
  · intro running idle
    rcases refines.gate running with unbegun | ⟨last, acknowledged⟩
    · -- The session has begun no TX transaction, so it has taken nothing.
      rw [List.eq_nil_iff_forall_not_mem]
      intro packet member
      obtain ⟨taken, own⟩ := List.mem_filter.mp
        (show packet ∈ takenBy session trace by simp [whole, member])
      have mine : packet.t.transaction.session = session := of_decide_eq_true own
      exact unbegun packet.t.transaction (List.mem_map.mpr ⟨_, mem_takenOf_iff.mp taken, rfl⟩) mine
    · rw [settled ⟨acknowledged idle, last⟩, List.map_eq_nil_iff] at rest
      exact rest

/-! With a single session nothing has to be told apart. -/

theorem takenOf_single (distinct : (sessionsOf trace).Nodup)
    (bounded : ∀ session, (issuedBy session trace).length < 2 ^ 32) {session : UInt64}
    (only : ∀ other ∈ sessionsOf trace, other = session) :
    ∃ unserved : List (Packet WifiTxRequest), unserved.length ≤ 1 ∧
      (network.host.runningSession = some session → network.host.current .tx = none →
        unserved = []) ∧
      takenOf trace = handedOf (deviceOf trace) ++ unserved := by
  obtain ⟨unserved, short, settled, split⟩ := takenBy_eq_append ran distinct bounded session
  have own {packet : Packet WifiTxRequest} (member : packet ∈ takenOf trace) :
      packet.t.transaction.session = session :=
    only _ ((Network.run_allNumbered ran .tx).started _ (mem_takenOf_iff.mp member))
  have taken : takenBy session trace = takenOf trace :=
    List.filter_eq_self.mpr fun packet member => decide_eq_true (own member)
  have handed : handedFor session (deviceOf trace) = handedOf (deviceOf trace) :=
    List.filter_eq_self.mpr fun packet member =>
      decide_eq_true (own (handedOf_subset_takenOf ran member))
  rw [taken, handed] at split
  exact ⟨unserved, short, settled, split⟩

theorem removedOf_single (distinct : (sessionsOf trace).Nodup)
    (bounded : ∀ session, (issuedBy session trace).length < 2 ^ 32) {session : UInt64}
    (only : ∀ other ∈ sessionsOf trace, other = session) :
    ∃ pending : List WifiFrame, pending.length ≤ 1 ∧
      (removedOf (deviceOf trace)).map Prod.snd = (writtenOf trace).map Prod.snd ++ pending := by
  obtain ⟨pending, short, _, split⟩ := removedFor_eq_append ran distinct bounded session
  have removed : (removedOf (deviceOf trace)).map Prod.snd =
      removedFor session (deviceOf trace) := by
    rw [removedFor, List.filter_eq_self.mpr, removedOf, List.map_map]
    · rfl
    · intro removal member
      obtain ⟨_, request, begun, matched⟩ :=
        Network.run_attributed ran _ (mem_removalsOf member).1
      rw [decide_eq_true_iff, show removal.1.t.transaction = request.transaction from matched]
      exact only _ ((Network.run_allNumbered ran .rx).started _ begun)
  have written : (writtenOf trace).map Prod.snd = writtenBy session trace := by
    rw [writtenBy, List.filter_eq_self.mpr, writtenOf, List.map_map]
    · rfl
    · intro write member
      rw [decide_eq_true_iff]
      exact only _ ((Network.run_allNumbered ran .rx).started _
        (Network.run_attributed ran _ (mem_writesOf member)))
  exact ⟨pending, short, by rw [removed, split, written]⟩

end

theorem TxStage.inFlight {server : TxServerPhase} {host : List WifiFrame} {custody : HostCustody}
    {tokens : List Nat} {handed : List (Packet WifiTxRequest)} {accepted : List WifiFrame}
    (stage : TxStage server host custody tokens handed accepted) :
    ∃ inFlight : List WifiFrame, inFlight.length ≤ 1 ∧
      handed.map (·.t.frame) = accepted ++ inFlight := by
  cases stage with
  | quiet resting => exact ⟨[], by simp, by simp⟩
  | @queued packet earlier => exact ⟨[packet.t.frame], by simp, by simp⟩
  | @holding packet earlier => exact ⟨[packet.t.frame], by simp, by simp⟩
  | transmitted => exact ⟨[], by simp, by simp⟩
  | completed => exact ⟨[], by simp, by simp⟩

theorem removedOf_frames (outputs : List DeviceOutput) :
    (removedOf outputs).map Prod.snd = dequeuedOf outputs := by
  rw [removedOf, removalsOf, List.map_map, List.map_filterMap, dequeuedOf]
  congr 1
  funext packet
  cases packet.t.frame <;> rfl

section

/-! The setting: sessions with distinct ids that each issue fewer than 2^32 ids. -/

variable {recoveryTimeout : Option Nat} {injector : EndpointFaultInjector}
  {events : List TapNetworkEvent} {whole : TapNetwork} {trace : List TapNetworkOutput}
  (ran : Machine.run (TapNetwork.step recoveryTimeout) (.start injector) events =
    some (whole, trace))
  (distinct : (sessionsOf (networkOf trace)).Nodup)
  (bounded : ∀ session, (issuedBy session (networkOf trace)).length < 2 ^ 32)

include ran distinct bounded

/-- For each session the frames handed over to the radio are the first frames its reader accepted,
in order and without gaps, and at most three are missing at the end; while the session runs and
no TX transaction is open, exactly those that are still in the channel and with the reader.  The
radio has accepted all frames handed over except possibly the last. -/
theorem tapToRadio_delivery :
    (∀ session, ∃ missing : List WifiFrame, missing.length ≤ 3 ∧
        (whole.network.host.runningSession = some session →
          whole.network.host.current .tx = none →
          (whole.tap session).reader.isReturned = false →
          missing = (whole.tap session).tapRx.items ++ (whole.tap session).reader.frame.toList) ∧
        tapAcceptedBy session trace =
          (handedFor session (deviceOf (networkOf trace))).map (·.t.frame) ++ missing) ∧
      ∃ inFlight : List WifiFrame, inFlight.length ≤ 1 ∧
        (handedOf (deviceOf (networkOf trace))).map (·.t.frame) =
          acceptedOf (deviceOf (networkOf trace)) ++ inFlight := by
  obtain ⟨networkEvents, metrics, networkRan⟩ := TapNetwork.run_network ran
  obtain ⟨deviceEvents, deviceRan⟩ := Network.run_device networkRan
  refine ⟨?_, (Device.run_txPipeline deviceRan).stage.inFlight⟩
  intro session
  have once := List.nodup_iff_count_le_one.mp distinct session
  obtain ⟨pending, flow⟩ := TapNetwork.run_flow ran once
  obtain ⟨unserved, short, settled, taken⟩ := takenBy_eq_append networkRan distinct bounded session
  refine ⟨unserved.map (·.t.frame) ++ (whole.tap session).tapRx.items ++ pending.toList, ?_, ?_, ?_⟩
  · have := (whole.tap session).tapRx.bounded
    have : pending.toList.length ≤ 1 := Option.length_toList_le
    simp only [List.length_append, List.length_map]
    omega
  · intro running idle reading
    rw [settled running idle, flow.reading reading]
    rfl
  · rw [flow.accepted, taken]
    simp

/-- The frames written to the TAP device are frames of legal length the radio delivered, in order
and each at most once.  One may be lost with each session that has ended; all others are in the
current transaction, in the queue or with the bridge task.  In a single session nothing is lost:
the frames written, at most one under way, the queue and the held frame are what the radio
delivered. -/
theorem radioToTap_delivery :
    ((writtenOf (networkOf trace)).map Prod.snd).Sublist
        ((consumedOf (deviceOf (networkOf trace))).filterMap WifiFrame.extendFromSlice) ∧
      ((consumedOf (deviceOf (networkOf trace))).filterMap WifiFrame.extendFromSlice).length ≤
        (writtenOf (networkOf trace)).length + endedOf (networkOf trace) +
          (if (whole.network.host.current .rx).isSome then 1 else 0) +
          whole.network.device.wifiToHost.items.length +
          whole.network.device.bridge.heldFrame.toList.length ∧
      ∀ session, (∀ other ∈ sessionsOf (networkOf trace), other = session) →
        ∃ pending : List WifiFrame, pending.length ≤ 1 ∧
          (consumedOf (deviceOf (networkOf trace))).filterMap WifiFrame.extendFromSlice =
            (writtenOf (networkOf trace)).map Prod.snd ++ pending ++
              whole.network.device.wifiToHost.items ++
              whole.network.device.bridge.heldFrame.toList := by
  obtain ⟨networkEvents, metrics, networkRan⟩ := TapNetwork.run_network ran
  obtain ⟨deviceEvents, deviceRan⟩ := Network.run_device networkRan
  obtain ⟨passed, waiting⟩ := Device.run_rxPipeline deviceRan
  rw [waiting, ← removedOf_frames] at passed
  rw [← passed]
  have written : (writtenOf (networkOf trace)).Sublist
      (removedOf (deviceOf (networkOf trace))) := by
    obtain ⟨_, _, refines, labels⟩ := delivery_refines networkRan distinct bounded 0 .rx
    rw [Network.run_writes networkRan, ← framed_executedOf_rx]
    exact (StopAndWait.accepted_sublist_executed refines.reached labels).filterMap _
  refine ⟨?_, ?_, ?_⟩
  · refine (written.map Prod.snd).trans ?_
    rw [List.append_assoc]
    exact List.sublist_append_left _ _
  · have lost := length_removedOf_le networkRan distinct bounded
    rw [show (whole.network.withMetrics metrics).host.current .rx =
      whole.network.host.current .rx from rfl] at lost
    simp only [List.length_append, List.length_map, Network.withMetrics]
    omega
  · intro session only
    obtain ⟨pending, short, split⟩ := removedOf_single networkRan distinct bounded only
    exact ⟨pending, short, by rw [split]; rfl⟩

end

/-- The first of three frames reaches the radio; then the device queues two received frames, of
which one reaches the TAP device, while the second and the third frame wait. -/
def sampleWholeEvents : List TapNetworkEvent :=
  [.network (.session 7), .reader 7 (.recv (.ok [255, 1])), .reader 7 (.sent true),
    .network (.host (.tryRecv (some sampleTapFrame))), .network (.host (.attempt 0 samplePeer)),
    .reader 7 (.recv (.ok [1])), .network (.arrive .tx), .reader 7 (.sent true),
    .network (.device (.txServer true)), .network (.device (.bridge ⟨true, none, 0⟩)),
    .network (.device (.bridge ⟨true, none, 0⟩)), .network (.device (.bridge ⟨true, none, 0⟩)),
    .reader 7 (.recv (.ok [2])), .network (.device (.bridge ⟨true, none, 3⟩)),
    .network (.device (.txServer true)), .network (.device (.txServer true)),
    .network (.deliver .tx 0 4 .primary), .network (.device (.bridge ⟨true, some [1, 2], 0⟩)),
    .network (.device (.bridge ⟨true, none, 0⟩)), .network (.device (.bridge ⟨true, some [3], 0⟩)),
    .network (.device (.bridge ⟨true, none, 0⟩)), .network (.host .beginRx),
    .network (.host (.attempt 5 samplePeer)), .network (.arrive .rx),
    .network (.device (.rxServer false true)), .network (.device (.rxServer false true)),
    .network (.deliver .rx 0 6 .primary)]

def sampleWholeRun : Option (TapNetwork × List TapNetworkOutput) :=
  Machine.run (TapNetwork.step (some endpointRecoveryTimeout)) (.start .default) sampleWholeEvents

theorem sampleWholeRun_setting {whole : TapNetwork} {trace : List TapNetworkOutput}
    (ran : sampleWholeRun = some (whole, trace)) :
    sessionsOf (networkOf trace) = [7] ∧
      ∀ session, (issuedBy session (networkOf trace)).length < 2 ^ 32 := by
  have reached : sampleWholeRun.map (fun result => sessionsOf (networkOf result.2)) = some [7] := by
    decide +kernel
  have issued : sampleWholeRun.map (fun result => (issuedOf (networkOf result.2)).length) =
      some 2 := by
    decide +kernel
  rw [ran, Option.map_some, Option.some.injEq] at reached issued
  refine ⟨reached, fun session => ?_⟩
  exact Nat.lt_of_le_of_lt (List.length_filter_le _ _)
    (show (issuedOf (networkOf trace)).length < 2 ^ 32 by rw [issued]; decide)

theorem tapToRadio_delivery_sample :
    ∃ whole trace, sampleWholeRun = some (whole, trace) ∧
      (tapAcceptedBy 7 trace).length = 3 ∧
      handedFor 7 (deviceOf (networkOf trace)) = [⟨0, ⟨⟨7, 0⟩, sampleTapFrame⟩⟩] ∧
      ∃ missing : List WifiFrame, missing.length ≤ 3 ∧
        tapAcceptedBy 7 trace =
          (handedFor 7 (deviceOf (networkOf trace))).map (·.t.frame) ++ missing := by
  have reached : sampleWholeRun.map (fun result =>
      ((tapAcceptedBy 7 result.2).length, handedFor 7 (deviceOf (networkOf result.2)))) =
        some (3, [⟨0, ⟨⟨7, 0⟩, sampleTapFrame⟩⟩]) := by
    decide +kernel
  obtain ⟨⟨whole, trace⟩, ran, seen⟩ := Option.map_eq_some_iff.mp reached
  obtain ⟨accepted, handed⟩ := Prod.mk.inj seen
  obtain ⟨sessions, bounded⟩ := sampleWholeRun_setting ran
  have distinct : (sessionsOf (networkOf trace)).Nodup := by
    rw [sessions]
    decide
  obtain ⟨missing, short, _, split⟩ := (tapToRadio_delivery ran distinct bounded).1 7
  exact ⟨whole, trace, ran, accepted, handed, missing, short, split⟩

theorem radioToTap_delivery_sample :
    ∃ whole trace, sampleWholeRun = some (whole, trace) ∧
      consumedOf (deviceOf (networkOf trace)) = [[1, 2], [3]] ∧
      (writtenOf (networkOf trace)).map Prod.snd = [sampleAirFrame] ∧
      ((writtenOf (networkOf trace)).map Prod.snd).Sublist
        ((consumedOf (deviceOf (networkOf trace))).filterMap WifiFrame.extendFromSlice) := by
  have reached : sampleWholeRun.map (fun result =>
      (consumedOf (deviceOf (networkOf result.2)), (writtenOf (networkOf result.2)).map Prod.snd)) =
        some ([[1, 2], [3]], [sampleAirFrame]) := by
    decide +kernel
  obtain ⟨⟨whole, trace⟩, ran, seen⟩ := Option.map_eq_some_iff.mp reached
  obtain ⟨consumed, written⟩ := Prod.mk.inj seen
  obtain ⟨sessions, bounded⟩ := sampleWholeRun_setting ran
  have distinct : (sessionsOf (networkOf trace)).Nodup := by
    rw [sessions]
    decide
  exact ⟨whole, trace, ran, consumed, written, (radioToTap_delivery ran distinct bounded).1⟩

end Lamella

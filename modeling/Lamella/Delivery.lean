import Lamella.NetworkRefinement
import Lamella.NetworkTraces

/-!
Delivery from the host to the radio: over every run of sessions and device, frames are
handed over in the order they were taken, each at most once, and no acknowledged frame is
lost.
-/

namespace Lamella

/-- The requests made for the frames taken from `tap_rx`. -/
def takenOf (trace : List NetworkOutput) : List (Packet WifiTxRequest) :=
  trace.filterMap fun
    | .host number (.began (.tx request)) => some ⟨number, request⟩
    | _ => none

def acknowledgedTxOf (trace : List NetworkOutput) : List (Packet WifiTxRequest) :=
  trace.filterMap fun
    | .host number (.acknowledged (.tx request) _) => some ⟨number, request⟩
    | _ => none

theorem begunOf_tx (trace : List NetworkOutput) :
    begunOf .tx trace = (takenOf trace).map fun packet => ⟨packet.serial, .tx packet.t⟩ := by
  unfold begunOf takenOf
  rw [List.map_filterMap]
  congr 1
  funext output
  match output with
  | .host _ (.began (.tx _)) => rfl
  | .host _ (.began (.rx _)) => rfl
  | .host _ (.requested ..) | .host _ (.resolved ..) | .host _ (.acknowledged ..)
  | .host _ (.tapSend ..) | .host _ (.returned ..) | .session _ | .device _ => rfl

theorem executedOf_tx (trace : List NetworkOutput) :
    executedOf .tx trace = (handedOf (deviceOf trace)).map fun packet => (packet.serial, none) := by
  unfold executedOf handedOf
  rw [List.map_filterMap]
  congr 1
  funext output
  cases output <;> rfl

theorem acknowledgedOf_tx (trace : List NetworkOutput) :
    (acknowledgedOf .tx trace).map Prod.fst =
      (acknowledgedTxOf trace).map fun packet => packet.serial := by
  unfold acknowledgedOf acknowledgedTxOf
  rw [List.map_filterMap, List.map_filterMap]
  congr 1
  funext output
  match output with
  | .host _ (.acknowledged (.tx _) _) => rfl
  | .host _ (.acknowledged (.rx _) _) => rfl
  | .host _ (.requested ..) | .host _ (.resolved ..) | .host _ (.began ..)
  | .host _ (.tapSend ..) | .host _ (.returned ..) | .session _ | .device _ => rfl

theorem mem_takenOf_iff {trace : List NetworkOutput} {packet : Packet WifiTxRequest} :
    packet ∈ takenOf trace ↔ ⟨packet.serial, .tx packet.t⟩ ∈ begunOf .tx trace := by
  obtain ⟨serial, request⟩ := packet
  simp only [begunOf_tx, List.mem_map, Packet.mk.injEq, Request.tx.injEq]
  constructor
  · intro member
    exact ⟨_, member, rfl, rfl⟩
  · rintro ⟨⟨_, _⟩, member, rfl, rfl⟩
    exact member

theorem mem_acknowledgedTxOf {trace : List NetworkOutput} {packet : Packet WifiTxRequest}
    (member : packet ∈ acknowledgedTxOf trace) :
    ∃ response, .host packet.serial (.acknowledged (.tx packet.t) response) ∈ trace := by
  obtain ⟨output, inTrace, acknowledged⟩ := List.mem_filterMap.mp member
  split at acknowledged
  · cases acknowledged
    exact ⟨_, inTrace⟩
  · contradiction

theorem Numbered.increasing {direction : Direction} {endpoint : Endpoint}
    {begun : List (Packet Request)} {sessions : List UInt64}
    (numbered : Numbered direction endpoint begun sessions) :
    (begun.map fun packet => packet.serial).Pairwise (· < ·) := by
  rw [List.pairwise_map, List.pairwise_iff_getElem]
  intro first second firstBound secondBound below
  rwa [numbered.indexed first _ (List.getElem?_eq_getElem firstBound),
    numbered.indexed second _ (List.getElem?_eq_getElem secondBound)]

section

/-! The setting: sessions with distinct ids that each issue fewer than 2^32 ids. -/

variable {recoveryTimeout : Option Nat} {injector : EndpointFaultInjector}
  {events : List NetworkEvent} {network : Network} {trace : List NetworkOutput}
  (ran : Machine.run (Network.step recoveryTimeout) (Network.start injector) events =
    some (network, trace))
  (distinct : (sessionsOf trace).Nodup)
  (bounded : ∀ session, (issuedBy session trace).length < 2 ^ 32)

include ran distinct bounded

/-- Both endpoints refine the stop-and-wait protocol, and no label repeats. -/
theorem delivery_refines (session : UInt64) (direction : Direction) :
    ∃ served waiting,
      Refines False session direction (network.endpoint direction) trace served waiting ∧
        ((network.endpoint direction).abstract direction trace served waiting).begun.Nodup := by
  have once := List.nodup_iff_count_le_one.mp distinct session
  obtain ⟨served, waiting, refines⟩ :=
    Network.run_refines ran (fun _ _ impossible => False.elim impossible) once direction
  exact ⟨served, waiting, refines, begun_distinct (issued_distinct ran distinct bounded) direction⟩

/-- Every handed frame was taken from `tap_rx`, in the same order and at most once, and
every acknowledged frame was handed over. -/
theorem hostToWifi_delivery :
    (handedOf (deviceOf trace)).Sublist (takenOf trace) ∧
      ((handedOf (deviceOf trace)).map fun packet => packet.serial).Nodup ∧
      (acknowledgedTxOf trace).Sublist (handedOf (deviceOf trace)) := by
  obtain ⟨served, waiting, refines, labels⟩ := delivery_refines ran distinct bounded 0 .tx
  have sound := refines.reached.sound
  have attributed := Network.run_attributed ran
  have takenSorted : ((takenOf trace).map fun packet => packet.serial).Pairwise (· < ·) := by
    have increasing := (Network.run_allNumbered ran .tx).increasing
    rwa [begunOf_tx, List.map_map] at increasing
  have handedSorted :
      ((handedOf (deviceOf trace)).map fun packet => packet.serial).Pairwise (· < ·) := by
    have sorted := sound.executions.sorted
    simp only [Endpoint.abstract] at sorted
    rwa [executedOf_tx, List.map_map] at sorted
  have acknowledgedSorted :
      ((acknowledgedTxOf trace).map fun packet => packet.serial).Pairwise (· < ·) := by
    rw [← acknowledgedOf_tx]
    exact sound.acceptances.sorted
  have handedTaken : handedOf (deviceOf trace) ⊆ takenOf trace := by
    intro packet member
    exact mem_takenOf_iff.mpr (attributed _ (mem_deviceOf.mp (mem_handedOf.mp member)))
  refine ⟨StopAndWait.increasing_sublist handedSorted takenSorted handedTaken, handedSorted.nodup,
    StopAndWait.increasing_sublist acknowledgedSorted handedSorted ?_⟩
  -- An acknowledged transaction was executed under its own number, by handing over its frame.
  intro packet member
  obtain ⟨response, said⟩ := mem_acknowledgedTxOf member
  have taken : packet ∈ takenOf trace := mem_takenOf_iff.mpr (attributed _ said).1
  have accepted : (packet.serial, response.frame) ∈ acknowledgedOf .tx trace :=
    List.mem_filterMap.mpr ⟨_, said, rfl⟩
  have executed : (packet.serial, response.frame) ∈ executedOf .tx trace :=
    (sound.executions.accepted _ accepted).executed labels
  rw [executedOf_tx] at executed
  obtain ⟨handed, present, same⟩ := List.mem_map.mp executed
  have equal := StopAndWait.increasing_inj takenSorted (handedTaken present) taken
    (Prod.mk.inj same).1
  exact equal ▸ present

end

def sampleTapFrame : WifiFrame := ⟨[255, 1], by decide⟩

def samplePeer : Address := ⟨1, 2, 0⟩

def sampleDeliveryEvents : List NetworkEvent :=
  [.session 7, .host (.tryRecv (some sampleTapFrame)), .host (.attempt 0 samplePeer),
    .host (.wait 250 .warning), .arrive .tx, .device (.txServer true),
    .device (.bridge ⟨true, none, 0⟩), .device (.bridge ⟨true, none, 0⟩),
    .device (.bridge ⟨true, none, 0⟩), .device (.bridge ⟨true, none, 2⟩),
    .device (.txServer true), .device (.txServer true), .arrive .tx, .device (.txServer true),
    .deliver .tx 1 260 .backup]

def sampleDeliveryTrace : List NetworkOutput :=
  let request : WifiTxRequest := ⟨⟨7, 0⟩, sampleTapFrame⟩
  [.session 7, .host 0 (.began (.tx request)),
    .host 0 (.requested (.tx request) samplePeer .primary false),
    .host 0 (.requested (.tx request) samplePeer .backup false), .device (.handed ⟨0, request⟩),
    .device (.accepted sampleTapFrame), .device .completion, .device (.response ⟨0, .tx ⟨⟨7, 0⟩⟩⟩),
    .device (.replayed ⟨0, .tx ⟨⟨7, 0⟩⟩⟩), .device (.response ⟨0, .tx ⟨⟨7, 0⟩⟩⟩),
    .host 0 (.resolved (.tx request) .backup (.ok (.tx ⟨⟨7, 0⟩⟩))),
    .host 0 (.acknowledged (.tx request) (.tx ⟨⟨7, 0⟩⟩))]

theorem hostToWifi_delivery_sample :
    ∃ network,
      Machine.run (Network.step (some endpointRecoveryTimeout)) (Network.start .default)
          sampleDeliveryEvents = some (network, sampleDeliveryTrace) ∧
        acknowledgedTxOf sampleDeliveryTrace = [⟨0, ⟨⟨7, 0⟩, sampleTapFrame⟩⟩] ∧
        (acknowledgedTxOf sampleDeliveryTrace).Sublist (handedOf (deviceOf sampleDeliveryTrace)) := by
  have traced : (Machine.run (Network.step (some endpointRecoveryTimeout)) (Network.start .default)
      sampleDeliveryEvents).map Prod.snd = some sampleDeliveryTrace := by decide +kernel
  obtain ⟨⟨network, _⟩, ran, rfl⟩ := Option.map_eq_some_iff.mp traced
  refine ⟨network, ran, rfl, (hostToWifi_delivery ran (by decide) ?_).2.2⟩
  intro session
  exact Nat.lt_of_le_of_lt (List.length_filter_le _ _) (by decide)

end Lamella

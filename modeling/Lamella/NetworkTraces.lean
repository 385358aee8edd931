import Lamella.NetworkSessions

/-!
What the outputs of a run refer to: every output about a request is about the request its
number was given to.  The device part of a run is a run of the device on its own.
-/

namespace Lamella

def Attributed (trace : List NetworkOutput) : NetworkOutput → Prop
  | .device (.handed packet) => ⟨packet.serial, .tx packet.t⟩ ∈ begunOf .tx trace
  | .device (.answered packet) =>
      Answers .rx (begunOf .rx trace) ⟨packet.serial, .rx packet.t⟩
  | .device (.replayed packet) =>
      Answers packet.t.direction (begunOf packet.t.direction trace) packet
  | .host number (.acknowledged request response) =>
      ⟨number, request⟩ ∈ begunOf request.direction trace ∧
        response.transaction = request.transaction
  | .host number (.tapSend request _) => ⟨number, request⟩ ∈ begunOf .rx trace
  | _ => True

theorem Attributed.mono {past : List NetworkOutput} {output : NetworkOutput}
    (attributed : Attributed past output) (later : List NetworkOutput) :
    Attributed (past ++ later) output := by
  have grow {direction : Direction} {packet : Packet Request}
      (member : packet ∈ begunOf direction past) : packet ∈ begunOf direction (past ++ later) := by
    rw [begunOf_append]
    exact List.mem_append_left _ member
  have answer {direction : Direction} {packet : Packet Response}
      (answers : Answers direction (begunOf direction past) packet) :
      Answers direction (begunOf direction (past ++ later)) packet := by
    rw [begunOf_append]
    exact answers.append _
  unfold Attributed at attributed ⊢
  split
  · exact grow attributed
  · exact answer attributed
  · exact answer attributed
  · exact ⟨grow attributed.1, attributed.2⟩
  · exact grow attributed
  · trivial

theorem DeviceMoves.origin {device next : Device} {event : DeviceEvent}
    {output : List DeviceOutput} (moved : DeviceMoves device event next output) :
    (∀ packet, .handed packet ∈ output →
        device.server .tx = .received ⟨packet.serial, .tx packet.t⟩) ∧
      (∀ packet, .answered packet ∈ output → ∃ request,
        device.server .rx = .received ⟨packet.serial, .rx request⟩ ∧
          packet.t.transaction = request.transaction) ∧
      ∀ packet, .replayed packet ∈ output → ∃ request,
        event = .request ⟨packet.serial, request⟩ ∧ packet.t.direction = request.direction ∧
          packet.t.transaction = request.transaction := by
  cases moved with
  | bridge poll scheduled moved => cases moved <;> simp
  | txServer moved =>
      cases moved with
      | @known packet idle completed =>
          refine ⟨by simp, by simp, ?_⟩
          intro other member
          rw [List.mem_singleton, DeviceOutput.replayed.injEq] at member
          subst member
          exact ⟨.tx packet.t, rfl, rfl, rfl⟩
      | @send packet hostToWifi delivered phase pushed =>
          refine ⟨?_, by simp, by simp⟩
          intro other member
          rw [List.mem_singleton, DeviceOutput.handed.injEq] at member
          subst member
          simp only [Device.server, phase, TxServerPhase.view]
      | @respond packet delivered phase => cases delivered <;> simp
      | _ => simp
  | rxServer moved =>
      cases moved with
      | @known packet response idle cached matched =>
          refine ⟨by simp, by simp, ?_⟩
          intro other member
          rw [List.mem_singleton, DeviceOutput.replayed.injEq] at member
          subst member
          exact ⟨.rx packet.t, rfl, rfl, matched⟩
      | @frame packet wifiToHost frame timer delivered phase taken =>
          refine ⟨by simp, ?_, by simp⟩
          intro other member
          rw [List.mem_singleton, DeviceOutput.answered.injEq] at member
          subst member
          exact ⟨packet.t, by simp only [Device.server, phase, RxServerPhase.view], rfl⟩
      | @timeout packet delivered phase empty =>
          refine ⟨by simp, ?_, by simp⟩
          intro other member
          rw [List.mem_singleton, DeviceOutput.answered.injEq] at member
          subst member
          exact ⟨packet.t, by simp only [Device.server, phase, RxServerPhase.view], rfl⟩
      | @respond packet timer delivered phase => cases delivered <;> simp
      | _ => simp

theorem Network.step_device {recoveryTimeout : Option Nat} {network next : Network}
    {event : NetworkEvent} {output : List NetworkOutput}
    (stepped : network.step recoveryTimeout event = some (next, output)) :
    (next.device = network.device ∧ ∀ said, .device said ∉ output) ∨
      ∃ deviceEvent outputs, network.device.step deviceEvent = some (next.device, outputs) ∧
        output = outputs.map .device ∧
        ∀ packet, deviceEvent = .request packet →
          ∃ direction, packet ∈ (network.path direction).link := by
  cases Network.step_moves stepped with
  | session id returned => exact .inl ⟨rfl, by simp⟩
  | host unanswered exchanged => exact .inl ⟨rfl, by simp [Network.absorbHost, Paths.numbered]⟩
  | deliver found exchanged erased => exact .inl ⟨rfl, by simp [Network.absorbHost, Paths.numbered]⟩
  | loseRequest direction position => exact .inl ⟨rfl, by simp⟩
  | loseResponse direction position => exact .inl ⟨rfl, by simp⟩
  | @arrive direction packet rest device outputs first received =>
      refine .inr ⟨_, _, received, rfl, ?_⟩
      rintro other ⟨⟩
      exact ⟨direction, by simp [first]⟩
  | device worked => exact .inr ⟨_, _, worked, rfl, fun _ request => (by cases request)⟩

/-- The device part of a run is a run of the device. -/
theorem Network.run_device {recoveryTimeout : Option Nat} {injector : EndpointFaultInjector}
    {events : List NetworkEvent} {network : Network} {trace : List NetworkOutput}
    (ran : Machine.run (Network.step recoveryTimeout) (Network.start injector) events =
      some (network, trace)) :
    ∃ deviceEvents,
      Machine.run Device.step Device.boot deviceEvents = some (network.device, deviceOf trace) := by
  have initially : ∃ deviceEvents, Machine.run Device.step Device.boot deviceEvents =
      some ((Network.start injector).device, deviceOf []) := ⟨[], rfl⟩
  have kept := Machine.run_invariant
    (fun network past => ∃ deviceEvents,
      Machine.run Device.step Device.boot deviceEvents = some (network.device, deviceOf past))
    (fun _ => True) ?_ (fun _ _ => trivial) initially ran
  · simpa using kept
  · rintro network past event next output _ ⟨deviceEvents, reached⟩ stepped
    rw [deviceOf_append]
    rcases Network.step_device stepped with ⟨same, silent⟩ | ⟨deviceEvent, outputs, moved, rfl, _⟩
    · have unsaid : deviceOf output = [] := by
        rw [deviceOf, List.filterMap_eq_nil_iff]
        intro said member
        cases said with
        | device said => exact absurd member (silent said)
        | _ => rfl
      exact ⟨deviceEvents, by rw [same, unsaid, List.append_nil, reached]⟩
    · rw [deviceOf_map]
      refine ⟨deviceEvents ++ [deviceEvent], Machine.run_append reached ?_⟩
      exact (Machine.run_cons_iff _ _ _ _ _).mpr ⟨_, _, [], moved, rfl, by simp⟩

theorem Network.AllNumbered.device_attributed {network : Network} {past : List NetworkOutput}
    (numbered : network.AllNumbered past) {event : DeviceEvent} {next : Device}
    {outputs : List DeviceOutput} (moved : DeviceMoves network.device event next outputs)
    (arrived : ∀ packet, event = .request packet →
      ∃ direction, packet ∈ (network.path direction).link) {said : DeviceOutput}
    (member : said ∈ outputs) : Attributed past (.device said) := by
  obtain ⟨handed, answered, replayed⟩ := moved.origin
  cases said with
  | handed packet =>
      have received : (network.endpoint .tx).server = .received ⟨packet.serial, .tx packet.t⟩ :=
        handed packet member
      exact (numbered .tx).server _ (by rw [received]; rfl)
  | answered packet =>
      obtain ⟨request, received, matched⟩ := answered packet member
      have received : (network.endpoint .rx).server = .received ⟨packet.serial, .rx request⟩ :=
        received
      exact ⟨rfl, .rx request, (numbered .rx).server _ (by rw [received]; rfl), matched⟩
  | replayed packet =>
      obtain ⟨request, scheduled, kind, matched⟩ := replayed packet member
      obtain ⟨direction, linked⟩ := arrived _ scheduled
      have begun := (numbered direction).link _ linked
      have own := (numbered direction).kind _ begun
      refine ⟨rfl, request, ?_, matched⟩
      rw [kind, show request.direction = direction from own]
      exact begun
  | _ => trivial

def ExchangeOutput.isEnd : ExchangeOutput → Bool
  | .acknowledged _ _ | .tapSend _ _ => true
  | _ => false

theorem attributed_of_not_end {trace : List NetworkOutput} {number : Nat} {said : ExchangeOutput}
    (other : said.isEnd = false) : Attributed trace (.host number said) := by
  cases said with
  | acknowledged request response => contradiction
  | tapSend request frame => contradiction
  | _ => trivial

theorem ExchangeEffect.attributed {network target : Network} {past : List NetworkOutput}
    {event : ExchangeEvent} {host : Exchange} {outputs : List ExchangeOutput}
    (numbered : network.AllNumbered past)
    (effect : ExchangeEffect network.host event host outputs)
    (counts : ∀ direction, (target.path direction).begun = (network.path direction).begun)
    {said : NetworkOutput} (member : said ∈ (target.absorbHost host outputs).2) :
    Attributed past said := by
  obtain ⟨output, present, rfl⟩ := List.mem_map.mp member
  cases effect with
  | quiet still counter silent running returns =>
      have quiet := silent output present
      apply attributed_of_not_end
      cases output <;> first | rfl | contradiction
  | begin request before after transaction counter began running stays _ =>
      subst began
      rw [List.mem_singleton.mp present]
      exact attributed_of_not_end rfl
  | send request peer source dropped before after counter requested running stays _ =>
      subst requested
      rw [List.mem_singleton.mp present]
      exact attributed_of_not_end rfl
  | accept request response source now received before after running stays counter matched kind
      acknowledged =>
      subst acknowledged
      rw [accept_paths]
      have begun : ⟨(target.path request.direction).begun - 1, request⟩ ∈
          begunOf request.direction past := by
        have current : (network.endpoint request.direction).current = some request :=
          HostView.current_of_open before
        rw [counts]
        exact List.mem_of_getElem? ((numbered request.direction).current_mem current).2
      rcases List.mem_cons.mp present with rfl | present
      · exact attributed_of_not_end rfl
      · rcases List.mem_cons.mp present with rfl | present
        · exact ⟨begun, matched⟩
        · unfold tapWrite at present
          split at present
          · rename_i direction _
            rw [List.mem_singleton.mp present]
            change ⟨(target.path request.direction).begun - 1, request⟩ ∈ begunOf .rx past
            rw [← direction]
            exact begun
          · simp at present

theorem Network.AllNumbered.attributed {recoveryTimeout : Option Nat} {network next : Network}
    {past output : List NetworkOutput} {event : NetworkEvent} (numbered : network.AllNumbered past)
    (stepped : network.step recoveryTimeout event = some (next, output)) :
    ∀ said ∈ output, Attributed past said := by
  intro said member
  cases Network.step_moves stepped with
  | session id returned =>
      rw [List.mem_singleton.mp member]
      trivial
  | host unanswered exchanged =>
      exact (wifiExchange_effect exchanged).attributed numbered (fun _ => rfl) member
  | @deliver direction _ _ _ _ _ _ path found exchanged erased =>
      refine (wifiExchange_effect exchanged).attributed numbered (fun any => ?_) member
      by_cases own : any = direction
      · subst own
        simp [Network.setPath, erased]
      · simp [Network.setPath, own]
  | loseRequest direction position => simp at member
  | loseResponse direction position => simp at member
  | @arrive direction packet rest device outputs first received =>
      obtain ⟨output, present, rfl⟩ := List.mem_map.mp member
      refine numbered.device_attributed (Device.step_moves received) ?_ present
      rintro other ⟨⟩
      exact ⟨direction, by simp [first]⟩
  | device worked =>
      obtain ⟨output, present, rfl⟩ := List.mem_map.mp member
      refine numbered.device_attributed (Device.step_moves worked) ?_ present
      rintro other ⟨⟩

theorem Network.run_attributed {recoveryTimeout : Option Nat} {injector : EndpointFaultInjector}
    {events : List NetworkEvent} {network : Network} {trace : List NetworkOutput}
    (ran : Machine.run (Network.step recoveryTimeout) (Network.start injector) events =
      some (network, trace)) : ∀ said ∈ trace, Attributed trace said := by
  have kept := Machine.run_invariant
    (fun network past => network.AllNumbered past ∧ ∀ said ∈ past, Attributed past said)
    (fun _ => True) ?_ (fun _ _ => trivial) ⟨Network.start_allNumbered injector, by simp⟩ ran
  · rw [List.nil_append] at kept
    exact kept.2
  · rintro network past event next output _ ⟨numbered, attributed⟩ stepped
    refine ⟨numbered.step stepped, fun said member => ?_⟩
    rcases List.mem_append.mp member with old | new
    · exact (attributed said old).mono output
    · exact (numbered.attributed stepped said new).mono output

end Lamella

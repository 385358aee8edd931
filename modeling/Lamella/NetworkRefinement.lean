import Lamella.NetworkChecks
import Lamella.StopAndWaitReuse

/-!
Each endpoint of the network, with the host sessions and the device, refines the
stop-and-wait protocol: transactions are labels, and a request the server has received
but not executed counts as still in flight.
-/

namespace Lamella

def ServerView.pending : ServerView → List Nat
  | .received packet => [packet.serial]
  | .idle | .working _ | .responding _ => []

def ServerView.serving : ServerView → Option Nat
  | .working packet => some packet.serial
  | .responding packet => some packet.serial
  | .idle | .received _ => none

def Endpoint.abstract (endpoint : Endpoint) (direction : Direction) (trace : List NetworkOutput)
    (served : Option Nat) (waiting : Bool) :
    StopAndWait.State WifiTransaction (Option WifiFrame) where
  begun := (begunOf direction trace).map fun packet => packet.t.transaction
  requests := endpoint.server.pending ++ endpoint.path.link.map fun packet => packet.serial
  memory := endpoint.memory
  served
  executed := executedOf direction trace
  replayed := replayedOf direction trace
  replies := endpoint.path.responses.map fun packet => (packet.serial, packet.t.frame)
  accepted := acknowledgedOf direction trace
  waiting

def OfSession (session : UInt64) (transaction : WifiTransaction) : Prop :=
  transaction.session = session

/-- While the session runs, it has begun nothing at this endpoint or begun the latest
transaction there, which is acknowledged unless the exchange is still working on it. -/
def SessionGate (session : UInt64) (endpoint : Endpoint) (labels : List WifiTransaction)
    (waiting : Bool) : Prop :=
  endpoint.session = some session →
    (∀ label ∈ labels, ¬OfSession session label) ∨
      ((∃ last, labels.getLast? = some last ∧ OfSession session last) ∧
        (endpoint.current = none → waiting = false))

structure Refines (ordered : Prop) (session : UInt64) (direction : Direction)
    (endpoint : Endpoint) (trace : List NetworkOutput) (served : Option Nat) (waiting : Bool) :
    Prop where
  reached : StopAndWait.Reachable ordered (OfSession session)
    (endpoint.abstract direction trace served waiting)
  serving : ∀ number, endpoint.server.serving = some number → served = some number
  active : endpoint.current ≠ none → waiting = true
  gate : SessionGate session endpoint
    ((begunOf direction trace).map fun packet => packet.t.transaction) waiting

theorem abstract_append {direction : Direction} {past output : List NetworkOutput}
    {begun : List (Packet Request)} {executed replayed acknowledged : List (Nat × Option WifiFrame)}
    {sessions : List UInt64}
    (recorded : Recorded direction output begun executed replayed acknowledged sessions)
    (endpoint : Endpoint) (served : Option Nat) (waiting : Bool) :
    endpoint.abstract direction (past ++ output) served waiting =
      { endpoint.abstract direction past served waiting with
        begun := (endpoint.abstract direction past served waiting).begun ++
          begun.map fun packet => packet.t.transaction
        executed := executedOf direction past ++ executed
        replayed := replayedOf direction past ++ replayed
        accepted := acknowledgedOf direction past ++ acknowledged } := by
  simp only [Endpoint.abstract, begunOf_append, executedOf_append, replayedOf_append,
    acknowledgedOf_append, recorded.begun, recorded.executed, recorded.replayed,
    recorded.acknowledged, List.map_append]

section

variable {ordered : Prop} {session : UInt64} {direction : Direction} {before after : Endpoint}
  {past output : List NetworkOutput} {served : Option Nat} {waiting : Bool}

theorem labels_append {begun : List (Packet Request)}
    {executed replayed acknowledged : List (Nat × Option WifiFrame)} {sessions : List UInt64}
    (recorded : Recorded direction output begun executed replayed acknowledged sessions) :
    ((begunOf direction (past ++ output)).map fun packet => packet.t.transaction) =
      ((begunOf direction past).map fun packet => packet.t.transaction) ++
        begun.map fun packet => packet.t.transaction := by
  rw [begunOf_append, recorded.begun, List.map_append]

theorem labels_same {executed replayed acknowledged : List (Nat × Option WifiFrame)}
    {sessions : List UInt64}
    (recorded : Recorded direction output [] executed replayed acknowledged sessions) :
    ((begunOf direction (past ++ output)).map fun packet => packet.t.transaction) =
      (begunOf direction past).map fun packet => packet.t.transaction := by
  rw [labels_append recorded, List.map_nil, List.append_nil]

theorem abstract_same {sessions : List UInt64}
    (recorded : Recorded direction output [] [] [] [] sessions) (endpoint : Endpoint) :
    endpoint.abstract direction (past ++ output) served waiting =
      endpoint.abstract direction past served waiting := by
  rw [abstract_append recorded]
  simp [Endpoint.abstract]

theorem Numbered.labelled {sessions : List UInt64}
    (numbered : Numbered direction before (begunOf direction past) sessions)
    {packet : Packet Request} (member : packet ∈ begunOf direction past) (served : Option Nat)
    (waiting : Bool) :
    (before.abstract direction past served waiting).begun[packet.serial]? =
      some packet.t.transaction := by
  simp [Endpoint.abstract, numbered.found member]

theorem Refines.start (numbered : Numbered direction before (begunOf direction past)
      (sessionsOf past))
    (refines : Refines ordered session direction before past served waiting) {id : UInt64}
    (recorded : Recorded direction output [] [] [] [] [id])
    (once : (sessionsOf (past ++ output)).count session ≤ 1) :
    Refines ordered session direction { before with session := some id } (past ++ output)
      served waiting := by
  refine ⟨?_, refines.serving, refines.active, ?_⟩
  · rw [abstract_same recorded]
    exact refines.reached
  · -- The session starts now, so none of the earlier transactions is one of its own.
    rintro ⟨⟩
    refine .inl ?_
    rw [labels_same recorded]
    intro label member own
    obtain ⟨packet, begun, rfl⟩ := List.mem_map.mp member
    have earlier := numbered.started packet begun
    rw [show packet.t.transaction.session = session from own] at earlier
    rw [sessionsOf_append, recorded.sessions, List.count_append, List.count_singleton_self] at once
    have := List.count_pos_iff.mpr earlier
    omega

theorem Refines.begin (refines : Refines ordered session direction before past served waiting)
    {request : Request} (started : before.session = some request.transaction.session)
    (idle : before.current = none) {number : Nat}
    (recorded : Recorded direction output [⟨number, request⟩] [] [] [] []) :
    Refines ordered session direction
      { before with
        current := some request
        path := { before.path with begun := before.path.begun + 1 } }
      (past ++ output) served true := by
  refine ⟨?_, refines.serving, fun _ => rfl, ?_⟩
  · have gate : StopAndWait.Gate (OfSession session)
        (before.abstract direction past served waiting) request.transaction := by
      intro own
      rcases refines.gate (started.trans (congrArg some own)) with fresh | ⟨last, settled⟩
      · exact .inl fresh
      · exact .inr ⟨settled idle, last⟩
    rw [abstract_append recorded]
    simpa [Endpoint.abstract] using refines.reached.next (.begin request.transaction gate)
  · intro running
    refine .inr ⟨⟨request.transaction, ?_, ?_⟩, nofun⟩
    · rw [labels_append recorded]
      simp
    · exact Option.some.inj (started.symm.trans running)

theorem Refines.carry (refines : Refines ordered session direction before past served waiting)
    {executed replayed acknowledged : List (Nat × Option WifiFrame)}
    (recorded : Recorded direction output [] executed replayed acknowledged [])
    {now : Option Nat}
    (reached : StopAndWait.Reachable ordered (OfSession session)
      (after.abstract direction (past ++ output) now waiting))
    (running : after.session = before.session) (current : after.current = before.current)
    (serving : ∀ number, after.server.serving = some number → now = some number) :
    Refines ordered session direction after (past ++ output) now waiting := by
  refine ⟨reached, serving, ?_, ?_⟩
  · rw [current]
    exact refines.active
  · rw [labels_same recorded]
    unfold SessionGate
    rw [running, current]
    exact refines.gate

theorem Refines.send (numbered : Numbered direction before (begunOf direction past)
      (sessionsOf past))
    (refines : Refines ordered session direction before past served waiting) {request : Request}
    (current : before.current = some request)
    (recorded : Recorded direction output [] [] [] [] []) :
    Refines ordered session direction
      { before with
        path := { before.path with
          link := before.path.link ++ [⟨before.path.begun - 1, request⟩] } }
      (past ++ output) served waiting := by
  refine refines.carry recorded ?_ rfl rfl refines.serving
  have latest : (before.abstract direction past served waiting).begun.length =
      (before.path.begun - 1) + 1 := by
    simpa [Endpoint.abstract] using (numbered.current_mem current).1
  rw [abstract_same recorded]
  simpa [Endpoint.abstract] using refines.reached.next (.send latest)

theorem Refines.replay (numbered : Numbered direction before (begunOf direction past)
      (sessionsOf past))
    (refines : Refines ordered session direction before past served waiting)
    {packet : Packet Request} {rest : List (Packet Request)} {response : Response}
    (idle : before.server = .idle) (first : before.path.link = packet :: rest)
    (known : before.memory = some (packet.t.transaction, response.frame))
    (recorded : Recorded direction output [] [] [(packet.serial, response.frame)] [] []) :
    Refines ordered session direction
      { before with
        server := .responding ⟨packet.serial, response⟩
        path := { before.path with link := rest } }
      (past ++ output) (some packet.serial) waiting := by
  refine refines.carry recorded ?_ rfl rfl (fun number serving => by simpa [ServerView.serving] using serving)
  have requests : (before.abstract direction past served waiting).requests =
      packet.serial :: rest.map fun packet => packet.serial := by
    simp [Endpoint.abstract, idle, ServerView.pending, first]
  have labelled := numbered.labelled (numbered.link packet (by simp [first])) served waiting
  rw [abstract_append recorded]
  simpa [Endpoint.abstract, ServerView.pending] using
    refines.reached.next (.replay requests labelled known)

theorem Refines.execute (numbered : Numbered direction before (begunOf direction past)
      (sessionsOf past))
    (refines : Refines ordered session direction before past served waiting)
    {packet : Packet Request} {result : Option WifiFrame} {server : ServerView}
    (received : before.server = .received packet) (serving : server.serving = some packet.serial)
    (pending : server.pending = [])
    (recorded : Recorded direction output [] [(packet.serial, result)] [] [] []) :
    Refines ordered session direction
      { before with server, memory := some (packet.t.transaction, result) }
      (past ++ output) (some packet.serial) waiting := by
  refine refines.carry recorded ?_ rfl rfl (fun number now => by rw [← serving]; exact now)
  have requests : (before.abstract direction past served waiting).requests =
      packet.serial :: before.path.link.map fun packet => packet.serial := by
    simp [Endpoint.abstract, received, ServerView.pending]
  have labelled := numbered.labelled (numbered.server packet (by rw [received]; rfl)) served waiting
  have unknown : ∀ remembered, (before.abstract direction past served waiting).memory ≠
      some (packet.t.transaction, remembered) := numbered.unknown packet received
  rw [abstract_append recorded]
  simpa [Endpoint.abstract, pending] using
    refines.reached.next (.execute result requests labelled unknown)

theorem Refines.respond (numbered : Numbered direction before (begunOf direction past)
      (sessionsOf past))
    (refines : Refines ordered session direction before past served waiting)
    {packet : Packet Response} (delivered : Bool) (responding : before.server = .responding packet)
    (recorded : Recorded direction output [] [] [] [] []) :
    Refines ordered session direction
      { before with
        server := .idle
        path := { before.path with
          responses := before.path.responses ++ if delivered then [packet] else [] } }
      (past ++ output) served waiting := by
  refine refines.carry recorded ?_ rfl rfl nofun
  rw [abstract_same recorded]
  cases delivered with
  | false =>
      simpa [Endpoint.abstract, responding, ServerView.pending] using refines.reached
  | true =>
      have handled : (before.abstract direction past served waiting).served = some packet.serial :=
        refines.serving packet.serial (by rw [responding]; rfl)
      have known : (before.abstract direction past served waiting).memory =
          some (packet.t.transaction, packet.t.frame) := numbered.known packet responding
      simpa [Endpoint.abstract, responding, ServerView.pending] using
        refines.reached.next (.reply handled known)

theorem Refines.loseResponses
    (refines : Refines ordered session direction before past served waiting)
    {kept : List (Packet Response)} (ending : Bool)
    (remaining : kept.Sublist before.path.responses)
    (recorded : Recorded direction output [] [] [] [] []) :
    Refines ordered session direction
      { before with
        session := if ending then none else before.session
        current := if ending then none else before.current
        path := { before.path with responses := kept } }
      (past ++ output) served waiting := by
  have lost := refines.reached.next (.loseReplies (remaining.map fun packet =>
    (packet.serial, packet.t.frame)))
  refine ⟨?_, refines.serving, ?_, ?_⟩
  · rw [abstract_same recorded]
    exact lost
  · cases ending with
    | false => exact refines.active
    | true => exact fun running => absurd rfl running
  · rw [labels_same recorded]
    cases ending with
    | false => exact refines.gate
    | true => exact nofun

theorem Refines.accept (numbered : Numbered direction before (begunOf direction past)
      (sessionsOf past))
    (refines : Refines ordered session direction before past served waiting) {request : Request}
    {packet : Packet Response} {earlier later : List (Packet Response)}
    (current : before.current = some request)
    (received : before.path.responses = earlier ++ packet :: later)
    (inOrder : ordered → earlier = []) (matched : packet.t.transaction = request.transaction)
    (recorded : Recorded direction output [] [] [] [(before.path.begun - 1, packet.t.frame)] []) :
    Refines ordered session direction
      { before with
        current := none
        path := { before.path with responses := earlier ++ later } }
      (past ++ output) served false := by
  obtain ⟨latest, found⟩ := numbered.current_mem current
  obtain ⟨_, answered, member, same⟩ := numbered.responses packet (by simp [received])
  have label := numbered.labelled member served waiting
  have currentLabel :
      (before.abstract direction past served waiting).begun[before.path.begun - 1]? =
        some request.transaction := by
    simp [Endpoint.abstract, found]
  have reached := refines.reached.next (.accept
    (show (before.abstract direction past served waiting).replies =
        (earlier.map fun packet => (packet.serial, packet.t.frame)) ++
          (packet.serial, packet.t.frame) :: later.map fun packet => (packet.serial, packet.t.frame)
      by simp [Endpoint.abstract, received])
    (fun holds => by simp [inOrder holds])
    (refines.active (by simp [current])) (by simpa [Endpoint.abstract] using latest)
    (by rw [label, currentLabel, ← same, matched]))
  refine ⟨?_, refines.serving, fun running => absurd rfl running, ?_⟩
  · rw [abstract_append recorded]
    simpa [Endpoint.abstract] using reached
  · rw [labels_same recorded]
    intro running
    rcases refines.gate running with fresh | ⟨last, _⟩
    · exact .inl fresh
    · exact .inr ⟨last, fun _ => rfl⟩

/-- Every step of the network is, at each endpoint, a step of the stop-and-wait protocol
or none at all. -/
theorem Refines.step (numbered : Numbered direction before (begunOf direction past)
      (sessionsOf past))
    (refines : Refines ordered session direction before past served waiting)
    (effect : EndpointEffect ordered direction before after output)
    (once : (sessionsOf (past ++ output)).count session ≤ 1) :
    ∃ served waiting, Refines ordered session direction after (past ++ output) served waiting := by
  cases effect with
  | quiet same recorded =>
      subst same
      exact ⟨served, waiting, refines.carry recorded (by rw [abstract_same recorded]; exact refines.reached)
        rfl rfl refines.serving⟩
  | returned same recorded =>
      subst same
      refine ⟨served, waiting, ?_, refines.serving, fun running => absurd rfl running, nofun⟩
      rw [abstract_same recorded]
      exact refines.reached
  | start id idle same recorded =>
      subst same
      exact ⟨served, waiting, refines.start numbered recorded once⟩
  | begin request own started idle same recorded =>
      subst same
      exact ⟨served, true, refines.begin started idle recorded⟩
  | send request current same recorded =>
      subst same
      exact ⟨served, waiting, refines.send numbered current recorded⟩
  | loseRequests kept remaining same recorded =>
      subst same
      refine ⟨served, waiting, refines.carry recorded ?_ rfl rfl refines.serving⟩
      rw [abstract_same recorded]
      exact refines.reached.next
        (.loseRequests ((List.Sublist.refl _).append (remaining.map fun packet => packet.serial)))
  | receive packet rest idle first unknown same recorded =>
      subst same
      refine ⟨served, waiting, refines.carry recorded ?_ rfl rfl nofun⟩
      rw [abstract_same recorded]
      simpa [Endpoint.abstract, idle, first, ServerView.pending] using refines.reached
  | replay packet rest response idle first known matched kind same recorded =>
      subst same
      exact ⟨_, waiting, refines.replay numbered idle first known recorded⟩
  | execute packet result received now same recorded =>
      refine ⟨some packet.serial, waiting, ?_⟩
      rcases now with working | ⟨response, responding, _⟩
      · rw [same, working]
        exact refines.execute numbered received rfl rfl recorded
      · rw [same, responding]
        exact refines.execute numbered received rfl rfl recorded
  | finish packet response working known matched kind same recorded =>
      subst same
      refine ⟨served, waiting, refines.carry recorded ?_ rfl rfl ?_⟩
      · rw [abstract_same recorded]
        simpa [Endpoint.abstract, working, ServerView.pending] using refines.reached
      · intro number now
        exact refines.serving number (by rw [working]; exact now)
  | respond packet delivered responding same recorded =>
      subst same
      exact ⟨served, waiting, refines.respond numbered delivered responding recorded⟩
  | loseResponses kept ending remaining same recorded =>
      subst same
      exact ⟨served, waiting, refines.loseResponses ending remaining recorded⟩
  | accept request packet earlier later current received inOrder matched same recorded =>
      subst same
      exact ⟨served, false, refines.accept numbered current received inOrder matched recorded⟩

end

theorem Network.start_refines (ordered : Prop) (session : UInt64)
    (injector : EndpointFaultInjector) (direction : Direction) :
    Refines ordered session direction ((Network.start injector).endpoint direction) [] none
      false := by
  have idle : ((Network.start injector).endpoint direction).server = .idle := by
    cases direction <;> rfl
  have forgotten : ((Network.start injector).endpoint direction).memory = none := by
    cases direction <;> rfl
  refine ⟨?_, ?_, fun running => absurd rfl running, nofun⟩
  · have empty : ((Network.start injector).endpoint direction).abstract direction [] none false =
        StopAndWait.initial WifiTransaction (Option WifiFrame) := by
      simp only [Endpoint.abstract, idle, forgotten]
      rfl
    rw [empty]
    exact .refl
  · rw [idle]
    exact nofun

theorem Network.run_refines {ordered : Prop} {recoveryTimeout : Option Nat}
    {injector : EndpointFaultInjector} {events : List NetworkEvent} {network : Network}
    {trace : List NetworkOutput}
    (ran : Machine.run (Network.step recoveryTimeout) (Network.start injector) events =
      some (network, trace))
    (inOrder : ∀ event ∈ events, ordered → event.inOrder) {session : UInt64}
    (once : (sessionsOf trace).count session ≤ 1) (direction : Direction) :
    ∃ served waiting,
      Refines ordered session direction (network.endpoint direction) trace served waiting := by
  have kept := Machine.run_invariant
    (fun network past => network.AllNumbered past ∧ ((sessionsOf past).count session ≤ 1 →
      ∃ served waiting,
        Refines ordered session direction (network.endpoint direction) past served waiting))
    (fun event => ordered → event.inOrder) ?_ inOrder
    ⟨Network.start_allNumbered injector,
      fun _ => ⟨none, false, Network.start_refines ordered session injector direction⟩⟩ ran
  · rw [List.nil_append] at kept
    exact kept.2 once
  · rintro network past event next output allowed ⟨numbered, refined⟩ stepped
    refine ⟨numbered.step stepped, fun once => ?_⟩
    have earlier : (sessionsOf past).count session ≤ 1 := by
      rw [sessionsOf_append, List.count_append] at once
      omega
    obtain ⟨served, waiting, refines⟩ := refined earlier
    exact refines.step (numbered direction)
      (Network.step_effect numbered.directed allowed stepped direction) once

end Lamella

import Lamella.NetworkMoves

/-!
Numbers and transactions agree along every run.  A request copy, wherever it is, is the
request its number was given to, and a response carries the transaction of the request it
answers.
-/

namespace Lamella

def ServerView.request : ServerView → Option (Packet Request)
  | .received packet | .working packet => some packet
  | .idle | .responding _ => none

def Answers (direction : Direction) (begun : List (Packet Request)) (packet : Packet Response) :
    Prop :=
  packet.t.direction = direction ∧ ∃ request, ⟨packet.serial, request⟩ ∈ begun ∧
    packet.t.transaction = request.transaction

structure Numbered (direction : Direction) (endpoint : Endpoint) (begun : List (Packet Request))
    (sessions : List UInt64) : Prop where
  count : endpoint.path.begun = begun.length
  indexed : ∀ (index : Nat) (packet : Packet Request), begun[index]? = some packet →
    packet.serial = index
  kind : ∀ packet ∈ begun, packet.t.direction = direction
  link : ∀ packet ∈ endpoint.path.link, packet ∈ begun
  server : ∀ packet, endpoint.server.request = some packet → packet ∈ begun
  responding : ∀ packet, endpoint.server = .responding packet → Answers direction begun packet
  responses : ∀ packet ∈ endpoint.path.responses, Answers direction begun packet
  current : ∀ request, endpoint.current = some request →
    ∃ earlier number, begun = earlier ++ [⟨number, request⟩]
  started : ∀ packet ∈ begun, packet.t.transaction.session ∈ sessions
  running : ∀ id, endpoint.session = some id → id ∈ sessions
  unknown : ∀ packet, endpoint.server = .received packet →
    ∀ result, endpoint.memory ≠ some (packet.t.transaction, result)
  known : ∀ packet, endpoint.server = .responding packet →
    endpoint.memory = some (packet.t.transaction, packet.t.frame)

theorem Answers.append {direction : Direction} {begun : List (Packet Request)}
    {packet : Packet Response} (answers : Answers direction begun packet)
    (later : List (Packet Request)) : Answers direction (begun ++ later) packet := by
  obtain ⟨kind, request, member, matched⟩ := answers
  exact ⟨kind, request, List.mem_append_left later member, matched⟩

section

variable {ordered : Prop} {direction : Direction} {before after : Endpoint}
  {begun : List (Packet Request)} {sessions : List UInt64}

theorem Numbered.begin (numbered : Numbered direction before begun sessions) {request : Request}
    (own : request.direction = direction)
    (session : before.session = some request.transaction.session) :
    Numbered direction
      { before with
        current := some request
        path := { before.path with begun := before.path.begun + 1 } }
      (begun ++ [⟨before.path.begun, request⟩]) sessions where
  count := by simp [numbered.count]
  indexed index packet found := by
    rcases Nat.lt_or_ge index begun.length with old | new
    · rw [List.getElem?_append_left old] at found
      exact numbered.indexed index packet found
    · rw [List.getElem?_append_right new, List.getElem?_singleton] at found
      split at found
      · cases found
        simp only [numbered.count]
        omega
      · contradiction
  kind packet member := by
    rcases List.mem_append.mp member with old | new
    · exact numbered.kind packet old
    · rw [List.mem_singleton.mp new]
      exact own
  link packet member := List.mem_append_left _ (numbered.link packet member)
  server packet found := List.mem_append_left _ (numbered.server packet found)
  responding packet found := (numbered.responding packet found).append _
  responses packet member := (numbered.responses packet member).append _
  current other found := by
    cases found
    exact ⟨begun, before.path.begun, rfl⟩
  started packet member := by
    rcases List.mem_append.mp member with old | new
    · exact numbered.started packet old
    · rw [List.mem_singleton.mp new]
      exact numbered.running _ session
  running := numbered.running
  unknown := numbered.unknown
  known := numbered.known

theorem Numbered.start (numbered : Numbered direction before begun sessions) (id : UInt64) :
    Numbered direction { before with session := some id } begun (sessions ++ [id]) :=
  { numbered with
    started := fun packet member => List.mem_append_left _ (numbered.started packet member)
    running := by
      rintro other ⟨⟩
      simp }

theorem Numbered.current_mem (numbered : Numbered direction before begun sessions)
    {request : Request} (current : before.current = some request) :
    begun.length = (before.path.begun - 1) + 1 ∧
      begun[before.path.begun - 1]? = some ⟨before.path.begun - 1, request⟩ := by
  obtain ⟨earlier, number, same⟩ := numbered.current request current
  have count := numbered.count
  rw [same, List.length_append, List.length_singleton] at count
  have found : begun[before.path.begun - 1]? = some ⟨number, request⟩ := by
    rw [same, count]
    simp
  have index : number = before.path.begun - 1 := numbered.indexed _ _ found
  rw [index] at found
  refine ⟨?_, found⟩
  rw [same, List.length_append, List.length_singleton]
  omega

theorem Numbered.found (numbered : Numbered direction before begun sessions)
    {packet : Packet Request} (member : packet ∈ begun) : begun[packet.serial]? = some packet := by
  obtain ⟨index, found⟩ := List.mem_iff_getElem?.mp member
  rwa [← numbered.indexed index packet found] at found

theorem answers_of_mem {packet : Packet Request} (member : packet ∈ begun) {response : Response}
    (matched : response.transaction = packet.t.transaction) (kind : response.direction = direction) :
    Answers direction begun ⟨packet.serial, response⟩ :=
  ⟨kind, packet.t, member, matched⟩

theorem Numbered.takeFirst (numbered : Numbered direction before begun sessions)
    {packet : Packet Request} {rest : List (Packet Request)}
    (first : before.path.link = packet :: rest) :
    packet ∈ begun ∧
      Numbered direction { before with path := { before.path with link := rest } } begun
        sessions := by
  have link := numbered.link
  rw [first] at link
  refine ⟨link packet (List.mem_cons_self ..), { numbered with link := ?_ }⟩
  exact fun other member => link other (List.mem_cons_of_mem _ member)

theorem Numbered.responds (numbered : Numbered direction before begun sessions)
    {packet : Packet Request} (member : packet ∈ begun) {response : Response}
    (matched : response.transaction = packet.t.transaction) (kind : response.direction = direction)
    {memory : Option (WifiTransaction × Option WifiFrame)}
    (known : memory = some (packet.t.transaction, response.frame)) :
    Numbered direction { before with server := .responding ⟨packet.serial, response⟩, memory }
      begun sessions := by
  refine { numbered with server := nofun, responding := ?_, unknown := nofun, known := ?_ }
  · rintro other ⟨⟩
    exact answers_of_mem member matched kind
  · rintro other ⟨⟩
    rw [known, matched]

theorem Numbered.keep {output : List NetworkOutput} (unbegun : begunOf direction output = [])
    (unstarted : sessionsOf output = []) (numbered : Numbered direction after begun sessions) :
    Numbered direction after (begun ++ begunOf direction output) (sessions ++ sessionsOf output) := by
  rw [unbegun, unstarted, List.append_nil, List.append_nil]
  exact numbered

theorem Numbered.step (numbered : Numbered direction before begun sessions)
    {output : List NetworkOutput} (effect : EndpointEffect ordered direction before after output) :
    Numbered direction after (begun ++ begunOf direction output) (sessions ++ sessionsOf output) := by
  cases effect with
  | quiet same recorded =>
      subst same
      exact .keep recorded.begun recorded.sessions numbered
  | returned same recorded =>
      subst same
      exact .keep recorded.begun recorded.sessions { numbered with current := nofun, running := nofun }
  | start id idle same recorded =>
      rw [recorded.begun, recorded.sessions, List.append_nil, same]
      exact numbered.start id
  | begin request own session idle same recorded =>
      rw [recorded.begun, recorded.sessions, List.append_nil, same]
      exact numbered.begin own session
  | send request current same recorded =>
      subst same
      refine .keep recorded.begun recorded.sessions { numbered with link := ?_ }
      rw [List.forall_mem_append, List.forall_mem_singleton]
      exact ⟨numbered.link, List.mem_of_getElem? (numbered.current_mem current).2⟩
  | loseRequests kept remaining same recorded =>
      subst same
      refine .keep recorded.begun recorded.sessions { numbered with link := ?_ }
      exact fun packet member => numbered.link packet (remaining.subset member)
  | receive packet rest idle first unknown same recorded =>
      subst same
      obtain ⟨member, shorter⟩ := numbered.takeFirst first
      refine .keep recorded.begun recorded.sessions
        { shorter with server := ?_, responding := nofun, unknown := ?_, known := nofun }
      · rintro other ⟨⟩
        exact member
      · rintro other ⟨⟩
        exact unknown
  | replay packet rest response idle first known matched kind same recorded =>
      subst same
      obtain ⟨member, shorter⟩ := numbered.takeFirst first
      exact .keep recorded.begun recorded.sessions (shorter.responds member matched kind known)
  | execute packet result received served same recorded =>
      refine .keep recorded.begun recorded.sessions ?_
      have member := numbered.server packet (by rw [received]; rfl)
      rcases served with working | ⟨response, responding, matched, kind, frame⟩
      · rw [same, working]
        refine { numbered with server := ?_, responding := nofun, unknown := nofun, known := nofun }
        rintro other ⟨⟩
        exact member
      · rw [same, responding]
        exact numbered.responds member matched kind (by rw [frame])
  | finish packet response working known matched kind same recorded =>
      subst same
      have member := numbered.server packet (by rw [working]; rfl)
      exact .keep recorded.begun recorded.sessions (numbered.responds member matched kind known)
  | respond packet delivered responding same recorded =>
      subst same
      refine .keep recorded.begun recorded.sessions { numbered with
        server := nofun, responding := nofun, responses := ?_, unknown := nofun, known := nofun }
      cases delivered with
      | false => simpa using numbered.responses
      | true =>
          rw [if_pos rfl, List.forall_mem_append, List.forall_mem_singleton]
          exact ⟨numbered.responses, numbered.responding packet responding⟩
  | loseResponses kept ending remaining same recorded =>
      subst same
      refine .keep recorded.begun recorded.sessions { numbered with
        responses := fun packet member => numbered.responses packet (remaining.subset member)
        current := ?_
        running := ?_ }
      · cases ending
        · exact numbered.current
        · exact nofun
      · cases ending
        · exact numbered.running
        · exact nofun
  | accept request packet earlier later current received inOrder matched same recorded =>
      subst same
      have responses := numbered.responses
      rw [received] at responses
      refine .keep recorded.begun recorded.sessions { numbered with responses := ?_, current := nofun }
      intro other member
      apply responses other
      simp only [List.mem_append, List.mem_cons] at member ⊢
      tauto

end

def Network.AllNumbered (network : Network) (trace : List NetworkOutput) : Prop :=
  ∀ direction,
    Numbered direction (network.endpoint direction) (begunOf direction trace) (sessionsOf trace)

theorem Network.AllNumbered.directed {network : Network} {trace : List NetworkOutput}
    (numbered : network.AllNumbered trace) : network.Directed := by
  intro direction
  refine ⟨fun packet member => ?_, fun packet member => ?_⟩
  · exact (numbered direction).kind packet ((numbered direction).link packet member)
  · exact ((numbered direction).responses packet member).1

theorem Network.start_allNumbered (injector : EndpointFaultInjector) :
    (Network.start injector).AllNumbered [] := by
  intro direction
  have idle : ((Network.start injector).endpoint direction).server = .idle := by
    cases direction <;> rfl
  refine ⟨rfl, nofun, nofun, nofun, ?_, ?_, nofun, nofun, nofun, nofun, ?_, ?_⟩
  all_goals
    rw [idle]
    nofun

theorem Network.AllNumbered.step {recoveryTimeout : Option Nat} {network next : Network}
    {past output : List NetworkOutput} {event : NetworkEvent} (numbered : network.AllNumbered past)
    (stepped : network.step recoveryTimeout event = some (next, output)) :
    next.AllNumbered (past ++ output) := by
  intro direction
  have unordered : False → event.inOrder := False.elim
  have effect := Network.step_effect numbered.directed unordered stepped direction
  rw [begunOf_append, sessionsOf_append]
  exact (numbered direction).step effect

theorem Network.run_allNumbered {recoveryTimeout : Option Nat} {injector : EndpointFaultInjector}
    {events : List NetworkEvent} {network : Network} {trace : List NetworkOutput}
    (ran : Machine.run (Network.step recoveryTimeout) (Network.start injector) events =
      some (network, trace)) : network.AllNumbered trace := by
  have kept := Machine.run_invariant Network.AllNumbered (fun _ => True)
    (fun _ _ _ _ _ _ numbered stepped => numbered.step stepped) (fun _ _ => trivial)
    (Network.start_allNumbered injector) ran
  simpa using kept

end Lamella

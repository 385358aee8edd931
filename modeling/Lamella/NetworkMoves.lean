import Lamella.Endpoint
import Lamella.ExchangeMoves

/-!
Every step of the network, whoever takes it, is one of the steps of each of its endpoints.
-/

namespace Lamella

/-! What the endpoints see of the network. -/

def Exchange.runningSession (exchange : Exchange) : Option UInt64 :=
  if exchange.phase.isReturned then none else some exchange.session

def Exchange.view (exchange : Exchange) : HostView :=
  ⟨exchange.runningSession, exchange.phase.request⟩

def Exchange.current (exchange : Exchange) (direction : Direction) : Option Request :=
  exchange.view.current direction

def Device.view (device : Device) : DeviceView :=
  ⟨device.server, device.memory⟩

def Network.endpoint (network : Network) (direction : Direction) : Endpoint :=
  network.toPaths.endpoint network.host.view network.device.view direction

/-! Steps of the exchange. -/

theorem ExchangePhase.request_of_isReturned {phase : ExchangePhase}
    (returned : phase.isReturned = true) : phase.request = none := by
  cases phase with
  | returned reason => rfl
  | _ => contradiction

theorem quiet_silent (direction : Direction) {output : ExchangeOutput}
    (quiet : output.isQuiet = true) : output.Silent direction := by
  cases output with
  | resolved request source result => exact ⟨fun _ => rfl, fun _ => ⟨rfl, rfl⟩⟩
  | returned reason => exact ⟨fun _ => rfl, fun _ => ⟨rfl, rfl⟩⟩
  | _ => contradiction

theorem accept_silent (direction : Direction) (request : Request) (response : Response)
    (source : ResponseSource) :
    ∀ output ∈ [.resolved request source (.ok response)] ++ tapWrite request response,
      output.Silent direction := by
  intro output member
  rcases List.mem_append.mp member with resolved | written
  · cases List.mem_singleton.mp resolved
    exact quiet_silent direction rfl
  · rcases tapWrite_cases request response with unwritten | ⟨frame, wrote⟩
    · simp [unwritten] at written
    · rw [wrote, List.mem_singleton] at written
      subst written
      exact ⟨fun _ => rfl, fun _ => ⟨rfl, rfl⟩⟩

theorem accept_paths (request : Request) (response : Response) (source : ResponseSource)
    (paths : Paths) :
    paths.absorbHost (.resolved request source (.ok response) :: .acknowledged request response ::
      tapWrite request response) = paths := by
  obtain ⟨path⟩ := paths
  refine congrArg Paths.mk (funext fun direction => ?_)
  exact Paths.foldl_acknowledged (accept_silent direction request response source) (path direction)

theorem runningSession_eq {exchange next : Exchange} (same : next.session = exchange.session)
    (running : exchange.phase.isReturned = false) (stays : next.phase.isReturned = false) :
    next.runningSession = exchange.runningSession := by
  simp [Exchange.runningSession, running, stays, same]

theorem view_eq {exchange next : Exchange} {request : Option Request}
    (same : next.session = exchange.session) (running : exchange.phase.isReturned = false)
    (stays : next.phase.isReturned = false) (after : next.phase.request = request) :
    next.view = { exchange.view with request } := by
  simp [Exchange.view, runningSession_eq same running stays, after]

theorem runningSession_returned {exchange : Exchange} (returned : exchange.phase.isReturned = true) :
    exchange.runningSession = none := by
  simp [Exchange.runningSession, returned]

theorem view_returned {exchange : Exchange} (returned : exchange.phase.isReturned = true) :
    exchange.view = .idle := by
  rw [Exchange.view, runningSession_returned returned, ExchangePhase.request_of_isReturned returned,
    HostView.idle]

theorem view_still {exchange next : Exchange} (same : next.session = exchange.session)
    (running : exchange.phase.isReturned = false)
    (still : (next.phase.request = exchange.phase.request ∧ next.phase.isReturned = false) ∨
      next.phase.isReturned = true) : next.view = exchange.view ∨ next.view = .idle := by
  rcases still with ⟨kept, stays⟩ | returned
  · exact .inl (view_eq same running stays kept)
  · exact .inr (view_returned returned)

theorem ExchangeEffect.endpoint {ordered : Prop} {network : Network} {event : ExchangeEvent}
    {host : Exchange} {outputs : List ExchangeOutput}
    (effect : ExchangeEffect network.host event host outputs)
    (session : host.session = network.host.session) (unanswered : event.isResponse = false)
    (direction : Direction) :
    EndpointEffect ordered direction (network.endpoint direction)
      ((network.absorbHost host outputs).1.endpoint direction)
      (network.absorbHost host outputs).2 := by
  cases effect with
  | quiet still counter silent running returns =>
      exact Paths.silent_effect (view_still session running still) fun output member =>
        quiet_silent direction (silent output member)
  | begin request before after transaction counter began running stays _ =>
      subst began
      refine Paths.begin_effect ?_ before (view_eq session running stays after)
      simp [Exchange.view, Exchange.runningSession, running, transaction]
  | send request peer source dropped before after counter requested running stays _ =>
      subst requested
      exact Paths.send_effect before (view_eq session running stays (after.trans before.symm))
  | accept request response source now received =>
      subst received
      contradiction

theorem ExchangeEffect.deliver {ordered : Prop} {network : Network} {host : Exchange}
    {outputs : List ExchangeOutput} {direction : Direction} {position now : Nat}
    {source : ResponseSource} {packet : Packet Response}
    (effect : ExchangeEffect network.host (.wait now (.resolved source (.ok packet.t))) host outputs)
    (session : host.session = network.host.session)
    (found : (network.path direction).responses[position]? = some packet)
    (kind : packet.t.direction = direction) (inOrder : ordered → position = 0)
    {path : Path} (erased : path =
      { network.path direction with
        responses := (network.path direction).responses.eraseIdx position })
    (any : Direction) :
    EndpointEffect ordered any (network.endpoint any)
      (((network.setPath direction path).absorbHost host outputs).1.endpoint any)
      ((network.setPath direction path).absorbHost host outputs).2 := by
  cases effect with
  | begin _ _ _ _ _ _ _ _ unanswered => contradiction
  | send _ _ _ _ _ _ _ _ _ _ unanswered => contradiction
  | quiet still counter silent running returns =>
      exact Paths.drop_effect (view_still session running still)
        (fun output member => quiet_silent any (silent output member)) erased
  | accept request response fromSource _ received before after running stays _ matched sameKind
      acknowledged =>
      cases received
      exact Paths.accept_effect before (view_eq session running stays after)
        (sameKind.symm.trans kind) matched found inOrder acknowledged
        (accept_silent any request packet.t source) erased

/-! Steps of the device. -/

theorem ServerEffect.task_endpoint {ordered : Prop} {network : Network} {task : TaskEvent}
    {device : Device} {outputs : List DeviceOutput} {direction : Direction}
    (effect : ServerEffect direction network.device (.task task) device outputs) :
    EndpointEffect ordered direction (network.endpoint direction)
      ((network.absorbDevice device outputs).1.endpoint direction)
      (network.absorbDevice device outputs).2 := by
  have recorded := Recorded.ofDevice direction outputs
  simp only [Network.endpoint, Network.absorbDevice]
  rw [Paths.absorbDevice_endpoint _ _ network.device.view]
  cases effect with
  | receive _ request => contradiction
  | replay _ _ request => contradiction
  | quiet server memory silent other =>
      rw [silent.executed, silent.replayed] at recorded
      refine .quiet ?_ recorded
      simp [Paths.endpoint, Device.view, server, memory, silent.responses]
  | execute packet result task scheduled before after memory executed replayed responses =>
      rw [executed, replayed] at recorded
      refine .execute packet result before after ?_ recorded
      simp [Paths.endpoint, Device.view, memory, responses]
  | finish packet response task scheduled before after memory known matched kind silent =>
      rw [silent.executed, silent.replayed] at recorded
      refine .finish packet response before known matched kind ?_ recorded
      simp [Paths.endpoint, Device.view, after, memory, silent.responses]
  | respond packet delivered task scheduled before after memory kind responded =>
      rw [responded] at recorded ⊢
      refine .respond packet delivered before ?_ ?_
      · cases delivered <;> simp [Paths.endpoint, Device.view, after, memory, DeviceOutput.responseOf, kind]
      · cases delivered <;> exact recorded

theorem ServerEffect.arrive_endpoint {ordered : Prop} {network : Network} {device : Device}
    {outputs : List DeviceOutput} {direction any : Direction} {packet : Packet Request}
    {rest : List (Packet Request)}
    (effect : ServerEffect any network.device (.request packet) device outputs)
    (kind : packet.t.direction = direction) (first : (network.path direction).link = packet :: rest) :
    EndpointEffect ordered any (network.endpoint any)
      (((network.setPath direction { network.path direction with link := rest }).absorbDevice
        device outputs).1.endpoint any)
      ((network.setPath direction { network.path direction with link := rest }).absorbDevice
        device outputs).2 := by
  have recorded := Recorded.ofDevice any outputs
  simp only [Network.endpoint, Network.absorbDevice, Network.setPath]
  rw [Paths.absorbDevice_endpoint _ _ network.device.view]
  by_cases own : any = direction
  · subst own
    rw [Paths.set_endpoint_same]
    cases effect with
    | quiet _ _ _ other => exact absurd kind (other packet rfl)
    | execute _ _ _ scheduled => contradiction
    | finish _ _ _ scheduled => contradiction
    | respond _ _ _ scheduled => contradiction
    | receive received request _ before after memory unknown silent =>
        cases request
        rw [silent.executed, silent.replayed] at recorded
        refine .receive packet rest before first unknown ?_ recorded
        simp [Paths.endpoint, Device.view, after, memory, silent.responses]
    | replay received response request _ before after memory known matched kind replayed =>
        cases request
        subst replayed
        refine .replay packet rest response before first known matched kind ?_ ?_
        · simp [Paths.endpoint, Device.view, after, memory, DeviceOutput.responseOf]
        · simpa [DeviceOutput.executed, DeviceOutput.replayedAs, List.filterMap_cons, kind] using
            recorded
  · rw [Paths.set_endpoint_other _ _ _ own]
    have foreign (received : Packet Request) (request : DeviceEvent.request packet = .request received)
        (same : received.t.direction = any) : False := by
      cases request
      exact own (same.symm.trans kind)
    cases effect with
    | receive received request same => exact (foreign received request same).elim
    | replay received _ request same => exact (foreign received request same).elim
    | execute _ _ _ scheduled => contradiction
    | finish _ _ _ scheduled => contradiction
    | respond _ _ _ scheduled => contradiction
    | quiet server memory silent other =>
        rw [silent.executed, silent.replayed] at recorded
        refine .quiet ?_ recorded
        simp [Paths.endpoint, Device.view, server, memory, silent.responses, own]

/-! Every step. -/

def Network.Directed (network : Network) : Prop :=
  ∀ direction, (∀ packet ∈ (network.path direction).link, packet.t.direction = direction) ∧
    ∀ packet ∈ (network.path direction).responses, packet.t.direction = direction

def NetworkEvent.inOrder : NetworkEvent → Prop
  | .deliver _ position _ _ => position = 0
  | _ => True

inductive NetworkMoves (recoveryTimeout : Option Nat) (network : Network) :
    NetworkEvent → Network → List NetworkOutput → Prop
  | session (id : UInt64) (returned : network.host.phase.isReturned = true) :
      NetworkMoves recoveryTimeout network (.session id)
        { network with host := network.host.start id } [.session id]
  | host {event : ExchangeEvent} {host : Exchange} {outputs : List ExchangeOutput}
      (unanswered : event.isResponse = false)
      (exchanged : wifiExchange recoveryTimeout network.host event = some (host, outputs)) :
      NetworkMoves recoveryTimeout network (.host event) (network.absorbHost host outputs).1
        (network.absorbHost host outputs).2
  | deliver {direction : Direction} {position now : Nat} {source : ResponseSource}
      {packet : Packet Response} {host : Exchange} {outputs : List ExchangeOutput} {path : Path}
      (found : (network.path direction).responses[position]? = some packet)
      (exchanged : wifiExchange recoveryTimeout network.host
        (.wait now (.resolved source (.ok packet.t))) = some (host, outputs))
      (erased : path = { network.path direction with
        responses := (network.path direction).responses.eraseIdx position }) :
      NetworkMoves recoveryTimeout network (.deliver direction position now source)
        ((network.setPath direction path).absorbHost host outputs).1
        ((network.setPath direction path).absorbHost host outputs).2
  | loseRequest (direction : Direction) (position : Nat) :
      NetworkMoves recoveryTimeout network (.loseRequest direction position)
        (network.setPath direction { network.path direction with
          link := (network.path direction).link.eraseIdx position }) []
  | loseResponse (direction : Direction) (position : Nat) :
      NetworkMoves recoveryTimeout network (.loseResponse direction position)
        (network.setPath direction { network.path direction with
          responses := (network.path direction).responses.eraseIdx position }) []
  | arrive {direction : Direction} {packet : Packet Request} {rest : List (Packet Request)}
      {device : Device} {outputs : List DeviceOutput}
      (first : (network.path direction).link = packet :: rest)
      (received : network.device.step (.request packet) = some (device, outputs)) :
      NetworkMoves recoveryTimeout network (.arrive direction)
        ((network.setPath direction { network.path direction with link := rest }).absorbDevice
          device outputs).1
        ((network.setPath direction { network.path direction with link := rest }).absorbDevice
          device outputs).2
  | device {task : TaskEvent} {device : Device} {outputs : List DeviceOutput}
      (worked : network.device.step (.task task) = some (device, outputs)) :
      NetworkMoves recoveryTimeout network (.device task) (network.absorbDevice device outputs).1
        (network.absorbDevice device outputs).2

theorem Network.step_moves {recoveryTimeout : Option Nat} {network next : Network}
    {event : NetworkEvent} {output : List NetworkOutput}
    (stepped : network.step recoveryTimeout event = some (next, output)) :
    NetworkMoves recoveryTimeout network event next output := by
  cases event with
  | session id =>
      simp only [Network.step] at stepped
      split at stepped
      · rename_i returned
        cases stepped
        exact .session id returned
      · contradiction
  | host event =>
      simp only [Network.step] at stepped
      split at stepped
      · contradiction
      · rename_i unanswered
        split at stepped
        · contradiction
        · rename_i exchanged
          cases stepped
          exact .host (by simpa using unanswered) exchanged
  | deliver direction position now source =>
      simp only [Network.step] at stepped
      split at stepped
      · contradiction
      · rename_i found
        split at stepped
        · contradiction
        · rename_i exchanged
          cases stepped
          exact .deliver found exchanged rfl
  | loseRequest direction position =>
      cases stepped
      exact .loseRequest direction position
  | loseResponse direction position =>
      cases stepped
      exact .loseResponse direction position
  | arrive direction =>
      simp only [Network.step] at stepped
      split at stepped
      · contradiction
      · rename_i first
        split at stepped
        · contradiction
        · rename_i received
          cases stepped
          exact .arrive first received
  | device task =>
      simp only [Network.step] at stepped
      split at stepped
      · contradiction
      · rename_i worked
        cases stepped
        exact .device worked

theorem Network.step_effect {ordered : Prop} {recoveryTimeout : Option Nat}
    {network next : Network} {event : NetworkEvent} {output : List NetworkOutput}
    (directed : network.Directed) (inOrder : ordered → event.inOrder)
    (stepped : network.step recoveryTimeout event = some (next, output)) (any : Direction) :
    EndpointEffect ordered any (network.endpoint any) (next.endpoint any) output := by
  cases Network.step_moves stepped with
  | session id returned =>
      have idle := view_returned returned
      refine .start id (runningSession_returned returned) ?_ ⟨rfl, rfl, rfl, rfl, rfl⟩
      simp only [Network.endpoint, idle]
      rfl
  | host unanswered exchanged =>
      exact (wifiExchange_effect exchanged).endpoint (wifiExchange_session exchanged) unanswered any
  | deliver found exchanged erased =>
      exact (wifiExchange_effect exchanged).deliver (wifiExchange_session exchanged) found
        ((directed _).2 _ (List.mem_of_getElem? found)) inOrder erased any
  | loseRequest direction position =>
      refine Paths.lose_effect fun own => ?_
      subst own
      exact .loseRequests _ (List.eraseIdx_sublist _ position) rfl (.nil _)
  | loseResponse direction position =>
      refine Paths.lose_effect fun own => ?_
      subst own
      exact .loseResponses _ false (List.eraseIdx_sublist _ position) rfl (.nil _)
  | arrive first received =>
      exact ((Device.step_moves received).serverEffect any).arrive_endpoint
        ((directed _).1 _ (by simp [first])) first
  | device worked => exact ((Device.step_moves worked).serverEffect any).task_endpoint

end Lamella

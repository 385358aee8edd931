import Lamella.NetworkCore
import Lamella.FirmwareServers

/-!
One endpoint at a time, whichever host and device share the two paths.  A host that keeps one
request open, and what becomes of the packets on the paths, are a few steps of each endpoint:
those of a stop-and-wait protocol.
-/

namespace Lamella

/-! What a trace says about one endpoint. -/

def NetworkOutput.begun (direction : Direction) : NetworkOutput → Option (Packet Request)
  | .host number (.began request) =>
      if request.direction = direction then some ⟨number, request⟩ else none
  | _ => none

def NetworkOutput.acknowledged (direction : Direction) :
    NetworkOutput → Option (Nat × Option WifiFrame)
  | .host number (.acknowledged request response) =>
      if request.direction = direction then some (number, response.frame) else none
  | _ => none

def NetworkOutput.deviceOutput : NetworkOutput → Option DeviceOutput
  | .device output => some output
  | _ => none

def NetworkOutput.sessionId : NetworkOutput → Option UInt64
  | .session id => some id
  | _ => none

def begunOf (direction : Direction) (trace : List NetworkOutput) : List (Packet Request) :=
  trace.filterMap (NetworkOutput.begun direction)

def acknowledgedOf (direction : Direction) (trace : List NetworkOutput) :
    List (Nat × Option WifiFrame) :=
  trace.filterMap (NetworkOutput.acknowledged direction)

def deviceOf (trace : List NetworkOutput) : List DeviceOutput :=
  trace.filterMap NetworkOutput.deviceOutput

def sessionsOf (trace : List NetworkOutput) : List UInt64 :=
  trace.filterMap NetworkOutput.sessionId

def executedOf (direction : Direction) (trace : List NetworkOutput) :
    List (Nat × Option WifiFrame) :=
  (deviceOf trace).filterMap (DeviceOutput.executed direction)

def replayedOf (direction : Direction) (trace : List NetworkOutput) :
    List (Nat × Option WifiFrame) :=
  (deviceOf trace).filterMap (DeviceOutput.replayedAs direction)

theorem begunOf_append (direction : Direction) (past output : List NetworkOutput) :
    begunOf direction (past ++ output) = begunOf direction past ++ begunOf direction output :=
  List.filterMap_append

theorem acknowledgedOf_append (direction : Direction) (past output : List NetworkOutput) :
    acknowledgedOf direction (past ++ output) =
      acknowledgedOf direction past ++ acknowledgedOf direction output :=
  List.filterMap_append

theorem sessionsOf_append (past output : List NetworkOutput) :
    sessionsOf (past ++ output) = sessionsOf past ++ sessionsOf output :=
  List.filterMap_append

theorem deviceOf_append (past output : List NetworkOutput) :
    deviceOf (past ++ output) = deviceOf past ++ deviceOf output :=
  List.filterMap_append

theorem executedOf_append (direction : Direction) (past output : List NetworkOutput) :
    executedOf direction (past ++ output) =
      executedOf direction past ++ executedOf direction output := by
  simp [executedOf, deviceOf_append]

theorem replayedOf_append (direction : Direction) (past output : List NetworkOutput) :
    replayedOf direction (past ++ output) =
      replayedOf direction past ++ replayedOf direction output := by
  simp [replayedOf, deviceOf_append]

theorem mem_deviceOf {trace : List NetworkOutput} {said : DeviceOutput} :
    said ∈ deviceOf trace ↔ .device said ∈ trace := by
  simp only [deviceOf, List.mem_filterMap]
  constructor
  · rintro ⟨output, member, found⟩
    cases output with
    | device output =>
        cases found
        exact member
    | _ => contradiction
  · intro member
    exact ⟨_, member, rfl⟩

structure Recorded (direction : Direction) (output : List NetworkOutput)
    (begun : List (Packet Request)) (executed replayed acknowledged : List (Nat × Option WifiFrame))
    (sessions : List UInt64) : Prop where
  begun : begunOf direction output = begun
  executed : executedOf direction output = executed
  replayed : replayedOf direction output = replayed
  acknowledged : acknowledgedOf direction output = acknowledged
  sessions : sessionsOf output = sessions

theorem Recorded.nil (direction : Direction) : Recorded direction [] [] [] [] [] [] :=
  ⟨rfl, rfl, rfl, rfl, rfl⟩

theorem Recorded.append {direction : Direction} {past output : List NetworkOutput}
    {begun begun' : List (Packet Request)}
    {executed executed' replayed replayed' acknowledged acknowledged' : List (Nat × Option WifiFrame)}
    {sessions sessions' : List UInt64}
    (before : Recorded direction past begun executed replayed acknowledged sessions)
    (after : Recorded direction output begun' executed' replayed' acknowledged' sessions') :
    Recorded direction (past ++ output) (begun ++ begun') (executed ++ executed')
      (replayed ++ replayed') (acknowledged ++ acknowledged') (sessions ++ sessions') where
  begun := by rw [begunOf_append, before.begun, after.begun]
  executed := by rw [executedOf_append, before.executed, after.executed]
  replayed := by rw [replayedOf_append, before.replayed, after.replayed]
  acknowledged := by rw [acknowledgedOf_append, before.acknowledged, after.acknowledged]
  sessions := by rw [sessionsOf_append, before.sessions, after.sessions]

/-- Neither a path nor the record of an endpoint takes notice of the output. -/
def ExchangeOutput.Silent (direction : Direction) (output : ExchangeOutput) : Prop :=
  (∀ path, Path.absorbHost direction path output = path) ∧
    ∀ number, NetworkOutput.begun direction (.host number output) = none ∧
      NetworkOutput.acknowledged direction (.host number output) = none

theorem Recorded.ofHost (direction : Direction) (numberOf : ExchangeOutput → Nat)
    {outputs : List ExchangeOutput}
    (silent : ∀ output ∈ outputs, ∀ number,
      NetworkOutput.begun direction (.host number output) = none ∧
        NetworkOutput.acknowledged direction (.host number output) = none) :
    Recorded direction (outputs.map fun output => .host (numberOf output) output) [] [] [] [] [] := by
  have nothing {Kind : Type} (select : NetworkOutput → Option Kind)
      (ignored : ∀ output ∈ outputs, ∀ number, select (.host number output) = none) :
      (outputs.map fun output => NetworkOutput.host (numberOf output) output).filterMap select =
        [] := by
    simp only [List.filterMap_eq_nil_iff, List.mem_map]
    rintro _ ⟨output, member, rfl⟩
    exact ignored output member _
  have device := nothing NetworkOutput.deviceOutput fun _ _ _ => rfl
  constructor
  · exact nothing _ fun output member number => (silent output member number).1
  · simp only [executedOf, deviceOf, device, List.filterMap_nil]
  · simp only [replayedOf, deviceOf, device, List.filterMap_nil]
  · exact nothing _ fun output member number => (silent output member number).2
  · exact nothing _ fun _ _ _ => rfl

theorem Recorded.ofBegan {direction : Direction} {request : Request}
    (own : request.direction = direction) (number : Nat) :
    Recorded direction [.host number (.began request)] [⟨number, request⟩] [] [] [] [] := by
  constructor
  · simp [begunOf, NetworkOutput.begun, own]
  all_goals rfl

theorem Recorded.ofAcknowledged (direction : Direction) (number : Nat) (request : Request)
    (response : Response) :
    Recorded direction [.host number (.acknowledged request response)] [] [] []
      (if request.direction = direction then [(number, response.frame)] else []) [] := by
  constructor
  case acknowledged =>
    by_cases own : request.direction = direction <;>
      simp [acknowledgedOf, NetworkOutput.acknowledged, own]
  all_goals rfl

theorem deviceOf_map (outputs : List DeviceOutput) : deviceOf (outputs.map .device) = outputs := by
  rw [deviceOf, List.filterMap_map]
  exact List.filterMap_some

theorem Recorded.ofDevice (direction : Direction) (outputs : List DeviceOutput) :
    Recorded direction (outputs.map .device) [] (outputs.filterMap (DeviceOutput.executed direction))
      (outputs.filterMap (DeviceOutput.replayedAs direction)) [] [] := by
  have device := deviceOf_map outputs
  constructor
  · simp [begunOf, NetworkOutput.begun]
  · simp only [executedOf, device]
  · simp only [replayedOf, device]
  · simp [acknowledgedOf, NetworkOutput.acknowledged]
  · simp [sessionsOf, NetworkOutput.sessionId]

/-! The state of one endpoint. -/

structure Endpoint where
  session : Option UInt64
  current : Option Request
  server : ServerView
  memory : Option (WifiTransaction × Option WifiFrame)
  path : Path

/-- What the endpoints see of a host: its session and its open request. -/
structure HostView where
  session : Option UInt64
  request : Option Request

def HostView.idle : HostView := ⟨none, none⟩

def HostView.current (host : HostView) (direction : Direction) : Option Request :=
  host.request.filter fun request => request.direction = direction

theorem HostView.current_of_idle {host : HostView} (idle : host.request = none)
    (direction : Direction) : host.current direction = none := by
  rw [current, idle, Option.filter_none]

theorem HostView.current_of_open {host : HostView} {request : Request}
    (waiting : host.request = some request) : host.current request.direction = some request := by
  simp [current, waiting]

structure DeviceView where
  server : Direction → ServerView
  memory : Direction → Option (WifiTransaction × Option WifiFrame)

def Paths.endpoint (paths : Paths) (host : HostView) (device : DeviceView) (direction : Direction) :
    Endpoint where
  session := host.session
  current := host.current direction
  server := device.server direction
  memory := device.memory direction
  path := paths.path direction

inductive EndpointEffect (ordered : Prop) (direction : Direction) (before after : Endpoint)
    (output : List NetworkOutput) : Prop
  | quiet (same : after = before) (recorded : Recorded direction output [] [] [] [] [])
  | returned (same : after = { before with session := none, current := none })
      (recorded : Recorded direction output [] [] [] [] [])
  | start (id : UInt64) (idle : before.session = none)
      (same : after = { before with session := some id })
      (recorded : Recorded direction output [] [] [] [] [id])
  | begin (request : Request) (own : request.direction = direction)
      (session : before.session = some request.transaction.session)
      (idle : before.current = none)
      (same : after = { before with
        current := some request
        path := { before.path with begun := before.path.begun + 1 } })
      (recorded : Recorded direction output [⟨before.path.begun, request⟩] [] [] [] [])
  | send (request : Request) (current : before.current = some request)
      (same : after = { before with
        path := { before.path with
          link := before.path.link ++ [⟨before.path.begun - 1, request⟩] } })
      (recorded : Recorded direction output [] [] [] [] [])
  | loseRequests (kept : List (Packet Request)) (remaining : kept.Sublist before.path.link)
      (same : after = { before with path := { before.path with link := kept } })
      (recorded : Recorded direction output [] [] [] [] [])
  | receive (packet : Packet Request) (rest : List (Packet Request))
      (idle : before.server = .idle) (first : before.path.link = packet :: rest)
      (unknown : ∀ result, before.memory ≠ some (packet.t.transaction, result))
      (same : after = { before with
        server := .received packet
        path := { before.path with link := rest } })
      (recorded : Recorded direction output [] [] [] [] [])
  | replay (packet : Packet Request) (rest : List (Packet Request)) (response : Response)
      (idle : before.server = .idle) (first : before.path.link = packet :: rest)
      (known : before.memory = some (packet.t.transaction, response.frame))
      (matched : response.transaction = packet.t.transaction)
      (kind : response.direction = direction)
      (same : after = { before with
        server := .responding ⟨packet.serial, response⟩
        path := { before.path with link := rest } })
      (recorded : Recorded direction output [] [] [(packet.serial, response.frame)] [] [])
  | execute (packet : Packet Request) (result : Option WifiFrame)
      (received : before.server = .received packet)
      (served : after.server = .working packet ∨ ∃ response : Response,
        after.server = .responding ⟨packet.serial, response⟩ ∧
          response.transaction = packet.t.transaction ∧ response.direction = direction ∧
          response.frame = result)
      (same : after = { before with
        server := after.server
        memory := some (packet.t.transaction, result) })
      (recorded : Recorded direction output [] [(packet.serial, result)] [] [] [])
  | finish (packet : Packet Request) (response : Response)
      (working : before.server = .working packet)
      (known : before.memory = some (packet.t.transaction, response.frame))
      (matched : response.transaction = packet.t.transaction)
      (kind : response.direction = direction)
      (same : after = { before with server := .responding ⟨packet.serial, response⟩ })
      (recorded : Recorded direction output [] [] [] [] [])
  | respond (packet : Packet Response) (delivered : Bool)
      (responding : before.server = .responding packet)
      (same : after = { before with
        server := .idle
        path := { before.path with
          responses := before.path.responses ++ if delivered then [packet] else [] } })
      (recorded : Recorded direction output [] [] [] [] [])
  | loseResponses (kept : List (Packet Response)) (ending : Bool)
      (remaining : kept.Sublist before.path.responses)
      (same : after = { before with
        session := if ending then none else before.session
        current := if ending then none else before.current
        path := { before.path with responses := kept } })
      (recorded : Recorded direction output [] [] [] [] [])
  | accept (request : Request) (packet : Packet Response)
      (earlier later : List (Packet Response)) (current : before.current = some request)
      (received : before.path.responses = earlier ++ packet :: later)
      (inOrder : ordered → earlier = [])
      (matched : packet.t.transaction = request.transaction)
      (same : after = { before with
        current := none
        path := { before.path with responses := earlier ++ later } })
      (recorded : Recorded direction output [] [] [] [(before.path.begun - 1, packet.t.frame)] [])

/-! The paths. -/

theorem getElem?_split {Item : Type} {items : List Item} {position : Nat} {item : Item}
    (found : items[position]? = some item) :
    items = items.take position ++ item :: items.drop (position + 1) := by
  obtain ⟨bound, same⟩ := List.getElem?_eq_some_iff.mp found
  rw [← same, List.getElem_cons_drop, List.take_append_drop]

namespace Paths

variable {ordered : Prop} {paths : Paths} {host next : HostView} {device : DeviceView}
  {direction any : Direction} {outputs : List ExchangeOutput} {request : Request}

@[simp] theorem set_path (paths : Paths) (direction : Direction) (path : Path) :
    (paths.set direction path).path = Function.update paths.path direction path := rfl

@[simp] theorem absorbHost_path (paths : Paths) (outputs : List ExchangeOutput)
    (direction : Direction) : (paths.absorbHost outputs).path direction =
      outputs.foldl (Path.absorbHost direction) (paths.path direction) := rfl

@[simp] theorem absorbDevice_path (paths : Paths) (outputs : List DeviceOutput)
    (direction : Direction) : (paths.absorbDevice outputs).path direction =
      { paths.path direction with
        responses := (paths.path direction).responses ++
          outputs.filterMap (DeviceOutput.responseOf direction) } := by
  unfold absorbDevice
  dsimp only
  generalize paths.path direction = path
  induction outputs generalizing path with
  | nil => simp
  | cons output rest ih =>
      rw [List.foldl_cons, ih]
      cases output with
      | response packet =>
          by_cases own : packet.t.direction = direction <;>
            simp [Path.absorbDevice, DeviceOutput.responseOf, own]
      | _ => simp [Path.absorbDevice, DeviceOutput.responseOf, List.filterMap_cons]

theorem set_endpoint_same (paths : Paths) (host : HostView) (device : DeviceView)
    (direction : Direction) (path : Path) :
    (paths.set direction path).endpoint host device direction =
      { paths.endpoint host device direction with path } := by
  simp [endpoint]

theorem set_endpoint_other (paths : Paths) (host : HostView) (device : DeviceView)
    (different : any ≠ direction) (path : Path) :
    (paths.set direction path).endpoint host device any = paths.endpoint host device any := by
  simp [endpoint, different]

/-- Packets of one endpoint are lost: the other does not see it. -/
theorem lose_effect {path : Path} (lost : any = direction →
      EndpointEffect ordered any (paths.endpoint host device any)
        { paths.endpoint host device any with path } []) :
    EndpointEffect ordered any (paths.endpoint host device any)
      ((paths.set direction path).endpoint host device any) [] := by
  by_cases own : any = direction
  · have effect := lost own
    subst own
    rwa [set_endpoint_same]
  · rw [set_endpoint_other paths host device own]
    exact .quiet rfl (.nil any)

/-! Steps of the host. -/

theorem foldl_silent (silent : ∀ output ∈ outputs, output.Silent direction) (path : Path) :
    outputs.foldl (Path.absorbHost direction) path = path := by
  induction outputs with
  | nil => rfl
  | cons output rest ih =>
      rw [List.foldl_cons, (silent output (by simp)).1]
      exact ih fun output member => silent output (by simp [member])

theorem numbered_sessions (paths : Paths) (outputs : List ExchangeOutput) :
    sessionsOf (paths.numbered outputs) = [] := by
  simp [sessionsOf, numbered, NetworkOutput.sessionId]

theorem numbered_deviceOf (paths : Paths) (outputs : List ExchangeOutput) :
    deviceOf (paths.numbered outputs) = [] := by
  simp [deviceOf, numbered, NetworkOutput.deviceOutput]

theorem numbered_silent (paths : Paths) (silent : ∀ output ∈ outputs, output.Silent direction) :
    Recorded direction (paths.numbered outputs) [] [] [] [] [] :=
  Recorded.ofHost direction _ fun output member => (silent output member).2

/-- The host says nothing of its request: it keeps it, or its session ends. -/
theorem silent_endpoint (still : next = host ∨ next = .idle)
    (silent : ∀ output ∈ outputs, output.Silent direction) :
    ∃ ending : Bool, (paths.absorbHost outputs).endpoint next device direction =
      { paths.endpoint host device direction with
        session := if ending then none else host.session
        current := if ending then none else host.current direction } := by
  rcases still with same | ended
  · refine ⟨false, ?_⟩
    simp [endpoint, same, foldl_silent silent]
  · refine ⟨true, ?_⟩
    simp [endpoint, ended, HostView.idle, HostView.current, foldl_silent silent]

theorem silent_effect (still : next = host ∨ next = .idle)
    (silent : ∀ output ∈ outputs, output.Silent direction) :
    EndpointEffect ordered direction (paths.endpoint host device direction)
      ((paths.absorbHost outputs).endpoint next device direction)
      ((paths.absorbHost outputs).numbered outputs) := by
  obtain ⟨ending, same⟩ := silent_endpoint still silent
  have recorded := (paths.absorbHost outputs).numbered_silent silent
  cases ending with
  | false => exact .quiet same recorded
  | true => exact .returned same recorded

theorem begin_effect (session : host.session = some request.transaction.session)
    (idle : host.request = none) (opened : next = { host with request := some request }) :
    EndpointEffect ordered direction (paths.endpoint host device direction)
      ((paths.absorbHost [.began request]).endpoint next device direction)
      ((paths.absorbHost [.began request]).numbered [.began request]) := by
  subst opened
  by_cases own : request.direction = direction
  · refine .begin request own session ?_ ?_ ?_
    · exact HostView.current_of_idle idle direction
    · simp [endpoint, HostView.current, own, Path.absorbHost]
    · have number : (paths.absorbHost [.began request]).numberOf (.began request) =
          (paths.path direction).begun := by
        simp [numberOf, ExchangeOutput.direction, own, Path.absorbHost]
      rw [numbered, List.map_singleton, number]
      exact .ofBegan own _
  · refine .quiet ?_ ?_
    · simp [endpoint, HostView.current, idle, own, Path.absorbHost]
    · exact Recorded.ofHost direction _
        (by simp [NetworkOutput.begun, own, NetworkOutput.acknowledged])

theorem send_effect {peer : Address} {source : ResponseSource} {dropped : Bool}
    (waiting : host.request = some request) (same : next = host) :
    EndpointEffect ordered direction (paths.endpoint host device direction)
      ((paths.absorbHost [.requested request peer source dropped]).endpoint next device direction)
      ((paths.absorbHost [.requested request peer source dropped]).numbered
        [.requested request peer source dropped]) := by
  subst same
  have recorded : Recorded direction
      ((paths.absorbHost [.requested request peer source dropped]).numbered
        [.requested request peer source dropped]) [] [] [] [] [] :=
    Recorded.ofHost direction _ (by simp [NetworkOutput.begun, NetworkOutput.acknowledged])
  by_cases own : request.direction = direction ∧ dropped = false
  · refine .send request ?_ ?_ recorded
    · simp [endpoint, HostView.current, waiting, own]
    · simp [endpoint, own, Path.absorbHost]
  · refine .quiet ?_ recorded
    simp [endpoint, own, Path.absorbHost]

/-! Delivered responses. -/

variable {packet : Packet Response} {position : Nat} {path : Path}

/-- The host takes a response off the path and makes nothing of it. -/
theorem drop_effect (still : next = host ∨ next = .idle)
    (silent : ∀ output ∈ outputs, output.Silent any)
    (erased : path = { paths.path direction with
      responses := (paths.path direction).responses.eraseIdx position }) :
    EndpointEffect ordered any (paths.endpoint host device any)
      (((paths.set direction path).absorbHost outputs).endpoint next device any)
      (((paths.set direction path).absorbHost outputs).numbered outputs) := by
  by_cases own : any = direction
  · subst own
    obtain ⟨ending, same⟩ := silent_endpoint still silent
    rw [set_endpoint_same] at same
    exact .loseResponses path.responses ending
      (by rw [erased]; exact List.eraseIdx_sublist _ _) (by rw [same, erased]; rfl)
      (numbered_silent _ silent)
  · rw [← set_endpoint_other paths host device own path]
    exact silent_effect still silent

theorem foldl_acknowledged {earlier later : List ExchangeOutput} {response : Response}
    (silent : ∀ output ∈ earlier ++ later, output.Silent any) (path : Path) :
    (earlier ++ .acknowledged request response :: later).foldl (Path.absorbHost any) path =
      path := by
  have before := foldl_silent fun output member =>
    silent output (List.mem_append_left later member)
  have after := foldl_silent fun output member =>
    silent output (List.mem_append_right earlier member)
  rw [List.foldl_append, before, List.foldl_cons]
  exact after path

theorem numbered_acknowledged (paths : Paths) (request : Request) (response : Response)
    {earlier later : List ExchangeOutput} (silent : ∀ output ∈ earlier ++ later, output.Silent any) :
    Recorded any (paths.numbered (earlier ++ .acknowledged request response :: later)) [] [] []
      (if request.direction = any then [((paths.path any).begun - 1, response.frame)] else [])
      [] := by
  have before := paths.numbered_silent fun output member =>
    silent output (List.mem_append_left later member)
  have after := paths.numbered_silent fun output member =>
    silent output (List.mem_append_right earlier member)
  have accepted : Recorded any (paths.numbered [.acknowledged request response]) [] [] []
      (if request.direction = any then [((paths.path any).begun - 1, response.frame)] else [])
      [] := by
    have alone := Recorded.ofAcknowledged any ((paths.path request.direction).begun - 1) request
      response
    by_cases own : request.direction = any
    · subst own
      exact alone
    · rw [if_neg own] at alone ⊢
      exact alone
  simpa [numbered] using before.append (accepted.append after)

/-- The host accepts the response it takes off the path. -/
theorem accept_effect {earlier later : List ExchangeOutput} (waiting : host.request = some request)
    (closed : next = { host with request := none })
    (asked : request.direction = direction)
    (matched : packet.t.transaction = request.transaction)
    (found : (paths.path direction).responses[position]? = some packet)
    (inOrder : ordered → position = 0)
    (acknowledged : outputs = earlier ++ .acknowledged request packet.t :: later)
    (silent : ∀ output ∈ earlier ++ later, output.Silent any)
    (erased : path = { paths.path direction with
      responses := (paths.path direction).responses.eraseIdx position }) :
    EndpointEffect ordered any (paths.endpoint host device any)
      (((paths.set direction path).absorbHost outputs).endpoint next device any)
      (((paths.set direction path).absorbHost outputs).numbered outputs) := by
  subst closed acknowledged
  have recorded := ((paths.set direction path).absorbHost
    (earlier ++ .acknowledged request packet.t :: later)).numbered_acknowledged request packet.t silent
  rw [absorbHost_path, foldl_acknowledged silent] at recorded
  by_cases own : any = direction
  · subst own
    rw [if_pos asked] at recorded
    refine .accept request packet ((paths.path any).responses.take position)
      ((paths.path any).responses.drop (position + 1)) ?_ (getElem?_split found) ?_ matched ?_ ?_
    · simp [endpoint, HostView.current, waiting, asked]
    · intro holds
      rw [inOrder holds, List.take_zero]
    · rw [← List.eraseIdx_eq_take_drop_succ]
      simp [endpoint, HostView.current, foldl_acknowledged silent, erased]
    · simpa [endpoint, erased] using recorded
  · have other : request.direction ≠ any := by
      rw [asked]
      exact Ne.symm own
    rw [if_neg other] at recorded
    have absent : host.current any = none := by simp [HostView.current, waiting, other]
    have done : HostView.current { host with request := none } any = none := rfl
    refine .quiet ?_ recorded
    simp [endpoint, absent, done, foldl_acknowledged silent, own]

/-! Steps of the device. -/

theorem absorbDevice_endpoint (paths : Paths) (host : HostView) (device after : DeviceView)
    (outputs : List DeviceOutput) (direction : Direction) :
    (paths.absorbDevice outputs).endpoint host after direction =
      { paths.endpoint host device direction with
        server := after.server direction
        memory := after.memory direction
        path := { paths.path direction with
          responses := (paths.path direction).responses ++
            outputs.filterMap (DeviceOutput.responseOf direction) } } := by
  simp [endpoint]

end Paths

end Lamella

import Lamella.FirmwareMoves

/-!
Both firmware servers seen alike: each receives a request, executes it unless it
remembers its transaction, and responds.  The TX server executes a request when it hands
the frame over; it remembers the transaction from then on, since it looks at nothing else
before `last_completed` is set.
-/

namespace Lamella

inductive ServerView
  | idle
  | received (packet : Packet Request)
  | working (packet : Packet Request)
  | responding (packet : Packet Response)

def TxServerPhase.view : TxServerPhase → ServerView
  | .recvManual => .idle
  | .sendFrame packet => .received ⟨packet.serial, .tx packet.t⟩
  | .awaitComplete packet => .working ⟨packet.serial, .tx packet.t⟩
  | .sendResponse packet => .responding ⟨packet.serial, .tx ⟨packet.t.transaction⟩⟩

def RxServerPhase.view : RxServerPhase → ServerView
  | .recv => .idle
  | .pollFrame packet => .received ⟨packet.serial, .rx packet.t⟩
  | .sendResponse packet => .responding ⟨packet.serial, .rx packet.t⟩

def Device.server (device : Device) : Direction → ServerView
  | .tx => device.txServer.view
  | .rx => device.rxServer.view

def txMemory (server : TxServerPhase) (lastCompleted : Option WifiTransaction) :
    Option (WifiTransaction × Option WifiFrame) :=
  match server with
  | .awaitComplete packet => some (packet.t.transaction, none)
  | _ => lastCompleted.map fun transaction => (transaction, none)

def Device.memory (device : Device) : Direction → Option (WifiTransaction × Option WifiFrame)
  | .tx => txMemory device.txServer device.lastCompleted
  | .rx => device.cachedResponse.map fun response => (response.transaction, response.frame)

def DeviceOutput.executed (direction : Direction) : DeviceOutput → Option (Nat × Option WifiFrame)
  | .handed packet => if direction = .tx then some (packet.serial, none) else none
  | .answered packet => if direction = .rx then some (packet.serial, packet.t.frame) else none
  | _ => none

def DeviceOutput.replayedAs (direction : Direction) :
    DeviceOutput → Option (Nat × Option WifiFrame)
  | .replayed packet =>
      if packet.t.direction = direction then some (packet.serial, packet.t.frame) else none
  | _ => none

def DeviceOutput.responseOf (direction : Direction) : DeviceOutput → Option (Packet Response)
  | .response packet => if packet.t.direction = direction then some packet else none
  | _ => none

structure Silent (direction : Direction) (output : List DeviceOutput) : Prop where
  executed : output.filterMap (DeviceOutput.executed direction) = []
  replayed : output.filterMap (DeviceOutput.replayedAs direction) = []
  responses : output.filterMap (DeviceOutput.responseOf direction) = []

inductive ServerEffect (direction : Direction) (device : Device) (event : DeviceEvent)
    (next : Device) (output : List DeviceOutput) : Prop
  | quiet (server : next.server direction = device.server direction)
      (memory : next.memory direction = device.memory direction)
      (silent : Silent direction output)
      (other : ∀ packet, event = .request packet → packet.t.direction ≠ direction)
  | receive (packet : Packet Request) (request : event = .request packet)
      (own : packet.t.direction = direction) (before : device.server direction = .idle)
      (after : next.server direction = .received packet)
      (memory : next.memory direction = device.memory direction)
      (unknown : ∀ result, device.memory direction ≠ some (packet.t.transaction, result))
      (silent : Silent direction output)
  | replay (packet : Packet Request) (response : Response) (request : event = .request packet)
      (own : packet.t.direction = direction) (before : device.server direction = .idle)
      (after : next.server direction = .responding ⟨packet.serial, response⟩)
      (memory : next.memory direction = device.memory direction)
      (known : device.memory direction = some (packet.t.transaction, response.frame))
      (matched : response.transaction = packet.t.transaction)
      (kind : response.direction = direction)
      (replayed : output = [.replayed ⟨packet.serial, response⟩])
  | execute (packet : Packet Request) (result : Option WifiFrame) (task : TaskEvent)
      (scheduled : event = .task task) (before : device.server direction = .received packet)
      (after : next.server direction = .working packet ∨ ∃ response : Response,
        next.server direction = .responding ⟨packet.serial, response⟩ ∧
          response.transaction = packet.t.transaction ∧ response.direction = direction ∧
          response.frame = result)
      (memory : next.memory direction = some (packet.t.transaction, result))
      (executed : output.filterMap (DeviceOutput.executed direction) = [(packet.serial, result)])
      (replayed : output.filterMap (DeviceOutput.replayedAs direction) = [])
      (responses : output.filterMap (DeviceOutput.responseOf direction) = [])
  | finish (packet : Packet Request) (response : Response) (task : TaskEvent)
      (scheduled : event = .task task) (before : device.server direction = .working packet)
      (after : next.server direction = .responding ⟨packet.serial, response⟩)
      (memory : next.memory direction = device.memory direction)
      (known : device.memory direction = some (packet.t.transaction, response.frame))
      (matched : response.transaction = packet.t.transaction)
      (kind : response.direction = direction)
      (silent : Silent direction output)
  | respond (packet : Packet Response) (delivered : Bool) (task : TaskEvent)
      (scheduled : event = .task task) (before : device.server direction = .responding packet)
      (after : next.server direction = .idle)
      (memory : next.memory direction = device.memory direction)
      (kind : packet.t.direction = direction)
      (responded : output = if delivered then [.response packet] else [])

theorem BridgeMoves.serverEffect {device next : Device} {poll : BridgePoll}
    {output : List DeviceOutput} (moved : BridgeMoves device poll next output)
    (direction : Direction) :
    ServerEffect direction device (.task (.bridge poll)) next output := by
  cases moved <;> exact .quiet (by cases direction <;> rfl) (by cases direction <;> rfl)
    ⟨rfl, rfl, rfl⟩ nofun

theorem TxServerMoves.serverEffect {device next : Device} {event : DeviceEvent}
    {output : List DeviceOutput} (moved : TxServerMoves device event next output) :
    ServerEffect .tx device event next output := by
  cases moved with
  | @fresh packet idle unknown =>
      refine .receive ⟨packet.serial, .tx packet.t⟩ rfl rfl ?_ rfl ?_ ?_ ⟨rfl, rfl, rfl⟩
      · simp only [Device.server, idle, TxServerPhase.view]
      · simp only [Device.memory, idle, txMemory]
      · intro result remembered
        simp only [Device.memory, idle, txMemory, Option.map_eq_some_iff, Prod.mk.injEq] at remembered
        obtain ⟨transaction, last, rfl, _⟩ := remembered
        exact unknown last
  | @known packet idle completed =>
      refine .replay ⟨packet.serial, .tx packet.t⟩ (.tx ⟨packet.t.transaction⟩) rfl rfl ?_ rfl ?_ ?_
        rfl rfl rfl
      · simp only [Device.server, idle, TxServerPhase.view]
      · simp only [Device.memory, idle, txMemory]
      · simp only [Device.memory, idle, txMemory, completed]
        rfl
  | @send packet hostToWifi delivered phase pushed =>
      refine .execute ⟨packet.serial, .tx packet.t⟩ none _ rfl ?_ (.inl rfl) rfl rfl rfl rfl
      simp only [Device.server, phase, TxServerPhase.view]
  | @complete packet txComplete token delivered phase taken =>
      refine .finish ⟨packet.serial, .tx packet.t⟩ (.tx ⟨packet.t.transaction⟩) _ rfl ?_ rfl ?_ ?_
        rfl rfl ⟨rfl, rfl, rfl⟩
      · simp only [Device.server, phase, TxServerPhase.view]
      · simp only [Device.memory, phase, txMemory]
        rfl
      · simp only [Device.memory, phase, txMemory]
        rfl
  | @respond packet delivered phase =>
      refine .respond ⟨packet.serial, .tx ⟨packet.t.transaction⟩⟩ delivered _ rfl ?_ rfl ?_ rfl rfl
      · simp only [Device.server, phase, TxServerPhase.view]
      · simp only [Device.memory, phase, txMemory]

theorem RxServerMoves.serverEffect {device next : Device} {event : DeviceEvent}
    {output : List DeviceOutput} (moved : RxServerMoves device event next output) :
    ServerEffect .rx device event next output := by
  cases moved with
  | @fresh packet idle unknown =>
      refine .receive ⟨packet.serial, .rx packet.t⟩ rfl rfl ?_ rfl rfl ?_ ⟨rfl, rfl, rfl⟩
      · simp only [Device.server, idle, RxServerPhase.view]
      · intro result remembered
        simp only [Device.memory, Option.map_eq_some_iff, Prod.mk.injEq] at remembered
        obtain ⟨response, cached, same, _⟩ := remembered
        exact unknown response cached same
  | @known packet response idle cached matched =>
      refine .replay ⟨packet.serial, .rx packet.t⟩ (.rx response) rfl rfl ?_ rfl rfl ?_ matched rfl
        rfl
      · simp only [Device.server, idle, RxServerPhase.view]
      · simp only [Device.memory, cached, Option.map_some, matched, Request.transaction,
          Response.frame]
  | @frame packet wifiToHost frame timer delivered phase taken =>
      refine .execute ⟨packet.serial, .rx packet.t⟩ (some frame) _ rfl ?_
        (.inr ⟨_, rfl, rfl, rfl, rfl⟩) rfl rfl rfl rfl
      simp only [Device.server, phase, RxServerPhase.view]
  | @timeout packet delivered phase empty =>
      refine .execute ⟨packet.serial, .rx packet.t⟩ none _ rfl ?_
        (.inr ⟨_, rfl, rfl, rfl, rfl⟩) rfl rfl rfl rfl
      simp only [Device.server, phase, RxServerPhase.view]
  | @respond packet timer delivered phase =>
      refine .respond ⟨packet.serial, .rx packet.t⟩ delivered _ rfl ?_ rfl rfl rfl rfl
      simp only [Device.server, phase, RxServerPhase.view]

theorem TxServerMoves.rx_quiet {device next : Device} {event : DeviceEvent}
    {output : List DeviceOutput} (moved : TxServerMoves device event next output) :
    ServerEffect .rx device event next output := by
  cases moved with
  | @respond packet delivered phase =>
      cases delivered <;> exact .quiet rfl rfl ⟨rfl, rfl, rfl⟩ nofun
  | fresh idle unknown => exact .quiet rfl rfl ⟨rfl, rfl, rfl⟩ (by rintro _ ⟨⟩; nofun)
  | known idle completed => exact .quiet rfl rfl ⟨rfl, rfl, rfl⟩ (by rintro _ ⟨⟩; nofun)
  | send phase pushed => exact .quiet rfl rfl ⟨rfl, rfl, rfl⟩ nofun
  | complete phase taken => exact .quiet rfl rfl ⟨rfl, rfl, rfl⟩ nofun

theorem RxServerMoves.tx_quiet {device next : Device} {event : DeviceEvent}
    {output : List DeviceOutput} (moved : RxServerMoves device event next output) :
    ServerEffect .tx device event next output := by
  cases moved with
  | @respond packet timer delivered phase =>
      cases delivered <;> exact .quiet rfl rfl ⟨rfl, rfl, rfl⟩ nofun
  | fresh idle unknown => exact .quiet rfl rfl ⟨rfl, rfl, rfl⟩ (by rintro _ ⟨⟩; nofun)
  | known idle cached matched => exact .quiet rfl rfl ⟨rfl, rfl, rfl⟩ (by rintro _ ⟨⟩; nofun)
  | frame phase taken => exact .quiet rfl rfl ⟨rfl, rfl, rfl⟩ nofun
  | timeout phase empty => exact .quiet rfl rfl ⟨rfl, rfl, rfl⟩ nofun

theorem DeviceMoves.serverEffect {device next : Device} {event : DeviceEvent}
    {output : List DeviceOutput} (moved : DeviceMoves device event next output)
    (direction : Direction) : ServerEffect direction device event next output := by
  cases moved with
  | txServer moved =>
      cases direction with
      | tx => exact moved.serverEffect
      | rx => exact moved.rx_quiet
  | rxServer moved =>
      cases direction with
      | tx => exact moved.tx_quiet
      | rx => exact moved.serverEffect
  | bridge poll scheduled moved =>
      rw [scheduled]
      exact moved.serverEffect direction

/-! Every RX response sent was computed for its request or repeated from the cache. -/

def Produced (trace : List DeviceOutput) (packet : Packet WifiRxResponse) : Prop :=
  .answered packet ∈ trace ∨ .replayed ⟨packet.serial, .rx packet.t⟩ ∈ trace

structure RxProduced (device : Device) (trace : List DeviceOutput) : Prop where
  responding : ∀ packet, device.rxServer = .sendResponse packet → Produced trace packet
  responses : ∀ serial response, .response ⟨serial, .rx response⟩ ∈ trace →
    Produced trace ⟨serial, response⟩

theorem Produced.mono {past : List DeviceOutput} {packet : Packet WifiRxResponse}
    (produced : Produced past packet) (output : List DeviceOutput) :
    Produced (past ++ output) packet :=
  produced.imp (List.mem_append_left output) (List.mem_append_left output)

theorem RxProduced.quiet {device next : Device} {past output : List DeviceOutput}
    (produced : RxProduced device past) (server : next.rxServer = device.rxServer)
    (silent : ∀ serial response, .response ⟨serial, .rx response⟩ ∉ output) :
    RxProduced next (past ++ output) := by
  constructor
  · intro packet responding
    exact (produced.responding packet (server ▸ responding)).mono output
  · intro serial response member
    rcases List.mem_append.mp member with old | new
    · exact (produced.responses serial response old).mono output
    · exact absurd new (silent serial response)

theorem RxProduced.step {device next : Device} {past output : List DeviceOutput}
    {event : DeviceEvent} (produced : RxProduced device past)
    (moved : DeviceMoves device event next output) : RxProduced next (past ++ output) := by
  cases moved with
  | bridge poll scheduled moved => cases moved <;> exact produced.quiet rfl (by simp)
  | txServer moved =>
      cases moved with
      | @respond packet delivered phase => cases delivered <;> exact produced.quiet rfl (by simp)
      | _ => exact produced.quiet rfl (by simp)
  | rxServer moved =>
      have old (serial : Nat) (response : WifiRxResponse) {output : List DeviceOutput}
          (member : .response ⟨serial, .rx response⟩ ∈ past) :
          Produced (past ++ output) ⟨serial, response⟩ :=
        (produced.responses serial response member).mono output
      cases moved with
      | fresh idle unknown => exact ⟨nofun, fun serial response member => old _ _ (by simpa using member)⟩
      | known idle cached matched =>
          refine ⟨?_, fun serial response member => old _ _ (by simpa using member)⟩
          rintro other ⟨⟩
          exact .inr (by simp)
      | frame phase taken =>
          refine ⟨?_, fun serial response member => old _ _ (by simpa using member)⟩
          rintro other ⟨⟩
          exact .inl (by simp)
      | timeout phase empty =>
          refine ⟨?_, fun serial response member => old _ _ (by simpa using member)⟩
          rintro other ⟨⟩
          exact .inl (by simp)
      | @respond packet timer delivered phase =>
          refine ⟨nofun, fun serial response member => ?_⟩
          rcases List.mem_append.mp member with earlier | new
          · exact old _ _ earlier
          · cases delivered with
            | false => simp at new
            | true =>
                rw [if_pos rfl, List.mem_singleton, DeviceOutput.response.injEq, Packet.mk.injEq,
                  Response.rx.injEq] at new
                obtain ⟨rfl, rfl⟩ := new
                exact (produced.responding packet phase).mono _

theorem Device.run_rxProduced {events : List DeviceEvent} {device : Device}
    {trace : List DeviceOutput}
    (ran : Machine.run Device.step Device.boot events = some (device, trace)) :
    RxProduced device trace := by
  have initially : RxProduced Device.boot [] := ⟨nofun, by simp⟩
  have kept := Machine.run_invariant RxProduced (fun _ => True)
    (fun _ _ _ _ _ _ produced stepped => produced.step (Device.step_moves stepped))
    (fun _ _ => trivial) initially ran
  simpa using kept

end Lamella

import Lamella.ExchangeMoves

/-!
Whose turn it is in `wifi_exchange`: which transaction a step begins, and whether an RX
transaction is due before the channel is looked at again.
-/

namespace Lamella

def ExchangePhase.afterTx : ExchangePhase → Bool
  | .beginRx => true
  | .retry request | .await request _ => request.direction = .tx
  | .tryRecv | .tapSend _ | .returned _ => false

def Request.txFrame : Request → Option WifiFrame
  | .tx request => some request.frame
  | .rx _ => none

def ExchangeEvent.receivedFrame : ExchangeEvent → Option WifiFrame
  | .tryRecv received => received
  | _ => none

def ExchangeOutput.begunRequest : ExchangeOutput → Option Request
  | .began request => some request
  | _ => none

/-- What a step of the exchange begins, and whether an RX transaction is due before and after. -/
inductive ExchangeTurn (before after : Exchange) (event : ExchangeEvent) : List Request → Prop
  | pass (untaken : event.receivedFrame = none)
      (due : after.phase.afterTx = true → before.phase.afterTx = true ∨ event = .tryRecv none)
      (kept : before.phase.afterTx = true →
        after.phase.afterTx = true ∨ after.phase.isReturned = true) :
      ExchangeTurn before after event []
  | poll {request : Request} (direction : request.direction = .rx)
      (untaken : event.receivedFrame = none) (due : before.phase.afterTx = true)
      (done : after.phase.afterTx = false) : ExchangeTurn before after event [request]
  | take {request : Request} {frame : WifiFrame} (content : request.txFrame = some frame)
      (taken : event.receivedFrame = some frame) (clear : before.phase.afterTx = false)
      (due : after.phase.afterTx = true) : ExchangeTurn before after event [request]

theorem ExchangeTurn.keep {before after : Exchange} {event : ExchangeEvent} {phase : ExchangePhase}
    (here : before.phase = phase) (untaken : event.receivedFrame = none)
    (same : after.phase.afterTx = phase.afterTx) : ExchangeTurn before after event [] := by
  rw [← here] at same
  exact .pass untaken (fun due => .inl (same ▸ due)) fun due => .inl (same ▸ due)

theorem ExchangeTurn.stop {before after : Exchange} {event : ExchangeEvent} {reason : ExchangeEnd}
    (untaken : event.receivedFrame = none) (returned : after.phase = .returned reason) :
    ExchangeTurn before after event [] := by
  refine .pass untaken (fun due => ?_) fun _ => .inr ?_
  · rw [returned] at due
    contradiction
  · rw [returned]
    rfl

theorem ExchangeTurn.begun {before after : Exchange} {event : ExchangeEvent}
    {requests : List Request} (turn : ExchangeTurn before after event requests) :
    ∀ request ∈ requests, request.direction = .tx →
      before.phase.afterTx = false ∧ after.phase.afterTx = true := by
  intro request member tx
  cases turn with
  | pass => contradiction
  | poll rx =>
      cases List.mem_singleton.mp member
      rw [rx] at tx
      contradiction
  | take content taken clear due => exact ⟨clear, due⟩

theorem ExchangeTurn.kept {before after : Exchange} {event : ExchangeEvent}
    (turn : ExchangeTurn before after event []) (afterTx : before.phase.afterTx = true)
    (running : after.phase.isReturned = false) : after.phase.afterTx = true := by
  cases turn with
  | pass untaken due kept =>
      refine (kept afterTx).resolve_right ?_
      simp [running]

theorem tapWrite_begunRequest (request : Request) (response : Response) :
    (tapWrite request response).filterMap ExchangeOutput.begunRequest = [] := by
  rcases tapWrite_cases request response with written | ⟨frame, written⟩ <;> rw [written] <;> rfl

theorem ExchangePhase.afterMatch_afterTx (request : Request) (response : Response) :
    (ExchangePhase.afterMatch request response).afterTx = decide (request.direction = .tx) := by
  unfold ExchangePhase.afterMatch
  split <;> simp_all [ExchangePhase.afterTx]

theorem wifiExchange_exchangeTurn {recoveryTimeout : Option Nat} {exchange next : Exchange}
    {event : ExchangeEvent} {outputs : List ExchangeOutput}
    (stepped : wifiExchange recoveryTimeout exchange event = some (next, outputs)) :
    ExchangeTurn exchange next event (outputs.filterMap ExchangeOutput.begunRequest) := by
  cases wifiExchange_moves stepped with
  | skip phase =>
      refine .pass rfl (fun _ => .inr rfl) fun due => ?_
      rw [phase] at due
      contradiction
  | beginTx frame phase =>
      refine .take rfl rfl ?_ rfl
      rw [phase]
      rfl
  | beginRx phase =>
      refine .poll rfl rfl ?_ rfl
      rw [phase]
      rfl
  | attempt now peer phase | log now warningAt phase | backup now warningAt phase
  | fail now source error phase | mismatch now source phase | giveUp now source phase
  | tapSent result phase => exact .keep phase rfl rfl
  | @accept request attempt response now source phase =>
      have silent : (ExchangeOutput.resolved request source (.ok response) ::
          .acknowledged request response :: tapWrite request response).filterMap
            ExchangeOutput.begunRequest = [] := tapWrite_begunRequest request response
      rw [silent]
      exact .keep phase rfl (ExchangePhase.afterMatch_afterTx request response)
  | recover => exact .stop rfl rfl
  | cancel => exact .stop rfl rfl

end Lamella

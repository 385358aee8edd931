import Lamella.NetworkCore

/-!
Test mode: a smoltcp stack in the place of the TAP device.  `ChannelDevice` joins the stack to
one exchange task by an unbounded channel and a shared queue.  The exchange of
`bridge_ergot_to_smoltcp_serial` and `bridge_ergot_to_smoltcp_nusb`, which differ in their
transport only, has one request under way at a time: after 250 ms it drops the request and sends
it again.
-/

namespace Lamella

def testResponseTimeout : Nat := 250

inductive TestPhase
  | tryRecv
  | beginRx
  | retry (request : Request)
  | await (request : Request) (timeoutAt : Nat)
  | returned
deriving DecidableEq

def TestPhase.isReturned : TestPhase → Bool
  | .returned => true
  | _ => false

structure TestExchange where
  session : UInt64
  nextTransactionId : UInt32
  phase : TestPhase
  /-- When the current TX transaction began. -/
  start : Nat
  rxCount : Nat
  txCount : Nat
  txBlockedMs : Nat
deriving DecidableEq

inductive TestEvent
  | tryRecv (now : Nat) (received : Option (List UInt8))
  | beginRx
  | request (now : Nat)
  | resolved (now : Nat) (result : Except ReqRespError Response)
  | timeout (now : Nat)
  | cancelled

namespace TestExchange

def spawn (session : UInt64) : TestExchange := ⟨session, 0, .tryRecv, 0, 0, 0, 0⟩

def beginRequest (exchange : TestExchange) (request : WifiTransaction → Request) :
    TestExchange × List ExchangeOutput :=
  let request := request ⟨exchange.session, exchange.nextTransactionId⟩
  ({ exchange with
    nextTransactionId := exchange.nextTransactionId + 1
    phase := .retry request }, [.began request])

/-- `tapSend` is here the `push_back` on the receive queue. -/
def matched (exchange : TestExchange) (now : Nat) (request : Request) (response : Response) :
    TestExchange × List ExchangeOutput :=
  match request.direction, response.frame with
  | .tx, _ =>
      let elapsedMs := now - exchange.start
      let txBlockedMs :=
        if 10 < elapsedMs then exchange.txBlockedMs + elapsedMs else exchange.txBlockedMs
      ({ exchange with txBlockedMs, phase := .beginRx }, [.acknowledged request response])
  | .rx, none => ({ exchange with phase := .tryRecv }, [.acknowledged request response])
  | .rx, some frame =>
      ({ exchange with rxCount := exchange.rxCount + 1, phase := .tryRecv },
        [.acknowledged request response, .tapSend request frame])

def resolve (exchange : TestExchange) (now : Nat) (request : Request) :
    Except ReqRespError Response → TestExchange × List ExchangeOutput
  | .ok response =>
      if response.transaction = request.transaction then exchange.matched now request response
      else ({ exchange with phase := .retry request }, [])
  | .error _ => ({ exchange with phase := .retry request }, [])

end TestExchange

/-- A request resolves only with a response of its endpoint. -/
def Request.admits (request : Request) : Except ReqRespError Response → Bool
  | .ok response => response.direction = request.direction
  | .error _ => true

def bridgeErgotToSmoltcp (peer : Address) (exchange : TestExchange) (event : TestEvent) :
    Option (TestExchange × List ExchangeOutput) :=
  match exchange.phase, event with
  | .tryRecv, .tryRecv _ none => some ({ exchange with phase := .beginRx }, [])
  | .tryRecv, .tryRecv now (some buffer) =>
      let exchange := { exchange with txCount := exchange.txCount + 1 }
      match WifiFrame.extendFromSlice buffer with
      | none => some ({ exchange with phase := .beginRx }, [])
      | some frame =>
          some ({ exchange with start := now }.beginRequest fun transaction =>
            .tx ⟨transaction, frame⟩)
  | .beginRx, .beginRx => some (exchange.beginRequest fun transaction => .rx ⟨transaction⟩)
  | .retry request, .request now =>
      some ({ exchange with phase := .await request (now + testResponseTimeout) },
        [.requested request peer .primary false])
  | .await request _, .resolved now result =>
      if request.admits result then
        let (next, outputs) := exchange.resolve now request result
        some (next, .resolved request .primary result :: outputs)
      else none
  | .await request timeoutAt, .timeout now =>
      if timeoutAt ≤ now then some ({ exchange with phase := .retry request }, []) else none
  | .await _ _, .cancelled =>
      some ({ exchange with phase := .returned }, [.returned .cancelled])
  | _, _ => none

structure TestNetwork extends Paths where
  host : TestExchange
  txReceiver : List (List UInt8)
  rxQueue : List (List UInt8)
  device : Device

inductive TestNetworkEvent
  | consume (buffer : List UInt8)
  | receive
  | tryRecv (now : Nat)
  | beginRx
  | request (now : Nat)
  | fail (now : Nat) (error : ReqRespError)
  | timeout (now : Nat)
  | cancelled
  | deliver (direction : Direction) (position now : Nat)
  | loseRequest (direction : Direction) (position : Nat)
  | loseResponse (direction : Direction) (position : Nat)
  | arrive (direction : Direction)
  | device (event : TaskEvent)

inductive TestNetworkOutput
  | consumed (buffer : List UInt8)
  | received (frame : List UInt8)
  | network (output : NetworkOutput)
deriving DecidableEq

namespace TestNetwork

def start (session : UInt64) : TestNetwork where
  toPaths := .start
  host := .spawn session
  txReceiver := []
  rxQueue := []
  device := Device.boot

def pushed : ExchangeOutput → Option (List UInt8)
  | .tapSend _ frame => some frame.data
  | _ => none

def absorbHost (whole : TestNetwork) (host : TestExchange) (outputs : List ExchangeOutput) :
    TestNetwork × List TestNetworkOutput :=
  let toPaths := whole.toPaths.absorbHost outputs
  ({ whole with host, toPaths, rxQueue := whole.rxQueue ++ outputs.filterMap pushed },
    (toPaths.numbered outputs).map .network)

def absorbDevice (whole : TestNetwork) (device : Device) (outputs : List DeviceOutput) :
    TestNetwork × List TestNetworkOutput :=
  ({ whole with device, toPaths := whole.toPaths.absorbDevice outputs },
    (outputs.map .device).map .network)

def setPath (whole : TestNetwork) (direction : Direction) (path : Path) : TestNetwork :=
  { whole with toPaths := whole.toPaths.set direction path }

def exchange (peer : Address) (whole : TestNetwork) (event : TestEvent) :
    Option (TestNetwork × List TestNetworkOutput) :=
  match bridgeErgotToSmoltcp peer whole.host event with
  | none => none
  | some (host, outputs) => some (whole.absorbHost host outputs)

def step (peer : Address) (whole : TestNetwork) :
    TestNetworkEvent → Option (TestNetwork × List TestNetworkOutput)
  | .consume buffer =>
      -- Without its receiver the channel refuses the buffer, and the token only warns.
      if whole.host.phase.isReturned then some (whole, [])
      else some ({ whole with txReceiver := whole.txReceiver ++ [buffer] }, [.consumed buffer])
  | .receive =>
      match whole.rxQueue with
      | [] => none
      | frame :: rxQueue => some ({ whole with rxQueue }, [.received frame])
  | .tryRecv now =>
      match whole.txReceiver with
      | [] => whole.exchange peer (.tryRecv now none)
      | buffer :: txReceiver =>
          { whole with txReceiver }.exchange peer (.tryRecv now (some buffer))
  | .beginRx => whole.exchange peer .beginRx
  | .request now => whole.exchange peer (.request now)
  | .fail now error => whole.exchange peer (.resolved now (.error error))
  | .timeout now => whole.exchange peer (.timeout now)
  | .cancelled => { whole with txReceiver := [] }.exchange peer .cancelled
  | .deliver direction position now =>
      let path := whole.path direction
      match path.responses[position]? with
      | none => none
      | some packet =>
          (whole.setPath direction
            { path with responses := path.responses.eraseIdx position }).exchange peer
              (.resolved now (.ok packet.t))
  | .loseRequest direction position =>
      let path := whole.path direction
      some (whole.setPath direction { path with link := path.link.eraseIdx position }, [])
  | .loseResponse direction position =>
      let path := whole.path direction
      some (whole.setPath direction { path with responses := path.responses.eraseIdx position }, [])
  | .arrive direction =>
      let path := whole.path direction
      match path.link with
      | [] => none
      | packet :: link =>
          match whole.device.receive packet with
          | none => none
          | some (device, outputs) =>
              some ((whole.setPath direction { path with link }).absorbDevice device outputs)
  | .device event =>
      match whole.device.task event with
      | none => none
      | some (device, outputs) => some (whole.absorbDevice device outputs)

end TestNetwork

end Lamella

import Lamella.ExchangeCore
import Lamella.FirmwareMoves

/-!
Host and device together.  Each endpoint has a request link that loses copies and keeps
their order, and a pool of responses under way, from which any response may be lost or
reach any request of its endpoint that is still waiting.  Host sessions follow one
another; the device keeps running.
-/

namespace Lamella

structure Path where
  link : List (Packet Request)
  responses : List (Packet Response)
  /-- How many transactions of this endpoint were begun; the last one has the number
  `begun - 1`. -/
  begun : Nat
deriving DecidableEq

/-- The paths of the two endpoints, which a host and a device share. -/
structure Paths where
  path : Direction → Path

structure Network extends Paths where
  host : Exchange
  device : Device

inductive NetworkEvent
  | session (id : UInt64)
  | host (event : ExchangeEvent)
  | deliver (direction : Direction) (position now : Nat) (source : ResponseSource)
  | loseRequest (direction : Direction) (position : Nat)
  | loseResponse (direction : Direction) (position : Nat)
  | arrive (direction : Direction)
  | device (event : TaskEvent)
deriving DecidableEq

inductive NetworkOutput
  | session (id : UInt64)
  | host (number : Nat) (output : ExchangeOutput)
  | device (output : DeviceOutput)
deriving DecidableEq

def ExchangeOutput.direction : ExchangeOutput → Option Direction
  | .began request | .requested request _ _ _ | .resolved request _ _ | .acknowledged request _
  | .tapSend request _ => some request.direction
  | .returned _ => none

def Path.absorbHost (direction : Direction) (path : Path) : ExchangeOutput → Path
  | .began request =>
      if request.direction = direction then { path with begun := path.begun + 1 } else path
  | .requested request _ _ dropped =>
      if request.direction = direction ∧ dropped = false then
        { path with link := path.link ++ [⟨path.begun - 1, request⟩] }
      else path
  | _ => path

def Path.absorbDevice (direction : Direction) (path : Path) : DeviceOutput → Path
  | .response packet =>
      if packet.t.direction = direction then { path with responses := path.responses ++ [packet] }
      else path
  | _ => path

namespace Paths

def start : Paths where
  path := fun _ => ⟨[], [], 0⟩

def set (paths : Paths) (direction : Direction) (path : Path) : Paths where
  path := Function.update paths.path direction path

def absorbHost (paths : Paths) (outputs : List ExchangeOutput) : Paths where
  path := fun direction => outputs.foldl (Path.absorbHost direction) (paths.path direction)

def absorbDevice (paths : Paths) (outputs : List DeviceOutput) : Paths where
  path := fun direction => outputs.foldl (Path.absorbDevice direction) (paths.path direction)

def numberOf (paths : Paths) (output : ExchangeOutput) : Nat :=
  match output.direction with
  | some direction => (paths.path direction).begun - 1
  | none => 0

/-- Each output of the host with the number of its transaction. -/
def numbered (paths : Paths) (outputs : List ExchangeOutput) : List NetworkOutput :=
  outputs.map fun output => .host (paths.numberOf output) output

end Paths

def Network.start (injector : EndpointFaultInjector) : Network where
  toPaths := .start
  host := ⟨0, 0, .returned .cancelled, injector, {}⟩
  device := Device.boot

def Network.absorbHost (network : Network) (host : Exchange) (outputs : List ExchangeOutput) :
    Network × List NetworkOutput :=
  let toPaths := network.toPaths.absorbHost outputs
  ({ network with host, toPaths }, toPaths.numbered outputs)

def Network.absorbDevice (network : Network) (device : Device) (outputs : List DeviceOutput) :
    Network × List NetworkOutput :=
  ({ network with device, toPaths := network.toPaths.absorbDevice outputs }, outputs.map .device)

def Network.setPath (network : Network) (direction : Direction) (path : Path) : Network :=
  { network with toPaths := network.toPaths.set direction path }

def Network.step (recoveryTimeout : Option Nat) (network : Network) :
    NetworkEvent → Option (Network × List NetworkOutput)
  | .session id =>
      if network.host.phase.isReturned then
        some ({ network with host := network.host.start id }, [.session id])
      else none
  | .host event =>
      -- Responses reach the host by `deliver` only.
      if event.isResponse then none
      else
        match wifiExchange recoveryTimeout network.host event with
        | none => none
        | some (host, outputs) => some (network.absorbHost host outputs)
  | .deliver direction position now source =>
      match (network.path direction).responses[position]? with
      | none => none
      | some packet =>
          match wifiExchange recoveryTimeout network.host
              (.wait now (.resolved source (.ok packet.t))) with
          | none => none
          | some (host, outputs) =>
              let path := network.path direction
              let network := network.setPath direction
                { path with responses := path.responses.eraseIdx position }
              some (network.absorbHost host outputs)
  | .loseRequest direction position =>
      let path := network.path direction
      some (network.setPath direction { path with link := path.link.eraseIdx position }, [])
  | .loseResponse direction position =>
      let path := network.path direction
      some (network.setPath direction { path with responses := path.responses.eraseIdx position }, [])
  | .arrive direction =>
      let path := network.path direction
      match path.link with
      | [] => none
      | packet :: link =>
          match network.device.receive packet with
          | none => none
          | some (device, outputs) =>
              some ((network.setPath direction { path with link }).absorbDevice device outputs)
  | .device event =>
      match network.device.task event with
      | none => none
      | some (device, outputs) => some (network.absorbDevice device outputs)

end Lamella

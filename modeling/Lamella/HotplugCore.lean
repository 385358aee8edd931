import Mathlib.Data.List.Infix
import Lamella.HandshakeCore

/-!
`run_with_hotplug`: wait for a serial device, register its port on a stack of its own,
query the MAC, run one bridge session, and start over.  A phase is a place where the loop
waits.
-/

namespace Lamella

structure Interface where
  stack : Nat
  id : UInt8
deriving DecidableEq

inductive SessionEnd
  | cancelled
  | pingListener
  | tapReader
  | exchange
deriving DecidableEq

inductive HotplugPhase
  | waitForDevice
  | register (portPath : String)
  | handshake (interface : Interface)
  | session (interface : Interface)
  | pause
  | returned (result : Except IoError Unit)
deriving DecidableEq

structure Hotplug where
  phase : HotplugPhase
  expectedMac : Option Mac
  tapDevice : Option Mac
  connectedOnce : Bool
  metrics : BridgeMetrics
  stackCount : Nat
  /-- Interfaces registered and not deregistered since, oldest first. -/
  registered : List Interface
deriving DecidableEq

def Hotplug.start : Hotplug := ⟨.waitForDevice, none, none, false, {}, 0, []⟩

inductive HotplugEvent
  | cancelled
  | poll (entries : Option (List String))
  | register (result : Except IoError UInt8)
  | handshake (queries : Fin macQueryRetries → MacAttempt) (state : Option InterfaceState)
      (tap : Except IoError Unit)
  /-- The session's end, and whether the token was cancelled by the time it is checked. -/
  | sessionEnded (reason : SessionEnd) (isCancelled : Bool)
  | slept

inductive HotplugOutput
  | registered (interface : Interface)
  | macChanged (expected got : Mac)
  | session (interface : Interface) (peer : Address)
  | deregistered (interface : Interface)
deriving DecidableEq

def findDeviceById (pattern : String) (entries : Option (List String)) : Option String :=
  (entries.getD []).find? (fun name => pattern.toList <:+: name.toList) |>.map
    ("/dev/serial/by-id/" ++ ·)

namespace Hotplug

def deregisterSerialInterface (loop : Hotplug) (interface : Interface) : Hotplug :=
  { loop with registered := loop.registered.erase interface }

def startBridge (loop : Hotplug) (interface : Interface) (peer : Address) :
    Hotplug × List HotplugOutput :=
  match loop.tapDevice with
  | none => ({ loop with phase := .pause }, [])
  | some _ =>
      let loop := if loop.connectedOnce then { loop with metrics := loop.metrics.recordReconnect }
        else { loop with connectedOnce := true }
      ({ loop with phase := .session interface }, [.session interface peer])

def finishHandshake (loop : Hotplug) (interface : Interface)
    (queries : Fin macQueryRetries → MacAttempt) (state : Option InterfaceState)
    (tap : Except IoError Unit) : Hotplug × List HotplugOutput :=
  match queryMacWithRetrySerial queries with
  | .error _ => ({ loop with phase := .pause }, [])
  | .ok mac =>
      match serialPeerAddress state with
      -- `continue`
      | .error _ => ({ loop with phase := .waitForDevice }, [])
      | .ok peer =>
          match loop.expectedMac with
          | some expected =>
              let (loop, outputs) := loop.startBridge interface peer
              (loop, (if mac ≠ expected then [.macChanged expected mac] else []) ++ outputs)
          | none =>
              match tap with
              | .error error =>
                  ({ loop with expectedMac := some mac, phase := .returned (.error error) }, [])
              | .ok () =>
                  { loop with expectedMac := some mac, tapDevice := some mac }.startBridge
                    interface peer

def endSession (loop : Hotplug) (interface : Interface) (reason : SessionEnd)
    (isCancelled : Bool) : Hotplug × List HotplugOutput :=
  let loop := loop.deregisterSerialInterface interface
  let phase := if reason = .cancelled ∨ isCancelled then .returned (.ok ()) else .pause
  ({ loop with phase }, [.deregistered interface])

end Hotplug

def runWithHotplug (pattern : String) (loop : Hotplug) (event : HotplugEvent) :
    Option (Hotplug × List HotplugOutput) :=
  match loop.phase, event with
  | .waitForDevice, .cancelled => some ({ loop with phase := .returned (.ok ()) }, [])
  | .waitForDevice, .poll entries =>
      match findDeviceById pattern entries with
      | none => some (loop, [])
      | some path => some ({ loop with phase := .register path, stackCount := loop.stackCount + 1 }, [])
  | .register _, .register (.ok id) =>
      let interface : Interface := ⟨loop.stackCount, id⟩
      some ({ loop with
        phase := .handshake interface
        registered := loop.registered ++ [interface] }, [.registered interface])
  | .register _, .register (.error _) => some ({ loop with phase := .pause }, [])
  | .handshake interface, .handshake queries state tap =>
      some (loop.finishHandshake interface queries state tap)
  | .session interface, .sessionEnded reason isCancelled =>
      some (loop.endSession interface reason isCancelled)
  | .pause, .slept => some ({ loop with phase := .waitForDevice }, [])
  | _, _ => none

end Lamella

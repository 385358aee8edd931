import Mathlib.Data.List.OfFn
import Lamella.ExchangeCore

/-!
The handshake with a newly registered interface: the MAC query with its retries and the
address of the peer.  Both transports use the same steps.
-/

namespace Lamella

def esp32NodeId : UInt8 := 2

def macQueryRetries : Nat := 3

abbrev Mac := Vector UInt8 6

inductive IoError
  | timedOut (message : String)
  | notConnected (message : String)
  | other (message : String)
  | request (error : ReqRespError)
deriving DecidableEq

inductive InterfaceState
  | inactive
  | active (netId : UInt16) (nodeId : UInt8)
deriving DecidableEq

/-- The peer behind an interface; `none` stands for an interface id ergot does not know. -/
def peerAddress : Option InterfaceState → Except IoError Address
  | some (.active netId _) => .ok ⟨netId, esp32NodeId, 0⟩
  | some .inactive | none => .error (.notConnected "No active interface")

def serialPeerAddress : Option InterfaceState → Except IoError Address := peerAddress

def nusbPeerAddress : Option InterfaceState → Except IoError Address := peerAddress

/-- What one MAC query meets: the state of its interface, and the answer unless none came
within the timeout. -/
structure MacAttempt where
  state : Option InterfaceState
  answer : Option (Except ReqRespError Mac)

def queryMacForInterface (attempt : MacAttempt) : Option (Except IoError Mac) :=
  match peerAddress attempt.state with
  | .error error => some (.error error)
  | .ok _ =>
      match attempt.answer with
      | none => none
      | some (.ok mac) => some (.ok mac)
      | some (.error error) => some (.error (.request error))

def queryMacLoop (lastErr : Option IoError) : List MacAttempt → Except IoError Mac
  | [] => .error (lastErr.getD (.other "Failed to query ESP32 MAC"))
  | attempt :: rest =>
      match queryMacForInterface attempt with
      | some (.ok mac) => .ok mac
      | some (.error error) => queryMacLoop (some error) rest
      | none => queryMacLoop (some (.timedOut "Timed out waiting for ESP32 MAC response")) rest

def queryMacWithRetry (attempts : Fin macQueryRetries → MacAttempt) : Except IoError Mac :=
  queryMacLoop none (List.ofFn attempts)

def queryMacWithRetrySerial : (Fin macQueryRetries → MacAttempt) → Except IoError Mac :=
  queryMacWithRetry

def queryMacWithRetryNusb : (Fin macQueryRetries → MacAttempt) → Except IoError Mac :=
  queryMacWithRetry

end Lamella

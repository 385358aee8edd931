import Mathlib.Data.List.Basic

/-!
The interface control document shared by host and firmware: frames, transactions and
the two endpoints.  `Request` and `Response` join the messages of both endpoints, and
`Packet` is a message together with the number of the transaction it belongs to.
-/

namespace Lamella

def maxFrameSize : Nat := 1514

/-- `heapless::Vec<u8, MAX_FRAME_SIZE>`: no frame exceeds the capacity. -/
structure WifiFrame where
  data : List UInt8
  bounded : data.length ≤ maxFrameSize
deriving DecidableEq

def WifiFrame.extendFromSlice (buffer : List UInt8) : Option WifiFrame :=
  if bounded : buffer.length ≤ maxFrameSize then some ⟨buffer, bounded⟩ else none

structure WifiTransaction where
  session : UInt64
  id : UInt32
deriving DecidableEq

structure WifiTxRequest where
  transaction : WifiTransaction
  frame : WifiFrame
deriving DecidableEq

structure WifiTxResponse where
  transaction : WifiTransaction
deriving DecidableEq

structure WifiRxRequest where
  transaction : WifiTransaction
deriving DecidableEq

structure WifiRxResponse where
  transaction : WifiTransaction
  frame : Option WifiFrame
deriving DecidableEq

/-- The two endpoints, named from the host's side: `WifiTxEndpoint`, `WifiRxEndpoint`. -/
inductive Direction
  | tx
  | rx
deriving DecidableEq

inductive Request
  | tx (request : WifiTxRequest)
  | rx (request : WifiRxRequest)
deriving DecidableEq

inductive Response
  | tx (response : WifiTxResponse)
  | rx (response : WifiRxResponse)
deriving DecidableEq

def Request.direction : Request → Direction
  | .tx _ => .tx
  | .rx _ => .rx

def Request.transaction : Request → WifiTransaction
  | .tx request => request.transaction
  | .rx request => request.transaction

def Response.direction : Response → Direction
  | .tx _ => .tx
  | .rx _ => .rx

def Response.transaction : Response → WifiTransaction
  | .tx response => response.transaction
  | .rx response => response.transaction

def Response.frame : Response → Option WifiFrame
  | .tx _ => none
  | .rx response => response.frame

/-- A message on the wire.  `serial` counts the transactions of its endpoint; it stands
for the identity of the request the message belongs to, and no decision of the host or
of the firmware depends on it. -/
structure Packet (Message : Type) where
  serial : Nat
  t : Message
deriving DecidableEq

@[simp] theorem Request.direction_tx (request : WifiTxRequest) :
    (Request.tx request).direction = .tx := rfl

@[simp] theorem Request.direction_rx (request : WifiRxRequest) :
    (Request.rx request).direction = .rx := rfl

@[simp] theorem Response.direction_tx (response : WifiTxResponse) :
    (Response.tx response).direction = .tx := rfl

@[simp] theorem Response.direction_rx (response : WifiRxResponse) :
    (Response.rx response).direction = .rx := rfl

end Lamella

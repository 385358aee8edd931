import Lamella.MachineCore
import Lamella.Target

/-!
The ping test of `run_smoltcp_stack`.  A step is one pass of its loop: a DHCP event, a ping when
the interval has elapsed and none is awaited, at most one packet of the ICMP socket, and the
timeout.  What the sockets do is part of the pass.  Times are in milliseconds.
-/

namespace Lamella

def pingInterval : Nat := 1000

def pingTimeout : Nat := 3000

inductive DhcpEvent
  | configured (router : Option Ipv4Address) (dnsServers : List Ipv4Address)
  | deconfigured
deriving DecidableEq

/-- A received packet.  `answers` counts pings from zero and says which of them the packet was
sent in answer to; nothing in the code depends on it. -/
structure IcmpPacket where
  payload : List UInt8
  answers : Nat
deriving DecidableEq

structure PingPass where
  now : Nat
  dhcp : Option DhcpEvent := none
  canSend : Bool := true
  sendOk : Bool := true
  received : Option (Except Unit IcmpPacket) := none

/-- `sentSeqs` records the numbers of the pings sent so far; nothing depends on it. -/
structure Pinger where
  gotIp : Bool
  pingTargets : List Ipv4Address
  pingSeq : UInt16
  lastPingTime : Nat
  awaitingPong : Bool
  sentSeqs : List UInt16
deriving DecidableEq

inductive PingOutput
  | sent (seq : UInt16) (target : Ipv4Address)
  | reply (answers : Nat) (seq : UInt16)
  | timedOut (seq : UInt16)
deriving DecidableEq

/-- The sequence number of an echo reply (type 0), in bytes 6 and 7. -/
def echoReplySeq : List UInt8 → Option UInt16
  | msgType :: _ :: _ :: _ :: _ :: _ :: high :: low :: _ =>
      if msgType = 0 then some (UInt16.ofNat (high.toNat * 256 + low.toNat)) else none
  | _ => none

def PingPass.echoReply (pass : PingPass) : Option (Nat × UInt16) :=
  match pass.received with
  | some (.ok packet) => (echoReplySeq packet.payload).map fun seq => (packet.answers, seq)
  | _ => none

namespace Pinger

def start (now : Nat) : Pinger := ⟨false, [], 0, now, false, []⟩

def configure (pinger : Pinger) : Option DhcpEvent → Pinger
  | none => pinger
  | some (.configured router dnsServers) =>
      { pinger with
        gotIp := true
        pingTargets :=
          pinger.pingTargets ++ router.toList ++ dnsServers ++ [⟨8, 8, 8, 8⟩, ⟨1, 1, 1, 1⟩] }
  | some .deconfigured => { pinger with gotIp := false }

def sendPing (pinger : Pinger) (pass : PingPass) : Pinger × List PingOutput :=
  if pingInterval ≤ pass.now - pinger.lastPingTime ∧ pinger.awaitingPong = false ∧
      pass.canSend = true ∧ pass.sendOk = true then
    match pinger.pingTargets[pinger.pingSeq.toNat % pinger.pingTargets.length]? with
    | some target =>
        ({ pinger with
          awaitingPong := true
          lastPingTime := pass.now
          sentSeqs := pinger.sentSeqs ++ [pinger.pingSeq] }, [.sent pinger.pingSeq target])
    | none => (pinger, [])
  else (pinger, [])

def receivePong (pinger : Pinger) (pass : PingPass) : Pinger × List PingOutput :=
  match pass.echoReply with
  | some (answers, seq) =>
      ({ pinger with awaitingPong := false, pingSeq := pinger.pingSeq + 1 }, [.reply answers seq])
  | none => (pinger, [])

def checkTimeout (pinger : Pinger) (pass : PingPass) : Pinger × List PingOutput :=
  if pinger.awaitingPong = true ∧ pingTimeout < pass.now - pinger.lastPingTime then
    ({ pinger with awaitingPong := false, pingSeq := pinger.pingSeq + 1 },
      [.timedOut pinger.pingSeq])
  else (pinger, [])

def pings (pinger : Pinger) : Bool := pinger.gotIp && !pinger.pingTargets.isEmpty

end Pinger

def runSmoltcpStack (pinger : Pinger) (pass : PingPass) : Option (Pinger × List PingOutput) :=
  let pinger := pinger.configure pass.dhcp
  if pinger.pings then
    let (pinger, sent) := pinger.sendPing pass
    let (pinger, replied) := pinger.receivePong pass
    let (pinger, expired) := pinger.checkTimeout pass
    some (pinger, sent ++ replied ++ expired)
  else some (pinger, [])

end Lamella

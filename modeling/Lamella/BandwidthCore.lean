import Lamella.Download
import Lamella.PingCore

/-!
The bandwidth tests of test mode: `run_tcp_bandwidth_test`, `run_udp_bandwidth_test` and
`run_http_download_test`.  A step is one pass of the loop, made at one time in milliseconds; what
the sockets do is part of the pass.
-/

namespace Lamella

def progressInterval : Nat := 2000

def udpSilence : Nat := 5000

inductive LoopPhase
  | running
  | ended
  | panicked
deriving DecidableEq

/-- `started` is where `start_time` is set, `received` what a socket hands over. -/
inductive TestOutput (Count : Type)
  | started (now : Nat)
  | received (data : List UInt8)
  | progress (count : Count) (elapsed : Nat)
  | complete (count : Count) (elapsed : Nat)
deriving DecidableEq

/-- What the three loops have in common. -/
structure TestLoop (Count : Type) where
  phase : LoopPhase
  gotIp : Bool
  startTime : Option Nat
  lastReport : Nat
  count : Count
deriving DecidableEq

namespace TestLoop

variable {Count : Type}

def start (now : Nat) (count : Count) : TestLoop Count := ⟨.running, false, none, now, count⟩

def configure (loop : TestLoop Count) : Option DhcpEvent → TestLoop Count
  | none => loop
  | some (.configured _ _) => { loop with gotIp := true }
  | some .deconfigured => { loop with gotIp := false }

def begin (loop : TestLoop Count) (starts : Bool) (now : Nat) :
    TestLoop Count × List (TestOutput Count) :=
  if starts then ({ loop with startTime := some now }, [.started now]) else (loop, [])

/-- The end of a pass: the final report, or a progress report when one is due.  Both unwrap
`start_time`. -/
def report (loop : TestLoop Count) (now : Nat) (complete reporting : Bool) :
    TestLoop Count × List (TestOutput Count) :=
  if complete then
    match loop.startTime with
    | none => ({ loop with phase := .panicked }, [])
    | some started => ({ loop with phase := .ended }, [.complete loop.count (now - started)])
  else if reporting && decide (progressInterval < now - loop.lastReport) then
    match loop.startTime with
    | none => ({ loop with phase := .panicked }, [])
    | some started => ({ loop with lastReport := now }, [.progress loop.count (now - started)])
  else (loop, [])

end TestLoop

/-! TCP. -/

/-- `recv` is what the call of that name returns, `closed` whether the socket may not receive and
is not established after it. -/
structure TcpPass where
  now : Nat
  isCancelled : Bool := false
  dhcp : Option DhcpEvent := none
  connectOk : Bool := true
  isActive : Bool := true
  maySend : Bool := true
  sendOk : Bool := true
  mayRecv : Bool := true
  recv : Except Unit (List UInt8) := .ok []
  closed : Bool := false

structure TcpTest where
  loop : TestLoop Nat
  tcpStarted : Bool
  tcpConnected : Bool
deriving DecidableEq

def TcpTest.start (now : Nat) : TcpTest := ⟨.start now 0, false, false⟩

def receiveTcp (loop : TestLoop Nat) :
    Except Unit (List UInt8) → TestLoop Nat × List (TestOutput Nat)
  | .ok data => ({ loop with count := loop.count + data.length }, [.received data])
  | .error _ => (loop, [])

def runTcpBandwidthTest (test : TcpTest) (pass : TcpPass) :
    Option (TcpTest × List (TestOutput Nat)) :=
  if test.loop.phase ≠ .running then none
  else if pass.isCancelled then
    some ({ test with loop := { test.loop with phase := .ended } }, [])
  else
    let loop := test.loop.configure pass.dhcp
    let tcpStarted := test.tcpStarted || (loop.gotIp && pass.connectOk)
    let connects := tcpStarted && !test.tcpConnected && pass.isActive && pass.mayRecv
    let tcpConnected := test.tcpConnected || connects
    let (loop, begun) := loop.begin connects pass.now
    let (loop, received) :=
      if tcpConnected && pass.mayRecv then receiveTcp loop pass.recv else (loop, [])
    let (loop, reported) := loop.report pass.now (tcpConnected && pass.closed) tcpConnected
    some (⟨loop, tcpStarted, tcpConnected⟩, begun ++ received ++ reported)

/-! UDP. -/

/-- `received` are the packets that the inner loop takes before the socket is empty or fails. -/
structure UdpPass where
  now : Nat
  isCancelled : Bool := false
  dhcp : Option DhcpEvent := none
  canSend : Bool := true
  sendOk : Bool := true
  received : List (List UInt8) := []

structure UdpCount where
  totalBytes : Nat
  totalPackets : Nat
deriving DecidableEq

structure UdpTest where
  loop : TestLoop UdpCount
  sentTrigger : Bool
  lastPacketTime : Nat
deriving DecidableEq

def UdpTest.start (now : Nat) : UdpTest := ⟨.start now ⟨0, 0⟩, false, now⟩

def UdpCount.add (count : UdpCount) (data : List UInt8) : UdpCount :=
  ⟨count.totalBytes + data.length, count.totalPackets + 1⟩

def runUdpBandwidthTest (test : UdpTest) (pass : UdpPass) :
    Option (UdpTest × List (TestOutput UdpCount)) :=
  if test.loop.phase ≠ .running then none
  else if pass.isCancelled then
    some ({ test with loop := { test.loop with phase := .ended } }, [])
  else
    let loop := test.loop.configure pass.dhcp
    let triggers := loop.gotIp && !test.sentTrigger && pass.canSend && pass.sendOk
    let sentTrigger := test.sentTrigger || triggers
    let (loop, begun) := loop.begin triggers pass.now
    let packets := if sentTrigger then pass.received else []
    let lastPacketTime :=
      if triggers || !packets.isEmpty then pass.now else test.lastPacketTime
    let loop := { loop with count := packets.foldl UdpCount.add loop.count }
    let receiving := sentTrigger && decide (0 < loop.count.totalPackets)
    let (loop, reported) := loop.report pass.now
      (receiving && decide (udpSilence < pass.now - lastPacketTime)) receiving
    some (⟨loop, sentTrigger, lastPacketTime⟩, begun ++ packets.map .received ++ reported)

/-! HTTP. -/

structure HttpTest where
  loop : TestLoop HttpDownload
  tcpStarted : Bool
  tcpConnected : Bool
  httpRequestSent : Bool
deriving DecidableEq

def HttpTest.start (now : Nat) : HttpTest := ⟨.start now {}, false, false, false⟩

def receiveHttp (loop : TestLoop HttpDownload) :
    Except Unit (List UInt8) → Option (TestLoop HttpDownload × List (TestOutput HttpDownload))
  | .ok data =>
      match loop.count.recv data with
      | none => none
      | some count => some ({ loop with count }, [.received data])
  | .error _ => some (loop, [])

def runHttpDownloadTest (test : HttpTest) (pass : TcpPass) :
    Option (HttpTest × List (TestOutput HttpDownload)) :=
  if test.loop.phase ≠ .running then none
  else if pass.isCancelled then
    some ({ test with loop := { test.loop with phase := .ended } }, [])
  else
    let loop := test.loop.configure pass.dhcp
    let tcpStarted := test.tcpStarted || (loop.gotIp && pass.connectOk)
    let tcpConnected :=
      test.tcpConnected || (tcpStarted && pass.isActive && pass.mayRecv)
    let sends := tcpConnected && !test.httpRequestSent && pass.maySend && pass.sendOk
    let httpRequestSent := test.httpRequestSent || sends
    let (loop, begun) := loop.begin sends pass.now
    match if httpRequestSent && pass.mayRecv then receiveHttp loop pass.recv else some (loop, []) with
    | none => some (⟨{ loop with phase := .panicked }, tcpStarted, tcpConnected, httpRequestSent⟩, begun)
    | some (loop, received) =>
        let reading := httpRequestSent && loop.count.headersDone
        let (loop, reported) := loop.report pass.now (reading && pass.closed) reading
        some (⟨loop, tcpStarted, tcpConnected, httpRequestSent⟩, begun ++ received ++ reported)

end Lamella

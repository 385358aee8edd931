import Lamella.NetworkCore

/-!
The throughput test: the host tool `ergot_throughput_test` against the firmware `ergot_test`.  The
tool's worker has one request under way at a time and repeats it after a timeout; the firmware's
two servers answer from their own frames.  The link is that of the bridge.  Times are in
microseconds.
-/

namespace Lamella

def testFrameSize : Nat := 1400

def hostFrameByte : UInt8 := 0xCD

def deviceFrameByte : UInt8 := 0xAB

def slowResponseMicros : Nat := 250000

def testFrame (byte : UInt8) : WifiFrame :=
  ⟨List.replicate testFrameSize byte, by rw [List.length_replicate]; decide⟩

def WifiFrame.isTestFrame (frame : WifiFrame) (byte : UInt8) : Bool :=
  decide (frame.data.length = testFrameSize) && frame.data.all (· == byte)

/-! The host tool. -/

inductive ThroughputMode
  | rxOnly
  | txOnly
  | bidir
deriving DecidableEq

def ThroughputMode.has : ThroughputMode → Direction → Bool
  | .bidir, _ | .rxOnly, .rx | .txOnly, .tx => true
  | _, _ => false

/-- The counters of one direction; integrity errors are counted for RX only. -/
structure DirectionStats where
  bytes : Nat := 0
  frames : Nat := 0
  retries : Nat := 0
  timeouts : Nat := 0
  endpointErrors : Nat := 0
  responseMismatches : Nat := 0
  integrityErrors : Nat := 0
  slowResponses : Nat := 0
  maxLatencyMicros : Nat := 0
deriving DecidableEq

def DirectionStats.recordLatency (stats : DirectionStats) (micros : Nat) : DirectionStats :=
  { stats with
    maxLatencyMicros := max stats.maxLatencyMicros micros
    slowResponses :=
      if slowResponseMicros ≤ micros then stats.slowResponses + 1 else stats.slowResponses }

def DirectionStats.recordFrame (stats : DirectionStats) (bytes : Nat) : DirectionStats :=
  { stats with frames := stats.frames + 1, bytes := stats.bytes + bytes }

def DirectionStats.recordTimeout (stats : DirectionStats) : DirectionStats :=
  { stats with retries := stats.retries + 1, timeouts := stats.timeouts + 1 }

def DirectionStats.recordEndpointError (stats : DirectionStats) : DirectionStats :=
  { stats with retries := stats.retries + 1, endpointErrors := stats.endpointErrors + 1 }

def DirectionStats.recordMismatch (stats : DirectionStats) : DirectionStats :=
  { stats with retries := stats.retries + 1, responseMismatches := stats.responseMismatches + 1 }

def DirectionStats.recordIntegrityError (stats : DirectionStats) : DirectionStats :=
  { stats with retries := stats.retries + 1, integrityErrors := stats.integrityErrors + 1 }

inductive WorkerPhase
  | tx
  | rx
  | retry (request : Request)
  | await (request : Request) (attemptStarted : Nat)
deriving DecidableEq

structure Worker where
  mode : ThroughputMode
  session : UInt64
  nextTransactionId : UInt32
  phase : WorkerPhase
  stats : Direction → DirectionStats

inductive WorkerEvent
  | next
  | request (now : Nat)
  | resolved (now : Nat) (result : Except ReqRespError Response)
  | timeout (now : Nat)

namespace Worker

def spawn (mode : ThroughputMode) (session : UInt64) : Worker := ⟨mode, session, 0, .tx, fun _ => {}⟩

def failureCount (worker : Worker) : Nat :=
  (worker.stats .rx).retries + (worker.stats .tx).retries

def setStats (worker : Worker) (direction : Direction) (stats : DirectionStats) : Worker :=
  { worker with stats := Function.update worker.stats direction stats }

def beginRequest (worker : Worker) (request : WifiTransaction → Request) :
    Worker × List ExchangeOutput :=
  let request := request ⟨worker.session, worker.nextTransactionId⟩
  ({ worker with
    nextTransactionId := worker.nextTransactionId + 1
    phase := .retry request }, [.began request])

def again (worker : Worker) (request : Request)
    (record : DirectionStats → DirectionStats) : Worker × List ExchangeOutput :=
  ({ worker with phase := .retry request }.setStats request.direction
    (record (worker.stats request.direction)), [])

def matched (worker : Worker) (now attemptStarted : Nat) (request : Request)
    (response : Response) : Worker × List ExchangeOutput :=
  let micros := now - attemptStarted
  match request.direction with
  | .tx =>
      ({ worker with phase := .rx }.setStats .tx
        (((worker.stats .tx).recordLatency micros).recordFrame testFrameSize),
        [.acknowledged request response])
  | .rx =>
      match response.frame with
      | some frame =>
          if frame.isTestFrame deviceFrameByte then
            ({ worker with phase := .tx }.setStats .rx
              (((worker.stats .rx).recordLatency micros).recordFrame frame.data.length),
              [.acknowledged request response])
          else worker.again request .recordIntegrityError
      | none => worker.again request .recordIntegrityError

def resolve (worker : Worker) (now attemptStarted : Nat) (request : Request) :
    Except ReqRespError Response → Worker × List ExchangeOutput
  | .ok response =>
      if response.transaction = request.transaction then
        worker.matched now attemptStarted request response
      else worker.again request .recordMismatch
  | .error _ => worker.again request .recordEndpointError

/-- The request resolves only with a response of its endpoint.  The pause after every fifth frame
takes no step. -/
def step (requestTimeout : Nat) (peer : Address) (worker : Worker) (event : WorkerEvent) :
    Option (Worker × List ExchangeOutput) :=
  match worker.phase, event with
  | .tx, .next =>
      if worker.mode.has .tx then
        some (worker.beginRequest fun transaction => .tx ⟨transaction, testFrame hostFrameByte⟩)
      else some ({ worker with phase := .rx }, [])
  | .rx, .next =>
      if worker.mode.has .rx then some (worker.beginRequest fun transaction => .rx ⟨transaction⟩)
      else some ({ worker with phase := .tx }, [])
  | .retry request, .request now =>
      some ({ worker with phase := .await request now }, [.requested request peer .primary false])
  | .await request attemptStarted, .resolved now result =>
      match result with
      | .ok response =>
          if response.direction = request.direction then
            some (worker.resolve now attemptStarted request result)
          else none
      | .error _ => some (worker.resolve now attemptStarted request result)
  | .await request attemptStarted, .timeout now =>
      if attemptStarted + requestTimeout ≤ now then some (worker.again request .recordTimeout)
      else none
  | _, _ => none

end Worker

/-! The firmware. -/

/-- What the closure of `serve` makes of a request. -/
inductive ServeVerdict
  | known
  | new
  | invalid
deriving DecidableEq

def frameSender (cachedResponse : Option WifiRxResponse) (request : WifiRxRequest) :
    WifiRxResponse × ServeVerdict :=
  match cachedResponse with
  | some response =>
      if response.transaction = request.transaction then (response, .known)
      else (⟨request.transaction, some (testFrame deviceFrameByte)⟩, .new)
  | none => (⟨request.transaction, some (testFrame deviceFrameByte)⟩, .new)

def frameReceiver (lastCompleted : Option WifiTransaction) (request : WifiTxRequest) :
    WifiTxResponse × ServeVerdict :=
  if lastCompleted = some request.transaction then (⟨request.transaction⟩, .known)
  else if request.frame.isTestFrame hostFrameByte then (⟨request.transaction⟩, .new)
  else (⟨⟨request.transaction.session, request.transaction.id + 1⟩⟩, .invalid)

/-- `responding` is the response a server has computed and not yet sent, `invalidPayloads` how
often `frame_receiver` refused a frame. -/
structure TestFirmware where
  cachedResponse : Option WifiRxResponse
  lastCompleted : Option WifiTransaction
  responding : Direction → Option (Packet Response)
  invalidPayloads : Nat

namespace TestFirmware

def boot : TestFirmware := ⟨none, none, fun _ => none, 0⟩

def setResponding (firmware : TestFirmware) (direction : Direction)
    (response : Option (Packet Response)) : TestFirmware :=
  { firmware with responding := Function.update firmware.responding direction response }

/-- A server takes a request and runs its closure. -/
def serve (firmware : TestFirmware) (packet : Packet Request) :
    Option (TestFirmware × List DeviceOutput) :=
  match packet.t, firmware.responding packet.t.direction with
  | _, some _ => none
  | .rx request, none =>
      let (response, served) := frameSender firmware.cachedResponse request
      let answer : Packet Response := ⟨packet.serial, .rx response⟩
      match served with
      | .known => some (firmware.setResponding .rx (some answer), [.replayed answer])
      | _ =>
          some ({ firmware with cachedResponse := some response }.setResponding .rx (some answer),
            [.answered ⟨packet.serial, response⟩])
  | .tx request, none =>
      let (response, served) := frameReceiver firmware.lastCompleted request
      let answer : Packet Response := ⟨packet.serial, .tx response⟩
      match served with
      | .known => some (firmware.setResponding .tx (some answer), [.replayed answer])
      | .new =>
          some ({ firmware with lastCompleted := some request.transaction }.setResponding .tx
            (some answer), [.handed ⟨packet.serial, request⟩])
      | .invalid =>
          some ({ firmware with invalidPayloads := firmware.invalidPayloads + 1 }.setResponding .tx
            (some answer), [])

/-- The response is sent, or sending it fails and it is dropped. -/
def respond (firmware : TestFirmware) (direction : Direction) (delivered : Bool) :
    Option (TestFirmware × List DeviceOutput) :=
  match firmware.responding direction with
  | none => none
  | some packet =>
      some (firmware.setResponding direction none, if delivered then [.response packet] else [])

end TestFirmware

/-! Both over the link. -/

structure ThroughputTest extends Paths where
  worker : Worker
  firmware : TestFirmware

inductive ThroughputEvent
  | next
  | request (now : Nat)
  | fail (now : Nat) (error : ReqRespError)
  | timeout (now : Nat)
  | deliver (direction : Direction) (position now : Nat)
  | loseRequest (direction : Direction) (position : Nat)
  | loseResponse (direction : Direction) (position : Nat)
  | serve (direction : Direction)
  | respond (direction : Direction) (delivered : Bool)

namespace ThroughputTest

def start (mode : ThroughputMode) (session : UInt64) : ThroughputTest where
  toPaths := .start
  worker := .spawn mode session
  firmware := .boot

def setPath (test : ThroughputTest) (direction : Direction) (path : Path) : ThroughputTest :=
  { test with toPaths := test.toPaths.set direction path }

def absorbHost (test : ThroughputTest) (worker : Worker) (outputs : List ExchangeOutput) :
    ThroughputTest × List NetworkOutput :=
  let toPaths := test.toPaths.absorbHost outputs
  ({ test with worker, toPaths }, toPaths.numbered outputs)

def absorbDevice (test : ThroughputTest) (firmware : TestFirmware) (outputs : List DeviceOutput) :
    ThroughputTest × List NetworkOutput :=
  ({ test with firmware, toPaths := test.toPaths.absorbDevice outputs }, outputs.map .device)

def work (requestTimeout : Nat) (peer : Address) (test : ThroughputTest) (event : WorkerEvent) :
    Option (ThroughputTest × List NetworkOutput) :=
  match test.worker.step requestTimeout peer event with
  | none => none
  | some (worker, outputs) => some (test.absorbHost worker outputs)

def step (requestTimeout : Nat) (peer : Address) (test : ThroughputTest) :
    ThroughputEvent → Option (ThroughputTest × List NetworkOutput)
  | .next => test.work requestTimeout peer .next
  | .request now => test.work requestTimeout peer (.request now)
  | .fail now error => test.work requestTimeout peer (.resolved now (.error error))
  | .timeout now => test.work requestTimeout peer (.timeout now)
  | .deliver direction position now =>
      let path := test.path direction
      match path.responses[position]? with
      | none => none
      | some packet =>
          (test.setPath direction { path with responses := path.responses.eraseIdx position }).work
            requestTimeout peer (.resolved now (.ok packet.t))
  | .loseRequest direction position =>
      let path := test.path direction
      some (test.setPath direction { path with link := path.link.eraseIdx position }, [])
  | .loseResponse direction position =>
      let path := test.path direction
      some (test.setPath direction { path with responses := path.responses.eraseIdx position }, [])
  | .serve direction =>
      let path := test.path direction
      match path.link with
      | [] => none
      | packet :: link =>
          match test.firmware.serve packet with
          | none => none
          | some (firmware, outputs) =>
              some ((test.setPath direction { path with link }).absorbDevice firmware outputs)
  | .respond direction delivered =>
      match test.firmware.respond direction delivered with
      | none => none
      | some (firmware, outputs) => some (test.absorbDevice firmware outputs)

end ThroughputTest

end Lamella

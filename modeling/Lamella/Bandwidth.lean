import Lamella.BandwidthCore

/-!
The reports of the bandwidth tests.  In every run of a test's loop the `unwrap` of `start_time` and
the subtraction of the header length succeed, and the final report counts exactly what the socket
handed over since the test was started.
-/

namespace Lamella

section

variable {Count : Type}

def TestOutput.data : TestOutput Count → Option (List UInt8)
  | .received data => some data
  | .started _ | .progress _ _ | .complete _ _ => none

def TestOutput.startedAt : TestOutput Count → Option Nat
  | .started now => some now
  | .received _ | .progress _ _ | .complete _ _ => none

def TestOutput.isComplete : TestOutput Count → Bool
  | .complete _ _ => true
  | .started _ | .received _ | .progress _ _ => false

/-- The chunks or packets a test has received. -/
def chunksOf (trace : List (TestOutput Count)) : List (List UInt8) :=
  trace.filterMap TestOutput.data

def startsOf (trace : List (TestOutput Count)) : List Nat :=
  trace.filterMap TestOutput.startedAt

theorem chunksOf_append (past output : List (TestOutput Count)) :
    chunksOf (past ++ output) = chunksOf past ++ chunksOf output :=
  List.filterMap_append

theorem startsOf_append (past output : List (TestOutput Count)) :
    startsOf (past ++ output) = startsOf past ++ startsOf output :=
  List.filterMap_append

/-- `last` is the time of the last pass.  `Counts` says which count the chunks received so far
amount to. -/
structure TestRecord (Counts : List (List UInt8) → Count → Prop) (loop : TestLoop Count)
    (last : Option Nat) (trace : List (TestOutput Count)) : Prop where
  counted : Counts (chunksOf trace) loop.count
  started : startsOf trace = loop.startTime.toList
  alive : loop.phase ≠ .panicked
  unfinished : loop.phase = .running → ∀ output ∈ trace, output.isComplete = false
  finished : ∀ before count elapsed after, trace = before ++ .complete count elapsed :: after →
    after = [] ∧ count = loop.count ∧
      ∃ start now, loop.startTime = some start ∧ last = some now ∧ elapsed = now - start

theorem not_complete_of_unfinished {trace before after : List (TestOutput Count)} {count : Count}
    {elapsed : Nat} (unfinished : ∀ output ∈ trace, output.isComplete = false)
    (split : trace = before ++ .complete count elapsed :: after) : False := by
  have said := unfinished (.complete count elapsed) (by simp [split])
  contradiction

theorem TestRecord.running {Counts : List (List UInt8) → Count → Prop} {loop : TestLoop Count}
    {last : Option Nat} {trace : List (TestOutput Count)}
    (counted : Counts (chunksOf trace) loop.count) (started : startsOf trace = loop.startTime.toList)
    (running : loop.phase = .running) (unfinished : ∀ output ∈ trace, output.isComplete = false) :
    TestRecord Counts loop last trace := by
  refine ⟨counted, started, by simp [running], fun _ => unfinished, ?_⟩
  intro before count elapsed after split
  exact (not_complete_of_unfinished unfinished split).elim

theorem TestRecord.complete {Counts : List (List UInt8) → Count → Prop} {loop : TestLoop Count}
    {start now : Nat} {trace : List (TestOutput Count)}
    (counted : Counts (chunksOf trace) loop.count) (started : startsOf trace = loop.startTime.toList)
    (begun : loop.startTime = some start) (ended : loop.phase = .ended)
    (unfinished : ∀ output ∈ trace, output.isComplete = false) :
    TestRecord Counts loop (some now) (trace ++ [.complete loop.count (now - start)]) := by
  refine ⟨?_, ?_, by simp [ended], by simp [ended], ?_⟩
  · rw [chunksOf_append]
    simpa [chunksOf, TestOutput.data, List.filterMap_cons] using counted
  · rw [startsOf_append]
    simpa [startsOf, TestOutput.startedAt, List.filterMap_cons] using started
  · intro before count elapsed after split
    rcases List.eq_nil_or_concat after with rfl | ⟨rest, output, rfl⟩
    · obtain ⟨_, same⟩ := List.append_inj' split rfl
      cases same
      exact ⟨rfl, rfl, start, now, begun, rfl, rfl⟩
    · have earlier : trace = before ++ .complete count elapsed :: rest := by
        rw [List.concat_eq_append, ← List.cons_append, ← List.append_assoc] at split
        exact (List.append_inj' split rfl).1
      exact (not_complete_of_unfinished unfinished earlier).elim

theorem TestRecord.cancel {Counts : List (List UInt8) → Count → Prop} {loop : TestLoop Count}
    {last next : Option Nat} {trace : List (TestOutput Count)}
    (record : TestRecord Counts loop last trace) (running : loop.phase = .running) :
    TestRecord Counts { loop with phase := .ended } next (trace ++ []) := by
  rw [List.append_nil]
  refine ⟨record.counted, record.started, by simp, by simp, ?_⟩
  intro before count elapsed after split
  exact (not_complete_of_unfinished (record.unfinished running) split).elim

/-- A pass that may start the test, receives `datas` and ends with a report. -/
theorem TestRecord.pass {Counts : List (List UInt8) → Count → Prop} {loop middle : TestLoop Count}
    {last : Option Nat} {trace : List (TestOutput Count)} {now : Nat}
    {starts complete reporting : Bool} {datas : List (List UInt8)}
    (record : TestRecord Counts loop last trace) (running : loop.phase = .running)
    (still : middle.phase = .running)
    (counted : Counts (chunksOf trace ++ datas) middle.count)
    (startTime : middle.startTime = if starts then some now else loop.startTime)
    (fresh : starts = true → loop.startTime = none)
    (begun : complete = true ∨ reporting = true → middle.startTime.isSome = true) :
    TestRecord Counts (middle.report now complete reporting).1 (some now)
      (trace ++ ((if starts then [.started now] else []) ++ datas.map .received ++
        (middle.report now complete reporting).2)) := by
  rw [← List.append_assoc]
  generalize extended : trace ++ ((if starts then [.started now] else []) ++
    datas.map .received) = earlier
  have chunks : chunksOf earlier = chunksOf trace ++ datas := by
    rw [← extended, chunksOf_append]
    cases starts <;> simp [chunksOf, TestOutput.data, List.filterMap_cons, Function.comp_def]
  have starting : startsOf earlier = middle.startTime.toList := by
    rw [← extended, startsOf_append, record.started, startTime]
    cases starts with
    | false => simp [startsOf, TestOutput.startedAt]
    | true => simp [startsOf, TestOutput.startedAt, fresh]
  have unfinished : ∀ output ∈ earlier, output.isComplete = false := by
    intro output member
    rw [← extended] at member
    simp only [List.mem_append, List.mem_map] at member
    rcases member with old | begin | ⟨data, _, rfl⟩
    · exact record.unfinished running output old
    · cases starts with
      | false => simp at begin
      | true =>
          rw [List.mem_singleton.mp begin]
          rfl
    · rfl
  rw [← chunks] at counted
  unfold TestLoop.report
  cases complete with
  | true =>
      obtain ⟨start, time⟩ := Option.isSome_iff_exists.mp (begun (.inl rfl))
      simp only [if_true, time]
      exact .complete counted (by simp [starting, time]) rfl rfl unfinished
  | false =>
      by_cases due : (reporting && decide (progressInterval < now - middle.lastReport)) = true
      · obtain ⟨start, time⟩ :=
          Option.isSome_iff_exists.mp (begun (.inr (Bool.and_eq_true_iff.mp due).1))
        simp only [due, Bool.false_eq_true, if_false, if_true, time]
        refine .running ?_ ?_ still ?_
        · rw [chunksOf_append]
          simpa [chunksOf, TestOutput.data, List.filterMap_cons] using counted
        · rw [startsOf_append, starting, time]
          simp [startsOf, TestOutput.startedAt]
        · intro output member
          rcases List.mem_append.mp member with old | new
          · exact unfinished output old
          · rw [List.mem_singleton.mp new]
            rfl
      · simp only [due, Bool.false_eq_true, if_false, List.append_nil]
        exact .running counted starting still unfinished

theorem TestRecord.reported {Counts : List (List UInt8) → Count → Prop} {loop : TestLoop Count}
    {Pass : Type} {passes : List Pass} {now : Pass → Nat}
    {trace before after : List (TestOutput Count)} {count : Count} {elapsed : Nat}
    (record : TestRecord Counts loop (passes.getLast?.map now) trace)
    (split : trace = before ++ .complete count elapsed :: after) :
    after = [] ∧ Counts (chunksOf trace) count ∧
      ∃ start pass, startsOf trace = [start] ∧ passes.getLast? = some pass ∧
        elapsed = now pass - start := by
  obtain ⟨last, same, start, time, begun, ended, took⟩ := record.finished _ _ _ _ split
  obtain ⟨pass, final, rfl⟩ := Option.map_eq_some_iff.mp ended
  refine ⟨last, same ▸ record.counted, start, pass, ?_, final, took⟩
  rw [record.started, begun]
  rfl

end

theorem TestLoop.begin_eq {Count : Type} (loop : TestLoop Count) (starts : Bool) (now : Nat) :
    loop.begin starts now = ({ loop with startTime := if starts then some now else loop.startTime },
      if starts then [.started now] else []) := by
  cases starts <;> rfl

theorem TestLoop.report_startTime {Count : Type} (loop : TestLoop Count) (now : Nat)
    (complete reporting : Bool) :
    (loop.report now complete reporting).1.startTime = loop.startTime := by
  unfold TestLoop.report
  split
  · split <;> simp [*]
  · split
    · split <;> simp [*]
    · rfl

theorem TestLoop.report_complete {Count : Type} {loop : TestLoop Count} {now : Nat}
    {complete reporting : Bool} {output : TestOutput Count}
    (member : output ∈ (loop.report now complete reporting).2) (said : output.isComplete = true) :
    complete = true := by
  unfold TestLoop.report at member
  split at member
  · assumption
  · split at member
    · split at member
      · contradiction
      · rw [List.mem_singleton.mp member] at said
        contradiction
    · contradiction

theorem TestLoop.report_count {Count : Type} (loop : TestLoop Count) (now : Nat)
    (complete reporting : Bool) : (loop.report now complete reporting).1.count = loop.count := by
  unfold TestLoop.report
  split
  · split <;> rfl
  · split
    · split <;> rfl
    · rfl

theorem TestLoop.configure_eq {Count : Type} (loop : TestLoop Count) (dhcp : Option DhcpEvent) :
    loop.configure dhcp = { loop with gotIp := (loop.configure dhcp).gotIp } := by
  unfold TestLoop.configure
  split <;> rfl

/-- A loop that has not reported yet does so in this pass or not at all. -/
theorem TestRecord.pass_complete {Count : Type} {Counts : List (List UInt8) → Count → Prop}
    {loop middle : TestLoop Count} {last : Option Nat} {trace : List (TestOutput Count)} {now : Nat}
    {starts complete reporting : Bool} {datas : List (List UInt8)} {output : TestOutput Count}
    (record : TestRecord Counts loop last trace) (running : loop.phase = .running)
    (member : output ∈ trace ++ ((if starts then [.started now] else []) ++ datas.map .received ++
      (middle.report now complete reporting).2))
    (said : output.isComplete = true) : complete = true := by
  simp only [List.mem_append, List.mem_map] at member
  rcases member with old | (begin | ⟨data, _, rfl⟩) | reported
  · rw [record.unfinished running output old] at said
    contradiction
  · cases starts with
    | false => simp at begin
    | true =>
        rw [List.mem_singleton.mp begin] at said
        contradiction
  · contradiction
  · exact TestLoop.report_complete reported said

/-- The flag of a test that is set once says whether its time has started. -/
theorem startTime_once {flag sets : Bool} {startTime : Option Nat} (now : Nat)
    (known : flag = startTime.isSome) (first : sets = true → flag = false) :
    (sets = true → startTime = none) ∧
      (flag || sets) = (if sets then some now else startTime).isSome := by
  constructor
  · intro set
    rw [first set] at known
    simpa using known.symm
  · cases sets <;> simp [known]

/-! TCP. -/

def CountsBytes (chunks : List (List UInt8)) (totalBytes : Nat) : Prop :=
  totalBytes = chunks.flatten.length

structure TcpRecord (test : TcpTest) (last : Option Nat) (trace : List (TestOutput Nat)) :
    Prop where
  record : TestRecord CountsBytes test.loop last trace
  connected : test.tcpConnected = test.loop.startTime.isSome

theorem receiveTcp_eq (loop : TestLoop Nat) (receives : Bool) (recv : Except Unit (List UInt8)) :
    ∃ datas : List (List UInt8), (if receives then receiveTcp loop recv else (loop, [])) =
      ({ loop with count := loop.count + datas.flatten.length }, datas.map .received) := by
  cases receives with
  | false => exact ⟨[], rfl⟩
  | true =>
      cases recv with
      | error error => exact ⟨[], rfl⟩
      | ok data => exact ⟨[data], by simp [receiveTcp]⟩

theorem TcpRecord.step {test next : TcpTest} {pass : TcpPass} {last : Option Nat}
    {trace output : List (TestOutput Nat)} (kept : TcpRecord test last trace)
    (stepped : runTcpBandwidthTest test pass = some (next, output)) :
    TcpRecord next (some pass.now) (trace ++ output) := by
  obtain ⟨record, connected⟩ := kept
  unfold runTcpBandwidthTest at stepped
  split at stepped
  · contradiction
  · next running =>
    rw [not_not] at running
    split at stepped
    · cases stepped
      exact ⟨record.cancel running, connected⟩
    · simp only [TestLoop.begin_eq] at stepped
      generalize started : (test.tcpStarted || ((test.loop.configure pass.dhcp).gotIp &&
        pass.connectOk)) = tcpStarted at stepped
      generalize connecting : (tcpStarted && !test.tcpConnected && pass.isActive &&
        pass.mayRecv) = connects at stepped
      obtain ⟨datas, received⟩ := receiveTcp_eq
        { test.loop.configure pass.dhcp with
          startTime := if connects then some pass.now else (test.loop.configure pass.dhcp).startTime }
        ((test.tcpConnected || connects) && pass.mayRecv) pass.recv
      rw [received] at stepped
      cases stepped
      rw [TestLoop.configure_eq]
      obtain ⟨fresh, opened⟩ := startTime_once pass.now connected fun set : connects = true => by
        subst set
        simp only [Bool.and_eq_true, Bool.not_eq_true'] at connecting
        exact connecting.1.1.2
      refine ⟨record.pass running running ?_ rfl fresh ?_, ?_⟩
      · have counted : test.loop.count = (chunksOf trace).flatten.length := record.counted
        simp [CountsBytes, counted]
      · rintro (closed | reporting)
        · exact opened ▸ (Bool.and_eq_true_iff.mp closed).1
        · exact opened ▸ reporting
      · rw [TestLoop.report_startTime]
        exact opened

theorem TcpTest.start_record (begun : Nat) : TcpRecord (.start begun) none [] := by
  refine ⟨.running ?_ rfl rfl (by simp), rfl⟩
  exact Eq.refl 0

/-- No `unwrap` of the TCP test fails, and its final report, after which the loop does nothing
more, counts all the bytes received over the time since the connection. -/
theorem tcpTest_report {begun : Nat} {passes : List TcpPass} {test : TcpTest}
    {trace : List (TestOutput Nat)}
    (ran : Machine.run runTcpBandwidthTest (.start begun) passes = some (test, trace)) :
    test.loop.phase ≠ .panicked ∧
      ∀ before totalBytes elapsed after, trace = before ++ .complete totalBytes elapsed :: after →
        after = [] ∧ totalBytes = (chunksOf trace).flatten.length ∧
          ∃ start pass, startsOf trace = [start] ∧ passes.getLast? = some pass ∧
            elapsed = pass.now - start := by
  have kept := Machine.run_record
    (fun test past trace => TcpRecord test (past.getLast?.map TcpPass.now) trace)
    (by
      intro test past trace pass next output kept stepped
      simpa using kept.step stepped)
    (TcpTest.start_record begun) ran
  exact ⟨kept.record.alive, fun before totalBytes elapsed after split => kept.record.reported split⟩

/-! HTTP. -/

structure HttpRecord (test : HttpTest) (last : Option Nat)
    (trace : List (TestOutput HttpDownload)) : Prop where
  record : TestRecord (fun chunks download => Received chunks.flatten download) test.loop last trace
  sent : test.httpRequestSent = test.loop.startTime.isSome
  headers : ∀ output ∈ trace, output.isComplete = true → test.loop.count.headersDone = true

theorem receiveHttp_eq {loop : TestLoop HttpDownload} {chunks : List (List UInt8)}
    (received : Received chunks.flatten loop.count) (receives : Bool)
    (recv : Except Unit (List UInt8)) :
    ∃ (datas : List (List UInt8)) (count : HttpDownload),
      (if receives then receiveHttp loop recv else some (loop, [])) =
          some ({ loop with count }, datas.map .received) ∧
        Received (chunks ++ datas).flatten count := by
  cases receives with
  | false => exact ⟨[], loop.count, rfl, by simpa using received⟩
  | true =>
      cases recv with
      | error error => exact ⟨[], loop.count, rfl, by simpa using received⟩
      | ok data =>
          obtain ⟨count, counted, extended⟩ := received.recv data
          exact ⟨[data], count, by simp [receiveHttp, counted], by simpa using extended⟩

theorem HttpRecord.step {test next : HttpTest} {pass : TcpPass} {last : Option Nat}
    {trace output : List (TestOutput HttpDownload)} (kept : HttpRecord test last trace)
    (stepped : runHttpDownloadTest test pass = some (next, output)) :
    HttpRecord next (some pass.now) (trace ++ output) := by
  obtain ⟨record, sent, headers⟩ := kept
  unfold runHttpDownloadTest at stepped
  split at stepped
  · contradiction
  · next running =>
    rw [not_not] at running
    split at stepped
    · cases stepped
      exact ⟨record.cancel running, sent, by simpa using headers⟩
    · simp only [TestLoop.begin_eq] at stepped
      generalize (test.tcpStarted || ((test.loop.configure pass.dhcp).gotIp &&
        pass.connectOk)) = tcpStarted at stepped
      generalize (test.tcpConnected || (tcpStarted && pass.isActive && pass.mayRecv)) =
        tcpConnected at stepped
      generalize sending : (tcpConnected && !test.httpRequestSent && pass.maySend && pass.sendOk) =
        sends at stepped
      have configured := test.loop.configure_eq pass.dhcp
      have counted : Received (chunksOf trace).flatten (test.loop.configure pass.dhcp).count := by
        rw [configured]
        exact record.counted
      obtain ⟨datas, count, received, extended⟩ := @receiveHttp_eq
        { test.loop.configure pass.dhcp with
          startTime := if sends then some pass.now else (test.loop.configure pass.dhcp).startTime }
        _ counted ((test.httpRequestSent || sends) && pass.mayRecv) pass.recv
      rw [received] at stepped
      cases stepped
      rw [configured]
      obtain ⟨fresh, opened⟩ := startTime_once pass.now sent fun set : sends = true => by
        subst set
        simp only [Bool.and_eq_true, Bool.not_eq_true'] at sending
        exact sending.1.1.2
      refine ⟨record.pass running running extended rfl fresh ?_, ?_, ?_⟩
      · rintro (closed | reporting)
        · exact opened ▸ (Bool.and_eq_true_iff.mp (Bool.and_eq_true_iff.mp closed).1).1
        · exact opened ▸ (Bool.and_eq_true_iff.mp reporting).1
      · rw [TestLoop.report_startTime]
        exact opened
      · intro output member said
        have closed := record.pass_complete running member said
        rw [TestLoop.report_count]
        exact (Bool.and_eq_true_iff.mp (Bool.and_eq_true_iff.mp closed).1).2

theorem HttpTest.start_record (begun : Nat) : HttpRecord (.start begun) none [] := by
  refine ⟨.running ?_ rfl rfl (by simp), rfl, by simp⟩
  exact ⟨rfl, fun _ => ⟨rfl, rfl, by simp [chunksOf, Windows.occursAt_iff, headerEnd]⟩,
    by simp [HttpTest.start, TestLoop.start]⟩

/-- The same for the HTTP test, which reports only a response whose headers have ended: the body
is what follows their end, and the time runs from the request. -/
theorem httpTest_report {begun : Nat} {passes : List TcpPass} {test : HttpTest}
    {trace : List (TestOutput HttpDownload)}
    (ran : Machine.run runHttpDownloadTest (.start begun) passes = some (test, trace)) :
    test.loop.phase ≠ .panicked ∧
      ∀ before download elapsed after,
        trace = before ++ .complete download elapsed :: after →
          after = [] ∧ download.totalBytes = (chunksOf trace).flatten.length ∧
            (∃ position, Windows.FirstAt headerEnd (chunksOf trace).flatten position ∧
              download.bodyBytes = (chunksOf trace).flatten.length - (position + 4)) ∧
            ∃ start pass, startsOf trace = [start] ∧ passes.getLast? = some pass ∧
              elapsed = pass.now - start := by
  have kept := Machine.run_record
    (fun test past trace => HttpRecord test (past.getLast?.map TcpPass.now) trace)
    (by
      intro test past trace pass next output kept stepped
      simpa using kept.step stepped)
    (HttpTest.start_record begun) ran
  refine ⟨kept.record.alive, ?_⟩
  intro before download elapsed after split
  obtain ⟨last, received, timed⟩ := kept.record.reported split
  have same := (kept.record.finished _ _ _ _ split).2.1
  have done := kept.headers (.complete download elapsed) (by simp [split]) rfl
  rw [← same] at done
  exact ⟨last, received.total, received.done done, timed⟩

def sampleDhcp : DhcpEvent := .configured none []

def sampleHttpPasses : List TcpPass :=
  [{ now := 10, dhcp := some sampleDhcp, recv := .ok [72, 13, 10, 13] },
    { now := 30, recv := .ok [10, 66] }, { now := 50, mayRecv := false, closed := true }]

theorem httpTest_report_sample :
    ∃ test trace, Machine.run runHttpDownloadTest (.start 0) sampleHttpPasses = some (test, trace) ∧
      trace.any TestOutput.isComplete = true ∧ test.loop.count.bodyBytes = 1 ∧
      test.loop.phase ≠ .panicked := by
  have reached : (Machine.run runHttpDownloadTest (.start 0) sampleHttpPasses).map
      (fun result => (result.2.any TestOutput.isComplete, result.1.loop.count.bodyBytes)) =
        some (true, 1) := by
    decide +kernel
  obtain ⟨⟨test, trace⟩, ran, seen⟩ := Option.map_eq_some_iff.mp reached
  obtain ⟨complete, body⟩ := Prod.mk.inj seen
  exact ⟨test, trace, ran, complete, body, (httpTest_report ran).1⟩

/-! UDP. -/

def CountsPackets (packets : List (List UInt8)) (count : UdpCount) : Prop :=
  count = ⟨packets.flatten.length, packets.length⟩

theorem CountsPackets.foldl {packets : List (List UInt8)} {count : UdpCount}
    (counted : CountsPackets packets count) (more : List (List UInt8)) :
    CountsPackets (packets ++ more) (more.foldl UdpCount.add count) := by
  induction more generalizing packets count with
  | nil => simpa using counted
  | cons data rest ih =>
      rw [List.foldl_cons, List.append_cons]
      refine ih ?_
      rw [CountsPackets] at counted
      simp [CountsPackets, UdpCount.add, counted]

structure UdpRecord (test : UdpTest) (last : Option Nat) (trace : List (TestOutput UdpCount)) :
    Prop where
  record : TestRecord CountsPackets test.loop last trace
  sent : test.sentTrigger = test.loop.startTime.isSome
  /-- A test that has reported heard nothing for the length of the silence. -/
  silent : ∀ output ∈ trace, output.isComplete = true → 0 < test.loop.count.totalPackets ∧
    ∃ now, last = some now ∧ udpSilence < now - test.lastPacketTime

theorem UdpRecord.step {test next : UdpTest} {pass : UdpPass} {last : Option Nat}
    {trace output : List (TestOutput UdpCount)} (kept : UdpRecord test last trace)
    (stepped : runUdpBandwidthTest test pass = some (next, output)) :
    UdpRecord next (some pass.now) (trace ++ output) := by
  obtain ⟨record, sent, silent⟩ := kept
  unfold runUdpBandwidthTest at stepped
  split at stepped
  · contradiction
  · next running =>
    rw [not_not] at running
    split at stepped
    · cases stepped
      refine ⟨record.cancel running, sent, ?_⟩
      intro output member said
      rw [List.append_nil] at member
      rw [record.unfinished running output member] at said
      contradiction
    · simp only [TestLoop.begin_eq] at stepped
      generalize triggering : ((test.loop.configure pass.dhcp).gotIp && !test.sentTrigger &&
        pass.canSend && pass.sendOk) = triggers at stepped
      generalize (if (test.sentTrigger || triggers) = true then pass.received else []) = packets
        at stepped
      have configured := test.loop.configure_eq pass.dhcp
      cases stepped
      rw [configured]
      obtain ⟨fresh, opened⟩ := startTime_once pass.now sent fun set : triggers = true => by
        subst set
        simp only [Bool.and_eq_true, Bool.not_eq_true'] at triggering
        exact triggering.1.1.2
      refine ⟨record.pass running running (CountsPackets.foldl record.counted packets) rfl fresh ?_,
        ?_, ?_⟩
      · rintro (closed | reporting)
        · exact opened ▸ (Bool.and_eq_true_iff.mp (Bool.and_eq_true_iff.mp closed).1).1
        · exact opened ▸ (Bool.and_eq_true_iff.mp reporting).1
      · rw [TestLoop.report_startTime]
        exact opened
      · intro output member said
        have closed := record.pass_complete running member said
        simp only [Bool.and_eq_true, decide_eq_true_eq] at closed
        rw [TestLoop.report_count]
        exact ⟨closed.1.2, pass.now, rfl, closed.2⟩

theorem UdpTest.start_record (begun : Nat) : UdpRecord (.start begun) none [] := by
  refine ⟨.running ?_ rfl rfl (by simp), rfl, by simp⟩
  exact Eq.refl (UdpCount.mk 0 0)

/-- In passes that follow one another in time, no packet is older than the trigger. -/
def UdpTimed (test : UdpTest) (passes : List UdpPass) : Prop :=
  (passes.map UdpPass.now).Pairwise (· ≤ ·) → ∀ start, test.loop.startTime = some start →
    start ≤ test.lastPacketTime ∧ ∃ pass ∈ passes, start = pass.now

theorem runUdpBandwidthTest_times {test next : UdpTest} {pass : UdpPass}
    {output : List (TestOutput UdpCount)}
    (stepped : runUdpBandwidthTest test pass = some (next, output)) :
    (next.loop.startTime = some pass.now ∧ next.lastPacketTime = pass.now) ∨
      (next.loop.startTime = test.loop.startTime ∧
        (next.lastPacketTime = pass.now ∨ next.lastPacketTime = test.lastPacketTime)) := by
  unfold runUdpBandwidthTest at stepped
  split at stepped
  · contradiction
  · split at stepped
    · cases stepped
      exact .inr ⟨rfl, .inr rfl⟩
    · simp only [TestLoop.begin_eq] at stepped
      generalize ((test.loop.configure pass.dhcp).gotIp && !test.sentTrigger &&
        pass.canSend && pass.sendOk) = triggers at stepped
      generalize (if (test.sentTrigger || triggers) = true then pass.received else []) = packets
        at stepped
      cases stepped
      rw [TestLoop.report_startTime, TestLoop.configure_eq]
      cases triggers with
      | true => exact .inl ⟨rfl, rfl⟩
      | false =>
          refine .inr ⟨rfl, ?_⟩
          cases packets with
          | nil => exact .inr rfl
          | cons data rest => exact .inl rfl

theorem UdpTimed.step {test next : UdpTest} {pass : UdpPass} {passes : List UdpPass}
    {output : List (TestOutput UdpCount)} (timed : UdpTimed test passes)
    (stepped : runUdpBandwidthTest test pass = some (next, output)) :
    UdpTimed next (passes ++ [pass]) := by
  intro ordered start begun
  rw [List.map_append, List.pairwise_append] at ordered
  obtain ⟨earlier, _, later⟩ := ordered
  rcases runUdpBandwidthTest_times stepped with ⟨now, heard⟩ | ⟨same, heard⟩
  · rw [now, Option.some.injEq] at begun
    exact ⟨by omega, pass, by simp, begun.symm⟩
  · rw [same] at begun
    obtain ⟨bound, first, member, rfl⟩ := timed earlier start begun
    have order : first.now ≤ pass.now :=
      later first.now (List.mem_map_of_mem member) pass.now (by simp)
    refine ⟨?_, first, List.mem_append_left _ member, rfl⟩
    rcases heard with now | before
    · omega
    · omega

/-- The same for the UDP test, which reports only after a packet and the silence that follows it.
The reported time includes that silence. -/
theorem udpTest_report {begun : Nat} {passes : List UdpPass} {test : UdpTest}
    {trace : List (TestOutput UdpCount)}
    (ran : Machine.run runUdpBandwidthTest (.start begun) passes = some (test, trace)) :
    test.loop.phase ≠ .panicked ∧
      ∀ before count elapsed after, trace = before ++ .complete count elapsed :: after →
        after = [] ∧ count = ⟨(chunksOf trace).flatten.length, (chunksOf trace).length⟩ ∧
          0 < count.totalPackets ∧
          (∃ start pass, startsOf trace = [start] ∧ passes.getLast? = some pass ∧
            elapsed = pass.now - start) ∧
          ((passes.map UdpPass.now).Pairwise (· ≤ ·) → udpSilence < elapsed) := by
  have kept := Machine.run_record
    (fun test past trace => UdpRecord test (past.getLast?.map UdpPass.now) trace ∧
      UdpTimed test past)
    (by
      intro test past trace pass next output kept stepped
      exact ⟨by simpa using kept.1.step stepped, kept.2.step stepped⟩)
    ⟨UdpTest.start_record begun, by rintro _ _ ⟨⟩⟩ ran
  obtain ⟨⟨record, _, silent⟩, timed⟩ := kept
  refine ⟨record.alive, ?_⟩
  intro before count elapsed after split
  obtain ⟨last, counted, measured⟩ := record.reported split
  obtain ⟨_, same, start, now, startTime, final, took⟩ := record.finished _ _ _ _ split
  obtain ⟨arrived, time, ended, quiet⟩ := silent (.complete count elapsed) (by simp [split]) rfl
  refine ⟨last, counted, by rw [same]; exact arrived, measured, ?_⟩
  intro ordered
  have bound := (timed ordered start startTime).1
  rw [final, Option.some.injEq] at ended
  omega

def sampleUdpPasses : List UdpPass :=
  [{ now := 10, dhcp := some sampleDhcp }, { now := 30, received := [[1, 2], [3]] },
    { now := 5040 }]

theorem udpTest_report_sample :
    ∃ test trace, Machine.run runUdpBandwidthTest (.start 0) sampleUdpPasses = some (test, trace) ∧
      trace.getLast? = some (.complete ⟨3, 2⟩ 5030) ∧ test.loop.phase ≠ .panicked := by
  have reached : (Machine.run runUdpBandwidthTest (.start 0) sampleUdpPasses).map
      (fun result => result.2.getLast?) = some (some (.complete ⟨3, 2⟩ 5030)) := by
    decide +kernel
  obtain ⟨⟨test, trace⟩, ran, seen⟩ := Option.map_eq_some_iff.mp reached
  exact ⟨test, trace, ran, seen, (udpTest_report ran).1⟩

end Lamella

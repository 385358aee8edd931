import Lamella.PingCore

/-!
Which ping a reply is credited to.  The loop takes any echo reply as the answer to the ping it
awaits, and counts it even when it awaits none.
-/

namespace Lamella

def PingOutput.sentSeq : PingOutput → Option UInt16
  | .sent seq _ => some seq
  | .reply _ _ | .timedOut _ => none

def PingOutput.concludes : PingOutput → Bool
  | .reply _ _ | .timedOut _ => true
  | .sent _ _ => false

def seqsOf (trace : List PingOutput) : List UInt16 := trace.filterMap PingOutput.sentSeq

def concludedOf (trace : List PingOutput) : Nat := trace.countP PingOutput.concludes

/-- Pings are sent one after the other, and each is concluded by its own reply or its timeout. -/
def PingOutput.Proper (before : List PingOutput) : PingOutput → Prop
  | .sent seq _ =>
      (seqsOf before).length = concludedOf before ∧ seq = UInt16.ofNat (concludedOf before)
  | .reply answers seq =>
      (seqsOf before).length = concludedOf before + 1 ∧ answers = concludedOf before ∧
        seq = UInt16.ofNat (concludedOf before)
  | .timedOut seq =>
      (seqsOf before).length = concludedOf before + 1 ∧ seq = UInt16.ofNat (concludedOf before)

structure PingsCredited (pinger : Pinger) (trace : List PingOutput) : Prop where
  proper : Machine.Justified PingOutput.Proper trace
  advances : (seqsOf trace).length = concludedOf trace + if pinger.awaitingPong then 1 else 0
  sequence : pinger.pingSeq = UInt16.ofNat (concludedOf trace)
  consecutive : seqsOf trace = (List.range (seqsOf trace).length).map UInt16.ofNat

/-- A reply carries the number of a ping that was sent before. -/
def Pinger.genuine (pinger : Pinger) (pass : PingPass) : Bool :=
  match pass.echoReply with
  | some (answers, seq) => pinger.sentSeqs[answers]? = some seq
  | none => true

/-- A reply is taken while the ping it answers is awaited. -/
def Pinger.inTurn (pinger : Pinger) (pass : PingPass) : Bool :=
  match pass.echoReply with
  | some (answers, _) =>
      !(pinger.configure pass.dhcp).pings ||
        (pinger.awaitingPong && answers + 1 = pinger.sentSeqs.length)
  | none => true

theorem seqsOf_append (past outputs : List PingOutput) :
    seqsOf (past ++ outputs) = seqsOf past ++ seqsOf outputs :=
  List.filterMap_append

theorem concludedOf_append (past outputs : List PingOutput) :
    concludedOf (past ++ outputs) = concludedOf past + concludedOf outputs :=
  List.countP_append

/-! The parts of a pass. -/

theorem PingsCredited.configure {pinger : Pinger} {past : List PingOutput}
    (credited : PingsCredited pinger past) (dhcp : Option DhcpEvent) :
    PingsCredited (pinger.configure dhcp) past := by
  obtain ⟨proper, advances, sequence, consecutive⟩ := credited
  unfold Pinger.configure
  split <;> exact ⟨proper, advances, sequence, consecutive⟩

theorem PingsCredited.sendPing {pinger : Pinger} {past : List PingOutput}
    (credited : PingsCredited pinger past) (pass : PingPass) :
    PingsCredited (pinger.sendPing pass).1 (past ++ (pinger.sendPing pass).2) := by
  unfold Pinger.sendPing
  split
  case isFalse => simpa using credited
  case isTrue ready =>
      obtain ⟨_, idle, _⟩ := ready
      split
      case h_2 => simpa using credited
      case h_1 target _ =>
          obtain ⟨proper, advances, sequence, consecutive⟩ := credited
          simp only [idle, Bool.false_eq_true, if_false, Nat.add_zero] at advances
          have seqs : seqsOf (past ++ [.sent pinger.pingSeq target]) =
              seqsOf past ++ [pinger.pingSeq] := seqsOf_append _ _
          have concluded : concludedOf (past ++ [.sent pinger.pingSeq target]) =
              concludedOf past := concludedOf_append _ _
          refine ⟨?_, ?_, ?_, ?_⟩
          · exact Machine.justified_snoc_iff.mpr ⟨proper, advances, sequence⟩
          · rw [seqs, concluded, List.length_append, advances]
            rfl
          · rw [concluded]
            exact sequence
          · rw [seqs, List.length_append, List.length_singleton, List.range_succ, List.map_append,
              ← consecutive, advances, sequence]
            rfl

theorem PingsCredited.conclude {pinger : Pinger} {past : List PingOutput} {output : PingOutput}
    (credited : PingsCredited pinger past) (proper : output.Proper past)
    (concludes : output.concludes = true) :
    PingsCredited { pinger with awaitingPong := false, pingSeq := pinger.pingSeq + 1 }
      (past ++ [output]) := by
  obtain ⟨before, advances, sequence, consecutive⟩ := credited
  have outstanding : (seqsOf past).length = concludedOf past + 1 := by
    cases output with
    | sent => contradiction
    | reply => exact proper.1
    | timedOut => exact proper.1
  have seqs : seqsOf (past ++ [output]) = seqsOf past := by
    rw [seqsOf_append]
    cases output with
    | sent => contradiction
    | reply => exact List.append_nil _
    | timedOut => exact List.append_nil _
  have concluded : concludedOf (past ++ [output]) = concludedOf past + 1 := by
    rw [concludedOf_append]
    simp [concludedOf, concludes]
  refine ⟨?_, ?_, ?_, ?_⟩
  · exact Machine.justified_snoc_iff.mpr ⟨before, proper⟩
  · rw [seqs, concluded, outstanding]
    rfl
  · rw [concluded, UInt16.ofNat_add, ← sequence]
    rfl
  · rw [seqs]
    exact consecutive

theorem PingsCredited.checkTimeout {pinger : Pinger} {past : List PingOutput}
    (credited : PingsCredited pinger past) (pass : PingPass) :
    PingsCredited (pinger.checkTimeout pass).1 (past ++ (pinger.checkTimeout pass).2) := by
  unfold Pinger.checkTimeout
  split
  case isFalse => simpa using credited
  case isTrue expired =>
      have advances := credited.advances
      simp only [expired.1, if_true] at advances
      exact credited.conclude ⟨advances, credited.sequence⟩ rfl

theorem PingsCredited.receivePong {pinger : Pinger} {past : List PingOutput}
    (credited : PingsCredited pinger past) (pass : PingPass)
    (proper : Machine.Justified PingOutput.Proper (past ++ (pinger.receivePong pass).2)) :
    PingsCredited (pinger.receivePong pass).1 (past ++ (pinger.receivePong pass).2) := by
  unfold Pinger.receivePong at proper ⊢
  split at proper
  case h_1 answers seq _ =>
      exact credited.conclude (Machine.justified_snoc_iff.mp proper).2 rfl
  case h_2 => simpa using credited

theorem Pinger.configure_rest (pinger : Pinger) (dhcp : Option DhcpEvent) :
    (pinger.configure dhcp).awaitingPong = pinger.awaitingPong ∧
      (pinger.configure dhcp).sentSeqs = pinger.sentSeqs := by
  unfold Pinger.configure
  split <;> exact ⟨rfl, rfl⟩

theorem Pinger.sendPing_cases (pinger : Pinger) (pass : PingPass) :
    pinger.sendPing pass = (pinger, []) ∨
      pinger.awaitingPong = false ∧ ∃ target,
        (pinger.sendPing pass).2 = [.sent pinger.pingSeq target] ∧
        (pinger.sendPing pass).1.sentSeqs = pinger.sentSeqs ++ [pinger.pingSeq] := by
  unfold Pinger.sendPing
  split
  case isFalse => exact Or.inl rfl
  case isTrue ready =>
      split
      case h_1 target _ => exact Or.inr ⟨ready.2.1, target, rfl, rfl⟩
      case h_2 => exact Or.inl rfl

theorem Pinger.receivePong_records (pinger : Pinger) (pass : PingPass) :
    (pinger.receivePong pass).1.sentSeqs = pinger.sentSeqs ∧
      seqsOf (pinger.receivePong pass).2 = [] := by
  unfold Pinger.receivePong
  split <;> exact ⟨rfl, rfl⟩

theorem Pinger.checkTimeout_records (pinger : Pinger) (pass : PingPass) :
    (pinger.checkTimeout pass).1.sentSeqs = pinger.sentSeqs ∧
      seqsOf (pinger.checkTimeout pass).2 = [] := by
  unfold Pinger.checkTimeout
  split <;> exact ⟨rfl, rfl⟩

/-! One pass. -/

/-- A genuine reply is the proper end of a ping exactly when it was awaited before the pass: a
ping of the same pass cannot have been answered yet. -/
theorem reply_proper_iff {pinger : Pinger} {past : List PingOutput}
    (credited : PingsCredited pinger past) (recorded : pinger.sentSeqs = seqsOf past)
    {answers : Nat} {seq : UInt16} (genuine : pinger.sentSeqs[answers]? = some seq)
    (pass : PingPass) :
    (PingOutput.reply answers seq).Proper (past ++ (pinger.sendPing pass).2) ↔
      pinger.awaitingPong = true ∧ answers + 1 = pinger.sentSeqs.length := by
  have bound : answers < (seqsOf past).length := by
    rw [← recorded]
    exact (List.getElem?_eq_some_iff.mp genuine).1
  have numbered : seq = UInt16.ofNat answers := by
    rw [recorded, credited.consecutive, List.getElem?_map, List.getElem?_range bound] at genuine
    exact (Option.some.inj genuine).symm
  have advances := credited.advances
  rw [recorded]
  rcases pinger.sendPing_cases pass with unsent | ⟨idle, target, outputs, _⟩
  · rw [unsent, List.append_nil]
    simp only [PingOutput.Proper]
    cases awaiting : pinger.awaitingPong with
    | false =>
        simp only [awaiting, Bool.false_eq_true, if_false, Nat.add_zero] at advances
        simp [advances]
    | true =>
        simp only [awaiting, if_true] at advances
        constructor
        · rintro ⟨_, rfl, _⟩
          exact ⟨rfl, advances.symm⟩
        · rintro ⟨_, last⟩
          obtain rfl : answers = concludedOf past := by omega
          exact ⟨advances, rfl, numbered⟩
  · rw [outputs]
    simp only [idle, Bool.false_eq_true, if_false, Nat.add_zero] at advances
    have concluded : concludedOf (past ++ [.sent pinger.pingSeq target]) = concludedOf past :=
      concludedOf_append _ _
    simp only [PingOutput.Proper, concluded, idle, Bool.false_eq_true, false_and, iff_false]
    rintro ⟨_, rfl, _⟩
    omega

theorem runSmoltcpStack_credits {pinger next : Pinger} {pass : PingPass}
    {past outputs : List PingOutput} (credited : PingsCredited pinger past)
    (recorded : pinger.sentSeqs = seqsOf past) (genuine : pinger.genuine pass = true)
    (stepped : runSmoltcpStack pinger pass = some (next, outputs)) :
    (Machine.Justified PingOutput.Proper (past ++ outputs) ↔ pinger.inTurn pass = true) ∧
      (Machine.Justified PingOutput.Proper (past ++ outputs) →
        PingsCredited next (past ++ outputs)) := by
  obtain ⟨awaiting, sentSeqs⟩ := pinger.configure_rest pass.dhcp
  have configured := credited.configure pass.dhcp
  unfold runSmoltcpStack at stepped
  cases active : (pinger.configure pass.dhcp).pings with
  | false =>
      simp only [active, Bool.false_eq_true, if_false] at stepped
      cases stepped
      rw [List.append_nil]
      refine ⟨iff_of_true credited.proper ?_, fun _ => configured⟩
      unfold Pinger.inTurn
      split <;> simp [active]
  | true =>
      simp only [active, if_true] at stepped
      cases stepped
      have sent := configured.sendPing pass
      rw [← List.append_assoc, ← List.append_assoc]
      refine ⟨?_, ?_⟩
      · -- A timeout is always in order, so only the reply decides.
        refine Iff.trans ⟨Machine.Justified.initial, fun proper =>
          ((sent.receivePong pass proper).checkTimeout pass).proper⟩ ?_
        cases echo : pass.echoReply with
        | none => simp [Pinger.receivePong, Pinger.inTurn, echo, sent.proper]
        | some reply =>
            obtain ⟨answers, seq⟩ := reply
            have known : (pinger.configure pass.dhcp).sentSeqs[answers]? = some seq := by
              simpa [Pinger.genuine, echo, sentSeqs] using genuine
            have credit := reply_proper_iff configured (sentSeqs.trans recorded) known pass
            simp only [Pinger.receivePong, echo]
            rw [Machine.justified_snoc_iff, credit, awaiting, sentSeqs]
            simp [Pinger.inTurn, echo, active, sent.proper]
      · intro proper
        exact (sent.receivePong pass proper.initial).checkTimeout pass

theorem runSmoltcpStack_records {pinger next : Pinger} {pass : PingPass}
    {past outputs : List PingOutput} (recorded : pinger.sentSeqs = seqsOf past)
    (stepped : runSmoltcpStack pinger pass = some (next, outputs)) :
    next.sentSeqs = seqsOf (past ++ outputs) := by
  have configured := (pinger.configure_rest pass.dhcp).2.trans recorded
  unfold runSmoltcpStack at stepped
  cases active : (pinger.configure pass.dhcp).pings with
  | false =>
      simp only [active, Bool.false_eq_true, if_false] at stepped
      cases stepped
      rw [List.append_nil]
      exact configured
  | true =>
      simp only [active, if_true] at stepped
      cases stepped
      obtain ⟨timed, expired⟩ := Pinger.checkTimeout_records
        (((pinger.configure pass.dhcp).sendPing pass).1.receivePong pass).1 pass
      obtain ⟨taken, replied⟩ := Pinger.receivePong_records
        ((pinger.configure pass.dhcp).sendPing pass).1 pass
      rw [seqsOf_append, seqsOf_append, seqsOf_append, expired, replied, timed, taken,
        List.append_nil, List.append_nil]
      rcases (pinger.configure pass.dhcp).sendPing_cases pass with unsent | ⟨_, target, sent, seqs⟩
      · rw [unsent]
        simpa [seqsOf] using configured
      · rw [sent, seqs, configured]
        rfl

/-! Whole runs. -/

theorem pings_justified_iff {started : Nat} {passes : List PingPass} {pinger : Pinger}
    {trace : List PingOutput}
    (ran : Machine.run runSmoltcpStack (Pinger.start started) passes = some (pinger, trace))
    (genuine : Machine.Obeys runSmoltcpStack (fun pinger pass => pinger.genuine pass = true)
      (Pinger.start started) passes) :
    (Machine.Justified PingOutput.Proper trace ↔
        Machine.Obeys runSmoltcpStack (fun pinger pass => pinger.inTurn pass = true)
          (Pinger.start started) passes) ∧
      (Machine.Justified PingOutput.Proper trace → PingsCredited pinger trace) ∧
      pinger.sentSeqs = seqsOf trace := by
  induction passes using List.reverseRecOn generalizing pinger trace with
  | nil =>
      cases ran
      refine ⟨iff_of_true (Machine.justified_nil _) ?_, fun proper => ⟨proper, rfl, rfl, rfl⟩, rfl⟩
      intro before event front
      simp at front
  | append_singleton passes pass ih =>
      obtain ⟨state, past, output, earlier, stepped, rfl⟩ := (Machine.run_snoc_iff _ _ _ _ _).mp ran
      obtain ⟨before, here⟩ := (Machine.obeys_snoc_iff earlier).mp genuine
      obtain ⟨same, credits, recorded⟩ := ih earlier before
      refine ⟨?_, ?_, runSmoltcpStack_records recorded stepped⟩
      · rw [Machine.obeys_snoc_iff earlier, ← same]
        constructor
        · intro proper
          have credited := credits proper.initial
          exact ⟨proper.initial, (runSmoltcpStack_credits credited recorded here stepped).1.mp proper⟩
        · rintro ⟨proper, inTurn⟩
          exact (runSmoltcpStack_credits (credits proper) recorded here stepped).1.mpr inTurn
      · intro proper
        have credited := credits proper.initial
        exact (runSmoltcpStack_credits credited recorded here stepped).2 proper

/-- When every reply answers some earlier ping, the replies are credited to the pings they answer,
and pings are numbered one after the other, exactly when every reply is taken while the ping it
answers is awaited. -/
theorem pings_credited_iff {started : Nat} {passes : List PingPass} {pinger : Pinger}
    {trace : List PingOutput}
    (ran : Machine.run runSmoltcpStack (Pinger.start started) passes = some (pinger, trace))
    (genuine : Machine.Obeys runSmoltcpStack (fun pinger pass => pinger.genuine pass = true)
      (Pinger.start started) passes) :
    PingsCredited pinger trace ↔
      Machine.Obeys runSmoltcpStack (fun pinger pass => pinger.inTurn pass = true)
        (Pinger.start started) passes := by
  obtain ⟨same, credits, _⟩ := pings_justified_iff ran genuine
  exact ⟨fun credited => same.mp credited.proper, fun inTurn => credits (same.mpr inTurn)⟩

def sampleEchoReply (answers : Nat) (seq : UInt8) : Option (Except Unit IcmpPacket) :=
  some (.ok ⟨[0, 0, 0, 0, 0, 1, 0, seq], answers⟩)

def sampleFirstPing : PingPass := { now := 1000, dhcp := some (.configured none []) }

theorem pings_credited_iff_sample :
    ∃ pinger trace, Machine.run runSmoltcpStack (Pinger.start 0)
        [sampleFirstPing, { now := 1030, received := sampleEchoReply 0 0 }, { now := 2000 }] =
        some (pinger, trace) ∧
      seqsOf trace = [0, 1] ∧ PingsCredited pinger trace := by
  have reached : (Machine.run runSmoltcpStack (Pinger.start 0)
      [sampleFirstPing, { now := 1030, received := sampleEchoReply 0 0 }, { now := 2000 }]).map
        (fun result => seqsOf result.2) = some [0, 1] := by
    decide +kernel
  obtain ⟨⟨pinger, trace⟩, ran, sent⟩ := Option.map_eq_some_iff.mp reached
  refine ⟨pinger, trace, ran, sent, (pings_credited_iff ran ?_).mpr ?_⟩
  · exact Machine.obeys_sound (by decide +kernel)
  · exact Machine.obeys_sound (by decide +kernel)

/-- Ping 0 times out and its reply arrives while ping 1 is awaited. -/
def sampleLateReply : List PingPass :=
  [sampleFirstPing, { now := 4001 }, { now := 4010 },
    { now := 4020, received := sampleEchoReply 0 0 }]

/-- The late reply ends ping 1, which was never answered, and counts as its reply. -/
theorem pings_credited_late :
    ∃ pinger trace, Machine.run runSmoltcpStack (Pinger.start 0) sampleLateReply =
        some (pinger, trace) ∧
      Machine.Obeys runSmoltcpStack (fun pinger pass => pinger.genuine pass = true)
        (Pinger.start 0) sampleLateReply ∧
      trace = [.sent 0 ⟨8, 8, 8, 8⟩, .timedOut 0, .sent 1 ⟨1, 1, 1, 1⟩, .reply 0 0] ∧
      pinger.awaitingPong = false ∧ pinger.pingSeq = 2 ∧ ¬PingsCredited pinger trace := by
  have reached : (Machine.run runSmoltcpStack (Pinger.start 0) sampleLateReply).map
      (fun result => (result.2, result.1.awaitingPong, result.1.pingSeq)) =
        some ([.sent 0 ⟨8, 8, 8, 8⟩, .timedOut 0, .sent 1 ⟨1, 1, 1, 1⟩, .reply 0 0], false, 2) := by
    decide +kernel
  obtain ⟨⟨pinger, trace⟩, ran, seen⟩ := Option.map_eq_some_iff.mp reached
  obtain ⟨said, rest⟩ := Prod.mk.inj seen
  obtain ⟨idle, sequence⟩ := Prod.mk.inj rest
  refine ⟨pinger, trace, ran, Machine.obeys_sound (by decide +kernel), said, idle, sequence, ?_⟩
  intro credited
  have misplaced := credited.proper [.sent 0 ⟨8, 8, 8, 8⟩, .timedOut 0, .sent 1 ⟨1, 1, 1, 1⟩]
    (.reply 0 0) [] said
  exact absurd misplaced.2.1 (by decide)

end Lamella

import Mathlib.Data.Vector.Basic
import Mathlib.Data.Bool.AllAny
import Mathlib.Data.Nat.Bitwise
import Lamella.TextCore

/-!
`log_frame`, which prints the headers of every hundredth frame of test mode.  Indexing out of
bounds would end the bridge; `none` stands for that.
-/

namespace Lamella

inductive LogLevel
  | debug
  | info
deriving DecidableEq

structure LogLine where
  level : LogLevel
  text : String
deriving DecidableEq

def fromBeBytes (high low : UInt8) : Nat := high.toNat * 256 + low.toNat

/-- `&frame[first..last]`. -/
def slice (frame : List UInt8) (first last : Nat) : Option (List UInt8) :=
  if first ≤ last ∧ last ≤ frame.length then some ((frame.take last).drop first) else none

def protoName (protocol : UInt8) : String :=
  if protocol = 1 then "ICMP" else if protocol = 6 then "TCP" else if protocol = 17 then "UDP"
  else "other"

def flagStr (flags : UInt8) : String :=
  (if flags &&& 0x02 ≠ 0 then "SYN " else "") ++ (if flags &&& 0x10 ≠ 0 then "ACK " else "") ++
    (if flags &&& 0x01 ≠ 0 then "FIN " else "") ++ (if flags &&& 0x04 ≠ 0 then "RST " else "") ++
    (if flags &&& 0x08 ≠ 0 then "PSH " else "")

def tcpText (srcPort dstPort : Nat) (flags : UInt8) : String :=
  " [" ++ toString srcPort ++ ":" ++ toString dstPort ++ " -> " ++ toString dstPort ++ ":" ++
    toString srcPort ++ " " ++ trimmed (flagStr flags) ++ "]"

def tcpExtra (protocol : UInt8) (frame : List UInt8) : Option String :=
  if protocol = 6 ∧ 54 ≤ frame.length then do
    let version ← frame[14]?
    let tcpStart := 14 + (version &&& 0x0f).toNat * 4
    if tcpStart + 14 ≤ frame.length then
      let srcPort := fromBeBytes (← frame[tcpStart]?) (← frame[tcpStart + 1]?)
      let dstPort := fromBeBytes (← frame[tcpStart + 2]?) (← frame[tcpStart + 3]?)
      let flags ← frame[tcpStart + 13]?
      return tcpText srcPort dstPort flags
    else return ""
  else return ""

def dotted (ip : List UInt8) : Option String := do
  return toString (← ip[0]?) ++ "." ++ toString (← ip[1]?) ++ "." ++ toString (← ip[2]?) ++ "." ++
    toString (← ip[3]?)

def hexDigits (value : Nat) : String :=
  String.ofList ([value / 4096, value / 256 % 16, value / 16 % 16, value % 16].map Nat.digitChar)

def ipv4Text (direction proto source destination extra : String) (length : Nat) : String :=
  "WiFi " ++ direction ++ ": IPv4 " ++ proto ++ " " ++ source ++ " -> " ++ destination ++ extra ++
    "  (" ++ toString length ++ " bytes)"

def logFrame (direction : String) (count : Nat) (frame : List UInt8) : Option (Option LogLine) :=
  if count % 100 ≠ 0 then some none
  else if 14 ≤ frame.length then do
    let ethertype := fromBeBytes (← frame[12]?) (← frame[13]?)
    if ethertype = 0x0800 ∧ 34 ≤ frame.length then
      let protocol ← frame[23]?
      let source ← dotted (← slice frame 26 30)
      let destination ← dotted (← slice frame 30 34)
      let extra ← tcpExtra protocol frame
      return some ⟨.info,
        ipv4Text direction (protoName protocol) source destination extra frame.length⟩
    else if ethertype = 0x0806 then
      return some ⟨.info, "WiFi " ++ direction ++ ": ARP (" ++ toString frame.length ++ " bytes)"⟩
    else
      return some ⟨.debug, "WiFi " ++ direction ++ " #" ++ toString count ++ ": " ++
        toString frame.length ++ " bytes, ethertype=0x" ++ hexDigits ethertype⟩
  else
    some (some ⟨.debug, "WiFi " ++ direction ++ " #" ++ toString count ++ ": " ++
      toString frame.length ++ " bytes (too short)"⟩)

theorem tcpExtra_isSome (protocol : UInt8) (frame : List UInt8) :
    ∃ extra, tcpExtra protocol frame = some extra := by
  unfold tcpExtra
  split
  · next long =>
    have version : frame[14]? = some frame[14] := List.getElem?_eq_getElem _
    rw [version]
    simp only [Option.bind_eq_bind, Option.bind_some, Option.pure_def]
    split
    · next room =>
      simp only [List.getElem?_eq_getElem (show 14 + (frame[14] &&& 0x0f).toNat * 4 < frame.length by omega),
        List.getElem?_eq_getElem (show 14 + (frame[14] &&& 0x0f).toNat * 4 + 1 < frame.length by omega),
        List.getElem?_eq_getElem (show 14 + (frame[14] &&& 0x0f).toNat * 4 + 2 < frame.length by omega),
        List.getElem?_eq_getElem (show 14 + (frame[14] &&& 0x0f).toNat * 4 + 3 < frame.length by omega),
        List.getElem?_eq_getElem (show 14 + (frame[14] &&& 0x0f).toNat * 4 + 13 < frame.length by omega),
        Option.bind_some]
      exact ⟨_, rfl⟩
    · exact ⟨_, rfl⟩
  · exact ⟨_, rfl⟩

theorem dotted_eq {ip : List UInt8} {first second third fourth : UInt8}
    (bytes : ip = [first, second, third, fourth]) :
    dotted ip = some (toString first ++ "." ++ toString second ++ "." ++ toString third ++ "." ++
      toString fourth) := by
  subst bytes
  rfl

theorem dotted_slice {frame : List UInt8} {start : Nat} (room : start + 4 ≤ frame.length) :
    ∃ ip text, slice frame start (start + 4) = some ip ∧ dotted ip = some text := by
  have length : ((frame.take (start + 4)).drop start).length = 4 := by
    simp only [List.length_drop, List.length_take]
    omega
  obtain ⟨first, second, third, fourth, bytes⟩ := List.length_eq_four.mp length
  exact ⟨_, _, if_pos ⟨Nat.le_add_right _ _, room⟩, dotted_eq bytes⟩

theorem logFrame_isSome (direction : String) (count : Nat) (frame : List UInt8) :
    ∃ line, logFrame direction count frame = some line := by
  unfold logFrame
  split
  · exact ⟨_, rfl⟩
  · split
    · next long =>
      simp only [Option.bind_eq_bind, Option.pure_def,
        List.getElem?_eq_getElem (show 12 < frame.length by omega),
        List.getElem?_eq_getElem (show 13 < frame.length by omega), Option.bind_some]
      split
      · next ipv4 =>
        obtain ⟨_, _, source, sourceText⟩ := dotted_slice (show 26 + 4 ≤ frame.length by omega)
        obtain ⟨_, _, destination, destinationText⟩ :=
          dotted_slice (show 30 + 4 ≤ frame.length by omega)
        obtain ⟨_, extra⟩ := tcpExtra_isSome frame[23] frame
        simp only [List.getElem?_eq_getElem (show 23 < frame.length by omega), source, sourceText,
          destination, destinationText, extra, Option.bind_some]
        exact ⟨_, rfl⟩
      · split <;> exact ⟨_, rfl⟩
    · exact ⟨_, rfl⟩

/-! What is printed for a TCP segment. -/

/-- The flags that are printed, in that order. -/
inductive TcpFlag
  | syn
  | ack
  | fin
  | rst
  | psh

namespace TcpFlag

def all : List TcpFlag := [.syn, .ack, .fin, .rst, .psh]

def bit : TcpFlag → Nat
  | .fin => 0
  | .syn => 1
  | .rst => 2
  | .psh => 3
  | .ack => 4

def name : TcpFlag → String
  | .syn => "SYN"
  | .ack => "ACK"
  | .fin => "FIN"
  | .rst => "RST"
  | .psh => "PSH"

def names (flags : UInt8) : List String :=
  (all.filter fun flag => flags.toNat.testBit flag.bit).map name

theorem isWord_name (flag : TcpFlag) : IsWord flag.name.toList := by
  cases flag <;> exact ⟨by decide, List.all_iff_forall_prop.mp (by decide +kernel)⟩

theorem and_ne_zero_iff (flags : UInt8) {mask : UInt8} {bit : Nat} (single : mask.toNat = 2 ^ bit) :
    flags &&& mask ≠ 0 ↔ flags.toNat.testBit bit = true := by
  rw [Ne, ← UInt8.toNat_inj, UInt8.toNat_and, single, Nat.and_two_pow]
  cases flags.toNat.testBit bit <;> simp

/-- One of the texts `flag_str` is made of. -/
theorem toList_flag (flags : UInt8) (flag : TcpFlag) {mask : UInt8} {text : String}
    (single : mask.toNat = 2 ^ flag.bit) (printed : text.toList = flag.name.toList ++ [' ']) :
    (if flags &&& mask ≠ 0 then text else "").toList =
      if flags.toNat.testBit flag.bit then flag.name.toList ++ [' '] else [] := by
  simp only [and_ne_zero_iff flags single]
  split
  · exact printed
  · rfl

theorem flatMap_filter {Item : Type} (kept : Item → Bool) (text : Item → List Char)
    (items : List Item) :
    (items.filter kept).flatMap text =
      items.flatMap fun item => if kept item then text item else [] := by
  induction items with
  | nil => rfl
  | cons first rest ih =>
      rw [List.flatMap_cons, List.filter_cons, ← ih]
      split <;> simp

theorem flagStr_toList (flags : UInt8) :
    (flagStr flags).toList =
      ((names flags).map String.toList).flatMap fun name => name ++ [' '] := by
  rw [names, List.map_map, List.flatMap_map, flatMap_filter]
  simp only [flagStr, String.toList_append]
  rw [toList_flag flags .syn rfl rfl, toList_flag flags .ack rfl rfl,
    toList_flag flags .fin rfl rfl, toList_flag flags .rst rfl rfl, toList_flag flags .psh rfl rfl]
  simp [all]

theorem trimmed_flagStr (flags : UInt8) : trimmed (flagStr flags) = " ".intercalate (names flags) := by
  have areLines : ∀ text ∈ (names flags).map String.toList, IsLine text := by
    simp only [names, List.map_map, List.mem_map]
    rintro text ⟨flag, _, rfl⟩
    exact (isWord_name flag).isLine
  rw [← String.toList_inj, trimmed, flagStr_toList, trim_flatMap (by decide) areLines]
  simp

end TcpFlag

/-- An Ethernet frame with a TCP segment in IPv4, by the fields of its headers. -/
structure TcpSegment where
  ethernet : Vector UInt8 12
  versionIhl : UInt8
  ipFields : Vector UInt8 8
  checksum : Vector UInt8 2
  source : Vector UInt8 4
  destination : Vector UInt8 4
  options : List UInt8
  sourcePort : Vector UInt8 2
  destinationPort : Vector UInt8 2
  sequence : Vector UInt8 8
  offset : UInt8
  flags : UInt8
  rest : List UInt8
  /-- The header length covers the options. -/
  ihl : (versionIhl &&& 0x0f).toNat * 4 = 20 + options.length
  /-- Window, checksum and urgent pointer end the TCP header. -/
  whole : 6 ≤ rest.length

namespace TcpSegment

def ipHeader (segment : TcpSegment) : List UInt8 :=
  segment.versionIhl :: segment.ipFields.toList ++ 6 :: segment.checksum.toList ++
    segment.source.toList ++ segment.destination.toList ++ segment.options

def tcpHeader (segment : TcpSegment) : List UInt8 :=
  segment.sourcePort.toList ++ segment.destinationPort.toList ++ segment.sequence.toList ++
    [segment.offset, segment.flags]

def frame (segment : TcpSegment) : List UInt8 :=
  segment.ethernet.toList ++ [0x08, 0x00] ++ segment.ipHeader ++ segment.tcpHeader ++ segment.rest

def address (bytes : Vector UInt8 4) : String :=
  toString bytes[0] ++ "." ++ toString bytes[1] ++ "." ++ toString bytes[2] ++ "." ++
    toString bytes[3]

def port (bytes : Vector UInt8 2) : Nat := bytes[0].toNat * 256 + bytes[1].toNat

theorem ipHeader_length (segment : TcpSegment) :
    segment.ipHeader.length = 20 + segment.options.length := by
  simp [ipHeader]
  omega

theorem frame_length (segment : TcpSegment) :
    segment.frame.length = 48 + segment.options.length + segment.rest.length := by
  simp [frame, ipHeader_length, tcpHeader]
  omega

theorem dotted_address (bytes : Vector UInt8 4) : dotted bytes.toList = some (address bytes) := by
  refine dotted_eq ?_
  apply List.ext_getElem
  · simp
  · intro index _ bound
    match index, bound with
    | 0, _ | 1, _ | 2, _ | 3, _ => simp

theorem slice_append {before middle after : List UInt8} {first last : Nat}
    (start : before.length = first) (finish : first + middle.length = last) :
    slice (before ++ middle ++ after) first last = some middle := by
  subst start finish
  have taken : (before ++ middle ++ after).take (before.length + middle.length) =
      before ++ middle := by
    rw [← List.length_append, List.take_left]
  rw [slice, if_pos (by simp), taken, List.drop_left]

theorem slice_source (segment : TcpSegment) :
    slice segment.frame 26 30 = some segment.source.toList := by
  have split : segment.frame = (segment.ethernet.toList ++ [0x08, 0x00] ++
      segment.versionIhl :: segment.ipFields.toList ++ 6 :: segment.checksum.toList) ++
      segment.source.toList ++ (segment.destination.toList ++ segment.options ++
        segment.tcpHeader ++ segment.rest) := by
    simp [frame, ipHeader]
  rw [split]
  exact slice_append (by simp) (by simp)

theorem slice_destination (segment : TcpSegment) :
    slice segment.frame 30 34 = some segment.destination.toList := by
  have split : segment.frame = (segment.ethernet.toList ++ [0x08, 0x00] ++
      segment.versionIhl :: segment.ipFields.toList ++ 6 :: segment.checksum.toList ++
      segment.source.toList) ++ segment.destination.toList ++ (segment.options ++
        segment.tcpHeader ++ segment.rest) := by
    simp [frame, ipHeader]
  rw [split]
  exact slice_append (by simp) (by simp)

/-- The TCP header stands where the header length says. -/
theorem getElem?_tcp (segment : TcpSegment) {index : Nat} (bound : index < 14) :
    segment.frame[14 + (segment.versionIhl &&& 0x0f).toNat * 4 + index]? =
      segment.tcpHeader[index]? := by
  have before : (segment.ethernet.toList ++ [0x08, 0x00] ++ segment.ipHeader).length =
      14 + (segment.versionIhl &&& 0x0f).toNat * 4 := by
    rw [segment.ihl, List.length_append, ipHeader_length]
    simp
  have inside : index < segment.tcpHeader.length := by simpa [tcpHeader] using bound
  rw [frame, List.append_assoc, List.getElem?_append_right (by omega), before,
    Nat.add_sub_cancel_left, List.getElem?_append_left inside]

theorem tcpExtra_frame (segment : TcpSegment) :
    tcpExtra 6 segment.frame =
      some (tcpText (port segment.sourcePort) (port segment.destinationPort) segment.flags) := by
  have length := segment.frame_length
  have whole := segment.whole
  have ihl := segment.ihl
  have version : segment.frame[14]? = some segment.versionIhl := by
    simp [frame, ipHeader, List.getElem?_append]
  have at0 := segment.getElem?_tcp (show 0 < 14 by decide)
  have at1 := segment.getElem?_tcp (show 1 < 14 by decide)
  have at2 := segment.getElem?_tcp (show 2 < 14 by decide)
  have at3 := segment.getElem?_tcp (show 3 < 14 by decide)
  have at13 := segment.getElem?_tcp (show 13 < 14 by decide)
  rw [Nat.add_zero] at at0
  rw [tcpExtra, if_pos ⟨rfl, by omega⟩, version]
  simp only [Option.bind_eq_bind, Option.bind_some, Option.pure_def]
  rw [if_pos (by omega), at0, at1, at2, at3, at13]
  simp [tcpHeader, port, fromBeBytes]

end TcpSegment

theorem ipv4Text_tcp (direction source destination : String) (sourcePort destinationPort : Nat)
    (flags : UInt8) (length : Nat) :
    ipv4Text direction "TCP" source destination (tcpText sourcePort destinationPort flags) length =
      "WiFi " ++ direction ++ ": IPv4 TCP " ++ source ++ " -> " ++ destination ++ " [" ++
        toString sourcePort ++ ":" ++ toString destinationPort ++ " -> " ++
        toString destinationPort ++ ":" ++ toString sourcePort ++ " " ++
        " ".intercalate (TcpFlag.names flags) ++ "]  (" ++ toString length ++ " bytes)" := by
  have opening : ": IPv4 TCP " = ": IPv4 " ++ "TCP" ++ " " := rfl
  have closing : "]  (" = "]" ++ "  (" := rfl
  -- `unfold` would first prove an equation for each text, which takes long
  delta ipv4Text tcpText
  rw [opening, closing, TcpFlag.trimmed_flagStr]
  simp only [String.append_assoc]

/-- `log_frame` never indexes out of bounds.  Of a TCP segment it prints the addresses, the ports
and the flags SYN, ACK, FIN, RST and PSH of its headers, whatever options the IPv4 header carries. -/
theorem logFrame_reads_headers (direction : String) (count : Nat) :
    (∀ frame, ∃ line, logFrame direction count frame = some line) ∧
      ∀ segment : TcpSegment, count % 100 = 0 →
        logFrame direction count segment.frame = some (some ⟨.info,
          "WiFi " ++ direction ++ ": IPv4 TCP " ++ TcpSegment.address segment.source ++ " -> " ++
            TcpSegment.address segment.destination ++
            " [" ++ toString (TcpSegment.port segment.sourcePort) ++ ":" ++
            toString (TcpSegment.port segment.destinationPort) ++ " -> " ++
            toString (TcpSegment.port segment.destinationPort) ++ ":" ++
            toString (TcpSegment.port segment.sourcePort) ++ " " ++
            " ".intercalate (TcpFlag.names segment.flags) ++
            "]  (" ++ toString segment.frame.length ++ " bytes)"⟩) := by
  refine ⟨logFrame_isSome direction count, ?_⟩
  intro segment due
  have length := segment.frame_length
  have whole := segment.whole
  have high : segment.frame[12]? = some 0x08 := by simp [TcpSegment.frame]
  have low : segment.frame[13]? = some 0x00 := by
    simp [TcpSegment.frame, List.getElem?_append]
  have protocol : segment.frame[23]? = some 6 := by
    simp [TcpSegment.frame, TcpSegment.ipHeader, List.getElem?_append]
  rw [logFrame, if_neg (by simpa using due), if_pos (by omega), high, low]
  simp only [Option.bind_eq_bind, Option.bind_some, Option.pure_def]
  rw [if_pos ⟨by decide, by omega⟩, protocol, segment.slice_source, segment.slice_destination]
  simp only [Option.bind_some, TcpSegment.dotted_address, segment.tcpExtra_frame]
  rw [show protoName 6 = "TCP" from rfl, ipv4Text_tcp]

/-- A SYN ACK with four bytes of options in its IPv4 header, and ECE set. -/
def sampleSegment : TcpSegment where
  ethernet := ⟨#[2, 0, 0, 0, 0, 1, 2, 0, 0, 0, 0, 2], rfl⟩
  versionIhl := 0x46
  ipFields := ⟨#[0, 0, 44, 0, 0, 0, 0, 64], rfl⟩
  checksum := ⟨#[0, 0], rfl⟩
  source := ⟨#[192, 168, 4, 2], rfl⟩
  destination := ⟨#[10, 0, 0, 1], rfl⟩
  options := [1, 1, 1, 0]
  sourcePort := ⟨#[0x1F, 0x90], rfl⟩
  destinationPort := ⟨#[0, 80], rfl⟩
  sequence := ⟨#[0, 0, 0, 1, 0, 0, 0, 2], rfl⟩
  offset := 0x50
  flags := 0x52
  rest := [0, 0, 0, 0, 0, 0]
  ihl := by decide
  whole := by decide

theorem logFrame_reads_headers_options :
    logFrame "RX" 100 sampleSegment.frame = some (some ⟨.info,
      "WiFi RX: IPv4 TCP 192.168.4.2 -> 10.0.0.1 [8080:80 -> 80:8080 SYN ACK]  (58 bytes)"⟩) := by
  have source : TcpSegment.address sampleSegment.source = "192.168.4.2" := by decide +kernel
  have destination : TcpSegment.address sampleSegment.destination = "10.0.0.1" := by decide +kernel
  have sourcePort : toString (TcpSegment.port sampleSegment.sourcePort) = "8080" := by
    decide +kernel
  have destinationPort : toString (TcpSegment.port sampleSegment.destinationPort) = "80" := by
    decide +kernel
  have flags : " ".intercalate (TcpFlag.names sampleSegment.flags) = "SYN ACK" := by decide +kernel
  have length : toString sampleSegment.frame.length = "58" := by decide +kernel
  rw [(logFrame_reads_headers "RX" 100).2 sampleSegment (by decide), source, destination,
    sourcePort, destinationPort, flags, length]
  rfl

end Lamella

import Mathlib.Data.List.Basic

/-!
The targets of the test mode, `IP:PORT` and `IP:PORT/path`.  The components of the address that
do not parse are dropped before they are counted, so a target is read as its grammar says exactly
when no component is dropped next to four others.
-/

namespace Lamella

/-! Parsing of unsigned integers, as `u8` and `u16` do it. -/

def parseDigits (bound : Nat) : Nat → List Char → Option Nat
  | value, [] => some value
  | value, digit :: rest =>
      if digit.isDigit then
        let next := value * 10 + (digit.toNat - '0'.toNat)
        if next ≤ bound then parseDigits bound next rest else none
      else none

def parseUnsigned (bound : Nat) : List Char → Option Nat
  | [] => none
  | ['+'] => none
  | '+' :: digits => parseDigits bound 0 digits
  | digits => parseDigits bound 0 digits

def digitsValue (value : Nat) (digits : List Char) : Nat :=
  digits.foldl (fun value digit => value * 10 + (digit.toNat - '0'.toNat)) value

theorem le_digitsValue (value : Nat) (digits : List Char) : value ≤ digitsValue value digits := by
  induction digits generalizing value with
  | nil => exact Nat.le_refl value
  | cons digit rest ih =>
      have later := ih (value * 10 + (digit.toNat - '0'.toNat))
      simp only [digitsValue, List.foldl_cons] at later ⊢
      omega

theorem parseDigits_eq_some_iff (bound value result : Nat) (digits : List Char)
    (within : value ≤ bound) :
    parseDigits bound value digits = some result ↔
      (∀ digit ∈ digits, digit.isDigit = true) ∧ digitsValue value digits = result ∧
        result ≤ bound := by
  induction digits generalizing value with
  | nil =>
      simp only [parseDigits, digitsValue, List.foldl_nil, Option.some.injEq]
      constructor
      · rintro rfl
        exact ⟨by simp, rfl, within⟩
      · exact fun parsed => parsed.2.1
  | cons digit rest ih =>
      have later := le_digitsValue (value * 10 + (digit.toNat - '0'.toNat)) rest
      rw [List.forall_mem_cons]
      simp only [digitsValue, List.foldl_cons] at later ⊢
      unfold parseDigits
      split
      case isFalse other => simp [other]
      case isTrue isDigit =>
          simp only [isDigit, true_and]
          split
          case isTrue small => exact ih _ small
          case isFalse large =>
              simp only [reduceCtorEq, false_iff]
              omega

/-- A number is an optional plus sign and at least one digit, with a value that fits. -/
theorem parseUnsigned_eq_some_iff (bound result : Nat) (text : List Char) :
    parseUnsigned bound text = some result ↔
      ∃ digits, (text = digits ∨ text = '+' :: digits) ∧ digits ≠ [] ∧
        (∀ digit ∈ digits, digit.isDigit = true) ∧ digitsValue 0 digits = result ∧
        result ≤ bound := by
  unfold parseUnsigned
  split
  case h_1 =>
      constructor
      · nofun
      · rintro ⟨digits, rfl | plus, nonempty, _⟩
        · contradiction
        · contradiction
  case h_2 =>
      constructor
      · nofun
      · rintro ⟨digits, rfl | plus, nonempty, numeric, _⟩
        · exact absurd (numeric '+' (by simp)) (by decide)
        · cases plus
          contradiction
  case h_3 rest nonempty =>
      rw [parseDigits_eq_some_iff _ _ _ _ (Nat.zero_le bound)]
      constructor
      · intro parsed
        refine ⟨rest, Or.inr rfl, ?_, parsed⟩
        rintro rfl
        contradiction
      · rintro ⟨digits, rfl | plus, nonempty, parsed⟩
        · exact absurd (parsed.1 '+' (by simp)) (by decide)
        · cases plus
          exact parsed
  case h_4 nonempty alone unsigned =>
      rw [parseDigits_eq_some_iff _ _ _ _ (Nat.zero_le bound)]
      constructor
      · exact fun parsed => ⟨text, Or.inl rfl, nonempty, parsed⟩
      · rintro ⟨digits, rfl | plus, nonempty, parsed⟩
        · exact parsed
        · exact absurd plus (unsigned digits)

def parseU8 (text : List Char) : Option UInt8 := (parseUnsigned 255 text).map UInt8.ofNat

def parseU16 (text : List Char) : Option UInt16 := (parseUnsigned 65535 text).map UInt16.ofNat

structure Ipv4Address where
  first : UInt8
  second : UInt8
  third : UInt8
  fourth : UInt8
deriving DecidableEq

def Ipv4Address.octets (address : Ipv4Address) : List UInt8 :=
  [address.first, address.second, address.third, address.fourth]

structure ServerAddress where
  ip : Ipv4Address
  port : UInt16
deriving DecidableEq

/-- The common part of the three copies; they differ in the message for the wrong number of
fields. -/
def parseServer (formatError : String) (text : List Char) : Except String ServerAddress :=
  match text.splitOn ':' with
  | [ip, port] =>
      match (ip.splitOn '.').filterMap parseU8 with
      | [first, second, third, fourth] =>
          match parseU16 port with
          | some port => .ok ⟨⟨first, second, third, fourth⟩, port⟩
          | none => .error "Invalid port"
      | _ => .error "Invalid IP address"
  | _ => .error formatError

structure HttpTarget where
  server : ServerAddress
  path : List Char
deriving DecidableEq

namespace SerialTransport

def parseHttpTarget (target : String) : Except String HttpTarget :=
  if '/' ∈ target.toList then do
    let server ← parseServer "Invalid IP:PORT format" (target.toList.takeWhile (· ≠ '/'))
    return ⟨server, target.toList.dropWhile (· ≠ '/')⟩
  else
    .error "Invalid HTTP target format. Use IP:PORT/path (e.g., 10.77.77.100:8080/file.bin)"

def parseBandwidthTarget (target : String) : Except String ServerAddress :=
  parseServer "Invalid bandwidth target format. Use IP:PORT (e.g., 10.77.77.100:5000)" target.toList

end SerialTransport

namespace NusbTransport

def parseBandwidthTarget (target : String) : Except String ServerAddress :=
  parseServer "Invalid bandwidth target format. Use IP:PORT (e.g., 10.77.77.100:5000)" target.toList

end NusbTransport

/-! The grammar of a server address. -/

structure IsServer (text : List Char) (server : ServerAddress) (ip port : List Char) : Prop where
  fields : text.splitOn ':' = [ip, port]
  components : (ip.splitOn '.').map parseU8 = server.ip.octets.map some
  number : parseU16 port = some server.port

def IsHttpTarget (text : List Char) (target : HttpTarget) : Prop :=
  '/' ∈ text ∧ (∃ ip port, IsServer (text.takeWhile (· ≠ '/')) target.server ip port) ∧
    target.path = text.dropWhile (· ≠ '/')

/-- No component is dropped next to four that parse. -/
def FourComponents (text : List Char) : Prop :=
  ∀ ip port, text.splitOn ':' = [ip, port] → (parseU16 port).isSome = true →
    ((ip.splitOn '.').filterMap parseU8).length = 4 → (ip.splitOn '.').length = 4

theorem map_eq_map_some_iff {Item Value : Type} (parse : Item → Option Value) (items : List Item)
    (values : List Value) :
    items.map parse = values.map some ↔
      items.filterMap parse = values ∧ items.length = values.length := by
  induction items generalizing values with
  | nil => cases values <;> simp
  | cons item rest ih =>
      cases parsed : parse item with
      | none =>
          have shorter := List.length_filterMap_le parse rest
          constructor
          · intro same
            cases values <;> simp [parsed] at same
          · rintro ⟨rfl, lengths⟩
            rw [List.filterMap_cons_none parsed, List.length_cons] at lengths
            omega
      | some value =>
          cases values with
          | nil => simp
          | cons other values => simp [parsed, ih, and_assoc]

theorem parseServer_eq_ok_iff (formatError : String) (text : List Char) (server : ServerAddress) :
    parseServer formatError text = .ok server ↔
      ∃ ip port, text.splitOn ':' = [ip, port] ∧
        (ip.splitOn '.').filterMap parseU8 = server.ip.octets ∧
        parseU16 port = some server.port := by
  constructor
  · intro parsed
    unfold parseServer at parsed
    split at parsed
    case h_1 ip port fields =>
        split at parsed
        case h_1 octets =>
            split at parsed
            case h_1 number =>
                cases parsed
                exact ⟨ip, port, fields, octets, number⟩
            case h_2 => contradiction
        case h_2 => contradiction
    case h_2 => contradiction
  · rintro ⟨ip, port, fields, octets, number⟩
    simp only [parseServer, fields, octets, Ipv4Address.octets, number]

theorem parseServer_grammar_iff (formatError : String) (text : List Char) :
    (∀ server, parseServer formatError text = .ok server ↔ ∃ ip port, IsServer text server ip port) ↔
      FourComponents text := by
  constructor
  · intro agrees ip port fields number four
    obtain ⟨value, parsed⟩ := Option.isSome_iff_exists.mp number
    match octets : (ip.splitOn '.').filterMap parseU8, four with
    | [first, second, third, fourth], _ =>
        have read := (parseServer_eq_ok_iff formatError text
          ⟨⟨first, second, third, fourth⟩, value⟩).mpr ⟨ip, port, fields, octets, parsed⟩
        obtain ⟨other, rest, again, components, _⟩ := (agrees _).mp read
        obtain ⟨rfl, _⟩ := List.cons.inj (fields.symm.trans again)
        exact ((map_eq_map_some_iff _ _ _).mp components).2
  · intro four server
    rw [parseServer_eq_ok_iff]
    constructor
    · rintro ⟨ip, port, fields, octets, number⟩
      have all := four ip port fields (by rw [number]; rfl) (by rw [octets]; rfl)
      exact ⟨ip, port, fields, (map_eq_map_some_iff _ _ _).mpr ⟨octets, all⟩, number⟩
    · rintro ⟨ip, port, fields, components, number⟩
      exact ⟨ip, port, fields, ((map_eq_map_some_iff _ _ _).mp components).1, number⟩

theorem parseHttpTarget_eq_ok_iff (target : String) (result : HttpTarget) :
    SerialTransport.parseHttpTarget target = .ok result ↔
      '/' ∈ target.toList ∧
        parseServer "Invalid IP:PORT format" (target.toList.takeWhile (· ≠ '/')) =
          .ok result.server ∧
        result.path = target.toList.dropWhile (· ≠ '/') := by
  unfold SerialTransport.parseHttpTarget
  split
  case isFalse absent => simp [absent]
  case isTrue slash =>
      cases parsed : parseServer "Invalid IP:PORT format" (target.toList.takeWhile (· ≠ '/')) with
      | error message => simp [bind, Except.bind]
      | ok server =>
          obtain ⟨found, path⟩ := result
          simp [bind, Except.bind, pure, Except.pure, slash, eq_comm]

/-- Each of the three parsers accepts exactly its grammar, with the components of the address in
order, exactly when no component of the address is dropped next to four that parse. -/
theorem target_grammar_iff (target : String) :
    ((∀ server, SerialTransport.parseBandwidthTarget target = .ok server ↔
          ∃ ip port, IsServer target.toList server ip port) ↔
        FourComponents target.toList) ∧
      ((∀ server, NusbTransport.parseBandwidthTarget target = .ok server ↔
          ∃ ip port, IsServer target.toList server ip port) ↔
        FourComponents target.toList) ∧
      ((∀ result, SerialTransport.parseHttpTarget target = .ok result ↔
          IsHttpTarget target.toList result) ↔
        ('/' ∈ target.toList → FourComponents (target.toList.takeWhile (· ≠ '/')))) := by
  refine ⟨parseServer_grammar_iff _ _, parseServer_grammar_iff _ _, ?_⟩
  by_cases slash : '/' ∈ target.toList
  · rw [← parseServer_grammar_iff "Invalid IP:PORT format"]
    constructor
    · intro agrees _ server
      have here := agrees ⟨server, target.toList.dropWhile (· ≠ '/')⟩
      simpa only [parseHttpTarget_eq_ok_iff, IsHttpTarget, slash, true_and, and_true] using here
    · intro agrees result
      rw [parseHttpTarget_eq_ok_iff, IsHttpTarget, agrees slash]
  · constructor
    · intro _ present
      contradiction
    · intro _ result
      rw [parseHttpTarget_eq_ok_iff, IsHttpTarget]
      simp [slash]

theorem target_component_dropped :
    SerialTransport.parseBandwidthTarget "1.2.x.3.4:80" = .ok ⟨⟨1, 2, 3, 4⟩, 80⟩ ∧
      ∀ ip port, ¬IsServer "1.2.x.3.4:80".toList ⟨⟨1, 2, 3, 4⟩, 80⟩ ip port := by
  refine ⟨by decide +kernel, ?_⟩
  rintro ip port ⟨fields, components, _⟩
  have split : "1.2.x.3.4:80".toList.splitOn ':' = ["1.2.x.3.4".toList, "80".toList] := by
    decide +kernel
  obtain ⟨rfl, _⟩ := List.cons.inj (split.symm.trans fields)
  have five := ((map_eq_map_some_iff _ _ _).mp components).2
  revert five
  decide +kernel

end Lamella

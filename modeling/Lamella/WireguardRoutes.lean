import Lamella.MachineCore
import Lamella.SystemNetworkCore
import Mathlib.Data.Bool.AllAny

/-!
The route queries of `report_wireguard_routes`, for everything `wg` may print.
-/

namespace Lamella

theorem endpointHost_unbracketed {endpoint : List Char} (plain : endpoint.head? ≠ some '[') :
    endpointHost endpoint = (beforeLastColon endpoint).getD endpoint := by
  unfold endpointHost
  split
  · simp at plain
  · rfl

/-- The address of a peer as `wg` prints it, with the host of an IPv6 address in brackets. -/
structure WireguardEndpoint where
  host : List Char
  port : List Char

def WireguardEndpoint.text (endpoint : WireguardEndpoint) : List Char :=
  if ':' ∈ endpoint.host then '[' :: endpoint.host ++ ']' :: ':' :: endpoint.port
  else endpoint.host ++ ':' :: endpoint.port

structure WireguardEndpoint.Printable (endpoint : WireguardEndpoint) : Prop where
  host : ∀ char ∈ endpoint.host, isWhitespace char = false ∧ char ≠ '[' ∧ char ≠ ']'
  port : ∀ char ∈ endpoint.port, isWhitespace char = false ∧ char ≠ ':'

theorem WireguardEndpoint.Printable.isWord {endpoint : WireguardEndpoint}
    (printable : endpoint.Printable) : IsWord endpoint.text := by
  have host := fun char member => (printable.host char member).1
  have port := fun char member => (printable.port char member).1
  unfold WireguardEndpoint.text
  split
  · refine ⟨by simp, ?_⟩
    intro char member
    simp only [List.cons_append, List.mem_cons, List.mem_append] at member
    rcases member with rfl | member | rfl | rfl | member
    · rfl
    · exact host char member
    · rfl
    · rfl
    · exact port char member
  · refine ⟨by simp, ?_⟩
    intro char member
    rcases List.mem_append.mp member with member | member
    · exact host char member
    · rcases List.mem_cons.mp member with rfl | member
      · rfl
      · exact port char member

theorem WireguardEndpoint.Printable.endpointHost_text {endpoint : WireguardEndpoint}
    (printable : endpoint.Printable) : endpointHost endpoint.text = endpoint.host := by
  unfold WireguardEndpoint.text
  split
  · have differs : ∀ char ∈ endpoint.host, decide (char ≠ ']') = true := by
      intro char member
      simpa using (printable.host char member).2.2
    simp only [List.cons_append, endpointHost, List.mem_append, List.mem_cons, true_or, or_true,
      ↓reduceIte]
    rw [List.takeWhile_append_of_pos differs]
    simp
  · have port : ':' ∉ endpoint.port := fun member => (printable.port _ member).2 rfl
    have plain : (endpoint.host ++ ':' :: endpoint.port).head? ≠ some '[' := by
      cases start : endpoint.host with
      | nil => simp
      | cons first rest => simpa using (printable.host first (by simp [start])).2.1
    rw [endpointHost_unbracketed plain, beforeLastColon_append port, Option.getD_some]

/-- A peer, and how the query of its route ends.  A peer without an address is listed as
`(none)`. -/
structure WireguardPeer where
  key : List Char
  endpoint : Option WireguardEndpoint
  route : CommandEnd

namespace WireguardPeer

def text (peer : WireguardPeer) : List Char :=
  match peer.endpoint with
  | some endpoint => endpoint.text
  | none => "(none)".toList

def host (peer : WireguardPeer) : List Char :=
  match peer.endpoint with
  | some endpoint => endpoint.host
  | none => "(none)".toList

def line (peer : WireguardPeer) : List Char := peer.key ++ '\t' :: peer.text

structure Printable (peer : WireguardPeer) : Prop where
  key : IsWord peer.key
  endpoint : ∀ endpoint ∈ peer.endpoint, endpoint.Printable

theorem Printable.isWord {peer : WireguardPeer} (printable : peer.Printable) :
    IsWord peer.text := by
  cases listed : peer.endpoint with
  | none =>
      simp only [WireguardPeer.text, listed]
      exact ⟨by decide, List.all_iff_forall_prop.mp (by decide +kernel)⟩
  | some endpoint =>
      simp only [WireguardPeer.text, listed]
      exact (printable.endpoint endpoint listed).isWord

theorem Printable.endpointHost_text {peer : WireguardPeer} (printable : peer.Printable) :
    endpointHost peer.text = peer.host := by
  cases listed : peer.endpoint with
  | none =>
      simp only [WireguardPeer.text, WireguardPeer.host, listed]
      decide +kernel
  | some endpoint =>
      simp only [WireguardPeer.text, WireguardPeer.host, listed]
      exact (printable.endpoint endpoint listed).endpointHost_text

theorem Printable.isLine {peer : WireguardPeer} (printable : peer.Printable) :
    IsLine peer.line :=
  printable.key.isLine.append printable.isWord.isLine (by decide) (by decide)

theorem Printable.words {peer : WireguardPeer} (printable : peer.Printable) :
    splitWhitespace peer.line = [peer.key, peer.text] := by
  rw [WireguardPeer.line, splitWhitespace_cons printable.key (by decide),
    splitWhitespace_word printable.isWord]

/-- The query of the route to a peer, and how it ends. -/
def query (fwmark : String) (peer : WireguardPeer) : Command × CommandEnd :=
  (⟨"ip", [if ':' ∈ peer.host then "-6" else "-4", "route", "get", String.ofList peer.host] ++
    if fwmark ≠ "off" then ["mark", fwmark] else []⟩, peer.route)

end WireguardPeer

/-- What `wg show … endpoints` prints. -/
def endpointsText (peers : List WireguardPeer) : List Char :=
  (peers.map WireguardPeer.line).flatMap fun line => line ++ ['\n']

theorem endpointsOf_text {peers : List WireguardPeer}
    (printable : ∀ peer ∈ peers, peer.Printable) :
    endpointsOf (trim (endpointsText peers)) = peers.map WireguardPeer.text := by
  have areLines : ∀ line ∈ peers.map WireguardPeer.line, IsLine line := by
    intro line member
    obtain ⟨peer, present, rfl⟩ := List.mem_map.mp member
    exact (printable peer present).isLine
  rw [endpointsOf, endpointsText, trim_flatMap (by decide) areLines, lines_intercalate areLines,
    List.filterMap_map, ← List.filterMap_eq_map]
  refine List.filterMap_congr ?_
  intro peer present
  simp [(printable peer present).words]

/-- How the queries of an interface end: the list of its peers fails, or it is printed. -/
inductive WireguardListing
  | failed (result : CommandEnd)
  | printed (peers : List WireguardPeer) (stderr : String) (fwmark : CommandEnd)

structure WireguardInterface where
  name : List Char
  listing : WireguardListing

def CommandEnd.succeeded : CommandEnd → Bool
  | .exited true _ _ => true
  | _ => false

/-- The mark the routes are queried with. -/
def CommandEnd.fwmark : CommandEnd → String
  | .exited true stdout _ => trimmed stdout
  | _ => "off"

namespace WireguardInterface

/-- The queries of one interface, and how each ends. -/
def queries (interface : WireguardInterface) : List (Command × CommandEnd) :=
  let name := String.ofList interface.name
  match interface.listing with
  | .failed result => [(⟨"wg", ["show", name, "endpoints"]⟩, result)]
  | .printed peers stderr fwmark =>
      (⟨"wg", ["show", name, "endpoints"]⟩,
          .exited true (String.ofList (endpointsText peers)) stderr) ::
        (⟨"wg", ["show", name, "fwmark"]⟩, fwmark) :: peers.map (WireguardPeer.query fwmark.fwmark)

structure Printable (interface : WireguardInterface) : Prop where
  name : IsWord interface.name
  failed : ∀ result, interface.listing = .failed result → result.succeeded = false
  printed : ∀ peers stderr fwmark, interface.listing = .printed peers stderr fwmark →
    ∀ peer ∈ peers, peer.Printable

end WireguardInterface

/-- All the queries of a report: the interfaces, then those of each interface in turn. -/
def wireguardQueries (interfaces : List WireguardInterface) (stderr : String) :
    List (Command × CommandEnd) :=
  (⟨"wg", ["show", "interfaces"]⟩,
      .exited true (String.ofList ([' '].intercalate (interfaces.map (·.name)) ++ ['\n'])) stderr) ::
    interfaces.flatMap WireguardInterface.queries

/-- The command line an output ran to its end. -/
def SystemNetworkOutput.ranLine (settings : ProfileSettings) :
    SystemNetworkOutput → Option (Command × CommandEnd)
  | .ran command result => some (command.line settings, result)
  | .killed _ => none

/-- The run from `phase` makes exactly these queries, in order, and then is in `final`. -/
def Queries (settings : ProfileSettings) (isCancelled : Bool) (phase : NetworkPhase)
    (queries : List (Command × CommandEnd)) (final : NetworkPhase) : Prop :=
  ∃ trace, Machine.run (systemNetworkRun settings isCancelled) phase
      (queries.map fun query => .exited query.2) = some (final, trace) ∧
    trace.map (SystemNetworkOutput.ranLine settings) = queries.map some

section

variable {settings : ProfileSettings} {isCancelled : Bool} {phase next final : NetworkPhase}

theorem Queries.nil : Queries settings isCancelled phase [] phase := ⟨[], rfl, rfl⟩

theorem Queries.cons {command : NetworkCommand} {line : Command} {result : CommandEnd}
    {queries : List (Command × CommandEnd)} (running : phase.command = some command)
    (asked : command.line settings = line)
    (moved : phase.afterCommand isCancelled result (commandOutput line result) = next)
    (later : Queries settings isCancelled next queries final) :
    Queries settings isCancelled phase ((line, result) :: queries) final := by
  obtain ⟨trace, ran, lines⟩ := later
  have stepped : systemNetworkRun settings isCancelled phase (.exited result) =
      some (next, [.ran command result]) := by
    subst asked moved
    cases phase <;> cases running <;> rfl
  refine ⟨.ran command result :: trace, ?_, ?_⟩
  · exact (Machine.run_cons_iff _ _ _ _ _).mpr ⟨next, _, trace, stepped, ran, rfl⟩
  · simp [SystemNetworkOutput.ranLine, asked, lines]

theorem Queries.append {first second : List (Command × CommandEnd)}
    (earlier : Queries settings isCancelled phase first next)
    (later : Queries settings isCancelled next second final) :
    Queries settings isCancelled phase (first ++ second) final := by
  obtain ⟨past, ran, before⟩ := earlier
  obtain ⟨future, continued, after⟩ := later
  refine ⟨past ++ future, ?_, by simp [before, after]⟩
  rw [List.map_append]
  exact Machine.run_append ran continued

theorem commandOutput_printed (command : Command) (text : List Char) (stderr : String) :
    commandOutput command (.exited true (String.ofList text) stderr) =
      .ok (String.ofList (trim text)) := by
  simp [commandOutput, trimmed]

theorem commandOutput_failed (command : Command) {result : CommandEnd}
    (failed : result.succeeded = false) : ∃ err, commandOutput command result = .error err := by
  cases result with
  | notRun err => exact ⟨_, rfl⟩
  | exited success stdout stderr =>
      cases success with
      | true => contradiction
      | false => exact ⟨_, rfl⟩

theorem commandOutput_fwmark (command : Command) (result : CommandEnd) :
    (commandOutput command result).toOption.getD "off" = result.fwmark := by
  cases result with
  | notRun err => rfl
  | exited success stdout stderr => cases success <;> rfl

theorem peers_queried {peers : List WireguardPeer} (printable : ∀ peer ∈ peers, peer.Printable)
    (interface : List Char) (fwmark : String) (names : List (List Char)) :
    Queries settings isCancelled
      (.nextEndpoint interface fwmark names (peers.map WireguardPeer.text))
      (peers.map (WireguardPeer.query fwmark)) (.nextInterface names) := by
  induction peers with
  | nil => exact Queries.nil
  | cons peer rest ih =>
      have here := printable peer (by simp)
      refine Queries.cons rfl ?_ rfl (ih fun other member => printable other (by simp [member]))
      simp [NetworkCommand.line, here.endpointHost_text]

theorem interface_queried {interface : WireguardInterface} (printable : interface.Printable)
    (names : List (List Char)) :
    Queries settings isCancelled (.wgEndpoints interface.name names) interface.queries
      (.nextInterface names) := by
  cases listed : interface.listing with
  | failed result =>
      simp only [WireguardInterface.queries, listed]
      refine Queries.cons rfl rfl ?_ Queries.nil
      obtain ⟨err, output⟩ := commandOutput_failed
        ⟨"wg", ["show", String.ofList interface.name, "endpoints"]⟩ (printable.failed result listed)
      rw [output]
      rfl
  | printed peers stderr fwmark =>
      have arePrintable := printable.printed peers stderr fwmark listed
      have marked : Queries settings isCancelled
          (.wgFwmark interface.name (peers.map WireguardPeer.text) names)
          ((⟨"wg", ["show", String.ofList interface.name, "fwmark"]⟩, fwmark) ::
            peers.map (WireguardPeer.query fwmark.fwmark)) (.nextInterface names) := by
        refine Queries.cons rfl rfl ?_ (peers_queried arePrintable interface.name _ names)
        simp only [NetworkPhase.afterCommand, NetworkPhase.configureActivateAndMonitor,
          NetworkPhase.reportWireguardRoutes, commandOutput_fwmark]
      simp only [WireguardInterface.queries, listed]
      refine Queries.cons rfl rfl ?_ marked
      rw [commandOutput_printed]
      simp only [NetworkPhase.afterCommand, NetworkPhase.configureActivateAndMonitor,
        NetworkPhase.reportWireguardRoutes, String.toList_ofList, endpointsOf_text arePrintable]

theorem interfaces_queried {interfaces : List WireguardInterface}
    (printable : ∀ interface ∈ interfaces, interface.Printable) :
    Queries settings isCancelled (.nextInterface (interfaces.map (·.name)))
      (interfaces.flatMap WireguardInterface.queries) .monitor := by
  induction interfaces with
  | nil => exact Queries.nil
  | cons interface rest ih =>
      exact (interface_queried (printable interface (by simp)) _).append
        (ih fun other member => printable other (by simp [member]))

/-- For everything `wg` prints, a report queries each interface and, with the mark of its
interface, the route to the host of each of its peers, in order and nothing else: as an IPv6
address exactly where the host has a colon. -/
theorem wireguard_hosts_queried {interfaces : List WireguardInterface}
    (printable : ∀ interface ∈ interfaces, interface.Printable) (settings : ProfileSettings)
    (isCancelled : Bool) (stderr : String) :
    Queries settings isCancelled .wgInterfaces (wireguardQueries interfaces stderr) .monitor := by
  have areWords : ∀ name ∈ interfaces.map (·.name), IsWord name := by
    intro name member
    obtain ⟨interface, present, rfl⟩ := List.mem_map.mp member
    exact (printable interface present).name
  refine Queries.cons rfl rfl ?_ (interfaces_queried printable)
  rw [commandOutput_printed,
    trim_intercalate (by decide) fun name member => (areWords name member).isLine]
  simp only [NetworkPhase.afterCommand, NetworkPhase.configureActivateAndMonitor,
    NetworkPhase.reportWireguardRoutes, String.toList_ofList, splitWhitespace_intercalate areWords]

end

/-- Two peers of a marked interface, and an interface whose peers cannot be listed. -/
def sampleInterfaces : List WireguardInterface :=
  [⟨"wg0".toList, .printed
      [⟨"k1".toList, some ⟨"192.0.2.1".toList, "51820".toList⟩, .exited true "dev wlan0\n" ""⟩,
        ⟨"k2".toList, some ⟨"2001:db8::1".toList, "51820".toList⟩, .exited false "" "down\n"⟩] ""
      (.exited true "0xca6c\n" "")⟩,
    ⟨"wg1".toList, .failed (.notRun "denied")⟩]

theorem wireguard_hosts_queried_two :
    ∃ trace, Machine.run (systemNetworkRun ⟨1, 2, 5⟩ false) .wgInterfaces
        [.exited (.exited true "wg0 wg1\n" ""),
          .exited (.exited true "k1\t192.0.2.1:51820\nk2\t[2001:db8::1]:51820\n" ""),
          .exited (.exited true "0xca6c\n" ""), .exited (.exited true "dev wlan0\n" ""),
          .exited (.exited false "" "down\n"), .exited (.notRun "denied")] =
        some (.monitor, trace) ∧
      trace.map (SystemNetworkOutput.ranLine ⟨1, 2, 5⟩) =
        [some (⟨"wg", ["show", "interfaces"]⟩, .exited true "wg0 wg1\n" ""),
          some (⟨"wg", ["show", "wg0", "endpoints"]⟩,
            .exited true "k1\t192.0.2.1:51820\nk2\t[2001:db8::1]:51820\n" ""),
          some (⟨"wg", ["show", "wg0", "fwmark"]⟩, .exited true "0xca6c\n" ""),
          some (⟨"ip", ["-4", "route", "get", "192.0.2.1", "mark", "0xca6c"]⟩,
            .exited true "dev wlan0\n" ""),
          some (⟨"ip", ["-6", "route", "get", "2001:db8::1", "mark", "0xca6c"]⟩,
            .exited false "" "down\n"),
          some (⟨"wg", ["show", "wg1", "endpoints"]⟩, .notRun "denied")] := by
  -- over the characters of the list, not over all of `Char`
  have name : ∀ word ∈ ["wg0".toList, "wg1".toList, "k1".toList, "k2".toList], IsWord word := by
    intro word member
    simp only [List.mem_cons, List.not_mem_nil, or_false] at member
    rcases member with rfl | rfl | rfl | rfl <;>
      exact ⟨by decide, List.all_iff_forall_prop.mp (by decide +kernel)⟩
  have endpoint : ∀ endpoint ∈ [WireguardEndpoint.mk "192.0.2.1".toList "51820".toList,
      WireguardEndpoint.mk "2001:db8::1".toList "51820".toList], endpoint.Printable := by
    intro endpoint member
    simp only [List.mem_cons, List.not_mem_nil, or_false] at member
    rcases member with rfl | rfl <;>
      exact ⟨List.all_iff_forall_prop.mp (by decide +kernel),
        List.all_iff_forall_prop.mp (by decide +kernel)⟩
  have printable : ∀ interface ∈ sampleInterfaces, interface.Printable := by
    intro interface member
    simp only [sampleInterfaces, List.mem_cons, List.not_mem_nil, or_false] at member
    rcases member with rfl | rfl
    · refine ⟨name _ (by simp), by simp, ?_⟩
      rintro peers stderr fwmark ⟨⟩ peer member
      simp only [List.mem_cons, List.not_mem_nil, or_false] at member
      rcases member with rfl | rfl
      · exact ⟨name _ (by simp), by simpa using endpoint _ (by simp)⟩
      · exact ⟨name _ (by simp), by simpa using endpoint _ (by simp)⟩
    · refine ⟨name _ (by simp), ?_, by simp⟩
      rintro result ⟨⟩
      rfl
  have queried := wireguard_hosts_queried printable ⟨1, 2, 5⟩ false ""
  have queries : wireguardQueries sampleInterfaces "" =
      [(⟨"wg", ["show", "interfaces"]⟩, .exited true "wg0 wg1\n" ""),
        (⟨"wg", ["show", "wg0", "endpoints"]⟩,
          .exited true "k1\t192.0.2.1:51820\nk2\t[2001:db8::1]:51820\n" ""),
        (⟨"wg", ["show", "wg0", "fwmark"]⟩, .exited true "0xca6c\n" ""),
        (⟨"ip", ["-4", "route", "get", "192.0.2.1", "mark", "0xca6c"]⟩,
          .exited true "dev wlan0\n" ""),
        (⟨"ip", ["-6", "route", "get", "2001:db8::1", "mark", "0xca6c"]⟩,
          .exited false "" "down\n"),
        (⟨"wg", ["show", "wg1", "endpoints"]⟩, .notRun "denied")] := by
    decide +kernel
  rw [queries] at queried
  exact queried

end Lamella

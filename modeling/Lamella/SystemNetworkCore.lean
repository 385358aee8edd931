import Mathlib.Data.List.Infix
import Lamella.HandshakeCore
import Lamella.TextCore

/-!
`system_network::run`: a temporary NetworkManager profile for the TAP interface.  One step ends
the command that is running or takes a branch of a `select!`; what the commands print is given by
the events, already decoded.
-/

namespace Lamella

def tapInterface : String := "esp32tap"

structure Command where
  program : String
  args : List String
deriving DecidableEq

inductive CommandEnd
  | notRun (err : String)
  | exited (success : Bool) (stdout stderr : String)
deriving DecidableEq

def commandOutput (command : Command) : CommandEnd → Except String String
  | .notRun err => .error ("Failed to run " ++ command.program ++ ": " ++ err)
  | .exited false _ stderr =>
      .error (command.program ++ " " ++ " ".intercalate command.args ++ " failed: " ++
        trimmed stderr)
  | .exited true stdout _ => .ok (trimmed stdout)

/-! Reading the output of `wg`. -/

def endpointHost : List Char → List Char
  | '[' :: rest =>
      if ']' ∈ rest then rest.takeWhile (· ≠ ']')
      else (beforeLastColon ('[' :: rest)).getD ('[' :: rest)
  | endpoint => (beforeLastColon endpoint).getD endpoint

def endpointsOf (text : List Char) : List (List Char) :=
  (lines text).filterMap fun line => (splitWhitespace line)[1]?

/-! The commands. -/

def profileName (pid started : Nat) : String :=
  "lamella-esp32tap-" ++ toString pid ++ "-" ++ toString started

inductive NetworkCommand
  | linkShow
  | generalStatus
  | connectionAdd
  | connectionModify
  | connectionUp
  | deviceShow
  | routeGet
  | wgInterfaces
  | wgEndpoints (interface : List Char)
  | wgFwmark (interface : List Char)
  | endpointRoute (fwmark : String) (endpoint : List Char)
  | connectionDelete
deriving DecidableEq

/-- What the command lines of one run depend on. -/
structure ProfileSettings where
  pid : Nat
  started : Nat
  routeMetric : Nat

def ProfileSettings.profile (settings : ProfileSettings) : String :=
  profileName settings.pid settings.started

def NetworkCommand.line (settings : ProfileSettings) : NetworkCommand → Command
  | .linkShow => ⟨"ip", ["link", "show", "dev", tapInterface]⟩
  | .generalStatus => ⟨"nmcli", ["general", "status"]⟩
  | .connectionAdd =>
      ⟨"nmcli", ["connection", "add", "type", "tun", "ifname", tapInterface, "con-name",
        settings.profile, "mode", "tap", "connection.autoconnect", "no", "ipv4.method", "auto",
        "ipv4.route-metric", toString settings.routeMetric, "ipv4.never-default", "no",
        "ipv6.method", "disabled"]⟩
  | .connectionModify =>
      ⟨"nmcli", ["connection", "modify", "id", settings.profile, "ethernet.cloned-mac-address",
        "preserve"]⟩
  | .connectionUp =>
      ⟨"nmcli", ["--wait", "45", "connection", "up", "id", settings.profile, "ifname",
        tapInterface]⟩
  | .deviceShow =>
      ⟨"nmcli", ["--fields", "GENERAL.STATE,GENERAL.HWADDR,IP4.ADDRESS,IP4.GATEWAY,IP4.DNS",
        "device", "show", tapInterface]⟩
  | .routeGet => ⟨"ip", ["-4", "route", "get", "1.1.1.1"]⟩
  | .wgInterfaces => ⟨"wg", ["show", "interfaces"]⟩
  | .wgEndpoints interface => ⟨"wg", ["show", String.ofList interface, "endpoints"]⟩
  | .wgFwmark interface => ⟨"wg", ["show", String.ofList interface, "fwmark"]⟩
  | .endpointRoute fwmark endpoint =>
      let host := endpointHost endpoint
      let family := if ':' ∈ host then "-6" else "-4"
      ⟨"ip", [family, "route", "get", String.ofList host] ++
        if fwmark ≠ "off" then ["mark", fwmark] else []⟩
  | .connectionDelete => ⟨"nmcli", ["connection", "delete", "id", settings.profile]⟩

inductive NetworkPhase
  | waitForTap
  | linkShow
  | generalStatus
  | connectionAdd
  | connectionModify
  | connectionUp
  | deviceShow
  | routeGet
  | wgInterfaces
  | wgEndpoints (interface : List Char) (interfaces : List (List Char))
  | wgFwmark (interface : List Char) (endpoints interfaces : List (List Char))
  | endpointRoute (interface : List Char) (fwmark : String) (endpoint : List Char)
      (endpoints interfaces : List (List Char))
  | monitor
  | connectionDelete (result : Except IoError Unit)
  | returned (result : Except IoError Unit)
deriving DecidableEq

inductive SystemNetworkEvent
  | slept
  | cancelled
  | exited (result : CommandEnd)
deriving DecidableEq

inductive SystemNetworkOutput
  | ran (command : NetworkCommand) (result : CommandEnd)
  | killed (command : NetworkCommand)
deriving DecidableEq

namespace NetworkPhase

def afterWaitForTap (isCancelled : Bool) : NetworkPhase :=
  if isCancelled then .returned (.ok ()) else .generalStatus

/-- The command a phase waits for. -/
def command : NetworkPhase → Option NetworkCommand
  | .linkShow => some .linkShow
  | .generalStatus => some .generalStatus
  | .connectionAdd => some .connectionAdd
  | .connectionModify => some .connectionModify
  | .connectionUp => some .connectionUp
  | .deviceShow => some .deviceShow
  | .routeGet => some .routeGet
  | .wgInterfaces => some .wgInterfaces
  | .wgEndpoints interface _ => some (.wgEndpoints interface)
  | .wgFwmark interface _ _ => some (.wgFwmark interface)
  | .endpointRoute _ fwmark endpoint _ _ => some (.endpointRoute fwmark endpoint)
  | .connectionDelete _ => some .connectionDelete
  | .waitForTap | .monitor | .returned _ => none

/-! Where a phase goes when its command ends: `output` is what `command_output` returned. -/

def nextInterface : List (List Char) → NetworkPhase
  | [] => .monitor
  | interface :: interfaces => .wgEndpoints interface interfaces

def nextEndpoint (interface : List Char) (fwmark : String) (interfaces : List (List Char)) :
    List (List Char) → NetworkPhase
  | [] => nextInterface interfaces
  | endpoint :: endpoints => .endpointRoute interface fwmark endpoint endpoints interfaces

def reportWireguardRoutes (output : Except String String) : NetworkPhase → NetworkPhase
  | .wgInterfaces =>
      match output with
      | .ok interfaces => nextInterface (splitWhitespace interfaces.toList)
      | .error _ => .monitor
  | .wgEndpoints interface interfaces =>
      match output with
      | .ok endpoints => .wgFwmark interface (endpointsOf endpoints.toList) interfaces
      | .error _ => nextInterface interfaces
  | .wgFwmark interface endpoints interfaces =>
      nextEndpoint interface (output.toOption.getD "off") interfaces endpoints
  | .endpointRoute interface fwmark _ endpoints interfaces =>
      nextEndpoint interface fwmark interfaces endpoints
  | phase => phase

def configureActivateAndMonitor (output : Except String String) : NetworkPhase → NetworkPhase
  | .connectionModify =>
      match output with
      | .ok _ => .connectionUp
      | .error err => .connectionDelete (.error (.other err))
  | .connectionUp =>
      match output with
      | .ok _ => .deviceShow
      | .error err => .connectionDelete (.error (.other err))
  | .deviceShow =>
      match output with
      | .ok _ => .routeGet
      | .error err => .connectionDelete (.error (.other err))
  | .routeGet =>
      match output with
      | .ok route =>
          if ("dev " ++ tapInterface).toList <:+: route.toList then .monitor else .wgInterfaces
      | .error _ => .monitor
  | phase => reportWireguardRoutes output phase

def afterCommand (isCancelled : Bool) (result : CommandEnd) (output : Except String String) :
    NetworkPhase → NetworkPhase
  | .linkShow =>
      match result with
      | .notRun err => .returned (.error (.other ("Failed to run ip: " ++ err)))
      | .exited true _ _ => afterWaitForTap isCancelled
      | .exited false _ _ => .waitForTap
  | .generalStatus =>
      match output with
      | .ok _ => .connectionAdd
      | .error err => .returned (.error (.other ("NetworkManager is required: " ++ err)))
  | .connectionAdd =>
      match output with
      | .ok _ => .connectionModify
      | .error err => .returned (.error (.other err))
  | .connectionDelete result => .returned result
  | phase => configureActivateAndMonitor output phase

end NetworkPhase

/-- `system_network::run`. -/
def systemNetworkRun (settings : ProfileSettings) (isCancelled : Bool) (phase : NetworkPhase)
    (event : SystemNetworkEvent) : Option (NetworkPhase × List SystemNetworkOutput) :=
  match phase, event with
  | .waitForTap, .cancelled =>
      if isCancelled then some (.afterWaitForTap isCancelled, []) else none
  | .waitForTap, .slept => some (.linkShow, [])
  | .connectionUp, .cancelled =>
      if isCancelled then some (.connectionDelete (.ok ()), [.killed .connectionUp]) else none
  | .monitor, .cancelled => if isCancelled then some (.connectionDelete (.ok ()), []) else none
  | phase, .exited result =>
      match phase.command with
      | none => none
      | some command =>
          some (phase.afterCommand isCancelled result (commandOutput (command.line settings) result),
            [.ran command result])
  | _, _ => none

end Lamella

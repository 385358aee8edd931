import Lamella.SystemNetworkCore

/-!
`main`: the transport runs in the main task, `metrics::report` and `system_network::run` in tasks
of their own.  All share one cancellation token.  When `main` returns, the runtime drops the tasks
that still run.
-/

namespace Lamella

/-- `metrics::report`, after the first tick of its interval. -/
inductive ReportPhase
  | running
  | returned
deriving DecidableEq

inductive MainPhase
  | transport
  | awaitNetwork (result : Except IoError Unit)
  | awaitMetrics (result : Except IoError Unit)
  | returned (result : Except IoError Unit)
deriving DecidableEq

structure MainTasks where
  isCancelled : Bool
  network : Option NetworkPhase
  metrics : Option ReportPhase
  phase : MainPhase
deriving DecidableEq

inductive MainEvent
  | shutdownSignal
  | transport (result : Except IoError Unit)
  | network (event : SystemNetworkEvent)
  | metricsTick
  | metricsCancelled
  | joinNetwork
  | joinMetrics

inductive MainOutput
  | network (output : SystemNetworkOutput)
  | emit (finalReport : Bool)
deriving DecidableEq

namespace MainTasks

/-- `--test` excludes `--system-network`. -/
def start (test systemNetwork : Bool) : MainTasks where
  isCancelled := false
  network := if systemNetwork && !test then some .waitForTap else none
  metrics := if test then none else some .running
  phase := .transport

/-- The task around `system_network::run`: an error cancels everything else. -/
def networkStep (settings : ProfileSettings) (tasks : MainTasks) (event : SystemNetworkEvent) :
    Option (MainTasks × List MainOutput) := do
  let phase ← tasks.network
  let (phase, outputs) ← systemNetworkRun settings tasks.isCancelled phase event
  let isCancelled :=
    match phase with
    | .returned (.error _) => true
    | _ => tasks.isCancelled
  return ({ tasks with network := some phase, isCancelled }, outputs.map .network)

def joinNetwork (tasks : MainTasks) (result : Except IoError Unit) : Option MainPhase :=
  match tasks.network with
  | none => some (.awaitMetrics result)
  | some (.returned (.ok ())) => some (.awaitMetrics result)
  | some (.returned (.error err)) =>
      match result with
      | .ok () => some (.returned (.error err))
      | .error _ => some (.awaitMetrics result)
  | some _ => none

def step (settings : ProfileSettings) (tasks : MainTasks) (event : MainEvent) :
    Option (MainTasks × List MainOutput) :=
  match tasks.phase, event with
  | .returned _, _ => none
  | _, .shutdownSignal => some ({ tasks with isCancelled := true }, [])
  | _, .network event => tasks.networkStep settings event
  | _, .metricsTick =>
      match tasks.metrics with
      | some .running => some (tasks, [.emit false])
      | _ => none
  | _, .metricsCancelled =>
      match tasks.metrics with
      | some .running =>
          if tasks.isCancelled then some ({ tasks with metrics := some .returned }, [.emit true])
          else none
      | _ => none
  | .transport, .transport result =>
      some ({ tasks with isCancelled := true, phase := .awaitNetwork result }, [])
  | .awaitNetwork result, .joinNetwork => do
      let phase ← tasks.joinNetwork result
      return ({ tasks with phase }, [])
  | .awaitMetrics result, .joinMetrics =>
      match tasks.metrics with
      | some .running => none
      | _ => some ({ tasks with phase := .returned result }, [])
  | _, _ => none

end MainTasks

end Lamella

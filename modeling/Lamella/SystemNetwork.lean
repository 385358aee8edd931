import Lamella.SystemNetworkCore

/-!
What a run of `system_network::run` does to NetworkManager: which commands concern the temporary
profile, in which order, and which failures end the run.
-/

namespace Lamella

inductive SystemNetworkMoves (settings : ProfileSettings) (isCancelled : Bool) :
    NetworkPhase → SystemNetworkEvent → NetworkPhase → List SystemNetworkOutput → Prop
  | giveUp (cancelled : isCancelled = true) :
      SystemNetworkMoves settings isCancelled .waitForTap .cancelled (.returned (.ok ())) []
  | probe : SystemNetworkMoves settings isCancelled .waitForTap .slept .linkShow []
  | abort (cancelled : isCancelled = true) :
      SystemNetworkMoves settings isCancelled .connectionUp .cancelled (.connectionDelete (.ok ()))
        [.killed .connectionUp]
  | stop (cancelled : isCancelled = true) :
      SystemNetworkMoves settings isCancelled .monitor .cancelled (.connectionDelete (.ok ())) []
  | ran {phase : NetworkPhase} {command : NetworkCommand} (result : CommandEnd)
      (running : phase.command = some command) :
      SystemNetworkMoves settings isCancelled phase (.exited result)
        (phase.afterCommand isCancelled result (commandOutput (command.line settings) result))
        [.ran command result]

theorem systemNetworkRun_moves {settings : ProfileSettings} {isCancelled : Bool}
    {phase next : NetworkPhase} {event : SystemNetworkEvent} {outputs : List SystemNetworkOutput}
    (stepped : systemNetworkRun settings isCancelled phase event = some (next, outputs)) :
    SystemNetworkMoves settings isCancelled phase event next outputs := by
  unfold systemNetworkRun at stepped
  split at stepped
  case h_1 =>
      split at stepped
      case isFalse => contradiction
      case isTrue cancelled =>
          cases stepped
          rw [NetworkPhase.afterWaitForTap, if_pos cancelled]
          exact .giveUp cancelled
  case h_2 =>
      cases stepped
      exact .probe
  case h_3 =>
      split at stepped
      case isFalse => contradiction
      case isTrue cancelled =>
          cases stepped
          exact .abort cancelled
  case h_4 =>
      split at stepped
      case isFalse => contradiction
      case isTrue cancelled =>
          cases stepped
          exact .stop cancelled
  case h_5 =>
      split at stepped
      · contradiction
      · rename_i running
        cases stepped
        exact .ran _ running
  case h_6 => contradiction

/-! The commands that concern the profile. -/

def SystemNetworkOutput.creates : SystemNetworkOutput → Bool
  | .ran .connectionAdd (.exited true _ _) => true
  | _ => false

def SystemNetworkOutput.removes : SystemNetworkOutput → Bool
  | .ran .connectionDelete _ => true
  | _ => false

def SystemNetworkOutput.uses : SystemNetworkOutput → Bool
  | .ran .connectionModify _ | .ran .connectionUp _ | .killed .connectionUp => true
  | _ => false

inductive ProfileStage
  | absent
  | present
  | finished

def NetworkPhase.stage : NetworkPhase → ProfileStage
  | .waitForTap | .linkShow | .generalStatus | .connectionAdd => .absent
  | .returned _ => .finished
  | _ => .present

def Untouched (past : List SystemNetworkOutput) : Prop :=
  ∀ output ∈ past, output.creates = false ∧ output.removes = false ∧ output.uses = false

def Kept (past : List SystemNetworkOutput) : Prop :=
  ∀ output ∈ past, output.creates = false ∧ output.removes = false

/-- The profile over a run: it is added at most once, used only after that, and removed last. -/
inductive Lifecycle : ProfileStage → List SystemNetworkOutput → Prop
  | absent {past : List SystemNetworkOutput} (before : Untouched past) : Lifecycle .absent past
  | present {before during : List SystemNetworkOutput} (stdout stderr : String)
      (untouched : Untouched before) (kept : Kept during) :
      Lifecycle .present (before ++ .ran .connectionAdd (.exited true stdout stderr) :: during)
  | skipped {past : List SystemNetworkOutput} (before : Untouched past) : Lifecycle .finished past
  | removed {before during : List SystemNetworkOutput} (stdout stderr : String)
      (result : CommandEnd) (untouched : Untouched before) (kept : Kept during) :
      Lifecycle .finished (before ++ .ran .connectionAdd (.exited true stdout stderr) :: during ++
        [.ran .connectionDelete result])

/-- What one step does to the profile. -/
inductive ProfileEffect : ProfileStage → ProfileStage → List SystemNetworkOutput → Prop
  | before {next : ProfileStage} {outputs : List SystemNetworkOutput} (early : next ≠ .present)
      (untouched : Untouched outputs) : ProfileEffect .absent next outputs
  | create (stdout stderr : String) :
      ProfileEffect .absent .present [.ran .connectionAdd (.exited true stdout stderr)]
  | during {outputs : List SystemNetworkOutput} (kept : Kept outputs) :
      ProfileEffect .present .present outputs
  | remove (result : CommandEnd) :
      ProfileEffect .present .finished [.ran .connectionDelete result]

/-- The network is up, and the run looks at its routes or waits for the cancellation. -/
def NetworkPhase.isActive : NetworkPhase → Bool
  | .routeGet | .wgInterfaces | .wgEndpoints _ _ | .wgFwmark _ _ _ | .endpointRoute _ _ _ _ _
  | .monitor => true
  | _ => false

theorem nextInterface_isActive (interfaces : List (List Char)) :
    (NetworkPhase.nextInterface interfaces).isActive = true := by
  cases interfaces <;> rfl

theorem nextEndpoint_isActive (interface : List Char) (fwmark : String)
    (interfaces endpoints : List (List Char)) :
    (NetworkPhase.nextEndpoint interface fwmark interfaces endpoints).isActive = true := by
  cases endpoints with
  | nil => exact nextInterface_isActive interfaces
  | cons => rfl

theorem NetworkPhase.afterCommand_isActive {phase : NetworkPhase} (active : phase.isActive = true)
    (isCancelled : Bool) (result : CommandEnd) (output : Except String String) :
    (phase.afterCommand isCancelled result output).isActive = true := by
  cases phase with
  | routeGet =>
      cases output with
      | error err => rfl
      | ok route =>
          simp only [NetworkPhase.afterCommand, NetworkPhase.configureActivateAndMonitor]
          split <;> rfl
  | wgInterfaces =>
      cases output with
      | error err => rfl
      | ok interfaces => exact nextInterface_isActive _
  | wgEndpoints interface interfaces =>
      cases output with
      | error err => exact nextInterface_isActive _
      | ok endpoints => rfl
  | wgFwmark => exact nextEndpoint_isActive _ _ _ _
  | endpointRoute => exact nextEndpoint_isActive _ _ _ _
  | monitor => rfl
  | _ => contradiction

theorem NetworkPhase.stage_of_isActive {phase : NetworkPhase} (active : phase.isActive = true) :
    phase.stage = .present := by
  cases phase <;> first | rfl | contradiction

theorem NetworkPhase.afterCommand_linkShow (isCancelled : Bool) (result : CommandEnd)
    (output : Except String String) :
    (NetworkPhase.linkShow.afterCommand isCancelled result output).stage ≠ .present := by
  simp only [NetworkPhase.afterCommand]
  split
  · simp [NetworkPhase.stage]
  · cases isCancelled <;> simp [NetworkPhase.afterWaitForTap, NetworkPhase.stage]
  · simp [NetworkPhase.stage]

theorem untouched_of_other {command : NetworkCommand} {result : CommandEnd}
    (early : command = .linkShow ∨ command = .generalStatus) : Untouched [.ran command result] := by
  rcases early with rfl | rfl <;>
    simp [Untouched, SystemNetworkOutput.creates, SystemNetworkOutput.removes,
      SystemNetworkOutput.uses]

theorem kept_of_other {command : NetworkCommand} {result : CommandEnd}
    (add : command ≠ .connectionAdd) (delete : command ≠ .connectionDelete) :
    Kept [.ran command result] := by
  cases command <;>
    simp_all [Kept, SystemNetworkOutput.creates, SystemNetworkOutput.removes]

theorem SystemNetworkMoves.profileEffect {settings : ProfileSettings} {isCancelled : Bool}
    {phase next : NetworkPhase} {event : SystemNetworkEvent} {outputs : List SystemNetworkOutput}
    (moved : SystemNetworkMoves settings isCancelled phase event next outputs) :
    ProfileEffect phase.stage next.stage outputs := by
  cases moved with
  | giveUp => exact .before (by simp [NetworkPhase.stage]) (by simp [Untouched])
  | probe => exact .before (by simp [NetworkPhase.stage]) (by simp [Untouched])
  | abort => exact .during (by simp [Kept, SystemNetworkOutput.creates, SystemNetworkOutput.removes])
  | stop => exact .during (by simp [Kept])
  | @ran _ command result running =>
      cases phase with
      | linkShow =>
          cases running
          exact .before (NetworkPhase.afterCommand_linkShow _ _ _) (untouched_of_other (.inl rfl))
      | generalStatus =>
          cases running
          refine .before ?_ (untouched_of_other (.inr rfl))
          simp only [NetworkPhase.afterCommand]
          split <;> simp [NetworkPhase.stage]
      | connectionAdd =>
          cases running
          cases result with
          | notRun err =>
              exact .before (by simp [NetworkPhase.afterCommand, commandOutput, NetworkPhase.stage])
                (by simp [Untouched, SystemNetworkOutput.creates, SystemNetworkOutput.removes,
                  SystemNetworkOutput.uses])
          | exited success stdout stderr =>
              cases success with
              | true => exact .create stdout stderr
              | false =>
                  exact .before
                    (by simp [NetworkPhase.afterCommand, commandOutput, NetworkPhase.stage])
                    (by simp [Untouched, SystemNetworkOutput.creates, SystemNetworkOutput.removes,
                      SystemNetworkOutput.uses])
      | connectionDelete outcome =>
          cases running
          exact .remove result
      | waitForTap => contradiction
      | monitor => contradiction
      | returned outcome => contradiction
      | connectionModify | connectionUp | deviceShow =>
          cases running
          cases commandOutput _ result <;> exact .during (kept_of_other (by simp) (by simp))
      | _ =>
          rw [NetworkPhase.stage_of_isActive (NetworkPhase.afterCommand_isActive rfl _ _ _)]
          cases running
          exact .during (kept_of_other (by simp) (by simp))

theorem Lifecycle.step {stage next : ProfileStage} {past outputs : List SystemNetworkOutput}
    (lifecycle : Lifecycle stage past) (effect : ProfileEffect stage next outputs) :
    Lifecycle next (past ++ outputs) := by
  have join {first second : List SystemNetworkOutput} (old : Untouched first)
      (new : Untouched second) : Untouched (first ++ second) := by
    intro output member
    rcases List.mem_append.mp member with here | there
    · exact old output here
    · exact new output there
  have extend {first second : List SystemNetworkOutput} (old : Kept first) (new : Kept second) :
      Kept (first ++ second) := by
    intro output member
    rcases List.mem_append.mp member with here | there
    · exact old output here
    · exact new output there
  cases effect with
  | before early untouched =>
      cases lifecycle with
      | absent before =>
          cases next with
          | absent => exact .absent (join before untouched)
          | present => exact absurd rfl early
          | finished => exact .skipped (join before untouched)
  | create stdout stderr =>
      cases lifecycle with
      | absent before => exact .present stdout stderr before (by simp [Kept])
  | during kept =>
      cases lifecycle with
      | present stdout stderr untouched earlier =>
          rw [List.append_assoc, List.cons_append]
          exact .present stdout stderr untouched (extend earlier kept)
  | remove result =>
      cases lifecycle with
      | present stdout stderr untouched kept => exact .removed stdout stderr result untouched kept

/-! Which failures end a run. -/

def NetworkPhase.outcome : NetworkPhase → Option (Except IoError Unit)
  | .connectionDelete result | .returned result => some result
  | _ => none

/-- The error a command that failed makes the run return, if it does. -/
def NetworkCommand.failure (settings : ProfileSettings) (command : NetworkCommand)
    (result : CommandEnd) : Option IoError :=
  match command, result, commandOutput (command.line settings) result with
  | .linkShow, .notRun err, _ => some (.other ("Failed to run ip: " ++ err))
  | .generalStatus, _, .error err => some (.other ("NetworkManager is required: " ++ err))
  | .connectionAdd, _, .error err | .connectionModify, _, .error err
  | .connectionUp, _, .error err | .deviceShow, _, .error err => some (.other err)
  | _, _, _ => none

inductive OutcomeEffect (settings : ProfileSettings) (isCancelled : Bool)
    (outputs : List SystemNetworkOutput) :
    Option (Except IoError Unit) → Option (Except IoError Unit) → Prop
  | same (outcome : Option (Except IoError Unit)) :
      OutcomeEffect settings isCancelled outputs outcome outcome
  | cancel (cancelled : isCancelled = true) :
      OutcomeEffect settings isCancelled outputs none (some (.ok ()))
  | fail {command : NetworkCommand} {result : CommandEnd} {err : IoError}
      (ran : .ran command result ∈ outputs) (failed : command.failure settings result = some err) :
      OutcomeEffect settings isCancelled outputs none (some (.error err))

theorem NetworkPhase.outcome_of_isActive {phase : NetworkPhase} (active : phase.isActive = true) :
    phase.outcome = none := by
  cases phase <;> first | rfl | contradiction

theorem SystemNetworkMoves.outcomeEffect {settings : ProfileSettings} {isCancelled : Bool}
    {phase next : NetworkPhase} {event : SystemNetworkEvent} {outputs : List SystemNetworkOutput}
    (moved : SystemNetworkMoves settings isCancelled phase event next outputs) :
    OutcomeEffect settings isCancelled outputs phase.outcome next.outcome := by
  cases moved with
  | giveUp cancelled => exact .cancel cancelled
  | probe => exact .same none
  | abort cancelled => exact .cancel cancelled
  | stop cancelled => exact .cancel cancelled
  | @ran _ command result running =>
      have fails {err : IoError} (failed : command.failure settings result = some err) :
          OutcomeEffect settings isCancelled [.ran command result] none (some (.error err)) :=
        .fail (List.mem_singleton.mpr rfl) failed
      cases phase with
      | linkShow =>
          cases running
          cases result with
          | notRun err => exact fails rfl
          | exited success stdout stderr =>
              cases success with
              | false => exact .same none
              | true =>
                  cases isCancelled with
                  | true => exact .cancel rfl
                  | false => exact .same none
      | generalStatus | connectionAdd | connectionModify | connectionUp | deviceShow =>
          cases running
          cases output : commandOutput _ result with
          | ok text => exact .same none
          | error err => exact fails (by simp only [NetworkCommand.failure, output])
      | connectionDelete outcome => exact .same (some outcome)
      | waitForTap => contradiction
      | monitor => contradiction
      | returned outcome => contradiction
      | _ =>
          rw [NetworkPhase.outcome_of_isActive (NetworkPhase.afterCommand_isActive rfl _ _ _)]
          exact .same none

end Lamella

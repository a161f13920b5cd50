import Sealwire.Team.Revision

namespace Sealwire.Team

/-- The two runs differ in their standing alone: status, requests, reasons and the revision. -/
def StandingOnly (run next : TeamRun) : Prop :=
  ∃ status error pauseRequested stopping pauseRequestedBy pauseReason pauseKind awaiting inFlightThread stateRevision,
    next = { run with
      status := status
      error := error
      pauseRequested := pauseRequested
      stopping := stopping
      pauseRequestedBy := pauseRequestedBy
      pauseReason := pauseReason
      pauseKind := pauseKind
      awaiting := awaiting
      inFlightThread := inFlightThread
      driverProgress := { run.driverProgress with stateRevision := stateRevision } }

theorem StandingOnly.refl (run : TeamRun) : StandingOnly run run :=
  ⟨_, _, _, _, _, _, _, _, _, _, rfl⟩

theorem StandingOnly.trans {run mid next : TeamRun} (first : StandingOnly run mid) (second : StandingOnly mid next) :
    StandingOnly run next := by
  obtain ⟨_, _, _, _, _, _, _, _, _, _, rfl⟩ := first
  obtain ⟨_, _, _, _, _, _, _, _, _, _, rfl⟩ := second
  exact ⟨_, _, _, _, _, _, _, _, _, _, rfl⟩

namespace TeamRun

theorem invalidateDriverDecisions_standing (run : TeamRun) : StandingOnly run run.invalidateDriverDecisions :=
  ⟨_, _, _, _, _, _, _, _, _, _, rfl⟩

theorem setStatus_standing (run : TeamRun) (status : TeamRunStatus) : StandingOnly run (run.setStatus status) := by
  unfold setStatus
  split
  · exact .refl run
  · exact ⟨_, _, _, _, _, _, _, _, _, _, rfl⟩

theorem fail_standing (run : TeamRun) (error : String) : StandingOnly run (run.fail error) := by
  unfold fail
  split
  · exact .refl run
  · have noted : StandingOnly run { run with error := some error } := ⟨_, _, _, _, _, _, _, _, _, _, rfl⟩
    dsimp only
    split
    · exact noted
    · exact noted.trans (setStatus_standing _ _)

theorem block_standing (run : TeamRun) (error : String) : StandingOnly run (run.block error) := by
  unfold block
  split
  · exact .refl run
  · exact ⟨_, _, _, _, _, _, _, _, _, _, rfl⟩

theorem requestPause_standing (run : TeamRun) (deviceId : String) : StandingOnly run (run.requestPause deviceId) := by
  unfold requestPause
  split
  · exact .refl run
  · have asked : StandingOnly run { run with pauseRequested := true, pauseRequestedBy := deviceId } :=
      ⟨_, _, _, _, _, _, _, _, _, _, rfl⟩
    exact (asked.trans (setStatus_standing _ _)).trans (invalidateDriverDecisions_standing _)

theorem requestStop_standing (run : TeamRun) (deviceId : String) : StandingOnly run (run.requestStop deviceId) := by
  unfold requestStop
  split
  · exact .refl run
  · have stops : StandingOnly (run.requestPause deviceId) { run.requestPause deviceId with stopping := true } :=
      ⟨_, _, _, _, _, _, _, _, _, _, rfl⟩
    exact ((requestPause_standing run deviceId).trans stops).trans (invalidateDriverDecisions_standing _)

theorem settlePaused_standing (run : TeamRun) (reason : String) (kind : TeamPauseKind) :
    StandingOnly run (run.settlePaused reason kind).1 := by
  unfold settlePaused
  split
  · exact .refl run
  · exact ⟨_, _, _, _, _, _, _, _, _, _, rfl⟩

theorem resume_standing (run : TeamRun) : StandingOnly run run.resume.1 := by
  unfold resume
  split
  · exact .refl run
  · exact ⟨_, _, _, _, _, _, _, _, _, _, rfl⟩

theorem cancel_standing (run : TeamRun) (reason : String) : StandingOnly run (run.cancel reason).1 := by
  unfold cancel
  split
  · exact .refl run
  · exact ⟨_, _, _, _, _, _, _, _, _, _, rfl⟩

theorem forceMarkStatus_standing (run : TeamRun) (status : TeamRunStatus) :
    StandingOnly run (run.forceMarkStatus status).1 := by
  unfold forceMarkStatus
  split
  · exact .refl run
  · split
    · exact .refl run
    · exact ⟨_, _, _, _, _, _, _, _, _, _, rfl⟩

theorem beginResolvingBlocked_standing (run : TeamRun) : StandingOnly run run.beginResolvingBlocked.1 := by
  unfold beginResolvingBlocked
  split
  · exact .refl run
  · exact ⟨_, _, _, _, _, _, _, _, _, _, rfl⟩

theorem resolveAsPaused_standing (run : TeamRun) (reason : String) (kind : TeamPauseKind) :
    StandingOnly run (run.resolveAsPaused reason kind).1 := by
  unfold resolveAsPaused
  split
  · exact .refl run
  · exact ⟨_, _, _, _, _, _, _, _, _, _, rfl⟩

theorem restoreResolvingAsBlocked_standing (run : TeamRun) (error : String) :
    StandingOnly run (run.restoreResolvingAsBlocked error).1 := by
  unfold restoreResolvingAsBlocked
  split
  · exact .refl run
  · exact block_standing run error

theorem markInterruptedIfStranded_standing (run : TeamRun) : StandingOnly run run.markInterruptedIfStranded.1 := by
  unfold markInterruptedIfStranded
  split
  · exact .refl run
  · exact ⟨_, _, _, _, _, _, _, _, _, _, rfl⟩

end TeamRun

/-- A lifecycle transition asked for by the driver moves the standing alone. -/
theorem applyEffects_standing (mint : Nat → String) (run : TeamRun) (commandId : String) {command : TeamStateCommand}
    (lifecycle : command.isLifecycleTransition = true) :
    StandingOnly run (applyEffects mint run commandId command).1 := by
  cases command with
  | setRunStatus status => exact run.setStatus_standing status
  | failRun error => exact run.fail_standing error
  | blockRun error => exact run.block_standing error
  | settleRun status reason pauseKind =>
    cases status with
    | paused => exact run.settlePaused_standing reason pauseKind
    | cancelled => exact run.cancel_standing reason
    | done => exact run.forceMarkStatus_standing .done
    | _ => exact run.setStatus_standing _
  | _ => cases lifecycle

/-- The user's own methods move the standing alone, a revival apart. -/
theorem UserAction.run_standing (action : UserAction) (run : TeamRun)
    (plain : ∀ named, action ≠ .reviveSubTasks named) : StandingOnly run (action.run run) := by
  cases action with
  | requestPause deviceId => exact run.requestPause_standing deviceId
  | requestStop deviceId => exact run.requestStop_standing deviceId
  | settlePaused reason kind => exact run.settlePaused_standing reason kind
  | resume => exact run.resume_standing
  | cancel reason => exact run.cancel_standing reason
  | reviveSubTasks named => exact absurd rfl (plain named)

end Sealwire.Team

import Sealwire.Team.Run

namespace Sealwire.Team

/-- Lead generations allowed per run, the first one included. -/
def maxTlGenerations : Nat := 8

namespace SubTask

/-- A sub-task the user wants worked again. Its session leaves the seat but stays in
`ownedThreadIds`. -/
def revive (task : SubTask) (workingCycle : UInt32) : SubTask :=
  { task with
    status := .pending
    roundsUsed := 0
    digested := false
    roundBaseSha := ""
    candidateSha := ""
    verdictCandidateSha := ""
    reviewClaim := none
    staleReviewRetries := 0
    devTurnsLanded := 0
    devThreadId := none
    reruns := task.reruns + 1
    cycle := workingCycle }

/-- What a new plan makes of a sub-task it replaces: an unfinished one is superseded. -/
def retire (task : SubTask) : SubTask :=
  if task.status.isTerminal then task else { task with status := .superseded, digested := true }

/-- Drop every reference of the sub-task to a thread. -/
def releaseThread (threadId : String) (task : SubTask) : SubTask :=
  { task with
    devThreadId := task.devThreadId.filter fun id => id ≠ threadId
    reviewerThreadId := task.reviewerThreadId.filter fun id => id ≠ threadId
    ownedThreadIds := task.ownedThreadIds.filter fun id => id ≠ threadId }

end SubTask

namespace TeamRun

/-- Every driver decision taken before this moment is stale. -/
def invalidateDriverDecisions (run : TeamRun) : TeamRun :=
  { run with driverProgress :=
      { run.driverProgress with stateRevision := saturatingAdd run.driverProgress.stateRevision 1 } }

/-- Terminal is final, and a state the user settled is off-limits. -/
def setStatus (run : TeamRun) (status : TeamRunStatus) : TeamRun :=
  if run.status.isTerminal || run.status.isSettledWithoutDriver then run else { run with status := status }

def fail (run : TeamRun) (error : String) : TeamRun :=
  if run.status.isTerminal || run.status.isSettledWithoutDriver then run
  else
    let run := { run with error := some error }
    if run.stopping then run else run.setStatus .failed

def block (run : TeamRun) (error : String) : TeamRun :=
  if run.status.isTerminal then run
  else { run with error := some error, stopping := false, status := .blocked }

def requestPause (run : TeamRun) (deviceId : String) : TeamRun :=
  if run.status.isTerminal || run.status.isSettledWithoutDriver then run
  else
    let run := { run with pauseRequested := true, pauseRequestedBy := deviceId }
    (run.setStatus .pausePending).invalidateDriverDecisions

def requestStop (run : TeamRun) (deviceId : String) : TeamRun :=
  if run.status.isTerminal || run.status.isSettledWithoutDriver then run
  else ({ run.requestPause deviceId with stopping := true }).invalidateDriverDecisions

def settlePaused (run : TeamRun) (reason : String) (kind : TeamPauseKind) : TeamRun × Bool :=
  if run.status.isTerminal || run.status.isSettledWithoutDriver then (run, false)
  else
    ({ run.invalidateDriverDecisions with
        pauseRequested := false
        stopping := false
        pauseReason := some reason
        pauseKind := some kind
        inFlightThread := none
        awaiting := none
        status := .paused }, true)

/-- The first reason wins. -/
def requestTlReseed (run : TeamRun) (reason : String) : TeamRun :=
  if run.tlReseedReason.isSome then run else { run with tlReseedReason := some reason }

def tlGenerationCount (run : TeamRun) : Nat :=
  run.tlSuccession.length + 1

/-- Retire the lead so a fresh one can take over; refused at the end of the chain. -/
def retireTl (run : TeamRun) (reason : String) : TeamRun × Bool :=
  if run.tlGenerationCount ≥ maxTlGenerations then (run, false)
  else
    ({ run with
        tlSuccession := if run.tlThreadId = "" then run.tlSuccession
          else run.tlSuccession ++ [{ threadId := run.tlThreadId, reason := reason }]
        tlThreadId := ""
        tlTurnsThisGeneration := 0
        tlReseedReason := none }, true)

def resume (run : TeamRun) : TeamRun × Bool :=
  if !run.status.isResumable then (run, false)
  else
    ({ run.invalidateDriverDecisions with
        pauseRequested := false
        stopping := false
        pauseRequestedBy := ""
        pauseReason := none
        pauseKind := none
        error := none
        status := .running }, true)

def cancel (run : TeamRun) (reason : String) : TeamRun × Bool :=
  if run.status.isTerminal then (run, false)
  else
    ({ run.invalidateDriverDecisions with
        error := some reason
        pauseRequested := false
        stopping := false
        awaiting := none
        inFlightThread := none
        status := .cancelled }, true)

/-- Relabel a run to `done` or `cancelled` whatever its status. -/
def forceMarkStatus (run : TeamRun) (status : TeamRunStatus) : TeamRun × Bool :=
  if status ≠ .done ∧ status ≠ .cancelled then (run, false)
  else if run.status = status then (run, false)
  else
    ({ run with
        pauseRequested := false
        stopping := false
        awaiting := none
        inFlightThread := none
        pauseReason := none
        pauseKind := none
        error := if status = .done then none else run.error.or (some "the task was marked cancelled")
        status := status }, true)

def beginResolvingBlocked (run : TeamRun) : TeamRun × Bool :=
  if run.status ≠ .blocked then (run, false) else ({ run with status := .resolving }, true)

def resolveAsPaused (run : TeamRun) (reason : String) (kind : TeamPauseKind) : TeamRun × Bool :=
  if run.status ≠ .resolving then (run, false)
  else
    ({ run with
        pauseRequested := false
        stopping := false
        pauseReason := some reason
        pauseKind := some kind
        inFlightThread := none
        status := .paused }, true)

def restoreResolvingAsBlocked (run : TeamRun) (error : String) : TeamRun × Bool :=
  if run.status ≠ .resolving then (run, false) else (run.block error, true)

def markInterruptedIfStranded (run : TeamRun) : TeamRun × Bool :=
  if run.status.isTerminal || run.status.isResumable then (run, false)
  else
    ({ run with
        error := run.error.or
          (some "the task team's driver was lost; re-run to continue from the last completed step")
        status := .interrupted }, true)

/-- Roll the sub-task in flight back to the start of its round. -/
def rollbackCurrentRound (run : TeamRun) : TeamRun :=
  let run := { run with awaiting := none }
  match run.currentSubTask with
  | none => run
  | some index =>
    { run with subTasks := run.subTasks.modify index fun task =>
        if task.status.isTerminal then task else { task with status := .pending } }

/-- Which sub-tasks a revival is about: every escalated one, or the finished ones named. -/
def selectedForRevival (named : Option (List String)) (task : SubTask) : Bool :=
  match named with
  | none => task.status = .escalated
  | some ids => task.status.isTerminal && ids.contains task.id

def reviveSubTasks (run : TeamRun) (named : Option (List String)) : TeamRun × Bool :=
  if !run.subTasks.any (selectedForRevival named) then (run, false)
  else
    let revive (task : SubTask) : SubTask :=
      if selectedForRevival named task then task.revive run.reopenedCount else task
    ({ run.invalidateDriverDecisions with
        subTasks := run.subTasks.map revive
        designReviewRounds := 0
        mrRoundsUsed := 0
        mrRoundBaseSha := ""
        mrCandidateSha := ""
        mrVerdictCandidateSha := ""
        mrStaleReviewRetries := 0
        unresolved := []
        mrVerdict := none
        designVerdict := none
        phase := if run.phase = .mrGate ∨ run.phase = .wrapping then .subTasks else run.phase }, true)

/-- Append the planned sub-tasks; `mint` gives the id of one whose own is taken. -/
def appendPlanned (mint : Nat → String) (cycle : UInt32) : List SubTask → List SubTask → Nat → List SubTask
  | kept, [], _ => kept
  | kept, task :: rest, index =>
    let task := if kept.any fun other => other.id = task.id then { task with id := mint index } else task
    appendPlanned mint cycle (kept ++ [{ task with cycle := cycle }]) rest (index + 1)

def replanSubTasks (run : TeamRun) (mint : Nat → String) (planned : List SubTask) : TeamRun :=
  { run with subTasks := appendPlanned mint run.reopenedCount (run.subTasks.map SubTask.retire) planned 0 }

/-- Pull the phase back while a sub-task is waiting, with the verdict that judged the rest. -/
def holdPhaseForWaitingSubTasks (run : TeamRun) : TeamRun × Bool :=
  let closing := run.phase = .mrGate ∨ run.phase = .wrapping ∨ run.phase = .finished
  if ¬closing ∨ run.currentSubTask.isNone then (run, false)
  else ({ run with phase := .subTasks, mrVerdict := none, unresolved := [] }, true)

def recordRunThread (run : TeamRun) (threadId : String) : TeamRun :=
  if threadId = "" ∨ threadId ∈ run.runOwnedThreadIds then run
  else { run with runOwnedThreadIds := run.runOwnedThreadIds ++ [threadId] }

def recordRunThreadRole (run : TeamRun) (threadId role : String) : TeamRun :=
  if threadId = "" then run
  else { run with runOwnedThreadRoles := run.runOwnedThreadRoles.put threadId role }

def recordOwnedThreadProvider (run : TeamRun) (threadId provider : String) : TeamRun :=
  if threadId = "" ∨ provider = "" then run
  else { run with ownedThreadProviders := run.ownedThreadProviders.put threadId provider }

/-- Drop every reference to a session that is permanently gone. -/
def releaseOwnedThread (run : TeamRun) (threadId : String) : TeamRun :=
  if threadId = "" then run
  else
    { run with
      tlThreadId := if run.tlThreadId = threadId then "" else run.tlThreadId
      tlSuccession := run.tlSuccession.filter fun generation => generation.threadId ≠ threadId
      runOwnedThreadIds := run.runOwnedThreadIds.filter fun id => id ≠ threadId
      runOwnedThreadRoles := run.runOwnedThreadRoles.drop threadId
      ownedThreadProviders := run.ownedThreadProviders.drop threadId
      mrDevThreadId := run.mrDevThreadId.filter fun id => id ≠ threadId
      reviewerThreadId := run.reviewerThreadId.filter fun id => id ≠ threadId
      subTasks := run.subTasks.map (SubTask.releaseThread threadId) }

end TeamRun

end Sealwire.Team

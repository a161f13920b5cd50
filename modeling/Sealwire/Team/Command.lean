import Sealwire.Team.Run

namespace Sealwire.Team

def teamCommandProtocolVersion : UInt32 := 1

def maxTeamCommandSubTasks : Nat := 64

def maxTeamCommandFindings : Nat := 64

def maxTeamCommandNotes : Nat := 64

def maxTeamCommandPayloadBytes : Nat := 1048576

inductive TeamSubTaskRole
  | dev
  | reviewer
  deriving DecidableEq

/-- The closed set of changes a driver may ask for. The last four move the run's own status. -/
inductive TeamStateCommand
  | recordIntake (complex : Bool) (phase : TeamPhase)
  | setPhase (phase : TeamPhase)
  | recordDesignReviewRound (verdict : WorkflowVerdict) (nextPhase : TeamPhase) (unresolvedAdditions : List String)
  | replanSubTasks (subTasks : List SubTask) (phase : TeamPhase)
  | attachSubTaskThread (index : Nat) (role : TeamSubTaskRole) (threadId : String) (baseCommit : Option String)
  | setSubTaskStatus (index : Nat) (status : SubTaskStatus)
  | pauseSubTaskWithoutCandidate (index : Nat)
  | recordSubTaskStaleReview (index : Nat)
  | recordReviewRound (index : Nat) (verdict : WorkflowVerdict) (status : SubTaskStatus)
      (resultSummary : Option String) (escalated : Option String)
  | markSubTaskDigested (index : Nat) (nextPhase : Option TeamPhase)
  | recordMrRound (verdict : WorkflowVerdict) (nextPhase : Option TeamPhase) (unresolvedAdditions : List String)
  | setMrVerdict (verdict : Option WorkflowVerdict)
  | prepareMrReview (roundBaseSha : String) (candidateSha : String)
  | pauseMrWithoutCandidate (verdict : WorkflowVerdict)
  | recordMrStaleReview
  | recordMrDevThread (threadId : String)
  | recordReviewerThread (threadId : String)
  | finishRun (headCommit : Option String) (phase : TeamPhase)
  | takeUserNotes
  | setRunStatus (status : TeamRunStatus)
  | failRun (error : String)
  | blockRun (error : String)
  | settleRun (status : TeamRunStatus) (reason : String) (pauseKind : TeamPauseKind)
  deriving DecidableEq

namespace TeamStateCommand

def isLifecycleTransition : TeamStateCommand → Bool
  | setRunStatus _ | failRun _ | blockRun _ | settleRun _ _ _ => true
  | _ => false

def kind : TeamStateCommand → TeamCommandKind
  | recordIntake _ _ => .recordIntake
  | setPhase _ => .setPhase
  | recordDesignReviewRound _ _ _ => .recordDesignReviewRound
  | replanSubTasks _ _ => .replanSubTasks
  | attachSubTaskThread _ _ _ _ => .attachSubTaskThread
  | setSubTaskStatus _ _ => .setSubTaskStatus
  | pauseSubTaskWithoutCandidate _ => .pauseSubTaskWithoutCandidate
  | recordSubTaskStaleReview _ => .recordSubTaskStaleReview
  | recordReviewRound _ _ _ _ _ => .recordReviewRound
  | markSubTaskDigested _ _ => .markSubTaskDigested
  | recordMrRound _ _ _ => .recordMrRound
  | setMrVerdict _ => .setMrVerdict
  | prepareMrReview _ _ => .prepareMrReview
  | pauseMrWithoutCandidate _ => .pauseMrWithoutCandidate
  | recordMrStaleReview => .recordMrStaleReview
  | recordMrDevThread _ => .recordMrDevThread
  | recordReviewerThread _ => .recordReviewerThread
  | finishRun _ _ => .finishRun
  | takeUserNotes => .takeUserNotes
  | setRunStatus _ => .setRunStatus
  | failRun _ => .failRun
  | blockRun _ => .blockRun
  | settleRun _ _ _ => .settleRun

end TeamStateCommand

structure TeamCommandEnvelope where
  protocolVersion : UInt32
  commandId : String
  sequence : UInt64
  expectedRevision : UInt64
  command : TeamStateCommand
  deriving DecidableEq

inductive TeamCommandOutput
  | ack
  | drainedNotes (notes : List String)
  deriving DecidableEq

inductive TeamCommandStatus
  | applied (output : TeamCommandOutput)
  | rejected (reason : CommandRejection)
  | interrupted
  deriving DecidableEq

structure TeamCommandReceipt where
  commandId : String
  sequence : UInt64
  stateRevision : UInt64
  lastEventSeq : UInt64
  status : TeamCommandStatus
  deriving DecidableEq

end Sealwire.Team

import Sealwire.Lib.Table
import Sealwire.Lib.Text
import Sealwire.Lib.Word

namespace Sealwire.Team

/-- Where a run is. `done`, `escalated`, `failed`, `interrupted` and `cancelled` are final. -/
inductive TeamRunStatus
  | queued
  | running
  | pausePending
  | paused
  | awaitingUser
  | done
  | escalated
  | blocked
  | resolving
  | failed
  | interrupted
  | cancelled
  deriving DecidableEq

namespace TeamRunStatus

def asStr : TeamRunStatus → String
  | queued => "queued"
  | running => "running"
  | pausePending => "pause_pending"
  | paused => "paused"
  | awaitingUser => "awaiting_user"
  | done => "done"
  | escalated => "escalated"
  | blocked => "blocked"
  | resolving => "resolving"
  | failed => "failed"
  | interrupted => "interrupted"
  | cancelled => "cancelled"

def isTerminal : TeamRunStatus → Bool
  | done | escalated | failed | interrupted | cancelled => true
  | _ => false

def isResumable : TeamRunStatus → Bool
  | paused => true
  | _ => false

/-- The run keeps its threads with no driver entitled to move it. -/
def isSettledWithoutDriver : TeamRunStatus → Bool
  | paused | blocked | resolving => true
  | _ => false

end TeamRunStatus

inductive TeamPauseKind
  | user
  | provider
  | boundary
  deriving DecidableEq

inductive TeamPhase
  | intake
  | design
  | designReview
  | planning
  | subTasks
  | mrGate
  | wrapping
  | finished
  deriving DecidableEq

inductive SubTaskStatus
  | pending
  | implementing
  | done
  | escalated
  | failed
  | skipped
  | superseded
  deriving DecidableEq

def SubTaskStatus.isTerminal : SubTaskStatus → Bool
  | done | escalated | failed | skipped | superseded => true
  | _ => false

structure WorkflowVerdict where
  approved : Bool
  summary : Option String
  findings : List String
  deriving DecidableEq

/-- One unit of work of the plan. -/
structure SubTask where
  id : String
  title : String
  brief : String
  status : SubTaskStatus
  roundsUsed : UInt32
  reruns : UInt32
  baseCommit : String
  roundBaseSha : String
  candidateSha : String
  verdictCandidateSha : String
  reviewClaim : Option String
  staleReviewRetries : UInt32
  devThreadId : Option String
  reviewerThreadId : Option String
  ownedThreadIds : List String
  lastVerdict : Option WorkflowVerdict
  resultSummary : Option String
  digested : Bool
  error : Option String
  devTurnsLanded : UInt32
  cycle : UInt32
  deriving DecidableEq

/-- One lead session in the succession chain. -/
structure TlGeneration where
  threadId : String
  reason : String
  deriving DecidableEq

/-- A parked question waiting on the user. -/
structure AwaitingUser where
  threadId : String
  requestId : String
  role : String
  askedAt : UInt64
  deriving DecidableEq

/-- The durable backend pin. What an executor of a later build would read is left out. -/
inductive OrchestrationBackendRef
  | legacyEmbedded
  | cloud
  | localSidecar
  | unknownNonExecuting
  deriving DecidableEq

namespace OrchestrationBackendRef

def isExecutableByCurrentBuild : OrchestrationBackendRef → Bool
  | legacyEmbedded => true
  | _ => false

def nonExecutingReason : OrchestrationBackendRef → Option String
  | legacyEmbedded => none
  | cloud => some "this task is pinned to Cloud orchestration, but this relay build has no Cloud transport"
  | localSidecar => some "this task is pinned to a local sidecar, but this relay build has no sidecar transport"
  | unknownNonExecuting =>
    some "this task is pinned to an orchestration backend this relay build does not understand"

end OrchestrationBackendRef

inductive TeamCommandKind
  | recordIntake
  | setPhase
  | recordDesignReviewRound
  | replanSubTasks
  | attachSubTaskThread
  | setSubTaskStatus
  | pauseSubTaskWithoutCandidate
  | recordSubTaskStaleReview
  | recordReviewRound
  | markSubTaskDigested
  | recordMrRound
  | setMrVerdict
  | prepareMrReview
  | pauseMrWithoutCandidate
  | recordMrStaleReview
  | recordMrDevThread
  | recordReviewerThread
  | finishRun
  | takeUserNotes
  | setRunStatus
  | failRun
  | blockRun
  | settleRun
  | unknown
  deriving DecidableEq

inductive CommandRejection
  | unknownRevision
  | duplicateCommand
  | staleCommand
  | backendMismatch
  | permissionDenied
  | workspaceUnavailable
  | templateUnavailable
  | artifactUnavailable
  | executorBusy
  | invalidState
  | unsupportedProtocol
  deriving DecidableEq

inductive TeamCommandOutcome
  | applied
  | rejected (reason : CommandRejection)
  | interrupted
  deriving DecidableEq

/-- The 32 bytes of a digest. -/
abbrev CommandFingerprint := BitVec 256

/-- What the journal keeps of one submitted command. -/
structure TeamCommandRecord where
  commandId : String
  sequence : UInt64
  kind : TeamCommandKind
  fingerprint : Option CommandFingerprint
  expectedRevision : UInt64
  stateRevision : UInt64
  lastEventSeq : UInt64
  outcome : TeamCommandOutcome
  deriving DecidableEq

/-- A command handed to an executor whose outcome was never seen. -/
structure InFlightCommand where
  commandId : String
  fingerprint : CommandFingerprint
  kind : TeamCommandKind
  sequence : UInt64
  expectedRevision : UInt64
  stateRevision : UInt64
  lastEventSeq : UInt64
  deriving DecidableEq

def InFlightCommand.intoInterruptedRecord (inFlight : InFlightCommand) : TeamCommandRecord where
  commandId := inFlight.commandId
  sequence := inFlight.sequence
  kind := inFlight.kind
  fingerprint := some inFlight.fingerprint
  expectedRevision := inFlight.expectedRevision
  stateRevision := inFlight.stateRevision
  lastEventSeq := inFlight.lastEventSeq
  outcome := .interrupted

structure DriverProgress where
  stateRevision : UInt64
  lastCommandSeq : UInt64
  lastEventSeq : UInt64
  inFlightCommandId : Option String
  malformed : Bool
  deriving DecidableEq

structure TeamCommandJournal where
  records : List TeamCommandRecord
  malformed : Bool
  deriving DecidableEq

def maxTeamCommandJournal : Nat := 64

namespace TeamCommandJournal

def find (journal : TeamCommandJournal) (commandId : String) : Option TeamCommandRecord :=
  journal.records.find? fun record => record.commandId = commandId

def push (journal : TeamCommandJournal) (record : TeamCommandRecord) : TeamCommandJournal :=
  { journal with records := journal.records ++ [record] }

def markMalformed (journal : TeamCommandJournal) : TeamCommandJournal :=
  { journal with malformed := true }

/-- Remove the oldest record that satisfies the test, and return it. -/
def removeFirst (journal : TeamCommandJournal) (test : TeamCommandRecord → Bool) :
    Option (TeamCommandRecord × TeamCommandJournal) :=
  (journal.records.find? test).map fun record => (record, { journal with records := journal.records.eraseP test })

end TeamCommandJournal

structure LastDrainedNotes where
  commandId : String
  notes : List String
  deriving DecidableEq

/-- One execution of the team pipeline: what its state changes read and write. -/
structure TeamRun where
  status : TeamRunStatus
  phase : TeamPhase
  subTasks : List SubTask
  orchestrationBackend : OrchestrationBackendRef
  driverProgress : DriverProgress
  commandJournal : TeamCommandJournal
  inFlightCommand : Option InFlightCommand
  drainedNotes : List LastDrainedNotes
  complex : Option Bool
  tlThreadId : String
  tlSuccession : List TlGeneration
  tlTurnsThisGeneration : UInt32
  tlReseedReason : Option String
  ownedThreadProviders : Table String String
  runOwnedThreadIds : List String
  runOwnedThreadRoles : Table String String
  mrDevThreadId : Option String
  reviewerThreadId : Option String
  pendingUserNotes : List String
  reopenedCount : UInt32
  designReviewRounds : UInt32
  mrRoundsUsed : UInt32
  mrRoundBaseSha : String
  mrCandidateSha : String
  mrVerdictCandidateSha : String
  mrStaleReviewRetries : UInt32
  inFlightThread : Option String
  pauseRequested : Bool
  stopping : Bool
  pauseRequestedBy : String
  pauseReason : Option String
  pauseKind : Option TeamPauseKind
  awaiting : Option AwaitingUser
  designVerdict : Option WorkflowVerdict
  mrVerdict : Option WorkflowVerdict
  unresolved : List String
  headCommit : Option String
  error : Option String

namespace TeamRun

/-- A run as it is recorded, before its driver starts. -/
def new : TeamRun where
  status := .queued
  phase := .intake
  subTasks := []
  orchestrationBackend := .legacyEmbedded
  driverProgress :=
    { stateRevision := 0, lastCommandSeq := 0, lastEventSeq := 0, inFlightCommandId := none, malformed := false }
  commandJournal := { records := [], malformed := false }
  inFlightCommand := none
  drainedNotes := []
  complex := none
  tlThreadId := ""
  tlSuccession := []
  tlTurnsThisGeneration := 0
  tlReseedReason := none
  ownedThreadProviders := ∅
  runOwnedThreadIds := []
  runOwnedThreadRoles := ∅
  mrDevThreadId := none
  reviewerThreadId := none
  pendingUserNotes := []
  reopenedCount := 0
  designReviewRounds := 0
  mrRoundsUsed := 0
  mrRoundBaseSha := ""
  mrCandidateSha := ""
  mrVerdictCandidateSha := ""
  mrStaleReviewRetries := 0
  inFlightThread := none
  pauseRequested := false
  stopping := false
  pauseRequestedBy := ""
  pauseReason := none
  pauseKind := none
  awaiting := none
  designVerdict := none
  mrVerdict := none
  unresolved := []
  headCommit := none
  error := none

def isExecutableByCurrentBuild (run : TeamRun) : Bool :=
  run.orchestrationBackend.isExecutableByCurrentBuild

/-- The sub-task the run is working. -/
def currentSubTask (run : TeamRun) : Option Nat :=
  run.subTasks.findIdx? fun task => !task.status.isTerminal || !task.digested

/-- Every thread this run owns right now, in the order the source lists them. -/
def threadCandidates (run : TeamRun) : List String :=
  [run.tlThreadId] ++ run.tlSuccession.map (·.threadId) ++ run.runOwnedThreadIds ++ run.mrDevThreadId.toList ++
    run.reviewerThreadId.toList ++
    run.subTasks.flatMap fun task => task.ownedThreadIds ++ task.devThreadId.toList ++ task.reviewerThreadId.toList

def ownedThreadIds (run : TeamRun) : List String :=
  run.threadCandidates.foldl (fun ids id => if id ≠ "" ∧ id ∉ ids then ids ++ [id] else ids) []

end TeamRun

end Sealwire.Team

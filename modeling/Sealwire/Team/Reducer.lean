import Sealwire.Team.Command
import Sealwire.Team.Lifecycle

namespace Sealwire.Team

/-- What the reducer takes from its serializer and its hash: the digest of an envelope,
salted with the run id, and the size of a serialized command. -/
structure Codec where
  fingerprint : String → TeamCommandEnvelope → CommandFingerprint
  payloadBytes : TeamStateCommand → Option Nat

def snapshotReceipt (run : TeamRun) (commandId : String) (sequence : UInt64) (status : TeamCommandStatus) :
    TeamCommandReceipt where
  commandId := commandId
  sequence := sequence
  stateRevision := run.driverProgress.stateRevision
  lastEventSeq := run.driverProgress.lastEventSeq
  status := status

/-- The one refusal that reads nothing of the run. -/
def unsupportedProtocolReceipt (commandId : String) (sequence : UInt64) : TeamCommandReceipt where
  commandId := commandId
  sequence := sequence
  stateRevision := 0
  lastEventSeq := 0
  status := .rejected .unsupportedProtocol

/-- The receipt of a command the journal has settled, under the record's own counters. -/
def replayReceipt (run : TeamRun) (commandId : String) (sequence : UInt64) (record : TeamCommandRecord) :
    TeamCommandReceipt where
  commandId := commandId
  sequence := sequence
  stateRevision := record.stateRevision
  lastEventSeq := record.lastEventSeq
  status := match record.outcome with
    | .applied =>
      if record.kind = .takeUserNotes then
        match run.drainedNotes.find? fun entry => entry.commandId = commandId with
        | some entry => .applied (.drainedNotes entry.notes)
        | none => .rejected .staleCommand
      else .applied .ack
    | .rejected reason => .rejected reason
    | .interrupted => .interrupted

/-- Whether a journaled record is of the very command delivered again. -/
def TeamCommandRecord.matchesFingerprint (record : TeamCommandRecord) (fingerprint : CommandFingerprint) : Bool :=
  match record.fingerprint with
  | some recorded => recorded = fingerprint
  | none => record.outcome = .interrupted && record.kind = .unknown

def preflightTeamCommandIdentity (codec : Codec) (run : TeamRun) (runId : String) (envelope : TeamCommandEnvelope) :
    Option TeamCommandReceipt :=
  let fingerprint := codec.fingerprint runId envelope
  let commandId := envelope.commandId
  let sequence := envelope.sequence
  if !run.isExecutableByCurrentBuild then
    some (snapshotReceipt run commandId sequence (.rejected .backendMismatch))
  else if run.driverProgress.malformed || run.commandJournal.malformed then
    some (snapshotReceipt run commandId sequence (.rejected .invalidState))
  else if envelope.protocolVersion ≠ teamCommandProtocolVersion then
    some (unsupportedProtocolReceipt commandId sequence)
  else
    (run.commandJournal.find commandId).map fun existing =>
      if existing.matchesFingerprint fingerprint then replayReceipt run commandId sequence existing
      else snapshotReceipt run commandId sequence (.rejected .duplicateCommand)

/-- A record may go when it is below the watermark and not of the command in flight. -/
def TeamRun.evictable (run : TeamRun) (candidate : TeamCommandRecord) : Bool :=
  some candidate.commandId ≠ run.driverProgress.inFlightCommandId &&
    candidate.sequence < run.driverProgress.lastCommandSeq

def evictOne (run : TeamRun) : Option (TeamCommandRecord × TeamRun) :=
  (run.commandJournal.removeFirst run.evictable).map fun (evicted, journal) =>
    (evicted, { run with commandJournal := journal })

def dropDrainedNotes (run : TeamRun) (commandId : String) : TeamRun :=
  { run with drainedNotes := run.drainedNotes.filter fun entry => entry.commandId ≠ commandId }

/-- The eviction loop; every round takes one record out, so as many rounds as there are
records are enough. -/
def evictWhileFull : Nat → TeamRun → TeamRun
  | 0, run => run
  | rounds + 1, run =>
    if maxTeamCommandJournal < run.commandJournal.records.length then
      match evictOne run with
      | none => run
      | some (evicted, run) =>
        evictWhileFull rounds (if evicted.kind = .takeUserNotes then dropDrainedNotes run evicted.commandId else run)
    else run

/-- The one place a record is appended; the watermark moves with it. -/
def pushWithEviction (run : TeamRun) (record : TeamCommandRecord) : TeamRun :=
  let run := { run with
    driverProgress := { run.driverProgress with
      lastCommandSeq := max run.driverProgress.lastCommandSeq record.sequence }
    commandJournal := run.commandJournal.push record }
  evictWhileFull run.commandJournal.records.length run

def rejectAndJournal (run : TeamRun) (commandId : String) (sequence : UInt64) (kind : TeamCommandKind)
    (fingerprint : CommandFingerprint) (expectedRevision : UInt64) (reason : CommandRejection) :
    TeamRun × TeamCommandReceipt × Bool :=
  let stateRevision := run.driverProgress.stateRevision
  let lastEventSeq := run.driverProgress.lastEventSeq
  let record : TeamCommandRecord :=
    { commandId := commandId, sequence := sequence, kind := kind, fingerprint := some fingerprint,
      expectedRevision := expectedRevision, stateRevision := stateRevision, lastEventSeq := lastEventSeq,
      outcome := .rejected reason }
  (pushWithEviction run record,
    { commandId := commandId, sequence := sequence, stateRevision := stateRevision, lastEventSeq := lastEventSeq,
      status := .rejected reason }, true)

/-- Whether an applied outcome still fits in the counters, and a later sequence too. -/
def hasCounterHeadroom (run : TeamRun) (sequence : UInt64) : Bool :=
  (checkedAdd run.driverProgress.stateRevision 1).isSome && (checkedAdd run.driverProgress.lastEventSeq 1).isSome &&
    (checkedAdd sequence 1).isSome

def commandIsPermittedByLifecycle (run : TeamRun) : Bool :=
  !(run.status.isTerminal || run.status.isSettledWithoutDriver || run.pauseRequested || run.stopping)

def requireSubTaskIndex (run : TeamRun) (index : Nat) : Except CommandRejection Unit :=
  if index < run.subTasks.length then .ok () else .error .invalidState

def bound (len limit : Nat) : Except CommandRejection Unit :=
  if len ≤ limit then .ok () else .error .invalidState

def boundVerdict (verdict : WorkflowVerdict) : Except CommandRejection Unit :=
  bound verdict.findings.length maxTeamCommandFindings

/-- Bound the command's content: its size first, then its collections and indices. -/
def validatePayload (codec : Codec) (run : TeamRun) (command : TeamStateCommand) : Except CommandRejection Unit :=
  if !(codec.payloadBytes command).any fun len => len ≤ maxTeamCommandPayloadBytes then .error .invalidState
  else
    match command with
    | .recordIntake _ _ | .setPhase _ => .ok ()
    | .recordDesignReviewRound verdict _ unresolvedAdditions => do
      boundVerdict verdict
      bound unresolvedAdditions.length maxTeamCommandFindings
    | .replanSubTasks subTasks _ => bound subTasks.length maxTeamCommandSubTasks
    | .attachSubTaskThread index _ _ _ => requireSubTaskIndex run index
    | .setSubTaskStatus index _ => requireSubTaskIndex run index
    | .pauseSubTaskWithoutCandidate index | .recordSubTaskStaleReview index => requireSubTaskIndex run index
    | .recordReviewRound index verdict _ _ _ => do
      requireSubTaskIndex run index
      boundVerdict verdict
    | .markSubTaskDigested index _ => requireSubTaskIndex run index
    | .recordMrRound verdict _ unresolvedAdditions => do
      boundVerdict verdict
      bound unresolvedAdditions.length maxTeamCommandFindings
    | .setMrVerdict verdict =>
      match verdict with
      | some verdict => boundVerdict verdict
      | none => .ok ()
    | .pauseMrWithoutCandidate verdict => boundVerdict verdict
    | .prepareMrReview _ _ | .recordMrStaleReview | .recordMrDevThread _ | .recordReviewerThread _ | .finishRun _ _
    | .setRunStatus _ | .failRun _ | .blockRun _ | .settleRun _ _ _ => .ok ()
    | .takeUserNotes => bound run.pendingUserNotes.length maxTeamCommandNotes

/-- The seat a thread is attached to, with the sub-task's list of threads. -/
def SubTask.attachThread (role : TeamSubTaskRole) (threadId : String) (baseCommit : Option String) (task : SubTask) :
    SubTask :=
  { task with
    devThreadId := if role = .dev then some threadId else task.devThreadId
    reviewerThreadId := if role = .reviewer then some threadId else task.reviewerThreadId
    ownedThreadIds := task.ownedThreadIds ++ [threadId]
    baseCommit := match baseCommit with
      | some base => if task.baseCommit = "" then base else task.baseCommit
      | none => task.baseCommit }

def TeamRun.modifySubTask (run : TeamRun) (index : Nat) (edit : SubTask → SubTask) : TeamRun :=
  { run with subTasks := run.subTasks.modify index edit }

/-- Change the run as the command says; `mint` gives the ids of sub-tasks whose own is taken. -/
def applyEffects (mint : Nat → String) (run : TeamRun) (commandId : String) :
    TeamStateCommand → TeamRun × TeamCommandOutput
  | .recordIntake complex phase => ({ run with complex := some complex, phase := phase }, .ack)
  | .setPhase phase => ({ run with phase := phase }, .ack)
  | .recordDesignReviewRound verdict nextPhase unresolvedAdditions =>
    ({ run with
        designReviewRounds := run.designReviewRounds + 1
        unresolved := run.unresolved ++ unresolvedAdditions
        phase := nextPhase
        designVerdict := some verdict }, .ack)
  | .replanSubTasks subTasks phase => ({ run.replanSubTasks mint subTasks with phase := phase }, .ack)
  | .attachSubTaskThread index role threadId baseCommit =>
    (run.modifySubTask index (SubTask.attachThread role threadId baseCommit), .ack)
  | .setSubTaskStatus index status => (run.modifySubTask index fun task => { task with status := status }, .ack)
  | .pauseSubTaskWithoutCandidate index =>
    (run.modifySubTask index fun task =>
      { task with status := .pending, candidateSha := "", verdictCandidateSha := "", reviewClaim := none }, .ack)
  | .recordSubTaskStaleReview index =>
    (run.modifySubTask index fun task =>
      { task with staleReviewRetries := saturatingSucc task.staleReviewRetries }, .ack)
  | .recordReviewRound index verdict status resultSummary escalated =>
    let run := run.modifySubTask index fun task =>
      { task with
        roundsUsed := task.roundsUsed + 1
        status := status
        resultSummary := resultSummary
        lastVerdict := some verdict
        staleReviewRetries := 0 }
    ({ run with unresolved := run.unresolved ++ escalated.toList }, .ack)
  | .markSubTaskDigested index nextPhase =>
    let run := run.modifySubTask index fun task => { task with digested := true }
    ({ run with phase := nextPhase.getD run.phase }, .ack)
  | .recordMrRound verdict nextPhase unresolvedAdditions =>
    ({ run with
        mrRoundsUsed := run.mrRoundsUsed + 1
        unresolved := run.unresolved ++ unresolvedAdditions
        phase := nextPhase.getD run.phase
        mrVerdict := some verdict
        mrStaleReviewRetries := 0 }, .ack)
  | .setMrVerdict verdict => ({ run with mrVerdict := verdict }, .ack)
  | .prepareMrReview roundBaseSha candidateSha =>
    ({ run with
        mrRoundBaseSha := if run.mrRoundBaseSha = "" then roundBaseSha else run.mrRoundBaseSha
        mrCandidateSha := candidateSha
        mrVerdictCandidateSha := "" }, .ack)
  | .pauseMrWithoutCandidate verdict =>
    ({ run with
        mrCandidateSha := ""
        mrVerdictCandidateSha := ""
        mrStaleReviewRetries := 0
        mrVerdict := some verdict }, .ack)
  | .recordMrStaleReview => ({ run with mrStaleReviewRetries := saturatingSucc run.mrStaleReviewRetries }, .ack)
  | .recordMrDevThread threadId => ({ run with mrDevThreadId := some threadId }, .ack)
  | .recordReviewerThread threadId => ({ run with reviewerThreadId := some threadId }, .ack)
  | .finishRun headCommit phase => ({ run with headCommit := headCommit, phase := phase }, .ack)
  | .setRunStatus status => (run.setStatus status, .ack)
  | .failRun error => (run.fail error, .ack)
  | .blockRun error => (run.block error, .ack)
  | .settleRun status reason pauseKind =>
    match status with
    | .paused => ((run.settlePaused reason pauseKind).1, .ack)
    | .cancelled => ((run.cancel reason).1, .ack)
    | .done => ((run.forceMarkStatus .done).1, .ack)
    | other => (run.setStatus other, .ack)
  | .takeUserNotes =>
    let notes := run.pendingUserNotes
    ({ run with
        pendingUserNotes := []
        drainedNotes := run.drainedNotes ++ [{ commandId := commandId, notes := notes }] }, .drainedNotes notes)

/-- An applied command: its effects, the phase held back, both counters moved, the record. -/
def applyAndJournal (mint : Nat → String) (run : TeamRun) (envelope : TeamCommandEnvelope)
    (fingerprint : CommandFingerprint) (effectiveCommand : TeamStateCommand) : TeamRun × TeamCommandReceipt × Bool :=
  let (run, output) := applyEffects mint run envelope.commandId effectiveCommand
  let run := run.holdPhaseForWaitingSubTasks.1
  -- a release build wraps at the largest word
  let run := { run with driverProgress := { run.driverProgress with
    stateRevision := run.driverProgress.stateRevision + 1
    lastEventSeq := run.driverProgress.lastEventSeq + 1 } }
  let record : TeamCommandRecord :=
    { commandId := envelope.commandId, sequence := envelope.sequence, kind := envelope.command.kind,
      fingerprint := some fingerprint, expectedRevision := envelope.expectedRevision,
      stateRevision := run.driverProgress.stateRevision, lastEventSeq := run.driverProgress.lastEventSeq,
      outcome := .applied }
  let run := pushWithEviction run record
  (run, snapshotReceipt run envelope.commandId envelope.sequence (.applied output), true)

/-- Validate and apply an envelope. `effectiveCommand` is what the host's guard made of its
command; identity, order, bounds and the record are the original's. The result is the run,
the receipt, and whether the persisted state changed. -/
def applyTeamCommandWithEffective (codec : Codec) (mint : Nat → String) (run : TeamRun) (runId : String)
    (envelope : TeamCommandEnvelope) (effectiveCommand : TeamStateCommand) : TeamRun × TeamCommandReceipt × Bool :=
  match preflightTeamCommandIdentity codec run runId envelope with
  | some receipt => (run, receipt, false)
  | none =>
    let fingerprint := codec.fingerprint runId envelope
    let reject (reason : CommandRejection) :=
      rejectAndJournal run envelope.commandId envelope.sequence envelope.command.kind fingerprint
        envelope.expectedRevision reason
    if envelope.sequence ≤ run.driverProgress.lastCommandSeq then
      (run, snapshotReceipt run envelope.commandId envelope.sequence (.rejected .staleCommand), false)
    else
      match validatePayload codec run envelope.command with
      | .error reason => reject reason
      | .ok () =>
        match validatePayload codec run effectiveCommand with
        | .error reason => reject reason
        | .ok () =>
          if !hasCounterHeadroom run envelope.sequence then reject .invalidState
          else if envelope.expectedRevision ≠ run.driverProgress.stateRevision then reject .staleCommand
          else if !envelope.command.isLifecycleTransition && !commandIsPermittedByLifecycle run then
            reject .invalidState
          else applyAndJournal mint run envelope fingerprint effectiveCommand

/-- The host's guard: a settlement that hands the workspace back becomes a block while
owned threads still have turns in flight. -/
def effectiveCommandOf (working : List String) (command : TeamStateCommand) : TeamStateCommand :=
  match command with
  | .settleRun status _ _ =>
    if (status = .paused ∨ status = .cancelled ∨ status = .done) ∧ working ≠ [] then
      .blockRun ("cannot settle this task as " ++ status.asStr ++ ": " ++ ", ".intercalate working ++
        " still has a turn in flight")
    else command
  | _ => command

end Sealwire.Team

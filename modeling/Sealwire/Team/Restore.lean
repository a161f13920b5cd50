import Sealwire.Team.Reducer

namespace Sealwire.Team

/-- A parsed JSON value. Numbers keep their text; no decoder here reads one. -/
inductive JsonValue
  | null
  | bool (value : Bool)
  | number (text : String)
  | string (text : String)
  | array (items : List JsonValue)
  | object (fields : List (String × JsonValue))

namespace TeamCommandJournal

/-- A journal that cannot be trusted, and keeps nothing that looks plausible. -/
def malformedJournal : TeamCommandJournal where
  records := []
  malformed := true

/-- The items of a persisted journal, one after the other: the first that does not decode, or
repeats an id, spoils them all. -/
def decodeRecords (decodeRecord : JsonValue → Option TeamCommandRecord) :
    List TeamCommandRecord → List JsonValue → Option (List TeamCommandRecord)
  | records, [] => some records
  | records, item :: items =>
    match decodeRecord item with
    | some record =>
      if records.any fun seen => seen.commandId = record.commandId then none
      else decodeRecords decodeRecord (records ++ [record]) items
    | none => none

/-- The flag is absent or plainly false. -/
def unflagged (fields : List (String × JsonValue)) : Bool :=
  match fields.lookup "malformed" with
  | none | some (.bool false) => true
  | _ => false

/-- Read a persisted journal; whatever this program never writes reads as malformed. -/
def decode (decodeRecord : JsonValue → Option TeamCommandRecord) : JsonValue → TeamCommandJournal
  | .object fields =>
    if !unflagged fields then malformedJournal
    else
      match fields.lookup "records" with
      | some (.array items) =>
        if maxTeamCommandJournal < items.length then malformedJournal
        else
          match decodeRecords decodeRecord [] items with
          | some records => { records := records, malformed := false }
          | none => malformedJournal
      | _ => malformedJournal
  | _ => malformedJournal

/-- The journal of a persisted run; a run written before there was one has an empty journal. -/
def restored (decodeRecord : JsonValue → Option TeamCommandRecord) : Option JsonValue → TeamCommandJournal
  | some value => decode decodeRecord value
  | none => { records := [], malformed := false }

end TeamCommandJournal

namespace TeamRun

/-- The watermark raised to cover a spent sequence. -/
def coverSequence (run : TeamRun) (sequence : UInt64) : TeamRun :=
  { run with driverProgress := { run.driverProgress with
      lastCommandSeq := max run.driverProgress.lastCommandSeq sequence } }

def markJournalMalformed (run : TeamRun) : TeamRun :=
  { run with commandJournal := run.commandJournal.markMalformed }

/-- Evict the oldest records until one more fits; false when there is nothing left to evict.
Every round takes one record out, so as many rounds as there are records are enough. -/
def makeRoom (commandId : String) : Nat → TeamRun → TeamRun × Bool
  | 0, run => (run, true)
  | rounds + 1, run =>
    if maxTeamCommandJournal ≤ run.commandJournal.records.length then
      match run.commandJournal.removeFirst fun candidate => candidate.commandId ≠ commandId with
      | none => (run, false)
      | some (evicted, journal) =>
        let run := { run with commandJournal := journal }.coverSequence evicted.sequence
        makeRoom commandId rounds (if evicted.kind = .takeUserNotes then dropDrainedNotes run evicted.commandId else run)
    else (run, true)

/-- Give the interrupted command its record, unless one is there already. -/
def settleInterrupted (run : TeamRun) (record : TeamCommandRecord) (hasTypedIdentity : Bool) : TeamRun :=
  let run := run.coverSequence record.sequence
  if run.commandJournal.malformed then run
  else
    match run.commandJournal.find record.commandId with
    | some existing =>
      let compatible := !hasTypedIdentity ||
        (existing.fingerprint = record.fingerprint && existing.sequence = record.sequence &&
          existing.kind = record.kind && existing.expectedRevision = record.expectedRevision)
      if compatible then run else run.markJournalMalformed
    | none =>
      match run.makeRoom record.commandId run.commandJournal.records.length with
      | (run, false) => run.markJournalMalformed
      | (run, true) => { run with commandJournal := run.commandJournal.push record }

/-- What the id-only marker says of the command it names. -/
def legacyRecord (run : TeamRun) (commandId : String) : TeamCommandRecord where
  commandId := commandId
  sequence := run.driverProgress.lastCommandSeq
  kind := .unknown
  fingerprint := none
  expectedRevision := run.driverProgress.stateRevision
  stateRevision := run.driverProgress.stateRevision
  lastEventSeq := run.driverProgress.lastEventSeq
  outcome := .interrupted

def clearMarkers (run : TeamRun) : TeamRun :=
  { run with
    inFlightCommand := none
    driverProgress := { run.driverProgress with inFlightCommandId := none } }

/-- Settle a command whose outcome was never seen. Both markers are consumed; a typed one is
authoritative, and an id-only one beside it must name the same command. -/
def recoverStrandedInFlightCommand (run : TeamRun) : TeamRun × Bool :=
  match run.inFlightCommand, run.driverProgress.inFlightCommandId with
  | none, none => (run.clearMarkers, false)
  | some inFlight, legacyId =>
    let record := inFlight.intoInterruptedRecord
    if legacyId.any fun legacy => legacy ≠ record.commandId then
      ((run.clearMarkers.coverSequence record.sequence).markJournalMalformed, true)
    else (run.clearMarkers.settleInterrupted record true, true)
  | none, some commandId => (run.clearMarkers.settleInterrupted (run.legacyRecord commandId) false, true)

/-- Raise the watermark over every retained record. -/
def repairCommandJournalWatermark (run : TeamRun) : TeamRun × Bool :=
  if run.commandJournal.malformed then (run, false)
  else
    match (run.commandJournal.records.map (·.sequence)).max? with
    | none => (run, false)
    | some top =>
      if top ≤ run.driverProgress.lastCommandSeq then (run, false)
      else ({ run with driverProgress := { run.driverProgress with lastCommandSeq := top } }, true)

def appendRestoreError (run : TeamRun) (reason : String) : TeamRun :=
  { run with error := match run.error with
      | some error =>
        if containsText error reason then some error
        else if trim error = "" then some reason
        else some (error ++ "; " ++ reason)
      | none => some reason }

/-- A run whose backend cannot execute here says so in its error. -/
def appendBackendReason (run : TeamRun) : TeamRun :=
  match run.orchestrationBackend.nonExecutingReason with
  | some reason => run.appendRestoreError reason
  | none => run

def reconcileLifecycleAfterRestore (run : TeamRun) : TeamRun × Bool :=
  if run.status.isTerminal then (run, false)
  else
    let before := run
    let run := run.appendBackendReason
    match run.status with
    | .paused =>
      let run := { run with pauseRequested := false, stopping := false, awaiting := none }
      (run, decide ((before.pauseRequested, before.stopping, before.awaiting, before.error) ≠
        (run.pauseRequested, run.stopping, run.awaiting, run.error)))
    | .pausePending => ((run.settlePaused "the relay restarted while the team was pausing" .boundary).1, true)
    | .awaitingUser =>
      ((run.rollbackCurrentRound.settlePaused
        "the relay restarted while the team was waiting on your answer; that step will be re-run" .boundary).1, true)
    | _ =>
      if run.isExecutableByCurrentBuild then run.markInterruptedIfStranded
      else ({ run with pauseRequested := false, stopping := false, awaiting := none, status := .failed }, true)

/-- Reconcile a run whose driver is gone after a restart, and whether that changed it. -/
def reconcileAfterRestore (run : TeamRun) : TeamRun × Bool :=
  let (run, inFlightRecovered) := run.recoverStrandedInFlightCommand
  let (run, watermarkRepaired) := run.repairCommandJournalWatermark
  let (run, lifecycleMoved) := run.reconcileLifecycleAfterRestore
  (run, lifecycleMoved || inFlightRecovered || watermarkRepaired)

end TeamRun

end Sealwire.Team

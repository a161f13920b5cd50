import Mathlib.Data.Finset.Insert
import Mathlib.Data.Finset.Filter
import Sealwire.Lib.Word
import Sealwire.Lib.Table

namespace Sealwire.Requests

def remoteRequestMaxAgeMs : UInt64 := 60000

def remoteRequestMaxFutureMs : UInt64 := 5000

def writeRetryWindowMs : UInt64 := 5 * 60 * 1000

def requestSeqWindow : UInt64 := 256

def maxRequestSessionsPerDevice : Nat := 4

def requestSessionTtlMs : UInt64 := 60 * 60 * 1000

def writeRecordRetentionMs : UInt64 := 10 * 60 * 1000

def maxWriteRecordsPerDevice : Nat := 256

def remoteActionReplayTtlSecs : UInt64 := 600

def maxRemoteActionReplayEntries : Nat := 512

def reusedActionIdError : String :=
  "this action id was already used for a different action; nothing was run"

def writeLedgerFullError : String :=
  "this device has too many recent changes still on record; wait a few minutes and try again"

def operationClockError : String :=
  "this request says it started later than the relay's clock allows; nothing was run"

/-- The allocation an `Arc<Notify>` points to; two handles are the same exactly
when their allocations are. -/
abbrev NotifyId := Nat

structure RequestSession where
  deviceId : String
  peerId : String
  openedMs : UInt64
  expiresMs : UInt64
  highSeq : UInt64
  used : Finset UInt64
  deriving DecidableEq

def RequestSession.seqIsUnused (session : RequestSession) (seq : UInt64) : Bool :=
  if seq = 0 then false
  else if session.highSeq < seq then true
  else decide (session.highSeq - seq < requestSeqWindow) && decide (seq ∉ session.used)

def RequestSession.useSeq (session : RequestSession) (seq : UInt64) : RequestSession :=
  let used := insert seq session.used
  let highSeq := max session.highSeq seq
  let floor := saturatingSub highSeq (requestSeqWindow - 1)
  { session with highSeq := highSeq, used := used.filter (floor ≤ ·) }

structure RequestSessionGrant where
  sid : String
  bootId : String
  relayMs : UInt64
  expiresAt : UInt64
  deriving DecidableEq

inductive RequestClass
  | stream
  | read
  | write
  | untracked
  deriving DecidableEq

/-- One signed attempt, after its signature checked out. -/
structure SignedRequestFacts where
  deviceId : String
  peerId : String
  sid : String
  bootId : String
  seq : UInt64
  sentMs : UInt64
  actionId : String
  actionKind : String
  requestClass : RequestClass
  digest : String
  opBoot : String
  opT0 : UInt64
  deriving DecidableEq

/-- A stored answer: the kind it answers, and the rest of the answer as it is
sent again. -/
structure CachedRemoteActionResult where
  actionKind : String
  reply : String
  deriving DecidableEq

inductive CachedRemoteActionState
  | inFlight (actionKind digest : String) (seenAt : UInt64) (finished : NotifyId) (waiters : UInt64)
  | completed (result : CachedRemoteActionResult) (digest : String) (seenAt waiters : UInt64)
  deriving DecidableEq

def CachedRemoteActionState.seenAt : CachedRemoteActionState → UInt64
  | .inFlight _ _ seenAt _ _ => seenAt
  | .completed _ _ seenAt _ => seenAt

inductive RemoteActionWaitSource
  | resultCache
  | writeLedger
  deriving DecidableEq

structure RemoteActionWait where
  finished : NotifyId
  ticket : UInt64
  source : RemoteActionWaitSource
  deriving DecidableEq

inductive RemoteActionReplayDecision
  | execute
  | replay (result : CachedRemoteActionResult)
  | inFlight (wait : RemoteActionWait)
  deriving DecidableEq

inductive RequestAdmission
  | reauthorize
  | duplicate
  | run
  | execute (token : NotifyId)
  | replay (result : CachedRemoteActionResult)
  | inFlight (wait : RemoteActionWait)
  | alreadyCompleted
  | outcomeUnknown
  | refused (reason : String)
  deriving DecidableEq

/-- Every admission except these two is an answer to the attempt. -/
def RequestAdmission.answered : RequestAdmission → Bool
  | .reauthorize => false
  | .duplicate => false
  | _ => true

inductive WriteState
  | running (finished : NotifyId) (waiters : UInt64)
  | done (doneMs waiters : UInt64)
  deriving DecidableEq

structure WriteRecord where
  actionKind : String
  digest : String
  opBoot : String
  opT0 : UInt64
  state : WriteState
  deriving DecidableEq

structure RemoteRequestBook where
  sessions : Table String RequestSession
  writes : Table String (Table String WriteRecord)

def RemoteRequestBook.pruneSessions (book : RemoteRequestBook) (nowMs : UInt64) : RemoteRequestBook :=
  { book with sessions := book.sessions.retain fun _ session => nowMs < session.expiresMs }

/-- A running record is never pruned; a finished one is once its retention is over. -/
def WriteRecord.kept (nowMs : UInt64) (record : WriteRecord) : Bool :=
  match record.state with
  | .running _ _ => true
  | .done doneMs _ => nowMs ≤ saturatingAdd doneMs writeRecordRetentionMs

def RemoteRequestBook.pruneWrites (book : RemoteRequestBook) (deviceId : String) (nowMs : UInt64) :
    RemoteRequestBook :=
  { book with writes := book.writes.modify deviceId fun records => records.retain fun _ record => record.kept nowMs }

/-- The part of the relay's state the request book works on. `nextNotify` is the
next allocation of a `Notify`, `woken` the `notify_waiters` calls so far. -/
structure RelayState where
  pairedDevices : Finset String
  recentRemoteActions : Table String CachedRemoteActionState
  remoteRequests : RemoteRequestBook
  nextNotify : NotifyId
  woken : List NotifyId

def remoteActionCacheKey (deviceId actionId : String) : String :=
  deviceId ++ ":" ++ actionId

namespace RelayState

def setSessions (s : RelayState) (sessions : Table String RequestSession) : RelayState :=
  { s with remoteRequests := { s.remoteRequests with sessions := sessions } }

def setRecords (s : RelayState) (deviceId : String) (records : Table String WriteRecord) : RelayState :=
  { s with remoteRequests := { s.remoteRequests with writes := s.remoteRequests.writes.put deviceId records } }

def setCache (s : RelayState) (cache : Table String CachedRemoteActionState) : RelayState :=
  { s with recentRemoteActions := cache }

def notifyWaiters (s : RelayState) (finished : List NotifyId) : RelayState :=
  { s with woken := s.woken ++ finished }

/-- The first session of the device with the smallest opening time. -/
def oldestSession (sessions : Table String RequestSession) (deviceId : String) : Option String :=
  let own := sessions.pairs.filter fun e => e.2.deviceId = deviceId
  let oldest := own.foldl (fun best e =>
    match best with
    | none => some e
    | some b => if e.2.openedMs < b.2.openedMs then some e else some b) none
  oldest.map Prod.fst

def sessionCount (sessions : Table String RequestSession) (deviceId : String) : Nat :=
  (sessions.pairs.filter fun e => e.2.deviceId = deviceId).length

/-- Make room for one more session of the device. Each round removes one session,
so as many rounds as there are sessions are enough. -/
def evictOldestSessions : Nat → Table String RequestSession → String → Table String RequestSession
  | 0, sessions, _ => sessions
  | rounds + 1, sessions, deviceId =>
    match oldestSession sessions deviceId with
    | some sid =>
      if maxRequestSessionsPerDevice ≤ sessionCount sessions deviceId then
        evictOldestSessions rounds (sessions.drop sid) deviceId
      else sessions
    | none => sessions

/-- `sid` is the random name the relay draws for the new session. -/
def openRequestSession (boot : String) (s : RelayState) (deviceId peerId sid : String)
    (nowMs nowSecs : UInt64) : RelayState × Except String RequestSessionGrant :=
  if deviceId ∉ s.pairedDevices then (s, .error "device is not paired")
  else
    let pruned := (s.remoteRequests.pruneSessions nowMs).sessions
    let others := pruned.retain fun _ session => session.deviceId ≠ deviceId || session.peerId ≠ peerId
    let room := evictOldestSessions others.len others deviceId
    let session : RequestSession :=
      { deviceId := deviceId, peerId := peerId, openedMs := nowMs,
        expiresMs := saturatingAdd nowMs requestSessionTtlMs, highSeq := 0, used := ∅ }
    (s.setSessions (room.put sid session),
      .ok { sid := sid, bootId := boot, relayMs := nowMs,
            expiresAt := saturatingAdd nowSecs (requestSessionTtlMs / 1000) })

def dropRequestSessionsForPeer (s : RelayState) (peerId : String) : RelayState :=
  s.setSessions (s.remoteRequests.sessions.retain fun _ session => session.peerId ≠ peerId)

def dropRequestSessionsExceptPeers (s : RelayState) (online : Finset String) : RelayState :=
  s.setSessions (s.remoteRequests.sessions.retain fun _ session => session.peerId ∈ online)

def runningNotifies (records : Table String WriteRecord) : List NotifyId :=
  records.pairs.filterMap fun e =>
    match e.2.state with
    | .running finished _ => some finished
    | .done _ _ => none

def forgetRemoteRequestsForDevice (s : RelayState) (deviceId : String) : RelayState :=
  let kept := s.setSessions (s.remoteRequests.sessions.retain fun _ session => session.deviceId ≠ deviceId)
  match kept.remoteRequests.writes.get deviceId with
  | some records =>
    ({ kept with remoteRequests :=
        { kept.remoteRequests with writes := kept.remoteRequests.writes.drop deviceId } }).notifyWaiters
      (runningNotifies records)
  | none => kept

/-- Entries past their time to live go; whoever waits on one still running is woken. -/
def pruneRemoteActionReplays (s : RelayState) (now : UInt64) : RelayState :=
  let keep (entry : CachedRemoteActionState) : Bool := now < saturatingAdd entry.seenAt remoteActionReplayTtlSecs
  let abandoned := s.recentRemoteActions.pairs.filterMap fun e =>
    match e.2 with
    | .inFlight _ _ _ finished _ => if keep e.2 then none else some finished
    | .completed _ _ _ _ => none
  (s.setCache (s.recentRemoteActions.retain fun _ entry => keep entry)).notifyWaiters abandoned

def trimLoop : List (String × UInt64) → Nat → Table String CachedRemoteActionState →
    Table String CachedRemoteActionState
  | [], _, cache => cache
  | _ :: _, 0, cache => cache
  | (key, _) :: rest, overflow + 1, cache =>
    if cache.has key then trimLoop rest overflow (cache.drop key) else trimLoop rest (overflow + 1) cache

def trimRemoteActionReplays (s : RelayState) : RelayState :=
  if s.recentRemoteActions.len ≤ maxRemoteActionReplayEntries then s
  else
    let overflow := s.recentRemoteActions.len - maxRemoteActionReplayEntries
    let entries := s.recentRemoteActions.pairs.map fun e => (e.1, e.2.seenAt)
    let oldestFirst := entries.mergeSort fun a b => a.2 ≤ b.2
    s.setCache (trimLoop oldestFirst overflow s.recentRemoteActions)

def reserveRemoteActionWithDigest (s : RelayState) (deviceId actionId actionKind digest : String)
    (now : UInt64) : RelayState × Except String RemoteActionReplayDecision :=
  let s := s.pruneRemoteActionReplays now
  let key := remoteActionCacheKey deviceId actionId
  match s.recentRemoteActions.get key with
  | none =>
    let entry := CachedRemoteActionState.inFlight actionKind digest now s.nextNotify 0
    ({ s.setCache (s.recentRemoteActions.put key entry) with nextNotify := s.nextNotify + 1 }, .ok .execute)
  | some (.inFlight existingKind existingDigest seenAt finished waiters) =>
    if existingKind ≠ actionKind ∨ existingDigest ≠ digest then
      (s, .error "action_id is already in use for a different remote action")
    else
      let entry := CachedRemoteActionState.inFlight existingKind existingDigest seenAt finished (waiters + 1)
      (s.setCache (s.recentRemoteActions.put key entry),
        .ok (.inFlight { finished := finished, ticket := waiters + 1, source := .resultCache }))
  | some (.completed result existingDigest _ _) =>
    if result.actionKind ≠ actionKind ∨ existingDigest ≠ digest then
      (s, .error "action_id has already been used for a different remote action")
    else (s, .ok (.replay result))

def storeRemoteActionResult (s : RelayState) (deviceId actionId : String)
    (result : CachedRemoteActionResult) (now : UInt64) : RelayState :=
  let s := s.pruneRemoteActionReplays now
  let key := remoteActionCacheKey deviceId actionId
  let (finished, waiters, digest) : List NotifyId × UInt64 × String :=
    match s.recentRemoteActions.get key with
    | some (.inFlight _ digest _ finished waiters) => ([finished], waiters, digest)
    | some (.completed _ digest _ waiters) => ([], waiters, digest)
    | none => ([], 0, "")
  let s := s.setCache (s.recentRemoteActions.put key (.completed result digest now waiters))
  s.trimRemoteActionReplays.notifyWaiters finished

def completedRemoteAction (s : RelayState) (deviceId actionId : String) : Option CachedRemoteActionResult :=
  match s.recentRemoteActions.get (remoteActionCacheKey deviceId actionId) with
  | some (.completed result _ _ _) => some result
  | _ => none

/-- The device's ledger, made if missing, without the finished records whose retention is over. -/
def openLedger (s : RelayState) (deviceId : String) (nowMs : UInt64) : RelayState :=
  let book := s.remoteRequests.pruneWrites deviceId nowMs
  ({ s with remoteRequests := book }).setRecords deviceId ((book.writes.get deviceId).getD ∅)

def admitWrite (boot : String) (s : RelayState) (facts : SignedRequestFacts) (nowMs : UInt64) :
    RelayState × RequestAdmission :=
  if facts.opBoot ≠ boot then (s, .outcomeUnknown)
  else if saturatingAdd nowMs remoteRequestMaxFutureMs < facts.opT0 then (s, .refused operationClockError)
  else
    let s := s.openLedger facts.deviceId nowMs
    let cacheKey := remoteActionCacheKey facts.deviceId facts.actionId
    let records := (s.remoteRequests.writes.get facts.deviceId).getD ∅
    match records.get facts.actionId with
    | some record =>
      if record.actionKind ≠ facts.actionKind ∨ record.digest ≠ facts.digest ∨
          record.opBoot ≠ facts.opBoot ∨ record.opT0 ≠ facts.opT0 then
        (s, .refused reusedActionIdError)
      else
        match record.state with
        | .running finished waiters =>
          let record := { record with state := .running finished (waiters + 1) }
          (s.setRecords facts.deviceId (records.put facts.actionId record),
            .inFlight { finished := finished, ticket := waiters + 1, source := .writeLedger })
        | .done _ _ =>
          match s.recentRemoteActions.get cacheKey with
          | some (.completed result _ _ _) =>
            if result.actionKind = facts.actionKind then (s, .replay result) else (s, .alreadyCompleted)
          | _ => (s, .alreadyCompleted)
    | none =>
      if writeRetryWindowMs < saturatingSub nowMs facts.opT0 then (s, .outcomeUnknown)
      else if maxWriteRecordsPerDevice ≤ records.len then (s, .refused writeLedgerFullError)
      else
        let record : WriteRecord :=
          { actionKind := facts.actionKind, digest := facts.digest, opBoot := facts.opBoot,
            opT0 := facts.opT0, state := .running s.nextNotify 0 }
        ({ s.setRecords facts.deviceId (records.put facts.actionId record) with nextNotify := s.nextNotify + 1 },
          .execute s.nextNotify)

def admitOperation (boot : String) (s : RelayState) (facts : SignedRequestFacts) (nowMs nowSecs : UInt64) :
    RelayState × RequestAdmission :=
  match facts.requestClass with
  | .untracked => (s, .run)
  | .read | .stream =>
    match s.reserveRemoteActionWithDigest facts.deviceId facts.actionId facts.actionKind facts.digest nowSecs with
    | (s, .ok .execute) =>
      match s.recentRemoteActions.get (remoteActionCacheKey facts.deviceId facts.actionId) with
      | some (.inFlight _ _ _ finished _) => (s, .execute finished)
      | _ => (s, .refused reusedActionIdError)
    | (s, .ok (.replay result)) => (s, .replay result)
    | (s, .ok (.inFlight wait)) => (s, .inFlight wait)
    | (s, .error _) => (s, .refused reusedActionIdError)
  | .write => s.admitWrite boot facts nowMs

/-- The session the attempt is signed under is held, and belongs to its device and peer. -/
def sessionMatches (s : RelayState) (facts : SignedRequestFacts) : Bool :=
  match s.remoteRequests.sessions.get facts.sid with
  | some session => session.deviceId = facts.deviceId && session.peerId = facts.peerId
  | none => false

/-- Signed too long ago, or further ahead of the relay's clock than it allows. -/
def clockIsBad (facts : SignedRequestFacts) (nowMs : UInt64) : Bool :=
  saturatingAdd facts.sentMs remoteRequestMaxAgeMs < nowMs ||
    saturatingAdd nowMs remoteRequestMaxFutureMs < facts.sentMs

def useSessionSeq (s : RelayState) (sid : String) (seq : UInt64) : RelayState :=
  s.setSessions (s.remoteRequests.sessions.modify sid fun session => session.useSeq seq)

def admitSignedRequest (boot : String) (s : RelayState) (facts : SignedRequestFacts) (nowMs nowSecs : UInt64) :
    RelayState × RequestAdmission :=
  let s := { s with remoteRequests := s.remoteRequests.pruneSessions nowMs }
  if !s.sessionMatches facts || facts.bootId ≠ boot || facts.deviceId ∉ s.pairedDevices then (s, .reauthorize)
  else if clockIsBad facts nowMs then (s, .reauthorize)
  else
    match s.remoteRequests.sessions.get facts.sid with
    | none => (s, .reauthorize)
    | some session =>
      if !session.seqIsUnused facts.seq then (s, .duplicate)
      else
        let (s, decision) := s.admitOperation boot facts nowMs nowSecs
        (s.useSessionSeq facts.sid facts.seq, decision)

def completeRemoteWrite (s : RelayState) (deviceId actionId : String) (token : NotifyId)
    (result : CachedRemoteActionResult) (nowSecs nowMs : UInt64) : RelayState :=
  match s.remoteRequests.writes.get deviceId with
  | none => s
  | some records =>
    match records.get actionId with
    | none => s
    | some record =>
      match record.state with
      | .done _ _ => s
      | .running finished waiters =>
        if token ≠ finished then s
        else
          let record := { record with state := .done nowMs waiters }
          let s := s.setRecords deviceId (records.put actionId record)
          (s.storeRemoteActionResult deviceId actionId result nowSecs).notifyWaiters [token]

inductive WaitOutcome
  | result (result : CachedRemoteActionResult)
  | alreadyCompleted
  | superseded
  deriving DecidableEq

def remoteWriteWaitOutcome (s : RelayState) (deviceId actionId : String) (ticket : UInt64) : WaitOutcome :=
  match (s.remoteRequests.writes.get deviceId).bind fun records => records.get actionId with
  | some { state := .done _ waiters, .. } =>
    if waiters = ticket then
      match s.completedRemoteAction deviceId actionId with
      | some result => .result result
      | none => .alreadyCompleted
    else .superseded
  | _ => .superseded

end RelayState

end Sealwire.Requests

import Sealwire.Requests.Book

namespace Sealwire.Requests

/-- An answered or silent attempt, with what the relay decided. -/
structure Attempt where
  facts : SignedRequestFacts
  admission : RequestAdmission

/-- The calls the relay makes on its request book. The name of a new session is
drawn at random by the relay. -/
inductive BookCall
  | openSession (deviceId peerId sid : String) (nowSecs : UInt64)
  | dropForPeer (peerId : String)
  | dropExceptPeers (online : Finset String)
  | admitSigned (facts : SignedRequestFacts) (nowSecs : UInt64)
  | complete (deviceId actionId : String) (token : NotifyId) (result : CachedRemoteActionResult) (nowSecs : UInt64)
  | forget (deviceId : String)
  | clear

def BookCall.run (boot : String) (nowMs : UInt64) (s : RelayState) : BookCall → RelayState × List Attempt
  | .openSession deviceId peerId sid nowSecs => ((s.openRequestSession boot deviceId peerId sid nowMs nowSecs).1, [])
  | .dropForPeer peerId => (s.dropRequestSessionsForPeer peerId, [])
  | .dropExceptPeers online => (s.dropRequestSessionsExceptPeers online, [])
  | .admitSigned facts nowSecs =>
    let (t, admission) := s.admitSignedRequest boot facts nowMs nowSecs
    (t, [{ facts := facts, admission := admission }])
  | .complete deviceId actionId token result nowSecs =>
    (s.completeRemoteWrite deviceId actionId token result nowSecs nowMs, [])
  | .forget deviceId => (s.forgetRemoteRequestsForDevice deviceId, [])
  | .clear => ({ s with remoteRequests := { sessions := ∅, writes := ∅ } }, [])

/-- What the rest of the relay does to the state between two calls. -/
inductive Elsewhere : RelayState → RelayState → Prop
  | cache {s : RelayState} (cache : Table String CachedRemoteActionState) : Elsewhere s (s.setCache cache)
  | pairing {s : RelayState} (devices : Finset String) : Elsewhere s { s with pairedDevices := devices }
  | rehash {s : RelayState} (sessions : Table String RequestSession)
      (same : s.remoteRequests.sessions.entries.Perm sessions.entries) : Elsewhere s (s.setSessions sessions)

/-- A run of allowed calls on a clock that never goes back, with all its attempts,
latest first. -/
inductive BookRun (boot : String) (allowed : BookCall → Prop) (first : RelayState) :
    RelayState → UInt64 → List Attempt → Prop
  | start (now : UInt64) : BookRun boot allowed first first now []
  | call {s now attempts} (run : BookRun boot allowed first s now attempts) {later : UInt64} (forward : now ≤ later)
      {c : BookCall} (permitted : allowed c) :
      BookRun boot allowed first (c.run boot later s).1 later ((c.run boot later s).2 ++ attempts)
  | elsewhere {s now attempts} (run : BookRun boot allowed first s now attempts) {t : RelayState}
      (change : Elsewhere s t) : BookRun boot allowed first t now attempts

namespace RelayState

def session (s : RelayState) (sid : String) : Option RequestSession :=
  s.remoteRequests.sessions.get sid

def writeRecord (s : RelayState) (deviceId actionId : String) : Option WriteRecord :=
  (s.remoteRequests.writes.get deviceId).bind fun records => records.get actionId

theorem session_eq_get (s : RelayState) (sid : String) : s.session sid = s.remoteRequests.sessions.get sid := rfl

section Frames

variable (s : RelayState) (d a sid : String)

@[simp] theorem writeRecord_setSessions (sessions : Table String RequestSession) :
    (s.setSessions sessions).writeRecord d a = s.writeRecord d a := rfl

@[simp] theorem writeRecord_setCache (cache : Table String CachedRemoteActionState) :
    (s.setCache cache).writeRecord d a = s.writeRecord d a := rfl

@[simp] theorem writeRecord_notifyWaiters (finished : List NotifyId) :
    (s.notifyWaiters finished).writeRecord d a = s.writeRecord d a := rfl

theorem writeRecord_setRecords (owner : String) (records : Table String WriteRecord) :
    (s.setRecords owner records).writeRecord d a = if d = owner then records.get a else s.writeRecord d a := by
  unfold writeRecord setRecords
  rw [Table.get_put]
  split <;> rfl

@[simp] theorem session_setSessions (sessions : Table String RequestSession) :
    (s.setSessions sessions).session sid = sessions.get sid := rfl

@[simp] theorem session_setCache (cache : Table String CachedRemoteActionState) :
    (s.setCache cache).session sid = s.session sid := rfl

@[simp] theorem session_notifyWaiters (finished : List NotifyId) :
    (s.notifyWaiters finished).session sid = s.session sid := rfl

@[simp] theorem session_setRecords (records : Table String WriteRecord) :
    (s.setRecords d records).session sid = s.session sid := rfl

/-- The state differs in its result cache and its wake-ups only. -/
structure SameBook (s t : RelayState) : Prop where
  book : t.remoteRequests = s.remoteRequests
  devices : t.pairedDevices = s.pairedDevices

theorem SameBook.writeRecord {s t : RelayState} (same : SameBook s t) (d a : String) :
    t.writeRecord d a = s.writeRecord d a := by
  unfold RelayState.writeRecord
  rw [same.book]

theorem SameBook.session {s t : RelayState} (same : SameBook s t) (sid : String) : t.session sid = s.session sid := by
  unfold RelayState.session
  rw [same.book]

theorem pruneRemoteActionReplays_sameBook (now : UInt64) : SameBook s (s.pruneRemoteActionReplays now) :=
  ⟨rfl, rfl⟩

theorem trimRemoteActionReplays_sameBook : SameBook s s.trimRemoteActionReplays := by
  unfold trimRemoteActionReplays
  split <;> exact ⟨rfl, rfl⟩

theorem storeRemoteActionResult_sameBook (result : CachedRemoteActionResult) (now : UInt64) :
    SameBook s (s.storeRemoteActionResult d a result now) := by
  unfold storeRemoteActionResult
  exact ⟨(trimRemoteActionReplays_sameBook _).book, (trimRemoteActionReplays_sameBook _).devices⟩

theorem reserveRemoteActionWithDigest_sameBook (actionKind digest : String) (now : UInt64) :
    SameBook s (s.reserveRemoteActionWithDigest d a actionKind digest now).1 := by
  unfold reserveRemoteActionWithDigest
  simp only
  split
  · exact ⟨rfl, rfl⟩
  · split <;> exact ⟨rfl, rfl⟩
  · split <;> exact ⟨rfl, rfl⟩

end Frames

end RelayState

/-- A relay with one paired phone and nothing on record. -/
def relayWithPhone : RelayState where
  pairedDevices := {"phone"}
  recentRemoteActions := ∅
  remoteRequests := { sessions := ∅, writes := ∅ }
  nextNotify := 0
  woken := []

def phoneAttempt (requestClass : RequestClass) (seq : UInt64) : SignedRequestFacts where
  deviceId := "phone"
  peerId := "peer"
  sid := "sid"
  bootId := "boot"
  seq := seq
  sentMs := 1000
  actionId := "action"
  actionKind := "kind"
  requestClass := requestClass
  digest := "digest"
  opBoot := "boot"
  opT0 := 1000

end Sealwire.Requests

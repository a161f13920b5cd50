import Sealwire.Release.Credentials

namespace Sealwire.Release

def pendingReleaseSchemaVersion : Nat := 1
def bearerFingerprintHexChars : Nat := 16

/-- What a release is asked for: the registration's origin, relay, room and bearer. -/
structure Identity where
  controlUrl : String
  relayId : String
  brokerRoomId : String
  bearer : String
  deriving DecidableEq

structure PendingReleaseMarker where
  schemaVersion : Nat
  controlUrl : String
  relayId : String
  brokerRoomId : String
  bearerFingerprint : String
  deriving DecidableEq

inductive ReleaseOutcome
  | released
  | alreadyReleased
  | notLinked
  | failed (message : String)
  deriving DecidableEq

inductive ReleaseHttpError
  | unauthorized
  | redirect
  | rateLimited (message : String)
  | forbidden (message : String)
  | unavailable (accessReleased : Bool) (message : String)
  | other (status : Nat) (message : String)
  | network (message : String)
  deriving DecidableEq

/-- The error body of a reply, when it decodes. -/
structure ReleaseErrorBody where
  error : Option String := none
  accessReleased : Option Bool := none

/-- What came of one request: no reply, or a status with a body that may not be read, may not decode as a release and
may not decode as an error. -/
inductive Answer
  | failed (message : String)
  | received (status : Nat) (unread : Option String) (released : Except String Bool) (body : Option ReleaseErrorBody)

/-- The two requests of one release: the challenge, whether it could be signed, and the release itself. -/
structure Exchange where
  challenge : Answer
  signed : Except String Unit
  release : Answer

def knownReleaseErrorCode (code : String) : Option String :=
  if code = "rate_limited" then some "cloud access release rate-limited; try again later"
  else if code = "forbidden" then some "cloud access release forbidden"
  else if code = "unavailable" then some "cloud access release temporarily unavailable"
  else if code = "unauthorized" ∨ code = "invalid" ∨ code = "expired" ∨ code = "revoked" then
    some "cloud access credential is invalid, expired, or revoked"
  else if code = "conflict" then some "cloud access release conflict; registration preserved"
  else none

def explainReleaseStatus (status : Nat) (code : String) : String :=
  match knownReleaseErrorCode code with
  | some message => message
  | none =>
    if status = 429 then "cloud access release rate-limited; try again later"
    else if status = 403 then "cloud access release forbidden"
    else if status = 503 then "cloud access release temporarily unavailable"
    else if status = 409 then "cloud access release conflict; registration preserved"
    else "cloud access release failed"

def isSuccess (status : Nat) : Bool := 200 ≤ status && status < 300
def isRedirection (status : Nat) : Bool := 300 ≤ status && status < 400

def statusError (status : Nat) (body : Option ReleaseErrorBody) : ReleaseHttpError :=
  let parsed := body.getD {}
  let safe := explainReleaseStatus status (parsed.error.getD "unavailable")
  if status = 401 then .unauthorized
  else if status = 403 then .forbidden safe
  else if status = 429 then .rateLimited safe
  else if status = 503 then .unavailable (parsed.accessReleased = some true) safe
  else .other status safe

def mapFailedRelease (status : Nat) (unread : Option String) (body : Option ReleaseErrorBody) : ReleaseHttpError :=
  if isRedirection status then .redirect
  else
    match unread with
    | some message => .network message
    | none => statusError status body

def postAccessRelease (exchange : Exchange) : Except ReleaseHttpError Unit :=
  match exchange.challenge with
  | .failed message => .error (.network message)
  | .received status unread _ body =>
    if !isSuccess status then .error (mapFailedRelease status unread body)
    else
      match exchange.signed, exchange.release with
      | .error message, _ => .error (.network message)
      | .ok (), .failed message => .error (.network message)
      | .ok (), .received status unread released body =>
        if isRedirection status then .error .redirect
        else
          match unread with
          | some message => .error (.network message)
          | none =>
            if isSuccess status then
              match released with
              | .error message => .error (.network message)
              | .ok false =>
                .error (.other status
                  "cloud access release response did not confirm released=true; registration preserved")
              | .ok true => .ok ()
            else .error (statusError status body)

/-- How far a release has come since it took the lifecycle lock. -/
inductive Phase
  | started
  | notLinked
  | loaded (identity : Identity)
  | asking (identity : Identity) (markerMatches : Bool)
  | saving (identity : Identity) (message : String)
  | retrying (identity : Identity) (message markerError : String)
  | resaving (identity : Identity) (message : String)
  | deleting (identity : Identity) (success : ReleaseOutcome)
  | clearing (outcome : ReleaseOutcome)
  deriving DecidableEq

structure ReleaseRun where
  controlUrl : String
  phase : Phase
  deriving DecidableEq

inductive Verdict
  | confirmed
  | unauthorized
  | accessReleased
  | other
  deriving DecidableEq

/-- What is remembered about the runs: every reply under the identity it was asked for, and every marker saved. -/
inductive ReleaseEvent
  | replied (run : Nat) (identity : Identity) (verdict : Verdict)
  | saved (run : Nat) (identity : Identity)
  deriving DecidableEq

/-- The state database, the run that holds the lifecycle lock, and the record of replies and bearers. -/
structure ReleaseWorld where
  rows : List CredentialRow
  pending : String → Option PendingReleaseMarker := fun _ => none
  run : Option ReleaseRun := none
  outcome : Option ReleaseOutcome := none
  runs : Nat := 0
  log : List ReleaseEvent := []
  issued : List String

inductive ReleaseMove
  | start (controlUrl : String)
  /-- The lock, the database, the client or the signing key fails before anything is asked. -/
  | fails (message : String)
  | loadRegistration
  | loadMarker
  | reply (exchange : Exchange)
  | save (stored : Except String Unit)
  | delete (stored : Except String Unit)
  | clear (stored : Bool)
  | crash
  /-- Another process enrols and writes a registration. -/
  | activate (controlUrl relayId brokerRoomId bearer : String)

def Verdict.of : Except ReleaseHttpError Unit → Verdict
  | .ok () => confirmed
  | .error .unauthorized => unauthorized
  | .error (.unavailable true _) => accessReleased
  | .error _ => other

variable (origins : Origins) (sha256Hex : String → String)

def bearerFingerprint (token : String) : String :=
  String.ofList ((sha256Hex token).toList.take bearerFingerprintHexChars)

/-- The marker a release of the identity leaves. -/
def Identity.marker (identity : Identity) : PendingReleaseMarker where
  schemaVersion := pendingReleaseSchemaVersion
  controlUrl := identity.controlUrl
  relayId := identity.relayId
  brokerRoomId := identity.brokerRoomId
  bearerFingerprint := bearerFingerprint sha256Hex identity.bearer

def deleteRegistrationIfMatches (rows : List CredentialRow) (expected : Identity) :
    Except String (List CredentialRow × Bool) :=
  match rowForOrigin origins rows expected.controlUrl with
  | .error error => .error error
  | .ok none => .ok (rows, false)
  | .ok (some row) =>
    match row.info with
    | none => .error "failed to decode broker registration"
    | some info =>
      if info.schemaVersion ≠ publicRelayRegistrationSchemaVersion then
        .error ("unsupported broker registration cache schema " ++ toString info.schemaVersion)
      else if info.relayId = expected.relayId ∧ info.brokerRoomId = expected.brokerRoomId ∧
          bearerFingerprint sha256Hex row.secret = bearerFingerprint sha256Hex expected.bearer ∧
          origins.normalizeControlUrlLoose info.controlUrl = expected.controlUrl then
        deleteForOrigin origins rows expected.controlUrl
      else .ok (rows, false)

/-- The registration of the origin, as the identity its release is asked for. -/
def loadRegistrationForRelease (rows : List CredentialRow) (expectedControlUrl : String) :
    Except String (Option Identity) :=
  match rowForOrigin origins rows expectedControlUrl with
  | .error error => .error ("failed to read broker registration: " ++ error)
  | .ok none => .ok none
  | .ok (some row) =>
    match row.info with
    | none => .error "failed to decode broker registration"
    | some info =>
      if info.schemaVersion ≠ publicRelayRegistrationSchemaVersion then
        .error ("unsupported broker registration cache schema " ++ toString info.schemaVersion)
      else .ok (some ⟨expectedControlUrl, info.relayId, info.brokerRoomId, row.secret⟩)

/-- A marker is kept under its broker's origin. -/
def setPending (pending : String → Option PendingReleaseMarker) (controlUrl : String)
    (marker : Option PendingReleaseMarker) : String → Option PendingReleaseMarker :=
  match origins.normalizeControlOrigin controlUrl with
  | .ok key => fun origin => if origin = key then marker else pending origin
  | .error _ => pending

def pendingFor (pending : String → Option PendingReleaseMarker) (controlUrl : String) :
    Except String (Option PendingReleaseMarker) :=
  match origins.normalizeControlOrigin controlUrl with
  | .error error => .error error
  | .ok key =>
    match pending key with
    | none => .ok none
    | some marker =>
      if marker.schemaVersion ≠ pendingReleaseSchemaVersion then
        .error ("unsupported pending-release marker schema " ++ toString marker.schemaVersion)
      else .ok (some marker)

namespace ReleaseWorld

def finish (w : ReleaseWorld) (outcome : ReleaseOutcome) : ReleaseWorld :=
  { w with run := none, outcome := some outcome }

def goOn (w : ReleaseWorld) (controlUrl : String) (phase : Phase) : ReleaseWorld :=
  { w with run := some ⟨controlUrl, phase⟩ }

def note (w : ReleaseWorld) (event : ReleaseEvent) : ReleaseWorld :=
  { w with log := event :: w.log }

end ReleaseWorld

/-- The text a failed release ends with. -/
def ReleaseHttpError.outcome : ReleaseHttpError → ReleaseOutcome
  | unauthorized => .failed "cloud access release was denied (unauthorized). Registration preserved."
  | redirect => .failed "cloud access release refused a redirect; check the control origin"
  | rateLimited message | forbidden message | unavailable _ message | other _ message | network message =>
    .failed message

def ReleaseHttpError.detail : ReleaseHttpError → String
  | unauthorized => "unauthorized"
  | redirect => "redirect refused"
  | rateLimited message | forbidden message | unavailable _ message | other _ message | network message => message

/-- The first reply, or the one to the retry after a marker that could not be saved. -/
def receive (w : ReleaseWorld) (exchange : Exchange) : ReleaseWorld :=
  match w.run with
  | some ⟨controlUrl, .asking identity markerMatches⟩ =>
    let noted := w.note (.replied w.runs identity (.of (postAccessRelease exchange)))
    match postAccessRelease exchange with
    | .ok () => noted.goOn controlUrl (.deleting identity .released)
    | .error .unauthorized =>
      if markerMatches then noted.goOn controlUrl (.deleting identity .alreadyReleased)
      else noted.finish ReleaseHttpError.unauthorized.outcome
    | .error (.unavailable true message) => noted.goOn controlUrl (.saving identity message)
    | .error error => noted.finish error.outcome
  | some ⟨controlUrl, .retrying identity message markerError⟩ =>
    let noted := w.note (.replied w.runs identity (.of (postAccessRelease exchange)))
    match postAccessRelease exchange with
    | .ok () => noted.goOn controlUrl (.deleting identity .released)
    | .error .unauthorized => noted.goOn controlUrl (.deleting identity .alreadyReleased)
    | .error (.unavailable true _) => noted.goOn controlUrl (.resaving identity message)
    | .error error =>
      noted.finish (.failed (message ++ "; confirmation retry failed (" ++ error.detail ++
        "); failed to persist pending-release marker (" ++ markerError ++
        "). Registration preserved. Re-run `sealwire cloud unbind`."))
  | _ => w

def saveMarker (w : ReleaseWorld) (stored : Except String Unit) : ReleaseWorld :=
  match w.run with
  | some ⟨controlUrl, .saving identity message⟩ =>
    match stored with
    | .ok () =>
      ({ w with pending := setPending origins w.pending controlUrl (some (identity.marker sha256Hex)) }.note
        (.saved w.runs identity)).finish
          (.failed (message ++
            " (access released remotely; local cleanup pending — re-run `sealwire cloud unbind`)"))
    | .error markerError => w.goOn controlUrl (.retrying identity message markerError)
  | some ⟨controlUrl, .resaving identity message⟩ =>
    match stored with
    | .ok () =>
      ({ w with pending := setPending origins w.pending controlUrl (some (identity.marker sha256Hex)) }.note
        (.saved w.runs identity)).finish
          (.failed (message ++
            " (access released remotely; marker persisted after retry — re-run `sealwire cloud unbind`)"))
    | .error _ =>
      w.finish (.failed ("cloud access appears released remotely, but local cleanup could not be confirmed and the " ++
        "pending-release marker could not be saved. Registration was preserved. Do not delete the registration " ++
        "cache yourself. Contact support/operator confirmation before removing it; an ordinary re-run of " ++
        "`sealwire cloud unbind` alone may not resolve this state."))
  | _ => w

/-- The delete of a confirmed release, and what is left to clear after it. -/
def deleteConfirmed (w : ReleaseWorld) (stored : Except String Unit) : ReleaseWorld :=
  match w.run with
  | some ⟨controlUrl, .deleting identity success⟩ =>
    match stored, deleteRegistrationIfMatches origins sha256Hex w.rows identity with
    | .ok (), .ok (rows, true) => { w with rows := rows }.goOn controlUrl (.clearing success)
    | .ok (), .ok (_, false) =>
      w.goOn controlUrl (.clearing (.failed ("remote release confirmed, but local registration was replaced or " ++
        "removed before deletion; left the newer cache untouched")))
    | .error error, _ | .ok (), .error error =>
      w.finish (.failed ("remote release confirmed but failed to remove the local registration: " ++ error ++
        ". Re-run `sealwire cloud unbind`; do not share or paste anything from that database."))
  | _ => w

def clearMarker (w : ReleaseWorld) (stored : Bool) : ReleaseWorld :=
  match w.run with
  | some ⟨controlUrl, .notLinked⟩ =>
    { w with pending := if stored then setPending origins w.pending controlUrl none else w.pending }.finish .notLinked
  | some ⟨controlUrl, .clearing outcome⟩ =>
    { w with pending := if stored then setPending origins w.pending controlUrl none else w.pending }.finish outcome
  | _ => w

def ReleaseMove.run (w : ReleaseWorld) : ReleaseMove → ReleaseWorld
  | start controlUrl =>
    match w.run, origins.normalizeControlOrigin controlUrl with
    | none, .ok expected => { w with run := some ⟨expected, .started⟩, runs := w.runs + 1 }
    | _, _ => w
  | fails message =>
    match w.run with
    | some ⟨_, .started⟩ | some ⟨_, .loaded _⟩ | some ⟨_, .asking _ _⟩ => w.finish (.failed message)
    | _ => w
  | loadRegistration =>
    match w.run with
    | some ⟨controlUrl, .started⟩ =>
      match loadRegistrationForRelease origins w.rows controlUrl with
      | .error error => w.finish (.failed error)
      | .ok none => w.goOn controlUrl .notLinked
      | .ok (some identity) => w.goOn controlUrl (.loaded identity)
    | _ => w
  | loadMarker =>
    match w.run with
    | some ⟨controlUrl, .loaded identity⟩ =>
      match pendingFor origins w.pending controlUrl with
      | .error error => w.finish (.failed error)
      | .ok marker =>
        w.goOn controlUrl (.asking identity (marker.any (fun marker =>
          marker.controlUrl = controlUrl ∧ marker.relayId = identity.relayId ∧
            marker.brokerRoomId = identity.brokerRoomId ∧
            marker.bearerFingerprint = bearerFingerprint sha256Hex identity.bearer)))
    | _ => w
  | reply exchange => receive w exchange
  | save stored => saveMarker origins sha256Hex w stored
  | delete stored => deleteConfirmed origins sha256Hex w stored
  | clear stored => clearMarker origins w stored
  | crash => { w with run := none }
  | activate controlUrl relayId brokerRoomId bearer =>
    match writeForOrigin origins w.rows controlUrl bearer
        ⟨publicRelayRegistrationSchemaVersion, controlUrl, relayId, brokerRoomId⟩ with
    | .ok rows => { w with rows := rows, issued := bearer :: w.issued }
    | .error _ => w

/-- A new registration comes with a bearer that no registration had before. -/
def mayRelease (w : ReleaseWorld) : ReleaseMove → Prop
  | .activate _ _ _ bearer => bearer ∉ w.issued
  | _ => True

end Sealwire.Release

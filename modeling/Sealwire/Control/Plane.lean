import Sealwire.Control.Rotation
import Sealwire.Lib.Runs

namespace Sealwire.Control

/-- A broker on a backend that it shares with nobody: its state file, or nothing but its memory. -/
structure Plane where
  broker : Broker
  keys : Keys
  /-- `client_id` seals the verify key it is given. -/
  clientId : String → String
  clientId_injective : Function.Injective clientId
  rotationGraceSecs : Nat

/-- A relay's word that a client may reach it, held until the client proves that the key is its own. -/
structure PendingClientClaim where
  relayId : String
  brokerRoomId : String
  deviceId : String
  clientVerifyKey : String
  clientLabel : Option String
  deviceLabel : Option String
  relayLabel : Option String
  nonce : String
  expiresAt : Nat
  deriving DecidableEq, Repr

structure DeviceGrantRequest where
  relayId : String
  brokerRoomId : String
  deviceId : String
  deriving DecidableEq, Repr

structure ClientGrantRequest where
  relayId : String
  brokerRoomId : String
  deviceId : String
  clientVerifyKey : String
  clientLabel : Option String
  deviceLabel : Option String
  deriving DecidableEq, Repr

/-- Where a call stands that has let go of the lock, with what it took along. -/
inductive PlaneCall
  | enrolling (relayVerifyKey : String) (relayLabel : Option String)
  | restoring (registration : PersistedRelayRegistration)
  | granting (registration : PersistedRelayRegistration) (deviceId : String) (deviceLimit : Option Nat)
  | attesting (registration : PersistedRelayRegistration) (request : ClientGrantRequest)
  | claiming (claim : PendingClientClaim)
  | refreshing (challenge : CredentialRefreshChallengeResponse) (clientVerifyKey : String)
  | revokingDevice (registration : PersistedRelayRegistration) (deviceId : String)
  | revokingOthers (registration : PersistedRelayRegistration) (keepDeviceId : String)
  | revokingClient (client : PersistedClientIdentity)
  deriving DecidableEq, Repr

/-- Whom a refresh token was minted for. -/
inductive TokenHolder
  | relay (relayId : String)
  | device (relayId deviceId : String)
  | client (clientId : String)
  deriving DecidableEq, Repr

structure MintedToken where
  hash : String
  holder : TokenHolder
  deriving DecidableEq, Repr

structure PlaneWorld where
  store : PublicControlStateStore
  /-- What the state file holds. -/
  file : PublicControlStateStore
  pendingClientClaims : Table String PendingClientClaim
  pendingCredentialRefreshes : PendingRefreshes
  calls : Table Nat PlaneCall
  unix : Nat
  minted : List MintedToken

def PlaneWorld.start : PlaneWorld where
  store := {}
  file := {}
  pendingClientClaims := ∅
  pendingCredentialRefreshes := ∅
  calls := ∅
  unix := 0
  minted := []

/-- What one section is given: the clock as it was read, what is drawn, and whether the save goes through. -/
structure PlaneFacts where
  now : Nat := 0
  /-- A refresh token, and a second one for the device of a signed refresh. -/
  token : String := ""
  deviceToken : String := ""
  /-- The parts of a new id. -/
  relayId : String := ""
  brokerRoomId : String := ""
  idToken : String := ""
  nonceToken : String := ""
  saved : Bool := true
  deriving DecidableEq, Repr

def maxLabelChars : Nat := 128

def compactLabel (label : String) : Option String :=
  let label := trim label
  bif label.isEmpty then none else some (String.ofList (label.toList.take maxLabelChars))

def persistenceFailed : String := "public control-plane persistence failed"

namespace PlaneWorld

variable (p : Plane) (w : PlaneWorld)

def proceed (k : Nat) : Option PlaneCall → PlaneWorld
  | some call => { w with calls := w.calls.put k call }
  | none => { w with calls := w.calls.drop k }

def mint (hash : String) (holder : TokenHolder) : PlaneWorld :=
  { w with minted := { hash := hash, holder := holder } :: w.minted }

/-- The state file is replaced as a whole, or stays as it was. Memory keeps the change either way. -/
def persist (store : PublicControlStateStore) (facts : PlaneFacts) : PlaneWorld × Except String Unit :=
  bif facts.saved then ({ w with store := store, file := store }, .ok ())
  else ({ w with store := store }, .error persistenceFailed)

/-- `find_credential`: one look at memory, which nobody else writes behind the broker's back. -/
def findCredential (kind : CredentialKind) (credential : String) (now : Nat) : Option Credential :=
  bif p.broker.hasSubject kind credential then w.store.lookup kind (p.broker.tokenHash kind credential) now else none

def authenticateRelay (bearerToken relayId brokerRoomId : String) : Except String PersistedRelayRegistration :=
  match w.findCredential p .relay bearerToken 0 with
  | some (.relay registration) =>
    bif registration.relayId != relayId then .error "relay refresh token does not match relay_id"
    else bif registration.brokerRoomId != brokerRoomId then .error "relay refresh token does not match broker_room_id"
    else .ok registration
  | _ => .error "relay refresh token is invalid"

def authenticateClient (bearerToken : String) (now : Nat) : Except String PersistedClientIdentity :=
  match w.findCredential p .client bearerToken now with
  | some (.client _ identity) => .ok identity
  | _ => .error "client refresh token is invalid"

/-- `issue_relay_registration_for_verify_key`: a relay that enrolls again keeps its ids. -/
def enrollRelay (relayVerifyKey : String) (relayLabel : Option String) (facts : PlaneFacts) :
    PlaneWorld × Except String Unit :=
  let (relayId, brokerRoomId) :=
    match w.store.registrationForVerifyKey relayVerifyKey with
    | some existing => (existing.relayId, existing.brokerRoomId)
    | none => ("relay-" ++ facts.relayId, "room-" ++ facts.brokerRoomId)
  let hash := p.broker.sha256Hex facts.token
  (w.mint hash (.relay relayId)).persist
    ((w.store.removeRelayRegistrationByVerifyKey relayVerifyKey).1.putRelayRegistration
      { relayId := relayId
        brokerRoomId := brokerRoomId
        refreshTokenHash := hash
        createdAt := facts.now
        relayLabel := relayLabel
        relayVerifyKey := some relayVerifyKey }) facts

/-- `issue_device_grant` under the lock. -/
def grantDevice (registration : PersistedRelayRegistration) (deviceId : String) (deviceLimit : Option Nat)
    (facts : PlaneFacts) : PlaneWorld × Except String Unit :=
  let hash := p.broker.sha256Hex facts.token
  match w.store.grantDevice registration deviceId deviceLimit hash facts.now p.rotationGraceSecs with
  | .error reason => (w, .error reason)
  | .ok store => (w.mint hash (.device registration.relayId deviceId)).persist store facts

/-- `issue_client_grant` puts the relay's word on hold; it can only cancel its own earlier one. -/
def attestClient (registration : PersistedRelayRegistration) (request : ClientGrantRequest) (facts : PlaneFacts) :
    PlaneWorld :=
  { w with
    pendingClientClaims :=
      (w.pendingClientClaims.retain fun _ claim => claim.relayId != registration.relayId && facts.now < claim.expiresAt).put
        ("ccl-" ++ facts.idToken)
        { relayId := registration.relayId
          brokerRoomId := registration.brokerRoomId
          deviceId := request.deviceId
          clientVerifyKey := request.clientVerifyKey
          clientLabel := request.clientLabel
          deviceLabel := request.deviceLabel
          relayLabel := registration.relayLabel
          nonce := "cn-" ++ facts.nonceToken
          expiresAt := saturatingAdd facts.now defaultClientClaimTtlSecs } }

/-- The part of `claim_client_identity` that decides whose claim it is. A claim can be redeemed once. -/
def takeClaim (claimId signature : String) (now checkedAt : Nat) : PlaneWorld × Except String PendingClientClaim :=
  let claims := w.pendingClientClaims.retain fun _ claim => decide (now < claim.expiresAt)
  match claims.get claimId with
  | none => ({ w with pendingClientClaims := claims }, .error "client claim is invalid")
  | some claim =>
    let taken := { w with pendingClientClaims := claims.drop claimId }
    bif decide (claim.expiresAt ≤ checkedAt) then (taken, .error "client claim has expired")
    else
      let message := "agent-relay:client-claim:" ++ colonJoined [claimId, claim.nonce, claim.relayId]
      match p.keys.verifies claim.clientVerifyKey message signature with
      | .ok () => (taken, .ok claim)
      | .error _ => (taken, .error "client claim signature is invalid")

/-- `claim_client_identity` under the lock. -/
def claimClient (claim : PendingClientClaim) (facts : PlaneFacts) : PlaneWorld × Except String Unit :=
  let existingId := (w.store.clientIdentityForVerifyKey claim.clientVerifyKey).map (·.clientId)
  bif w.store.tooManyClients claim.relayId existingId then
    (w, .error "too many client identities for this relay; revoke an existing device first")
  else
    let hash := p.broker.sha256Hex facts.token
    let (issued, clientId) := w.store.issueOrRotateClientIdentity p.clientId claim.clientVerifyKey claim.clientLabel hash
      facts.now p.rotationGraceSecs
    (w.mint hash (.client clientId)).persist
      (issued.upsertClientRelayGrant
        { clientId := clientId
          relayId := claim.relayId
          brokerRoomId := claim.brokerRoomId
          deviceId := claim.deviceId
          grantedAt := facts.now
          relayLabel := claim.relayLabel
          deviceLabel := claim.deviceLabel }) facts

/-- `refresh_credentials` under the lock. -/
def refreshCredentials (challenge : CredentialRefreshChallengeResponse) (clientVerifyKey : String)
    (facts : PlaneFacts) : PlaneWorld × Except String Unit :=
  let clientHash := p.broker.sha256Hex facts.token
  let deviceHash := p.broker.sha256Hex facts.deviceToken
  match w.store.rotateSignedCredentials challenge clientVerifyKey clientHash deviceHash facts.now p.rotationGraceSecs with
  | .error reason => (w, .error reason)
  | .ok store =>
    let minted :=
      match challenge.brokerRoomId with
      | none => w.mint clientHash (.client challenge.clientId)
      | some room =>
        match w.store.refreshDeviceForClient challenge.clientId room with
        | .ok (device, _) =>
          (w.mint clientHash (.client challenge.clientId)).mint deviceHash (.device device.relayId device.deviceId)
        | .error _ => w.mint clientHash (.client challenge.clientId)
    minted.persist store facts

/-- `rotate_client_identity`: the bearer has to be the client's own key, not one that it replaced. -/
def rotateClient (bearerToken : String) (facts : PlaneFacts) : PlaneWorld × Except String Unit :=
  match w.findCredential p .client bearerToken facts.now with
  | some (.client primaryHash client) =>
    bif primaryHash != p.broker.tokenHash .client bearerToken then
      (w, .error "client refresh token is invalid; signing proof required")
    else
      let hash := p.broker.sha256Hex facts.token
      (w.mint hash (.client client.clientId)).persist
        (w.store.rotateClientIdentity client hash facts.now p.rotationGraceSecs) facts
  | _ => (w, .error "client refresh token is invalid")

/-- `revoke_device_grant` under the lock, with how many grants it revoked. -/
def revokeDevice (registration : PersistedRelayRegistration) (deviceId : String) (facts : PlaneFacts) :
    PlaneWorld × Except String Nat :=
  let (store, grants) := w.store.removeDeviceGrants registration.relayId (some registration.brokerRoomId) (some deviceId)
  let (store, clients) := store.removeClientRelayGrants registration.relayId (some registration.brokerRoomId)
    (some deviceId)
  bif decide (0 < grants) || decide (0 < clients) then
    let (next, saved) := w.persist store facts
    (next, saved.map fun _ => grants)
  else ({ w with store := store }, .ok grants)

/-- `revoke_other_device_grants` under the lock, with the devices it revoked. -/
def revokeOthers (registration : PersistedRelayRegistration) (keepDeviceId : String) (facts : PlaneFacts) :
    PlaneWorld × Except String (List String) :=
  let (store, devices) := w.store.removeAllOtherDeviceGrants registration.relayId registration.brokerRoomId keepDeviceId
  let (store, _) := store.removeAllOtherClientRelayGrants registration.relayId registration.brokerRoomId keepDeviceId
  -- What it removes of the clients' grants alone is not saved.
  bif !devices.isEmpty then
    let (next, saved) := w.persist store facts
    (next, saved.map fun _ => devices)
  else ({ w with store := store }, .ok devices)

/-- `revoke_client_identity` under the lock. -/
def revokeClient (client : PersistedClientIdentity) (facts : PlaneFacts) : PlaneWorld × Except String Nat :=
  let (store, identities) := w.store.removeClientIdentityByClientId client.clientId
  let (store, grants) := store.removeClientRelayGrantsByClientId client.clientId
  bif decide (0 < identities) || decide (0 < grants) then
    let (next, saved) := w.persist store facts
    (next, saved.map fun _ => identities)
  else ({ w with store := store }, .ok identities)

/-- `revoke_relay_registration_chain`: memory goes back where the save fails. -/
def revokeChain (bearerToken relayId brokerRoomId : String) (facts : PlaneFacts) : PlaneWorld × Except String Unit :=
  let hash := p.broker.tokenHash .relay bearerToken
  match w.store.relayRegistrationsByHash.get hash with
  | none => (w, .error "relay refresh token is invalid")
  | some registration =>
    bif registration.relayId != relayId then (w, .error "relay refresh token does not match relay_id")
    else bif registration.brokerRoomId != brokerRoomId then
      (w, .error "relay refresh token does not match broker_room_id")
    else
      match w.persist (w.store.removeRelayChain hash relayId brokerRoomId) facts with
      | (next, .ok ()) => (next, .ok ())
      | (_, .error reason) => (w, .error reason)

/-- `rollback_relay_enrollment_by_token`: only the registration of this very token is removed. -/
def rollbackEnrollment (relayRefreshToken : String) (facts : PlaneFacts) : PlaneWorld :=
  let hash := p.broker.sha256Hex relayRefreshToken
  bif w.store.relayRegistrationsByHash.has hash then
    (w.persist { w.store with relayRegistrationsByHash := w.store.relayRegistrationsByHash.drop hash } facts).1
  else w

/-- `restore_relay_registration`. -/
def restoreRegistration (registration : PersistedRelayRegistration) (facts : PlaneFacts) : PlaneWorld :=
  let cleared :=
    match registration.relayVerifyKey with
    | some key => (w.store.removeRelayRegistrationByVerifyKey key).1
    | none => w.store
  (w.persist (cleared.putRelayRegistration registration) facts).1

/-- `issue_device_ws_token`, with the grant it issues a token for. The activity marker is no save of its own. -/
def issueDeviceWsToken (bearerToken : String) (expectedRoom : Option String) (now : Nat) :
    PlaneWorld × Except String PersistedDeviceGrant :=
  match w.findCredential p .device bearerToken now with
  | some (.device primaryHash grant) =>
    bif expectedRoom.any (· != grant.brokerRoomId) then (w, .error "device refresh token is invalid")
    else
      let store := bif PublicControlStateStore.shouldTouchLastSeen grant.lastSeen now then w.store.touchDevice primaryHash now
        else w.store
      ({ w with store := store }, .ok grant)
  | _ => (w, .error "device refresh token is invalid")

/-- The checks of `issue_client_grant`, and what it keeps of the request. -/
def checkClientGrant (request : ClientGrantRequest) : Except String ClientGrantRequest := do
  let key := trim request.clientVerifyKey
  if key.isEmpty then .error "client verify key is required" else .ok ()
  let _ ← p.keys.parseRelayVerifyingKey key
  checkIdLength "device_id" request.deviceId
  .ok { request with
    clientVerifyKey := key
    clientLabel := request.clientLabel.bind compactLabel
    deviceLabel := request.deviceLabel.bind compactLabel }

end PlaneWorld

/-- One section under the lock of the state, or of the claims. -/
inductive PlaneMove
  | passes
  | restarts
  /-- A relay has proved its key, or its enrollment is undone. -/
  | enroll (k : Nat) (relayVerifyKey : String) (relayLabel : Option String)
  | snapshot (k : Nat) (relayVerifyKey : String)
  | rollback (relayRefreshToken : String) (facts : PlaneFacts)
  | issueDeviceGrant (k : Nat) (bearerToken : String) (request : DeviceGrantRequest) (deviceLimit : Option Nat)
  | issueClientGrant (k : Nat) (bearerToken : String) (request : ClientGrantRequest)
  | claimClientIdentity (k : Nat) (claimId signature : String) (now checkedAt : Nat)
  | createRefreshChallenge (request : CredentialRefreshChallengeRequest) (origin : String) (quotaKey : Option String)
    (facts : PlaneFacts)
  | refreshCredentials (k : Nat) (request : CredentialRefreshRequest) (origin : String) (now : Nat)
  | rotateClientIdentity (bearerToken : String) (facts : PlaneFacts)
  | issueDeviceWsToken (bearerToken : String) (expectedRoom : Option String) (now : Nat)
  | revokeDeviceGrant (k : Nat) (bearerToken relayId brokerRoomId deviceId : String)
  | revokeOtherDeviceGrants (k : Nat) (bearerToken relayId brokerRoomId keepDeviceId : String)
  | revokeClientIdentity (k : Nat) (bearerToken : String) (now : Nat)
  | revokeRelayRegistrationChain (bearerToken relayId brokerRoomId : String) (facts : PlaneFacts)
  /-- A call goes on under the lock. -/
  | goesOn (k : Nat) (facts : PlaneFacts)

namespace PlaneMove

variable (p : Plane)

/-- A call starts, where its bearer is admitted. -/
def admits (w : PlaneWorld) (k : Nat) {Admitted : Type} (call : Admitted → PlaneCall) : Except String Admitted → PlaneWorld
  | .ok admitted => w.proceed k (some (call admitted))
  | .error _ => w

/-- What a call does under the lock. -/
def finish (w : PlaneWorld) (facts : PlaneFacts) : PlaneCall → PlaneWorld
  | .enrolling key label => (w.enrollRelay p key label facts).1
  | .restoring registration => w.restoreRegistration registration facts
  | .granting registration deviceId limit => (w.grantDevice p registration deviceId limit facts).1
  | .attesting registration request => w.attestClient registration request facts
  | .claiming claim => (w.claimClient p claim facts).1
  | .refreshing challenge key => (w.refreshCredentials p challenge key facts).1
  | .revokingDevice registration deviceId => (w.revokeDevice registration deviceId facts).1
  | .revokingOthers registration keep => (w.revokeOthers registration keep facts).1
  | .revokingClient client => (w.revokeClient client facts).1

def run (w : PlaneWorld) : PlaneMove → PlaneWorld
  | passes => { w with unix := w.unix + 1 }
  | restarts =>
    { w with store := w.file, pendingClientClaims := ∅, pendingCredentialRefreshes := ∅, calls := ∅ }
  | enroll k key label => w.proceed k (some (.enrolling key label))
  | snapshot k key =>
    match w.store.registrationForVerifyKey key with
    | some registration => w.proceed k (some (.restoring registration))
    | none => w
  | rollback token facts => w.rollbackEnrollment p token facts
  | issueDeviceGrant k bearer request limit =>
    admits w k (fun registration => .granting registration request.deviceId limit) (do
      let registration ← w.authenticateRelay p bearer request.relayId request.brokerRoomId
      checkIdLength "device_id" request.deviceId
      .ok registration)
  | issueClientGrant k bearer request =>
    admits w k (fun admitted : PersistedRelayRegistration × ClientGrantRequest => .attesting admitted.1 admitted.2) (do
      let registration ← w.authenticateRelay p bearer request.relayId request.brokerRoomId
      let checked ← PlaneWorld.checkClientGrant p request
      .ok (registration, checked))
  | claimClientIdentity k claimId signature now checkedAt =>
    let (taken, claim) := w.takeClaim p claimId signature now checkedAt
    admits taken k .claiming claim
  | createRefreshChallenge request origin quotaKey facts =>
    { w with
      pendingCredentialRefreshes := (createCredentialRefreshChallenge p.keys w.store w.pendingCredentialRefreshes
        { now := facts.now, idToken := facts.idToken, nonceToken := facts.nonceToken } request origin quotaKey).2 }
  | refreshCredentials k request origin now =>
    let key := ((w.pendingCredentialRefreshes.get request.challengeId).map (·.clientVerifyKey)).getD ""
    let (challenge, pending) := takeRefresh p.keys w.pendingCredentialRefreshes now request origin
    admits { w with pendingCredentialRefreshes := pending } k (fun challenge => .refreshing challenge key) challenge
  | rotateClientIdentity bearer facts => (w.rotateClient p bearer facts).1
  | issueDeviceWsToken bearer room now => (w.issueDeviceWsToken p bearer room now).1
  | revokeDeviceGrant k bearer relayId room deviceId =>
    admits w k (fun registration => .revokingDevice registration deviceId) (w.authenticateRelay p bearer relayId room)
  | revokeOtherDeviceGrants k bearer relayId room keep =>
    admits w k (fun registration => .revokingOthers registration keep) (w.authenticateRelay p bearer relayId room)
  | revokeClientIdentity k bearer now => admits w k .revokingClient (w.authenticateClient p bearer now)
  | revokeRelayRegistrationChain bearer relayId room facts => (w.revokeChain p bearer relayId room facts).1
  | goesOn k facts =>
    match w.calls.get k with
    | some call => (finish p w facts call).proceed k none
    | none => w

/-- Tokens that are drawn were never drawn before, and the clock is not read before its time. -/
def Draws (w : PlaneWorld) (facts : PlaneFacts) : Prop :=
  facts.now ≤ w.unix ∧
    (∀ minted ∈ w.minted, minted.hash ≠ p.broker.sha256Hex facts.token ∧ minted.hash ≠ p.broker.sha256Hex facts.deviceToken) ∧
    p.broker.sha256Hex facts.token ≠ p.broker.sha256Hex facts.deviceToken

instance (w : PlaneWorld) (facts : PlaneFacts) : Decidable (Draws p w facts) := by
  unfold Draws
  infer_instance

def May (w : PlaneWorld) : PlaneMove → Prop
  | rotateClientIdentity _ facts => Draws p w facts
  | goesOn _ facts => Draws p w facts
  | _ => True

instance (w : PlaneWorld) : (move : PlaneMove) → Decidable (move.May p w)
  | rotateClientIdentity _ facts => inferInstanceAs (Decidable (Draws p w facts))
  | goesOn _ facts => inferInstanceAs (Decidable (Draws p w facts))
  | passes | restarts | enroll .. | snapshot .. | rollback .. | issueDeviceGrant .. | issueClientGrant ..
  | claimClientIdentity .. | createRefreshChallenge .. | refreshCredentials .. | issueDeviceWsToken ..
  | revokeDeviceGrant .. | revokeOtherDeviceGrants .. | revokeClientIdentity .. | revokeRelayRegistrationChain .. =>
    inferInstanceAs (Decidable True)

end PlaneMove

/-- The states that a broker gets into, from an empty store. -/
abbrev PlaneReached (p : Plane) (w : PlaneWorld) : Prop :=
  Reaches (PlaneMove.run p) (fun w move => move.May p w) .start w

end Sealwire.Control

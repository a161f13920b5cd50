import Mathlib.Algebra.Group.Nat.Defs
import Sealwire.Control.Store
import Sealwire.Lib.Joined

namespace Sealwire.Control

structure CredentialRefreshChallengeRequest where
  clientId : String
  brokerRoomId : Option String
  deviceId : Option String
  nonce : String
  signature : String
  deriving DecidableEq, Repr

structure CredentialRefreshChallengeResponse where
  brokerOrigin : String
  challengeId : String
  nonce : String
  clientId : String
  brokerRoomId : Option String
  deviceId : Option String
  expiresAt : Nat
  deriving DecidableEq, Repr

structure CredentialRefreshRequest where
  challengeId : String
  signature : String
  deriving DecidableEq, Repr

structure PendingCredentialRefresh where
  quotaKey : String
  challenge : CredentialRefreshChallengeResponse
  clientVerifyKey : String
  requestNonce : String
  deriving DecidableEq, Repr

abbrev PendingRefreshes := Table String PendingCredentialRefresh

/-- The fields of a `format!`, with a colon between them. -/
def colonJoined (fields : List String) : String := String.ofList (joined ':' (fields.map String.toList))

def credentialRefreshMessage (challenge : CredentialRefreshChallengeResponse) : String :=
  "agent-relay:credential-refresh:" ++
    colonJoined [challenge.brokerOrigin, challenge.challengeId, challenge.nonce, challenge.clientId,
      challenge.brokerRoomId.getD "", challenge.deviceId.getD ""]

def credentialRefreshInitMessage (request : CredentialRefreshChallengeRequest) (origin : String) : String :=
  "agent-relay:credential-refresh-init:" ++
    colonJoined [origin, request.clientId, request.brokerRoomId.getD "", request.deviceId.getD "", request.nonce]

/-- The keys and signatures of the broker and its clients. -/
structure Keys where
  VerifyingKey : Type
  Signature : Type
  /-- The verify key that a client id seals, or that the legacy table has for it. -/
  clientKey : String → Option String
  decodeSignature : String → Option Signature
  parseRelayVerifyingKey : String → Except String VerifyingKey
  verify : VerifyingKey → String → Signature → Bool

def maxIdBytes : Nat := 128

def maxPendingRefreshesPerClient : Nat := 4

def maxPendingRefreshesPerQuota : Nat := 64

def defaultClientClaimTtlSecs : Nat := 300

def refreshInvalid : String := "credential refresh is invalid"

def checkIdLength (name value : String) : Except String Unit :=
  if value.utf8ByteSize > maxIdBytes then .error (name ++ " is too long") else .ok ()

/-- A check of the refresh endpoint. -/
def orInvalid {α : Type} : Option α → Except String α
  | some value => .ok value
  | none => .error refreshInvalid

def requireValid (valid : Bool) : Except String Unit := if valid then .ok () else .error refreshInvalid

/-- `u64::saturating_add`. -/
def saturatingAdd (a b : Nat) : Nat := min (a + b) (2 ^ 64 - 1)

namespace Keys

variable (keys : Keys)

def verifies (clientVerifyKey message signature : String) : Except String Unit := do
  let decoded ← orInvalid (keys.decodeSignature signature)
  let key ← keys.parseRelayVerifyingKey clientVerifyKey
  requireValid (keys.verify key message decoded)

def refreshChallengeSubject (request : CredentialRefreshChallengeRequest) (origin : String) : Option String :=
  match keys.clientKey request.clientId with
  | none => none
  | some key =>
    match keys.verifies key (credentialRefreshInitMessage request origin) request.signature with
    | .ok () => some request.clientId
    | .error _ => none

end Keys

namespace PublicControlStateStore

variable (store : PublicControlStateStore)

def refreshDeviceForClient (clientId room : String) :
    Except String (PersistedDeviceGrant × PersistedRelayRegistration) := do
  let (_, clientGrant) ← orInvalid (store.clientRelayGrantsByKey.pairs.find? fun (_, grant) =>
    grant.clientId == clientId && grant.brokerRoomId == room)
  let (_, device) ← orInvalid (store.grantsByHash.pairs.find? fun (_, grant) =>
    grant.relayId == clientGrant.relayId && grant.brokerRoomId == room && grant.deviceId == clientGrant.deviceId)
  let (_, registration) ← orInvalid (store.relayRegistrationsByHash.pairs.find? fun (_, registration) =>
    registration.relayId == clientGrant.relayId && registration.brokerRoomId == room)
  .ok (device, registration)

/-- The earlier grant; of two of one second that of the smaller relay id. -/
def earlierGrant (best : Option PersistedClientRelayGrant) (grant : PersistedClientRelayGrant) :
    Option PersistedClientRelayGrant :=
  match best with
  | none => some grant
  | some best =>
    if grant.grantedAt < best.grantedAt ∨ (grant.grantedAt = best.grantedAt ∧ grant.relayId < best.relayId) then
      some grant
    else some best

def clientQuotaRelay (clientId : String) : Option String :=
  let grants := (store.clientRelayGrantsByKey.pairs.map (·.2)).filter fun grant => grant.clientId == clientId &&
    store.relayRegistrationsByHash.pairs.any fun (_, relay) =>
      relay.relayId == grant.relayId && relay.brokerRoomId == grant.brokerRoomId
  (grants.foldl earlierGrant none).map (·.relayId)

/-- The device that the request may name, if it names a room. -/
def refreshDevice (clientId : String) : Option String → Except String (Option String)
  | none => .ok none
  | some room => (store.refreshDeviceForClient clientId room).map fun (device, _) => some device.deviceId

end PublicControlStateStore

/-- What the broker checks before it hands out a challenge, and the device the challenge is
for. `store` is what the lookup of the client id shows. -/
def admitRefresh (keys : Keys) (store : PublicControlStateStore) (request : CredentialRefreshChallengeRequest)
    (origin : String) : Except String (PersistedClientIdentity × Option String) := do
  checkIdLength "client_id" request.clientId
  checkIdLength "nonce" request.nonce
  requireValid (request.nonce ≠ "")
  request.brokerRoomId.elim (.ok ()) (checkIdLength "broker_room_id")
  requireValid (keys.refreshChallengeSubject request origin).isSome
  let client ← orInvalid (store.clientIdentityForId request.clientId)
  -- Pairing metadata and challenge capacity belong only to the key holder.
  keys.verifies client.clientVerifyKey (credentialRefreshInitMessage request origin) request.signature
  let deviceId ← store.refreshDevice client.clientId request.brokerRoomId
  requireValid (request.deviceId.isNone || request.deviceId = deviceId)
  .ok (client, deviceId)

/-- What the broker draws for a challenge. -/
structure RefreshDraw where
  now : Nat
  idToken : String
  nonceToken : String
  deriving DecidableEq, Repr

/-- The pending refreshes with the challenge, or why there is none. -/
def createCredentialRefreshChallenge (keys : Keys) (store : PublicControlStateStore) (pending : PendingRefreshes)
    (draw : RefreshDraw) (request : CredentialRefreshChallengeRequest) (origin : String) (quotaKey : Option String) :
    Except String CredentialRefreshChallengeResponse × PendingRefreshes :=
  match admitRefresh keys store request origin with
  | .error message => (.error message, pending)
  | .ok (client, deviceId) =>
    let quotaKey := quotaKey.getD (((store.clientQuotaRelay client.clientId).map ("relay:" ++ ·)).getD
      ("client:" ++ client.clientId))
    let challenge : CredentialRefreshChallengeResponse :=
      { brokerOrigin := origin, challengeId := "crf-" ++ draw.idToken, nonce := draw.nonceToken,
        clientId := client.clientId, brokerRoomId := request.brokerRoomId, deviceId,
        expiresAt := saturatingAdd draw.now defaultClientClaimTtlSecs }
    let pending := pending.retain fun _ entry => entry.challenge.expiresAt > draw.now
    let clientPending := (pending.pairs.map (·.2)).filter fun entry => entry.challenge.clientId == challenge.clientId
    match clientPending.find? fun entry => entry.requestNonce == request.nonce &&
        entry.challenge.brokerOrigin == origin && entry.challenge.brokerRoomId == challenge.brokerRoomId with
    | some existing => (.ok existing.challenge, pending)
    | none =>
      if clientPending.length ≥ maxPendingRefreshesPerClient then
        (.error "too many pending credential refreshes for this client; retry shortly", pending)
      else if ((pending.pairs.map (·.2)).filter fun entry => entry.quotaKey == quotaKey).length ≥
          maxPendingRefreshesPerQuota then
        (.error "too many pending credential refreshes for this account; retry shortly", pending)
      else
        (.ok challenge, pending.put challenge.challengeId
          { quotaKey, challenge, clientVerifyKey := client.clientVerifyKey, requestNonce := request.nonce })

/-- The part of `refresh_credentials` that decides whose refresh the request completes. -/
def takeRefresh (keys : Keys) (pending : PendingRefreshes) (now : Nat) (request : CredentialRefreshRequest)
    (origin : String) : Except String CredentialRefreshChallengeResponse × PendingRefreshes :=
  let pending := pending.retain fun _ entry => entry.challenge.expiresAt > now
  match pending.get request.challengeId with
  | none => (.error "credential refresh challenge is unavailable; request a new challenge", pending)
  | some entry =>
    let pending := pending.drop request.challengeId
    if entry.challenge.brokerOrigin ≠ origin then (.error refreshInvalid, pending)
    else
      match keys.verifies entry.clientVerifyKey (credentialRefreshMessage entry.challenge) request.signature with
      | .error message => (.error message, pending)
      | .ok () => (.ok entry.challenge, pending)

end Sealwire.Control

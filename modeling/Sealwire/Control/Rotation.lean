import Sealwire.Control.Credentials
import Sealwire.Control.Refresh
import Sealwire.Lib.Rotating

namespace Sealwire.Control

def maxSupersededTokens : Nat := 16

def maxClientIdentitiesPerRelay : Nat := 64

/-- Each earlier replacement keeps its deadline, so that later rotations cannot extend old access. -/
def carrySuperseded (previous : List SupersededToken) (rotatedHash : String) (now graceSecs : Nat) :
    List SupersededToken :=
  let kept := (previous.filter fun token => token.expiresAt > now && token.refreshTokenHash != rotatedHash) ++
    [{ refreshTokenHash := rotatedHash, expiresAt := saturatingAdd now graceSecs }]
  if kept.length > maxSupersededTokens then kept.drop (kept.length - maxSupersededTokens) else kept

section Removals

variable {Row : Type}

def removeMatchingEntries (rows : Table String Row) (targets : Row → Bool) : Table String Row × Nat :=
  (rows.retain fun _ row => !targets row, (rows.pairs.filter fun (_, row) => targets row).length)

/-- The device ids are those of a `BTreeSet`: sorted, each once. -/
def collectRemovedDeviceIds (rows : Table String Row) (deviceId : Row → Option String) : Table String Row × List String :=
  (rows.retain fun _ row => (deviceId row).isNone,
    ((rows.pairs.filterMap fun (_, row) => deviceId row).dedup).mergeSort fun a b => decide (a ≤ b))

end Removals

def matchesOptionalRelayTarget (actualRelayId actualBrokerRoomId actualDeviceId relayId : String)
    (brokerRoomId deviceId : Option String) : Bool :=
  actualRelayId == relayId && (brokerRoomId.map (· == actualBrokerRoomId)).getD true &&
    (deviceId.map (· == actualDeviceId)).getD true

def clientRelayGrantKey (clientId relayId : String) : String :=
  clientId ++ ":" ++ relayId

namespace PublicControlStateStore

variable (store : PublicControlStateStore)

def countDeviceGrantsForRelay (relayId : String) : Nat :=
  (store.grantsByHash.pairs.filter fun (_, grant) => grant.relayId == relayId).length

def hasDeviceGrant (relayId : String) (brokerRoomId : Option String) (deviceId : String) : Bool :=
  store.grantsByHash.pairs.any fun (_, grant) =>
    matchesOptionalRelayTarget grant.relayId grant.brokerRoomId grant.deviceId relayId brokerRoomId (some deviceId)

def removeDeviceGrants (relayId : String) (brokerRoomId deviceId : Option String) : PublicControlStateStore × Nat :=
  let (rows, removed) := removeMatchingEntries store.grantsByHash fun grant =>
    matchesOptionalRelayTarget grant.relayId grant.brokerRoomId grant.deviceId relayId brokerRoomId deviceId
  ({ store with grantsByHash := rows }, removed)

def removeClientRelayGrants (relayId : String) (brokerRoomId deviceId : Option String) :
    PublicControlStateStore × Nat :=
  let (rows, removed) := removeMatchingEntries store.clientRelayGrantsByKey fun grant =>
    matchesOptionalRelayTarget grant.relayId grant.brokerRoomId grant.deviceId relayId brokerRoomId deviceId
  ({ store with clientRelayGrantsByKey := rows }, removed)

def removeClientRelayGrantsByClientId (clientId : String) : PublicControlStateStore × Nat :=
  let (rows, removed) := removeMatchingEntries store.clientRelayGrantsByKey fun grant => grant.clientId == clientId
  ({ store with clientRelayGrantsByKey := rows }, removed)

def removeAllOtherDeviceGrants (relayId brokerRoomId keepDeviceId : String) : PublicControlStateStore × List String :=
  let (rows, removed) := collectRemovedDeviceIds store.grantsByHash fun grant =>
    bif grant.relayId == relayId && grant.brokerRoomId == brokerRoomId && grant.deviceId != keepDeviceId then
      some grant.deviceId
    else none
  ({ store with grantsByHash := rows }, removed)

def removeAllOtherClientRelayGrants (relayId brokerRoomId keepDeviceId : String) :
    PublicControlStateStore × List String :=
  let (rows, removed) := collectRemovedDeviceIds store.clientRelayGrantsByKey fun grant =>
    bif grant.relayId == relayId && grant.brokerRoomId == brokerRoomId && grant.deviceId != keepDeviceId then
      some grant.deviceId
    else none
  ({ store with clientRelayGrantsByKey := rows }, removed)

def removeClientIdentityByClientId (clientId : String) : PublicControlStateStore × Nat :=
  let (rows, removed) := removeMatchingEntries store.clientRegistrationsByHash fun client => client.clientId == clientId
  ({ store with clientRegistrationsByHash := rows }, removed)

def removeRelayRegistrationByVerifyKey (relayVerifyKey : String) : PublicControlStateStore × Nat :=
  let (rows, removed) := removeMatchingEntries store.relayRegistrationsByHash fun registration =>
    registration.relayVerifyKey == some relayVerifyKey
  ({ store with relayRegistrationsByHash := rows }, removed)

def registrationForVerifyKey (relayVerifyKey : String) : Option PersistedRelayRegistration :=
  (store.relayRegistrationsByHash.pairs.find? fun (_, registration) =>
    registration.relayVerifyKey == some relayVerifyKey).map (·.2)

def clientIdentityForVerifyKey (clientVerifyKey : String) : Option PersistedClientIdentity :=
  (store.clientRegistrationsByHash.pairs.find? fun (_, client) => client.clientVerifyKey == clientVerifyKey).map (·.2)

def putRelayRegistration (registration : PersistedRelayRegistration) : PublicControlStateStore :=
  { store with
    relayRegistrationsByHash := store.relayRegistrationsByHash.put registration.refreshTokenHash registration }

def putDeviceGrant (grant : PersistedDeviceGrant) : PublicControlStateStore :=
  { store with grantsByHash := store.grantsByHash.put grant.refreshTokenHash grant }

def putClientIdentity (identity : PersistedClientIdentity) : PublicControlStateStore :=
  { store with clientRegistrationsByHash := store.clientRegistrationsByHash.put identity.refreshTokenHash identity }

def upsertClientRelayGrant (grant : PersistedClientRelayGrant) : PublicControlStateStore :=
  { store with
    clientRelayGrantsByKey := store.clientRelayGrantsByKey.put (clientRelayGrantKey grant.clientId grant.relayId) grant }

/-- The keys that an earlier row of the device leaves behind, for a while. -/
def supersededByDevice (relayId deviceId : String) (now graceSecs : Nat) : List SupersededToken :=
  match store.grantsByHash.pairs.find? fun (_, grant) => grant.relayId == relayId && grant.deviceId == deviceId with
  | some (_, previous) => carrySuperseded previous.superseded previous.refreshTokenHash now graceSecs
  | none => []

/-- `issue_device_grant` once it holds the lock: a net-new device has to fit under the limit. -/
def grantDevice (registration : PersistedRelayRegistration) (deviceId : String) (deviceLimit : Option Nat)
    (refreshTokenHash : String) (createdAt graceSecs : Nat) : Except String PublicControlStateStore :=
  let full := !store.hasDeviceGrant registration.relayId none deviceId &&
    deviceLimit.any fun limit => decide (limit ≤ store.countDeviceGrantsForRelay registration.relayId)
  bif full then
    .error ("device limit reached: this relay allows " ++ toString (deviceLimit.getD 0)
      ++ " device(s); remove a device to add a new one")
  else
    let superseded := store.supersededByDevice registration.relayId deviceId createdAt graceSecs
    .ok ((store.removeDeviceGrants registration.relayId none (some deviceId)).1.putDeviceGrant
      { relayId := registration.relayId
        brokerRoomId := registration.brokerRoomId
        deviceId := deviceId
        refreshTokenHash := refreshTokenHash
        createdAt := createdAt
        lastSeen := some createdAt
        superseded := superseded })

/-- A new identity, or a new key for the one the verify key has. `newId` seals the verify key. -/
def issueOrRotateClientIdentity (newId : String → String) (clientVerifyKey : String) (clientLabel : Option String)
    (refreshTokenHash : String) (createdAt graceSecs : Nat) : PublicControlStateStore × String :=
  match store.clientIdentityForVerifyKey clientVerifyKey with
  | some existing =>
    ((store.removeClientIdentityByClientId existing.clientId).1.putClientIdentity
      { clientId := existing.clientId
        clientVerifyKey := clientVerifyKey
        refreshTokenHash := refreshTokenHash
        createdAt := createdAt
        clientLabel := clientLabel.or existing.clientLabel
        superseded := carrySuperseded existing.superseded existing.refreshTokenHash createdAt graceSecs },
      existing.clientId)
  | none =>
    (store.putClientIdentity
      { clientId := newId clientVerifyKey
        clientVerifyKey := clientVerifyKey
        refreshTokenHash := refreshTokenHash
        createdAt := createdAt
        clientLabel := clientLabel
        superseded := [] },
      newId clientVerifyKey)

/-- The keys that the live rows of a client leave behind. -/
def supersededByClient (clientId : String) (now graceSecs : Nat) : List SupersededToken :=
  (store.clientRegistrationsByHash.pairs.filter fun (_, client) => client.clientId == clientId).foldl
    (fun superseded (_, client) =>
      carrySuperseded (client.superseded ++ superseded) client.refreshTokenHash now graceSecs) []

def rotateClientIdentity (client : PersistedClientIdentity) (refreshTokenHash : String) (now graceSecs : Nat) :
    PublicControlStateStore :=
  (store.removeClientIdentityByClientId client.clientId).1.putClientIdentity
    { client with
      refreshTokenHash := refreshTokenHash
      superseded := store.supersededByClient client.clientId now graceSecs }

/-- `claim_client_identity` once it holds the lock. -/
def tooManyClients (relayId : String) (existingId : Option String) : Bool :=
  let grants := store.clientRelayGrantsByKey.pairs.filter fun (_, grant) => grant.relayId == relayId
  decide (maxClientIdentitiesPerRelay ≤ grants.length) && !grants.any fun (_, grant) => some grant.clientId == existingId

/-- `rotate_signed_credentials`: the client's own key changes, and the named device's with it. -/
def rotateSignedCredentials (challenge : CredentialRefreshChallengeResponse) (clientVerifyKey : String)
    (clientTokenHash deviceTokenHash : String) (now graceSecs : Nat) : Except String PublicControlStateStore := do
  let client ← orInvalid ((store.clientIdentityForId challenge.clientId).filter fun client =>
    client.clientVerifyKey == clientVerifyKey)
  match challenge.brokerRoomId with
  | none => .ok (store.rotateClientIdentity client clientTokenHash now graceSecs)
  | some room =>
    let (device, _) ← store.refreshDeviceForClient client.clientId room
    requireValid (some device.deviceId = challenge.deviceId)
    let rotated := store.rotateClientIdentity client clientTokenHash now graceSecs
    .ok ({ rotated with grantsByHash := rotated.grantsByHash.drop device.refreshTokenHash }.putDeviceGrant
      { device with
        superseded := carrySuperseded device.superseded device.refreshTokenHash now graceSecs
        refreshTokenHash := deviceTokenHash
        createdAt := now
        lastSeen := some now })

/-- Everything of the relay in this room. -/
def removeRelayChain (tokenHash relayId brokerRoomId : String) : PublicControlStateStore :=
  let unregistered := { store with
    relayRegistrationsByHash := (store.relayRegistrationsByHash.drop tokenHash).retain fun _ registration =>
      !(registration.relayId == relayId && registration.brokerRoomId == brokerRoomId) }
  ((unregistered.removeDeviceGrants relayId (some brokerRoomId) none).1.removeClientRelayGrants relayId
    (some brokerRoomId) none).1

/-- The throttle window of the activity marker. -/
def lastSeenThrottleSecs : Nat := 3600

def shouldTouchLastSeen (lastSeen : Option Nat) (now : Nat) : Bool :=
  match lastSeen with
  | none => true
  | some previous => decide (lastSeenThrottleSecs ≤ now - previous)

def touchDevice (hash : String) (now : Nat) : PublicControlStateStore :=
  { store with grantsByHash := store.grantsByHash.modify hash fun grant => { grant with lastSeen := some now } }

end PublicControlStateStore

end Sealwire.Control

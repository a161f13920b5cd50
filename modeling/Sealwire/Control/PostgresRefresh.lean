import Sealwire.Control.PlaneRuns
import Sealwire.Control.Saves

namespace Sealwire.Control

/-- The row that a query selects, of those that are locked for it. -/
def selectRow {K Row : Type} [DecidableEq K] (rows : Table K Row) (wanted : Row → Bool) : Except String Row :=
  orInvalid ((rows.pairs.find? fun entry => wanted entry.2).map (·.2))

/-- The rows that a signed refresh reads in its transaction. -/
def ControlTables.refreshRows (db : ControlTables) (challenge : CredentialRefreshChallengeResponse) (clientVerifyKey : String) :
    Except String PublicControlStateStore :=
  match challenge.brokerRoomId with
  | none => do
    let client ← selectRow db.clientIdentities fun client => client.clientId == challenge.clientId
    requireValid (client.clientVerifyKey == clientVerifyKey)
    .ok (({} : PublicControlStateStore).putClientIdentity client)
  | some room => do
    let relay ← selectRow db.relayRegistrations fun relay => relay.brokerRoomId == room
    let client ← selectRow db.clientIdentities fun client => client.clientId == challenge.clientId
    requireValid (client.clientVerifyKey == clientVerifyKey)
    let device ← selectRow db.deviceGrants fun grant =>
      grant.relayId == relay.relayId && grant.brokerRoomId == room && some grant.deviceId == challenge.deviceId
    let grant ← selectRow db.clientRelayGrants fun grant =>
      grant.clientId == challenge.clientId && grant.relayId == relay.relayId && grant.brokerRoomId == room
    .ok (((({} : PublicControlStateStore).putRelayRegistration relay).putClientIdentity client).putDeviceGrant
      device |>.upsertClientRelayGrant grant)

/-- A hash that was put into a store, and whom it stands for. -/
structure IssuedHash where
  hash : String
  seat : Seat
  deriving DecidableEq, Repr

namespace PublicControlStateStore

variable (store : PublicControlStateStore) (challenge : CredentialRefreshChallengeResponse)

/-- The hashes that a signed refresh puts into the store. -/
def refreshedHashes (hash deviceHash : String) : List IssuedHash :=
  let client : IssuedHash := { hash := hash, seat := .client challenge.clientId }
  match challenge.brokerRoomId with
  | none => [client]
  | some room =>
    match store.refreshDeviceForClient challenge.clientId room with
    | .ok (device, _) => [{ hash := deviceHash, seat := savedDevices.who device }, client]
    | .error _ => [client]

theorem refreshedHashes_sublist (hash deviceHash : String) :
    ((store.refreshedHashes challenge hash deviceHash).map (·.hash)).Sublist [deviceHash, hash] := by
  have client_alone : List.Sublist [hash] [deviceHash, hash] := List.sublist_cons_self deviceHash [hash]
  unfold refreshedHashes
  dsimp only
  split
  · exact client_alone
  · split
    · exact .refl _
    · exact client_alone

end PublicControlStateStore

structure RefreshedTables where
  refreshed : PublicControlStateStore
  issued : List IssuedHash
  tables : ControlTables

/-- The transaction of `refresh_postgres_credentials`. -/
def ControlTables.refresh (p : Plane) (db : ControlTables) (challenge : CredentialRefreshChallengeResponse)
    (clientVerifyKey hash deviceHash : String) (now : Nat) : Except String RefreshedTables := do
  let previous ← db.refreshRows challenge clientVerifyKey
  let refreshed ← previous.rotateSignedCredentials challenge clientVerifyKey hash deviceHash now p.rotationGraceSecs
  match persistDelta previous refreshed db with
  | .ok tables =>
    .ok { refreshed := refreshed, issued := previous.refreshedHashes challenge hash deviceHash, tables := tables }
  | .error _ => .error persistenceFailed

/-- What is in memory of the client and of the device that a refresh names. -/
structure RefreshCacheRecords where
  client : Option PersistedClientIdentity
  device : Option PersistedDeviceGrant
  deriving DecidableEq, Repr

namespace PublicControlStateStore

variable (store : PublicControlStateStore) (challenge : CredentialRefreshChallengeResponse)

def refreshCacheRecords : RefreshCacheRecords where
  client := store.clientIdentityForId challenge.clientId
  device :=
    (store.grantsByHash.pairs.find? fun (_, grant) =>
      some grant.brokerRoomId == challenge.brokerRoomId && some grant.deviceId == challenge.deviceId).map (·.2)

def mergeRefreshRecords (refreshed : PublicControlStateStore) : PublicControlStateStore :=
  let removed := (store.removeClientIdentityByClientId challenge.clientId).1
  let merged := { removed with
    clientRegistrationsByHash := removed.clientRegistrationsByHash.putAll refreshed.clientRegistrationsByHash }
  if challenge.brokerRoomId.isSome then
    { merged with
      grantsByHash := (merged.grantsByHash.retain fun _ grant =>
        some grant.brokerRoomId != challenge.brokerRoomId || some grant.deviceId != challenge.deviceId).putAll
          refreshed.grantsByHash }
  else merged

end PublicControlStateStore

/-- The store has no client and no device but those that the refresh names. -/
structure RefreshNames (challenge : CredentialRefreshChallengeResponse) (store : PublicControlStateStore) : Prop where
  client : ∀ key row, store.clientRegistrationsByHash.get key = some row → row.clientId = challenge.clientId
  device : ∀ key row, store.grantsByHash.get key = some row →
    some row.brokerRoomId = challenge.brokerRoomId ∧ some row.deviceId = challenge.deviceId

theorem selectRow_ok {K Row : Type} [DecidableEq K] {rows : Table K Row} {wanted : Row → Bool} {row : Row}
    (selected : selectRow rows wanted = .ok row) : ∃ key, rows.get key = some row ∧ wanted row = true := by
  obtain ⟨entry, found, rfl⟩ := Option.map_eq_some_iff.mp (of_orInvalid selected)
  exact ⟨entry.1, Table.mem_pairs_iff.mp (List.mem_of_find?_eq_some found),
    @List.find?_some _ (fun entry : K × Row => wanted entry.2) _ _ found⟩

theorem of_get_single {K Row : Type} [DecidableEq K] {key other : K} {row found : Row}
    (there : ((∅ : Table K Row).put key row).get other = some found) : other = key ∧ found = row := by
  rw [Table.get_put, Table.get_empty] at there
  split at there
  · rename_i same
    exact ⟨same, (Option.some.inj there).symm⟩
  · cases there

/-- What a signed refresh reads is in the database, and is what it names. -/
structure Scoped (db : ControlTables) (challenge : CredentialRefreshChallengeResponse) (store : PublicControlStateStore) :
    Prop where
  relays : ∀ key row, store.relayRegistrationsByHash.get key = some row →
    row.refreshTokenHash = key ∧ ∃ held, db.relayRegistrations.get held = some row
  clients : ∀ key row, store.clientRegistrationsByHash.get key = some row →
    row.refreshTokenHash = key ∧ ∃ held, db.clientIdentities.get held = some row
  devices : ∀ key row, store.grantsByHash.get key = some row →
    row.refreshTokenHash = key ∧ ∃ held, db.deviceGrants.get held = some row
  names : RefreshNames challenge store

theorem ControlTables.refreshRows_ok {db : ControlTables} {challenge : CredentialRefreshChallengeResponse} {clientVerifyKey : String}
    {store : PublicControlStateStore} (read : db.refreshRows challenge clientVerifyKey = .ok store) : Scoped db challenge store := by
  have none_there {Row : Type} {P : Prop} {key : String} {row : Row} (found : (∅ : Table String Row).get key = some row) :
      P := by
    rw [Table.get_empty] at found
    cases found
  unfold ControlTables.refreshRows at read
  split at read
  · obtain ⟨client, selected, read⟩ := bind_eq_ok read
    obtain ⟨_, -, read⟩ := bind_eq_ok read
    cases read
    obtain ⟨held, found, is_client⟩ := selectRow_ok selected
    refine ⟨fun _ _ there => none_there there, fun key row there => ?_, fun _ _ there => none_there there,
      fun key row there => ?_, fun _ _ there => none_there there⟩
    all_goals obtain ⟨rfl, rfl⟩ := of_get_single there
    · exact ⟨rfl, held, found⟩
    · exact beq_iff_eq.mp is_client
  · rename_i room is_room
    obtain ⟨relay, relay_selected, read⟩ := bind_eq_ok read
    obtain ⟨client, client_selected, read⟩ := bind_eq_ok read
    obtain ⟨_, -, read⟩ := bind_eq_ok read
    obtain ⟨device, device_selected, read⟩ := bind_eq_ok read
    obtain ⟨_, -, read⟩ := bind_eq_ok read
    cases read
    obtain ⟨relay_held, relay_found, -⟩ := selectRow_ok relay_selected
    obtain ⟨client_held, client_found, is_client⟩ := selectRow_ok client_selected
    obtain ⟨device_held, device_found, is_device⟩ := selectRow_ok device_selected
    simp only [Bool.and_eq_true, beq_iff_eq] at is_device
    refine ⟨fun key row there => ?_, fun key row there => ?_, fun key row there => ?_, fun key row there => ?_,
      fun key row there => ?_⟩
    all_goals obtain ⟨rfl, rfl⟩ := of_get_single there
    · exact ⟨rfl, relay_held, relay_found⟩
    · exact ⟨rfl, client_held, client_found⟩
    · exact ⟨rfl, device_held, device_found⟩
    · exact beq_iff_eq.mp is_client
    · exact ⟨by rw [is_room, is_device.1.2], is_device.2⟩

theorem ControlTables.refresh_ok {p : Plane} {db : ControlTables} {challenge : CredentialRefreshChallengeResponse}
    {clientVerifyKey hash deviceHash : String} {now : Nat} {made : RefreshedTables}
    (refreshed : db.refresh p challenge clientVerifyKey hash deviceHash now = .ok made) :
    ∃ previous, Scoped db challenge previous ∧
      previous.rotateSignedCredentials challenge clientVerifyKey hash deviceHash now p.rotationGraceSecs = .ok made.refreshed ∧
      made.issued = previous.refreshedHashes challenge hash deviceHash ∧
      persistDelta previous made.refreshed db = .ok made.tables := by
  obtain ⟨previous, read, rest⟩ := bind_eq_ok refreshed
  obtain ⟨next, rotated, rest⟩ := bind_eq_ok rest
  split at rest
  · rename_i tables saved
    cases rest
    exact ⟨previous, refreshRows_ok read, rotated, rfl, saved⟩
  · cases rest

/-- A refresh keeps to what it names. -/
theorem RefreshNames.rotate {challenge : CredentialRefreshChallengeResponse} {store next : PublicControlStateStore}
    {clientVerifyKey hash deviceHash : String} {now grace : Nat} (names : RefreshNames challenge store)
    (rotated : store.rotateSignedCredentials challenge clientVerifyKey hash deviceHash now grace = .ok next) :
    RefreshNames challenge next := by
  obtain ⟨was, client, found, same, -, ⟨no_room, rfl⟩ | ⟨room, device, registration, there, is_room, finds, -, held, rfl⟩⟩ :=
    StoreSound.rotateSigned_cases rotated
  all_goals refine ⟨fun key row now_there => ?_, fun key row now_there => ?_⟩
  · rcases StoreSound.now_of_put now_there with ⟨-, rfl⟩ | ⟨-, before⟩
    · exact same
    · exact names.client key row (kept_of_removeMatching before).1
  · exact names.device key row now_there
  · rcases StoreSound.now_of_put now_there with ⟨-, rfl⟩ | ⟨-, before⟩
    · exact same
    · exact names.client key row (kept_of_removeMatching before).1
  · rcases StoreSound.now_of_put now_there with ⟨-, rfl⟩ | ⟨-, before⟩
    · exact names.device there device held
    · exact names.device key row (Table.get_of_get_drop before)

end Sealwire.Control

import Sealwire.Control.Rotation
import Sealwire.Lib.DeltaSave

namespace Sealwire.Control

/-- What the database holds. A client's grant of a relay has the two for its primary key. -/
structure ControlTables where
  relayRegistrations : Table String PersistedRelayRegistration := ∅
  clientIdentities : Table String PersistedClientIdentity := ∅
  deviceGrants : Table String PersistedDeviceGrant := ∅
  clientRelayGrants : Table (String × String) PersistedClientRelayGrant := ∅

/-- Whom a credential's row stands for. -/
inductive Seat
  | relay (relayId : String)
  | client (clientId : String)
  | device (relayId brokerRoomId deviceId : String)
  deriving DecidableEq, Repr

def maxBigint : Nat := 9223372036854775807

def fitsBigint (value : Nat) : Bool :=
  decide (value ≤ maxBigint)

def savedRegistrations : SavedRows String Seat PersistedRelayRegistration where
  own := (·.refreshTokenHash)
  rekey hash registration := { registration with refreshTokenHash := hash }
  who registration := .relay registration.relayId
  clashes row other :=
    row.relayId == other.relayId || row.brokerRoomId == other.brokerRoomId ||
      row.relayVerifyKey.isSome && row.relayVerifyKey == other.relayVerifyKey
  stored registration := if fitsBigint registration.createdAt then .ok registration else .error .unfit

def savedClients : SavedRows String Seat PersistedClientIdentity where
  own := (·.refreshTokenHash)
  rekey hash client := { client with refreshTokenHash := hash }
  who client := .client client.clientId
  clashes row other := row.clientId == other.clientId || row.clientVerifyKey == other.clientVerifyKey
  stored client := if fitsBigint client.createdAt then .ok client else .error .unfit

/-- An activity marker that does not fit is left out. -/
def savedDevices : SavedRows String Seat PersistedDeviceGrant where
  own := (·.refreshTokenHash)
  rekey hash grant := { grant with refreshTokenHash := hash }
  who grant := .device grant.relayId grant.brokerRoomId grant.deviceId
  clashes row other :=
    row.relayId == other.relayId && row.brokerRoomId == other.brokerRoomId && row.deviceId == other.deviceId
  stored grant :=
    if fitsBigint grant.createdAt then .ok { grant with lastSeen := grant.lastSeen.filter fitsBigint }
    else .error .unfit

def reconcileClientRelays (prev next : Table String PersistedClientRelayGrant)
    (rows : Table (String × String) PersistedClientRelayGrant) : Table (String × String) PersistedClientRelayGrant :=
  prev.pairs.foldl (fun rows (key, grant) =>
    if next.has key then rows else rows.drop (grant.clientId, grant.relayId)) rows

def upsertClientRelays (prev next : Table String PersistedClientRelayGrant)
    (rows : Table (String × String) PersistedClientRelayGrant) :
    Except SaveFailure (Table (String × String) PersistedClientRelayGrant) :=
  next.pairs.foldlM (fun rows (key, grant) =>
    if prev.get key = some grant then .ok rows
    else if fitsBigint grant.grantedAt then .ok (rows.put (grant.clientId, grant.relayId) grant)
    else .error .unfit) rows

/-- `persist_public_control_delta`, in a transaction of its own. -/
def persistDelta (prev next : PublicControlStateStore) (db : ControlTables) : Except SaveFailure ControlTables := do
  let relays ← savedRegistrations.reconcile prev.relayRegistrationsByHash next.relayRegistrationsByHash db.relayRegistrations
  let clients ← savedClients.reconcile prev.clientRegistrationsByHash next.clientRegistrationsByHash db.clientIdentities
  let devices ← savedDevices.reconcile prev.grantsByHash next.grantsByHash db.deviceGrants
  let clientRelays := reconcileClientRelays prev.clientRelayGrantsByKey next.clientRelayGrantsByKey db.clientRelayGrants
  let relays ← savedRegistrations.upsert prev.relayRegistrationsByHash next.relayRegistrationsByHash relays
  let clients ← savedClients.upsert prev.clientRegistrationsByHash next.clientRegistrationsByHash clients
  let devices ← savedDevices.upsert prev.grantsByHash next.grantsByHash devices
  let clientRelays ← upsertClientRelays prev.clientRelayGrantsByKey next.clientRelayGrantsByKey clientRelays
  .ok
    { relayRegistrations := relays
      clientIdentities := clients
      deviceGrants := devices
      clientRelayGrants := clientRelays }

/-- `load_public_control_postgres`. -/
def ControlTables.load (db : ControlTables) : PublicControlStateStore where
  relayRegistrationsByHash := db.relayRegistrations
  clientRegistrationsByHash := db.clientIdentities
  grantsByHash := db.deviceGrants
  clientRelayGrantsByKey :=
    db.clientRelayGrants.pairs.foldl (fun rows (_, grant) => rows.put (clientRelayGrantKey grant.clientId grant.relayId) grant) ∅

/-- The maps hold the same. -/
def PublicControlStateStore.Same (store other : PublicControlStateStore) : Prop :=
  store.relayRegistrationsByHash.Same other.relayRegistrationsByHash ∧
    store.clientRegistrationsByHash.Same other.clientRegistrationsByHash ∧
    store.grantsByHash.Same other.grantsByHash ∧ store.clientRelayGrantsByKey.Same other.clientRelayGrantsByKey

instance (store other : PublicControlStateStore) : Decidable (store.Same other) :=
  inferInstanceAs (Decidable (_ ∧ _ ∧ _ ∧ _))

inductive SaveReconciliation
  | committed
  | rolledBack
  | indeterminate
  deriving DecidableEq, Repr

def classifySaveReconciliation (reconciled prev next : PublicControlStateStore) : SaveReconciliation :=
  if reconciled.Same next then .committed else if reconciled.Same prev then .rolledBack else .indeterminate

theorem savedRegistrations_plain (row stored : PersistedRelayRegistration) (fits : savedRegistrations.stored row = .ok stored) :
    stored = row := by
  simp only [savedRegistrations] at fits
  split at fits
  · exact (Except.ok.inj fits).symm
  · cases fits

theorem savedRegistrations_lawful (fact : PersistedRelayRegistration → Prop) : savedRegistrations.Lawful fact := by
  refine .ofPlain fact (fun _ _ => rfl) (fun row other alike => ?_) savedRegistrations_plain
  have id : row.relayId = other.relayId := Seat.relay.inj alike
  simp [savedRegistrations, id]

theorem savedClients_plain (row stored : PersistedClientIdentity) (fits : savedClients.stored row = .ok stored) :
    stored = row := by
  simp only [savedClients] at fits
  split at fits
  · exact (Except.ok.inj fits).symm
  · cases fits

theorem savedClients_lawful (fact : PersistedClientIdentity → Prop) : savedClients.Lawful fact := by
  refine .ofPlain fact (fun _ _ => rfl) (fun row other alike => ?_) savedClients_plain
  have id : row.clientId = other.clientId := Seat.client.inj alike
  simp [savedClients, id]

theorem savedDevices_lawful : savedDevices.Lawful fun _ => True where
  rekey _ _ := rfl
  clashes row other alike := by
    obtain ⟨relay, room, device⟩ := Seat.device.inj alike
    simp [savedDevices, relay, room, device]
  stored row stored fits := by
    simp only [savedDevices] at fits
    split at fits
    · cases fits
      exact ⟨rfl, rfl⟩
    · cases fits
  fact _ _ _ _ := trivial

/-- Each table of credentials has been saved by itself. -/
theorem persistDelta_ok {prev next : PublicControlStateStore} {db after : ControlTables}
    (saved : persistDelta prev next db = .ok after) :
    (∃ middle, savedRegistrations.reconcile prev.relayRegistrationsByHash next.relayRegistrationsByHash db.relayRegistrations =
        .ok middle ∧ savedRegistrations.upsert prev.relayRegistrationsByHash next.relayRegistrationsByHash middle =
          .ok after.relayRegistrations) ∧
    (∃ middle, savedClients.reconcile prev.clientRegistrationsByHash next.clientRegistrationsByHash db.clientIdentities =
        .ok middle ∧ savedClients.upsert prev.clientRegistrationsByHash next.clientRegistrationsByHash middle =
          .ok after.clientIdentities) ∧
    ∃ middle, savedDevices.reconcile prev.grantsByHash next.grantsByHash db.deviceGrants = .ok middle ∧
      savedDevices.upsert prev.grantsByHash next.grantsByHash middle = .ok after.deviceGrants := by
  obtain ⟨relays, reconciled_relays, rest⟩ := bind_eq_ok saved
  obtain ⟨clients, reconciled_clients, rest⟩ := bind_eq_ok rest
  obtain ⟨devices, reconciled_devices, rest⟩ := bind_eq_ok rest
  obtain ⟨_, upserted_relays, rest⟩ := bind_eq_ok rest
  obtain ⟨_, upserted_clients, rest⟩ := bind_eq_ok rest
  obtain ⟨_, upserted_devices, rest⟩ := bind_eq_ok rest
  obtain ⟨_, -, rest⟩ := bind_eq_ok rest
  cases rest
  exact ⟨⟨relays, reconciled_relays, upserted_relays⟩, ⟨clients, reconciled_clients, upserted_clients⟩,
    ⟨devices, reconciled_devices, upserted_devices⟩⟩

end Sealwire.Control

import Sealwire.Control.PostgresRefresh

namespace Sealwire.Control

/-- Where a signed refresh stands, which reads memory, does its work in the database, and goes back to memory. -/
inductive PostgresRefresh
  | begun (challenge : CredentialRefreshChallengeResponse) (clientVerifyKey : String) (cached : RefreshCacheRecords)
  | committed (challenge : CredentialRefreshChallengeResponse) (cached : RefreshCacheRecords)
    (refreshed : PublicControlStateStore)

/-- A broker on a database that it shares with others: what it works on, and what it takes the database to hold. -/
structure SharedBroker where
  store : PublicControlStateStore := {}
  lastSaved : PublicControlStateStore := {}
  needsReload : Bool := false
  /-- A save failed or went unanswered, and the look at what became of it is still to come. -/
  unsettled : Bool := false
  /-- The registrations that enrollments have looked up, to restore them if need be. -/
  snapshots : List PersistedRelayRegistration := []
  refreshes : Table Nat PostgresRefresh := ∅

/-- The name of a relay, and the key that it was made for. -/
structure NamedRelay where
  relayId : String
  relayVerifyKey : String
  deriving DecidableEq, Repr

structure SharedWorld where
  tables : ControlTables
  brokers : Nat → SharedBroker
  issued : List IssuedHash
  named : List NamedRelay

def SharedWorld.start : SharedWorld where
  tables := {}
  brokers _ := {}
  issued := []
  named := []

/-- What a call does to the store while it holds the lock, with the hashes of what it drew. -/
inductive StoreEdit
  | enroll (relayVerifyKey : String) (relayLabel : Option String) (hash newRelayId newBrokerRoomId : String) (now : Nat)
  | restore (registration : PersistedRelayRegistration)
  | rollback (hash : String)
  | grantDevice (registration : PersistedRelayRegistration) (deviceId : String) (deviceLimit : Option Nat) (hash : String)
    (now : Nat)
  | claimClient (claim : PendingClientClaim) (hash : String) (now : Nat)
  | rotateClient (primaryHash hash : String) (now : Nat)
  | revokeDevice (relayId brokerRoomId deviceId : String)
  | revokeOthers (relayId brokerRoomId keepDeviceId : String)
  | revokeClient (clientId : String)
  | revokeChain (tokenHash relayId brokerRoomId : String)
  deriving DecidableEq, Repr

namespace StoreEdit

variable (p : Plane) (store : PublicControlStateStore)

/-- A relay that enrolls again keeps its names. -/
def enrolledAs (relayVerifyKey newRelayId newBrokerRoomId : String) : String × String :=
  match store.registrationForVerifyKey relayVerifyKey with
  | some existing => (existing.relayId, existing.brokerRoomId)
  | none => (newRelayId, newBrokerRoomId)

/-- The store afterwards, and the hashes that came into it. -/
def run : StoreEdit → PublicControlStateStore × List IssuedHash
  | enroll key label hash newRelayId newRoom now =>
    let names := enrolledAs store key newRelayId newRoom
    ((store.removeRelayRegistrationByVerifyKey key).1.putRelayRegistration
      { relayId := names.1
        brokerRoomId := names.2
        refreshTokenHash := hash
        createdAt := now
        relayLabel := label
        relayVerifyKey := some key },
      [{ hash := hash, seat := .relay names.1 }])
  | restore registration =>
    let cleared :=
      match registration.relayVerifyKey with
      | some key => (store.removeRelayRegistrationByVerifyKey key).1
      | none => store
    (cleared.putRelayRegistration registration, [])
  | rollback hash => ({ store with relayRegistrationsByHash := store.relayRegistrationsByHash.drop hash }, [])
  | grantDevice registration deviceId limit hash now =>
    match store.grantDevice registration deviceId limit hash now p.rotationGraceSecs with
    | .ok next => (next, [{ hash := hash, seat := .device registration.relayId registration.brokerRoomId deviceId }])
    | .error _ => (store, [])
  | claimClient claim hash now =>
    let existingId := (store.clientIdentityForVerifyKey claim.clientVerifyKey).map (·.clientId)
    if store.tooManyClients claim.relayId existingId then (store, [])
    else
      let (issued, clientId) := store.issueOrRotateClientIdentity p.clientId claim.clientVerifyKey claim.clientLabel hash now
        p.rotationGraceSecs
      (issued.upsertClientRelayGrant
        { clientId := clientId
          relayId := claim.relayId
          brokerRoomId := claim.brokerRoomId
          deviceId := claim.deviceId
          grantedAt := now
          relayLabel := claim.relayLabel
          deviceLabel := claim.deviceLabel },
        [{ hash := hash, seat := .client clientId }])
  | rotateClient primaryHash hash now =>
    match store.clientRegistrationsByHash.get primaryHash with
    | some client =>
      (store.rotateClientIdentity client hash now p.rotationGraceSecs, [{ hash := hash, seat := .client client.clientId }])
    | none => (store, [])
  | revokeDevice relayId room deviceId =>
    let removed := (store.removeDeviceGrants relayId (some room) (some deviceId)).1
    ((removed.removeClientRelayGrants relayId (some room) (some deviceId)).1, [])
  | revokeOthers relayId room keep =>
    let removed := (store.removeAllOtherDeviceGrants relayId room keep).1
    ((removed.removeAllOtherClientRelayGrants relayId room keep).1, [])
  | revokeClient clientId =>
    let removed := (store.removeClientIdentityByClientId clientId).1
    ((removed.removeClientRelayGrantsByClientId clientId).1, [])
  | revokeChain hash relayId room => (store.removeRelayChain hash relayId room, [])

/-- The relays that get a name. -/
def names : StoreEdit → List NamedRelay
  | enroll key _ _ newRelayId _ _ =>
    match store.registrationForVerifyKey key with
    | some _ => []
    | none => [{ relayId := newRelayId, relayVerifyKey := key }]
  | _ => []

/-- The hashes that are drawn for it. -/
def drawn : StoreEdit → List String
  | enroll _ _ hash _ _ _ | grantDevice _ _ _ hash _ | claimClient _ hash _ | rotateClient _ hash _ => [hash]
  | restore _ | rollback _ | revokeDevice .. | revokeOthers .. | revokeClient _ | revokeChain .. => []

/-- The seat that a device is given. -/
def grants : StoreEdit → Option Seat
  | grantDevice registration deviceId _ _ _ => some (.device registration.relayId registration.brokerRoomId deviceId)
  | _ => none

/-- The registrations that are put back. -/
def restores : StoreEdit → List PersistedRelayRegistration
  | restore registration => [registration]
  | _ => []

end StoreEdit

/-- What comes of the transaction of a save. -/
inductive SaveOutcome
  /-- The gate admits no further operation, and nothing has been asked of the database. -/
  | busy
  | answered
  /-- The connection is lost, before or after the commit. -/
  | lost (committed : Bool)
  deriving DecidableEq, Repr

inductive SharedMove
  | restarts (i : Nat)
  | load (i : Nat)
  | snapshot (i : Nat) (relayVerifyKey : String)
  | edit (i : Nat) (change : StoreEdit)
  /-- The activity marker of a device, written past the save. -/
  | touch (i : Nat) (hash : String) (now : Nat) (written : Bool)
  | save (i : Nat) (outcome : SaveOutcome)
  | reconcile (i : Nat) (reached : Bool)
  | beginRefresh (i k : Nat) (challenge : CredentialRefreshChallengeResponse) (clientVerifyKey : String)
  | refresh (i k : Nat) (hash deviceHash : String) (now : Nat) (outcome : SaveOutcome)
  | mergeRefresh (i k : Nat)
  deriving DecidableEq, Repr

def ControlTables.touch (db : ControlTables) (hash : String) (now : Nat) : ControlTables :=
  { db with deviceGrants := db.deviceGrants.modify hash fun grant => { grant with lastSeen := some now } }

namespace SharedWorld

variable (w : SharedWorld)

def set (i : Nat) (broker : SharedBroker) : SharedWorld :=
  { w with brokers := fun j => if j = i then broker else w.brokers j }

/-- Memory and what it is compared with become what the database holds. -/
def loaded (broker : SharedBroker) : SharedBroker :=
  { broker with store := w.tables.load, lastSaved := w.tables.load, needsReload := false }

def touchTables (hash : String) (now : Nat) : SharedWorld :=
  if fitsBigint now then { w with tables := w.tables.touch hash now } else w

/-- The transaction of a save, and what its broker makes of the answer. -/
def save (i : Nat) (broker : SharedBroker) : SaveOutcome → SharedWorld
  | .busy => w.set i { broker with store := broker.lastSaved }
  | .answered =>
    match persistDelta broker.lastSaved broker.store w.tables with
    | .ok tables => { w with tables := tables }.set i { broker with lastSaved := broker.store }
    | .error _ => w.set i { broker with unsettled := true }
  | .lost committed =>
    match persistDelta broker.lastSaved broker.store w.tables with
    | .ok tables => (if committed then { w with tables := tables } else w).set i { broker with unsettled := true }
    | .error _ => w.set i { broker with unsettled := true }

/-- The look at what became of a save, which may itself fail. -/
def reconcile (broker : SharedBroker) (reached : Bool) : SharedBroker :=
  if reached then
    let reconciled := w.tables.load
    match classifySaveReconciliation reconciled broker.lastSaved broker.store with
    | .committed => { broker with lastSaved := reconciled, unsettled := false }
    | .rolledBack => { broker with store := reconciled, unsettled := false }
    | .indeterminate => { broker with store := reconciled, lastSaved := reconciled, unsettled := false }
  else { broker with needsReload := true, unsettled := false }

/-- Only a lost commit leaves it open what became of a refresh. -/
def refresh (p : Plane) (i k : Nat) (broker : SharedBroker) (challenge : CredentialRefreshChallengeResponse)
    (clientVerifyKey : String) (cached : RefreshCacheRecords) (hash deviceHash : String) (now : Nat)
    (outcome : SaveOutcome) : SharedWorld :=
  let ended := { broker with refreshes := broker.refreshes.drop k }
  match w.tables.refresh p challenge clientVerifyKey hash deviceHash now, outcome with
  | .error _, _ | .ok _, .busy => w.set i ended
  | .ok made, .answered =>
    { w with tables := made.tables, issued := made.issued ++ w.issued }.set i
      { broker with refreshes := broker.refreshes.put k (.committed challenge cached made.refreshed) }
  | .ok made, .lost committed =>
    (if committed then { w with tables := made.tables, issued := made.issued ++ w.issued } else w).set i
      { ended with needsReload := true }

/-- A revocation or a rotation of the meantime takes precedence. -/
def mergeRefresh (k : Nat) (broker : SharedBroker) (challenge : CredentialRefreshChallengeResponse)
    (cached : RefreshCacheRecords) (refreshed : PublicControlStateStore) : SharedBroker :=
  let ended := { broker with refreshes := broker.refreshes.drop k }
  if broker.store.refreshCacheRecords challenge = cached then
    { ended with
      store := broker.store.mergeRefreshRecords challenge refreshed
      lastSaved := broker.lastSaved.mergeRefreshRecords challenge refreshed }
  else { ended with needsReload := true }

end SharedWorld

namespace SharedMove

variable (p : Plane)

def run (w : SharedWorld) : SharedMove → SharedWorld
  | restarts i => w.set i { store := w.tables.load, lastSaved := w.tables.load }
  | load i => w.set i (w.loaded (w.brokers i))
  | snapshot i key =>
    match (w.brokers i).store.registrationForVerifyKey key with
    | some registration => w.set i { w.brokers i with snapshots := registration :: (w.brokers i).snapshots }
    | none => w
  | edit i change =>
    let (store, issued) := change.run p (w.brokers i).store
    { w with issued := issued ++ w.issued, named := change.names (w.brokers i).store ++ w.named }.set i
      { w.brokers i with store := store }
  | touch i hash now written =>
    (if written then w.touchTables hash now else w).set i
      { w.brokers i with store := (w.brokers i).store.touchDevice hash now }
  | save i outcome => w.save i (w.brokers i) outcome
  | reconcile i reached => w.set i (w.reconcile (w.brokers i) reached)
  | beginRefresh i k challenge key =>
    w.set i
      { w.brokers i with
        refreshes := (w.brokers i).refreshes.put k
          (.begun challenge key ((w.brokers i).store.refreshCacheRecords challenge)) }
  | refresh i k hash deviceHash now outcome =>
    match (w.brokers i).refreshes.get k with
    | some (.begun challenge key cached) => w.refresh p i k (w.brokers i) challenge key cached hash deviceHash now outcome
    | _ => w
  | mergeRefresh i k =>
    match (w.brokers i).refreshes.get k with
    | some (.committed challenge cached refreshed) =>
      w.set i (SharedWorld.mergeRefresh k (w.brokers i) challenge cached refreshed)
    | _ => w

/-- Hashes that are drawn were never drawn before, and neither were names. Whoever holds the lock of a broker keeps it
until its save is settled. -/
def May (w : SharedWorld) : SharedMove → Prop
  | restarts _ => True
  | load i => (w.brokers i).unsettled = false
  | snapshot i _ | touch i _ _ _ => (w.brokers i).unsettled = false ∧ (w.brokers i).needsReload = false
  | edit i change =>
    (w.brokers i).unsettled = false ∧ (w.brokers i).needsReload = false ∧
      (∀ issued ∈ w.issued, issued.hash ∉ change.drawn) ∧ change.drawn.Nodup ∧
      (∀ relay ∈ change.names (w.brokers i).store, ∀ named ∈ w.named, relay.relayId ≠ named.relayId) ∧
      ∀ registration ∈ change.restores, registration ∈ (w.brokers i).snapshots
  | save i _ => (w.brokers i).unsettled = false
  | reconcile i _ => (w.brokers i).unsettled = true
  | refresh _ _ hash deviceHash _ _ =>
    (∀ issued ∈ w.issued, issued.hash ∉ [deviceHash, hash]) ∧ [deviceHash, hash].Nodup
  | beginRefresh i _ _ _ | mergeRefresh i _ => (w.brokers i).unsettled = false

/-- The seat is given out by it. -/
def Grants (seat : Seat) : SharedMove → Prop
  | edit _ change => change.grants = some seat
  | _ => False

instance (seat : Seat) : (move : SharedMove) → Decidable (move.Grants seat)
  | edit _ change => inferInstanceAs (Decidable (change.grants = some seat))
  | restarts _ | load _ | snapshot _ _ | touch _ _ _ _ | save _ _ | reconcile _ _ | beginRefresh _ _ _ _
  | refresh _ _ _ _ _ _ | mergeRefresh _ _ => .isFalse id

/-- Whose move it is. -/
def broker : SharedMove → Nat
  | restarts i | load i | snapshot i _ | edit i _ | touch i _ _ _ | save i _ | reconcile i _ | beginRefresh i _ _ _
  | refresh i _ _ _ _ _ | mergeRefresh i _ => i

instance (w : SharedWorld) : (move : SharedMove) → Decidable (move.May w)
  | restarts _ => .isTrue trivial
  | load _ | snapshot _ _ | touch _ _ _ _ | edit _ _ | save _ _ | reconcile _ _ | refresh _ _ _ _ _ _
  | beginRefresh _ _ _ _ | mergeRefresh _ _ => by
    unfold May
    infer_instance

end SharedMove

/-- The states that brokers on one database get into, from empty tables. -/
abbrev SharedReached (p : Plane) (w : SharedWorld) : Prop :=
  Reaches (SharedMove.run p) (fun w move => move.May w) .start w

end Sealwire.Control

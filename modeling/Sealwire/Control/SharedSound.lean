import Sealwire.Control.Shared

namespace Sealwire.Control

def IssuedFor (issued : List IssuedHash) (hash : String) (seat : Seat) : Prop :=
  { hash := hash, seat := seat } ∈ issued

theorem IssuedFor.functional {issued : List IssuedHash} (once : (issued.map (·.hash)).Nodup) (hash : String) (one other : Seat)
    (first : IssuedFor issued hash one) (second : IssuedFor issued hash other) : one = other := by
  have same := List.inj_on_of_nodup_map once first second rfl
  exact congrArg IssuedHash.seat same

/-- The registration has the key that its relay was named for. -/
def NamedFor (named : List NamedRelay) (registration : PersistedRelayRegistration) : Prop :=
  ∃ key, registration.relayVerifyKey = some key ∧ { relayId := registration.relayId, relayVerifyKey := key } ∈ named

/-- What a store is, in a broker's memory and in the database: each row is under a hash that was issued for its seat, and no
seat has two rows. -/
structure StoreStands (p : Plane) (issued : List IssuedHash) (named : List NamedRelay) (store : PublicControlStateStore) :
    Prop where
  relays : savedRegistrations.Known (IssuedFor issued) (NamedFor named) store.relayRegistrationsByHash
  relaysApart : savedRegistrations.Apart store.relayRegistrationsByHash
  clients : savedClients.Known (IssuedFor issued) (fun client => client.clientId = p.clientId client.clientVerifyKey)
    store.clientRegistrationsByHash
  clientsApart : savedClients.Apart store.clientRegistrationsByHash
  devices : savedDevices.Known (IssuedFor issued) (fun _ => True) store.grantsByHash
  devicesApart : savedDevices.Apart store.grantsByHash

namespace StoreStands

variable {p : Plane} {issued more : List IssuedHash} {named others : List NamedRelay} {store less next : PublicControlStateStore}
  {hash : String} {now grace : Nat}

theorem empty (p : Plane) (issued : List IssuedHash) (named : List NamedRelay) : StoreStands p issued named {} :=
  ⟨.empty, .empty, .empty, .empty, .empty, .empty⟩

theorem grow (stands : StoreStands p issued named store) (grows : ∀ one ∈ issued, one ∈ more)
    (names : ∀ relay ∈ named, relay ∈ others) : StoreStands p more others store := by
  have still (hash : String) (seat : Seat) (was : IssuedFor issued hash seat) : IssuedFor more hash seat := grows _ was
  refine { stands with
    relays := (stands.relays.mono still).weaken fun row was => ?_
    clients := stands.clients.mono still
    devices := stands.devices.mono still }
  obtain ⟨key, is_key, member⟩ := was
  exact ⟨key, is_key, names _ member⟩

theorem issue (stands : StoreStands p issued named store) (one : IssuedHash) : StoreStands p (one :: issued) named store :=
  stands.grow (fun _ member => List.mem_cons_of_mem _ member) fun _ member => member

theorem fewer (stands : StoreStands p issued named store) (fewer : Fewer less store) : StoreStands p issued named less where
  relays := stands.relays.sub fewer.relays
  relaysApart := stands.relaysApart.sub fewer.relays
  clients := stands.clients.sub fewer.clients
  clientsApart := stands.clientsApart.sub fewer.clients
  devices := stands.devices.sub fewer.devices
  devicesApart := stands.devicesApart.sub fewer.devices

/-- A registration takes the place of those with its key. -/
theorem putRelay (stands : StoreStands p issued named store) (once : (named.map (·.relayId)).Nodup)
    {row : PersistedRelayRegistration} {key : String} (is_key : row.relayVerifyKey = some key)
    (is_named : { relayId := row.relayId, relayVerifyKey := key } ∈ named)
    (was_issued : IssuedFor issued row.refreshTokenHash (.relay row.relayId)) :
    StoreStands p issued named ((store.removeRelayRegistrationByVerifyKey key).1.putRelayRegistration row) := by
  have cleared := stands.fewer (Fewer.removeRelayRegistrationByVerifyKey store key)
  refine { cleared with
    relays := cleared.relays.put rfl was_issued ⟨key, is_key, is_named⟩
    relaysApart := cleared.relaysApart.put fun other held found alike => ?_ }
  -- A relay has been named for one key, and the rows with that key are gone.
  obtain ⟨was, untargeted⟩ := kept_of_removeMatching found
  obtain ⟨own_key, is_own, own_named⟩ := stands.relays.fact other held was
  have same_relay : row.relayId = held.relayId := Seat.relay.inj alike
  have same := List.inj_on_of_nodup_map once is_named own_named same_relay
  have same_key : key = own_key := congrArg NamedRelay.relayVerifyKey same
  rw [is_own, same_key, beq_self_eq_true] at untargeted
  cases untargeted

theorem putClient (stands : StoreStands p issued named store) (fewer : Fewer less store) (row : PersistedClientIdentity)
    (alone : ∀ other found, less.clientRegistrationsByHash.get other = some found → found.clientId ≠ row.clientId)
    (sealed : row.clientId = p.clientId row.clientVerifyKey) :
    StoreStands p ({ hash := row.refreshTokenHash, seat := .client row.clientId } :: issued) named (less.putClientIdentity row) := by
  have kept := (stands.fewer fewer).issue { hash := row.refreshTokenHash, seat := .client row.clientId }
  refine { kept with
    clients := kept.clients.put rfl List.mem_cons_self sealed
    clientsApart := kept.clientsApart.put fun other held found alike => ?_ }
  exact absurd (Seat.client.inj alike).symm (alone other held found)

theorem putDevice (stands : StoreStands p issued named store) (fewer : Fewer less store) (row : PersistedDeviceGrant)
    (alone : ∀ other found, less.grantsByHash.get other = some found → savedDevices.who found ≠ savedDevices.who row) :
    StoreStands p ({ hash := row.refreshTokenHash, seat := savedDevices.who row } :: issued) named (less.putDeviceGrant row) := by
  have kept := (stands.fewer fewer).issue { hash := row.refreshTokenHash, seat := savedDevices.who row }
  refine { kept with
    devices := kept.devices.put rfl List.mem_cons_self trivial
    devicesApart := kept.devicesApart.put fun other held found alike => ?_ }
  exact absurd alike.symm (alone other held found)

theorem touch (stands : StoreStands p issued named store) (hash : String) (now : Nat) :
    StoreStands p issued named (store.touchDevice hash now) :=
  { stands with
    devices := stands.devices.modify _ (fun _ => rfl) (fun _ => rfl) fun _ _ => trivial
    devicesApart := stands.devicesApart.modify _ fun _ => rfl }

theorem grantDevice (stands : StoreStands p issued named store) {registration : PersistedRelayRegistration} {deviceId : String}
    {limit : Option Nat} (granted : store.grantDevice registration deviceId limit hash now grace = .ok next) :
    StoreStands p ({ hash := hash, seat := .device registration.relayId registration.brokerRoomId deviceId } :: issued) named
      next := by
  unfold PublicControlStateStore.grantDevice at granted
  dsimp only at granted
  rw [Bool.cond_eq_ite] at granted
  split at granted
  · cases granted
  · cases granted
    let row : PersistedDeviceGrant :=
      { relayId := registration.relayId
        brokerRoomId := registration.brokerRoomId
        deviceId := deviceId
        refreshTokenHash := hash
        createdAt := now
        lastSeen := some now
        superseded := store.supersededByDevice registration.relayId deviceId now grace }
    refine stands.putDevice (Fewer.removeDeviceGrants store registration.relayId none (some deviceId)) row
      fun other found there alike => ?_
    obtain ⟨relay, -, device⟩ := Seat.device.inj alike
    have untargeted := (kept_of_removeMatching there).2
    rw [StoreSound.targets_device.mpr ⟨relay, device⟩] at untargeted
    cases untargeted

/-- No row of a client is left when its rows are removed. -/
theorem unlike_removed {clientId other : String} {found : PersistedClientIdentity}
    (there : (store.removeClientIdentityByClientId clientId).1.clientRegistrationsByHash.get other = some found) :
    found.clientId ≠ clientId := by
  intro same
  have untargeted := (kept_of_removeMatching there).2
  rw [same, beq_self_eq_true] at untargeted
  cases untargeted

theorem rotateClient (stands : StoreStands p issued named store) {key : String} {client : PersistedClientIdentity}
    (found : store.clientRegistrationsByHash.get key = some client) (hash : String) (now grace : Nat) :
    StoreStands p ({ hash := hash, seat := .client client.clientId } :: issued) named
      (store.rotateClientIdentity client hash now grace) := by
  let row : PersistedClientIdentity :=
    { client with
      refreshTokenHash := hash
      superseded := store.supersededByClient client.clientId now grace }
  exact stands.putClient (Fewer.removeClientIdentityByClientId store client.clientId) row
    (fun _ _ there => unlike_removed there) (stands.clients.fact key client found)

theorem issueOrRotate (stands : StoreStands p issued named store) (verifyKey : String) (label : Option String) :
    StoreStands p
      ({ hash := hash
         seat := .client (store.issueOrRotateClientIdentity p.clientId verifyKey label hash now grace).2 } :: issued) named
      (store.issueOrRotateClientIdentity p.clientId verifyKey label hash now grace).1 := by
  unfold PublicControlStateStore.issueOrRotateClientIdentity
  split
  · rename_i existing found
    obtain ⟨⟨was, before⟩, first, rfl⟩ := Option.map_eq_some_iff.mp found
    obtain ⟨held, is_key⟩ := found_of_pairs first
    have same_key : before.clientVerifyKey = verifyKey := beq_iff_eq.mp is_key
    have sealed : before.clientId = p.clientId verifyKey := same_key ▸ stands.clients.fact was before held
    let row : PersistedClientIdentity :=
      { clientId := before.clientId
        clientVerifyKey := verifyKey
        refreshTokenHash := hash
        createdAt := now
        clientLabel := label.or before.clientLabel
        superseded := carrySuperseded before.superseded before.refreshTokenHash now grace }
    exact stands.putClient (Fewer.removeClientIdentityByClientId store before.clientId) row
      (fun _ _ there => unlike_removed there) sealed
  · rename_i none_found
    let row : PersistedClientIdentity :=
      { clientId := p.clientId verifyKey
        clientVerifyKey := verifyKey
        refreshTokenHash := hash
        createdAt := now
        clientLabel := label
        superseded := [] }
    refine stands.putClient (Fewer.refl store) row (fun other beside there same => ?_) rfl
    -- Whoever has the sealed id has the verify key, and would have been found.
    have sealed := stands.clients.fact other beside there
    have key : beside.clientVerifyKey = verifyKey := p.clientId_injective (sealed.symm.trans same)
    have unlisted := List.find?_eq_none.mp (Option.map_eq_none_iff.mp none_found) (other, beside)
      (mem_pairs_iff.mpr there)
    simp [key] at unlisted

/-- The device of a signed refresh keeps its seat. -/
theorem renewDevice (stands : StoreStands p issued named store) {was : String} {device : PersistedDeviceGrant}
    (held : store.grantsByHash.get was = some device) (row : PersistedDeviceGrant) (same : savedDevices.who row = savedDevices.who device) :
    StoreStands p ({ hash := row.refreshTokenHash, seat := savedDevices.who row } :: issued) named
      ({ store with grantsByHash := store.grantsByHash.drop device.refreshTokenHash }.putDeviceGrant row) := by
  refine stands.putDevice (Fewer.dropDevice store device.refreshTokenHash) row fun other found there alike => ?_
  have filed : device.refreshTokenHash = was := stands.devices.filed was device held
  have dropped : (store.grantsByHash.drop device.refreshTokenHash).get other = some found := there
  have one := stands.devicesApart other found was device (Table.get_of_get_drop dropped) held (alike.trans same)
  rw [filed, Table.get_drop, if_pos one] at dropped
  cases dropped

/-- A signed refresh leaves both rows in their seats. -/
theorem rotateSigned (stands : StoreStands p issued named store) {challenge : CredentialRefreshChallengeResponse}
    {verifyKey deviceHash : String}
    (rotated : store.rotateSignedCredentials challenge verifyKey hash deviceHash now grace = .ok next) :
    StoreStands p (store.refreshedHashes challenge hash deviceHash ++ issued) named next := by
  obtain ⟨was, client, found, same, -, ⟨no_room, rfl⟩ | ⟨room, device, registration, there, is_room, finds, -, held, rfl⟩⟩ :=
    StoreSound.rotateSigned_cases rotated
  all_goals have turned := stands.rotateClient found hash now grace
  all_goals rw [same] at turned
  · simp only [PublicControlStateStore.refreshedHashes, no_room]
    exact turned
  · simp only [PublicControlStateStore.refreshedHashes, is_room, finds]
    let row : PersistedDeviceGrant :=
      { device with
        superseded := carrySuperseded device.superseded device.refreshTokenHash now grace
        refreshTokenHash := deviceHash
        createdAt := now
        lastSeen := some now }
    exact turned.renewDevice held row rfl

/-- What a signed refresh reads stands as the database does. -/
theorem ofScoped {db : ControlTables} (stands : StoreStands p issued named db.load)
    {challenge : CredentialRefreshChallengeResponse} (read : Scoped db challenge store) : StoreStands p issued named store := by
  have relays (key : String) (row : PersistedRelayRegistration) (there : store.relayRegistrationsByHash.get key = some row) :
      db.relayRegistrations.get key = some row := by
    obtain ⟨rfl, held⟩ := read.relays key row there
    exact stands.relays.found held
  have clients (key : String) (row : PersistedClientIdentity) (there : store.clientRegistrationsByHash.get key = some row) :
      db.clientIdentities.get key = some row := by
    obtain ⟨rfl, held⟩ := read.clients key row there
    exact stands.clients.found held
  have devices (key : String) (row : PersistedDeviceGrant) (there : store.grantsByHash.get key = some row) :
      db.deviceGrants.get key = some row := by
    obtain ⟨rfl, held⟩ := read.devices key row there
    exact stands.devices.found held
  exact ⟨stands.relays.sub relays, stands.relaysApart.sub relays, stands.clients.sub clients, stands.clientsApart.sub clients,
    stands.devices.sub devices, stands.devicesApart.sub devices⟩

/-- The records of a refresh take the place of those in memory. -/
theorem mergeRefreshRecords (stands : StoreStands p issued named store) {challenge : CredentialRefreshChallengeResponse}
    {refreshed : PublicControlStateStore} (fresh : StoreStands p issued named refreshed)
    (names : RefreshNames challenge refreshed) :
    StoreStands p issued named (store.mergeRefreshRecords challenge refreshed) := by
  have cleared := stands.fewer (Fewer.removeClientIdentityByClientId store challenge.clientId)
  have clients : StoreStands p issued named
      { (store.removeClientIdentityByClientId challenge.clientId).1 with
        clientRegistrationsByHash := (store.removeClientIdentityByClientId challenge.clientId).1.clientRegistrationsByHash.putAll
          refreshed.clientRegistrationsByHash } := by
    refine { cleared with
      clients := cleared.clients.putAll fresh.clients
      clientsApart := cleared.clientsApart.putAll fresh.clientsApart fun one first other second new old alike => ?_ }
    exact unlike_removed old ((Seat.client.inj alike).symm.trans (names.client one first new))
  unfold PublicControlStateStore.mergeRefreshRecords
  dsimp only
  split
  · have kept {key : String} {row : PersistedDeviceGrant} (there : (store.grantsByHash.retain fun _ grant =>
        some grant.brokerRoomId != challenge.brokerRoomId || some grant.deviceId != challenge.deviceId).get key = some row) :
        store.grantsByHash.get key = some row := Table.get_of_get_retain there
    refine { clients with
      devices := (stands.devices.sub fun _ _ there => kept there).putAll fresh.devices
      devicesApart := (stands.devicesApart.sub fun _ _ there => kept there).putAll fresh.devicesApart
        fun one first other second new old alike => ?_ }
    obtain ⟨-, room, device⟩ := Seat.device.inj alike
    obtain ⟨is_room, is_device⟩ := names.device one first new
    rw [Table.get_retain, Option.filter_eq_some_iff] at old
    simp [← room, ← device, is_room, is_device] at old
  · exact clients

/-- Who is in memory and in its snapshot is in both once the same records have been merged into them. -/
theorem seat_of_merge {saved refreshed : PublicControlStateStore} (once : (issued.map (·.hash)).Nodup)
    (was_saved : StoreStands p issued named saved) (fresh : StoreStands p issued named refreshed)
    (challenge : CredentialRefreshChallengeResponse) {seat : Seat}
    (both : savedDevices.Holds store.grantsByHash seat → savedDevices.Holds saved.grantsByHash seat)
    (holds : savedDevices.Holds (store.mergeRefreshRecords challenge refreshed).grantsByHash seat) :
    savedDevices.Holds (saved.mergeRefreshRecords challenge refreshed).grantsByHash seat := by
  unfold PublicControlStateStore.mergeRefreshRecords at holds ⊢
  dsimp only at holds ⊢
  split
  · rename_i in_room
    rw [if_pos in_room] at holds
    refine holds.putAll (IssuedFor.functional once) (was_saved.devices.sub fun _ _ there => Table.get_of_get_retain there)
      fresh.devices fun kept => ?_
    obtain ⟨key, row, there, is_seat⟩ := kept
    obtain ⟨place, before, held, before_seat⟩ := both ⟨key, row, Table.get_of_get_retain there, is_seat⟩
    obtain ⟨-, room, device⟩ := Seat.device.inj (before_seat.trans is_seat.symm)
    refine ⟨place, before, ?_, before_seat⟩
    have unnamed := (Option.filter_eq_some_iff.mp ((Table.get_retain _ _ _).symm.trans there)).2
    rw [Table.get_retain, Option.filter_eq_some_iff, room, device]
    exact ⟨held, unnamed⟩
  · rename_i no_room
    rw [if_neg no_room] at holds
    exact both holds

/-- A signed refresh brings no seat into a store. -/
theorem seat_of_rotate {challenge : CredentialRefreshChallengeResponse} {verifyKey deviceHash : String} {seat : Seat}
    (rotated : store.rotateSignedCredentials challenge verifyKey hash deviceHash now grace = .ok next)
    (holds : savedDevices.Holds next.grantsByHash seat) : savedDevices.Holds store.grantsByHash seat := by
  obtain ⟨was, client, found, same, -, ⟨no_room, rfl⟩ | ⟨room, device, registration, there, is_room, finds, -, held, rfl⟩⟩ :=
    StoreSound.rotateSigned_cases rotated
  · exact holds
  · rcases SavedRows.Holds.of_put holds with is_seat | before
    · exact ⟨there, device, held, is_seat⟩
    · exact before.sub (Fewer.dropDevice store device.refreshTokenHash).devices

end StoreStands

namespace StoreEdit

variable (p : Plane) (change : StoreEdit) (store : PublicControlStateStore)

/-- The hashes that come into a store have been drawn. -/
theorem issued_sublist : ((change.run p store).2.map (·.hash)).Sublist change.drawn := by
  cases change with
  | enroll key label hash newRelayId newRoom now => exact .refl _
  | restore registration => exact .refl _
  | rollback hash => exact .refl _
  | grantDevice registration deviceId limit hash now =>
    simp only [run]
    split
    · exact .refl _
    · exact List.nil_sublist _
  | claimClient claim hash now =>
    simp only [run]
    split
    · exact List.nil_sublist _
    · exact .refl _
  | rotateClient primaryHash hash now =>
    simp only [run]
    split
    · exact .refl _
    · exact List.nil_sublist _
  | revokeDevice relayId room deviceId => exact .refl _
  | revokeOthers relayId room keep => exact .refl _
  | revokeClient clientId => exact .refl _
  | revokeChain hash relayId room => exact .refl _

/-- One relay is named at a time. -/
theorem names_nodup : ((change.names store).map (·.relayId)).Nodup := by
  cases change with
  | enroll key label hash newRelayId newRoom now =>
    simp only [names]
    split
    · exact List.nodup_nil
    · exact List.nodup_singleton _
  | restore | rollback | grantDevice | claimClient | rotateClient | revokeDevice | revokeOthers
  | revokeClient | revokeChain => exact List.nodup_nil

variable {p change store} {issued : List IssuedHash} {named : List NamedRelay}

/-- An edit brings a seat into a store only where it grants it. -/
theorem seat_of_run {seat : Seat} (holds : savedDevices.Holds (change.run p store).1.grantsByHash seat) :
    change.grants = some seat ∨ savedDevices.Holds store.grantsByHash seat := by
  cases change with
  | enroll key label hash newRelayId newRoom now => exact .inr holds
  | restore registration =>
    refine .inr ?_
    simp only [run] at holds
    split at holds
    · exact holds
    · exact holds
  | rollback hash => exact .inr holds
  | grantDevice registration deviceId limit hash now =>
    simp only [run] at holds
    split at holds
    · rename_i next granted
      unfold PublicControlStateStore.grantDevice at granted
      dsimp only at granted
      rw [Bool.cond_eq_ite] at granted
      split at granted
      · cases granted
      · cases granted
        rcases SavedRows.Holds.of_put holds with is_seat | before
        · exact .inl (congrArg some is_seat)
        · exact .inr (before.sub (Fewer.removeDeviceGrants store registration.relayId none (some deviceId)).devices)
    · exact .inr holds
  | claimClient claim hash now =>
    refine .inr ?_
    simp only [run] at holds
    split at holds
    · exact holds
    · unfold PublicControlStateStore.issueOrRotateClientIdentity at holds
      split at holds
      · exact holds
      · exact holds
  | rotateClient primaryHash hash now =>
    refine .inr ?_
    simp only [run] at holds
    split at holds
    · exact holds
    · exact holds
  | revokeDevice relayId room deviceId =>
    exact .inr (holds.sub (Fewer.removeDeviceGrants store relayId (some room) (some deviceId)).devices)
  | revokeOthers relayId room keep => exact .inr (holds.sub (Fewer.removeAllOtherDeviceGrants store relayId room keep).devices)
  | revokeClient clientId => exact .inr holds
  | revokeChain hash relayId room => exact .inr (holds.sub (Fewer.removeRelayChain store hash relayId room).devices)

/-- An edit leaves a store as a store has to be. -/
theorem run_stands (stands : StoreStands p issued named store)
    (once : ((change.names store ++ named).map (·.relayId)).Nodup)
    (known : ∀ registration ∈ change.restores, IssuedFor issued registration.refreshTokenHash (.relay registration.relayId) ∧
      NamedFor named registration) :
    StoreStands p ((change.run p store).2 ++ issued) (change.names store ++ named) (change.run p store).1 := by
  cases change with
  | enroll key label hash newRelayId newRoom now =>
    have issues : StoreStands p ((run p store (.enroll key label hash newRelayId newRoom now)).2 ++ issued)
        (names store (.enroll key label hash newRelayId newRoom now) ++ named) store :=
      stands.grow (fun _ member => List.mem_append_right _ member) fun _ member => List.mem_append_right _ member
    refine issues.putRelay once rfl ?_ List.mem_cons_self
    simp only [enrolledAs, names]
    split
    · rename_i existing found
      obtain ⟨⟨was, before⟩, first, rfl⟩ := Option.map_eq_some_iff.mp found
      obtain ⟨held, is_key⟩ := found_of_pairs first
      have same_key : before.relayVerifyKey = some key := beq_iff_eq.mp is_key
      obtain ⟨own_key, is_own, member⟩ := stands.relays.fact was before held
      rw [is_own, Option.some.injEq] at same_key
      rw [← same_key]
      exact member
    · exact List.mem_cons_self
  | restore registration =>
    obtain ⟨was_issued, key, is_key, is_named⟩ := known registration List.mem_cons_self
    have put := stands.putRelay once is_key is_named was_issued
    simp only [run, is_key]
    exact put
  | rollback hash => exact stands.fewer (Fewer.dropRelay store hash)
  | grantDevice registration deviceId limit hash now =>
    simp only [run]
    split
    · rename_i granted
      exact stands.grantDevice granted
    · exact stands
  | claimClient claim hash now =>
    simp only [run]
    split
    · exact stands
    · exact { stands.issueOrRotate claim.clientVerifyKey claim.clientLabel with }
  | rotateClient primaryHash hash now =>
    simp only [run]
    split
    · rename_i client found
      exact stands.rotateClient found hash now p.rotationGraceSecs
    · exact stands
  | revokeDevice relayId room deviceId =>
    exact stands.fewer ((Fewer.removeClientRelayGrants _ relayId (some room) (some deviceId)).trans
      (Fewer.removeDeviceGrants store relayId (some room) (some deviceId)))
  | revokeOthers relayId room keep =>
    exact stands.fewer ((Fewer.removeAllOtherClientRelayGrants _ relayId room keep).trans
      (Fewer.removeAllOtherDeviceGrants store relayId room keep))
  | revokeClient clientId =>
    exact stands.fewer ((Fewer.removeClientRelayGrantsByClientId _ clientId).trans
      (Fewer.removeClientIdentityByClientId store clientId))
  | revokeChain hash relayId room => exact stands.fewer (Fewer.removeRelayChain store hash relayId room)

end StoreEdit

end Sealwire.Control

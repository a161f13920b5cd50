import Sealwire.Control.Plane

namespace Sealwire.Control

/-- How refresh tokens open the rows of a table. -/
def tokenDoor {Row : Type} (own : Row → String) (superseded : Row → List SupersededToken) : Rotating String Row where
  own := own
  honours row key deadline := { refreshTokenHash := key, expiresAt := deadline } ∈ superseded row

def deviceDoor : Rotating String PersistedDeviceGrant :=
  tokenDoor PersistedDeviceGrant.refreshTokenHash PersistedDeviceGrant.superseded

def clientDoor : Rotating String PersistedClientIdentity :=
  tokenDoor PersistedClientIdentity.refreshTokenHash PersistedClientIdentity.superseded

section Doors

variable {Row : Type} {own : Row → String} {superseded : Row → List SupersededToken} {rows : Table String Row}
  {token key : String} {row : Row} {now last : Nat}

theorem bears_of_supersedes (names : supersedes (superseded row) token now = true) :
    (tokenDoor own superseded).Bears row token := by
  obtain ⟨entry, member, fits⟩ := List.any_eq_true.mp names
  simp only [Bool.and_eq_true, beq_iff_eq] at fits
  obtain ⟨rfl, -⟩ := fits
  exact .inr ⟨entry.expiresAt, member⟩

/-- A lookup finds the row that the token opens, in whatever order it goes through the rows. -/
theorem findForToken_iff (sound : (tokenDoor own superseded).Sound rows) :
    findForToken rows superseded token now = some (key, row) ↔
      rows.get key = some row ∧ (key = token ∨ supersedes (superseded row) token now = true) := by
  have bears (named : key = token ∨ supersedes (superseded row) token now = true) (held : rows.get key = some row) :
      (tokenDoor own superseded).Bears row token := by
    rcases named with rfl | names
    · exact sound.bears_own held
    · exact bears_of_supersedes names
  unfold findForToken
  cases primary : rows.get token with
  | some held =>
    constructor
    · intro found
      cases found
      exact ⟨primary, .inl rfl⟩
    · rintro ⟨there, named⟩
      have same := sound.apart key row token held token there primary (bears named there) (sound.bears_own primary)
      subst same
      rw [there] at primary
      cases primary
      rfl
  | none =>
    constructor
    · intro found
      have names : supersedes (superseded row) token now = true :=
        @List.find?_some _ (fun pair : String × Row => supersedes (superseded pair.2) token now) _ _ found
      exact ⟨mem_pairs_iff.mp (List.mem_of_find?_eq_some found), .inr names⟩
    · rintro ⟨there, rfl | names⟩
      · rw [there] at primary
        cases primary
      · obtain ⟨entry, found⟩ : ∃ entry, rows.pairs.find? (fun pair : String × Row =>
            supersedes (superseded pair.2) token now) = some entry :=
          Option.isSome_iff_exists.mp (List.find?_isSome.mpr ⟨(key, row), mem_pairs_iff.mpr there, names⟩)
        have also : rows.get entry.1 = some entry.2 := mem_pairs_iff.mp (List.mem_of_find?_eq_some found)
        have opens : supersedes (superseded entry.2) token now = true :=
          @List.find?_some _ (fun pair : String × Row => supersedes (superseded pair.2) token now) _ _ found
        have same := sound.apart key row entry.1 entry.2 token there also (bears_of_supersedes names)
          (bears_of_supersedes opens)
        rw [← same, there] at also
        have whole : entry = (key, row) := Prod.ext same.symm (Option.some.inj also).symm
        rw [whole] at found
        exact found

theorem findForToken_of_endsBy (sound : (tokenDoor own superseded).Sound rows)
    (ends : (tokenDoor own superseded).EndsBy rows token last) (past : last ≤ now) :
    findForToken rows superseded token now = none := by
  cases found : findForToken rows superseded token now with
  | none => rfl
  | some entry =>
    obtain ⟨held, primary | names⟩ := (findForToken_iff sound).mp found
    · exact absurd ((sound.filed entry.1 entry.2 held).trans primary) (ends entry.1 entry.2 held).1
    · obtain ⟨old, member, fits⟩ := List.any_eq_true.mp names
      simp only [Bool.and_eq_true, beq_iff_eq, decide_eq_true_eq, gt_iff_lt] at fits
      obtain ⟨rfl, lasts⟩ := fits
      have by_then : old.expiresAt ≤ last := (ends entry.1 entry.2 held).2 old.expiresAt member
      omega

end Doors

/-- What is carried was carried before and has time left, or is the key that was replaced just now. -/
theorem mem_carrySuperseded {previous : List SupersededToken} {rotated : String} {now grace : Nat}
    {token : SupersededToken} (kept : token ∈ carrySuperseded previous rotated now grace) :
    (token ∈ previous ∧ now < token.expiresAt ∧ token.refreshTokenHash ≠ rotated) ∨
      token = { refreshTokenHash := rotated, expiresAt := saturatingAdd now grace } := by
  have among : token ∈ (previous.filter fun token => token.expiresAt > now && token.refreshTokenHash != rotated) ++
      [{ refreshTokenHash := rotated, expiresAt := saturatingAdd now grace }] := by
    unfold carrySuperseded at kept
    dsimp only at kept
    split at kept
    · exact List.mem_of_mem_drop kept
    · exact kept
  rcases List.mem_append.mp among with before | last
  · obtain ⟨member, lasts⟩ := List.mem_filter.mp before
    simp only [Bool.and_eq_true, decide_eq_true_eq, gt_iff_lt, bne_iff_ne, ne_eq] at lasts
    exact .inl ⟨member, lasts⟩
  · exact .inr (List.mem_singleton.mp last)

theorem length_carrySuperseded (previous : List SupersededToken) (rotated : String) (now grace : Nat) :
    (carrySuperseded previous rotated now grace).length ≤ maxSupersededTokens := by
  unfold carrySuperseded
  dsimp only
  split
  · rw [List.length_drop]
    omega
  · omega

section Removals

variable {Row : Type} {rows : Table String Row} {key : String} {row : Row}

theorem get_removeMatching (rows : Table String Row) (targets : Row → Bool) (key : String) :
    (removeMatchingEntries rows targets).1.get key = (rows.get key).filter fun row => !targets row :=
  Table.get_retain _ _ _

theorem kept_of_removeMatching {targets : Row → Bool} (found : (removeMatchingEntries rows targets).1.get key = some row) :
    rows.get key = some row ∧ targets row = false := by
  rw [get_removeMatching, Option.filter_eq_some_iff] at found
  simpa using found

theorem gone_of_removeMatching {targets : Row → Bool} (found : rows.get key = some row) (target : targets row = true) :
    (removeMatchingEntries rows targets).1.get key = none := by
  rw [get_removeMatching, found, Option.filter_some, target]
  rfl

theorem kept_of_collectRemoved {deviceId : Row → Option String}
    (found : (collectRemovedDeviceIds rows deviceId).1.get key = some row) :
    rows.get key = some row ∧ deviceId row = none := by
  have kept : (rows.retain fun _ row => (deviceId row).isNone).get key = some row := found
  rw [Table.get_retain, Option.filter_eq_some_iff] at kept
  simpa using kept

theorem found_of_pairs {wanted : String × Row → Bool} {entry : String × Row}
    (found : rows.pairs.find? wanted = some entry) : rows.get entry.1 = some entry.2 ∧ wanted entry = true :=
  ⟨mem_pairs_iff.mp (List.mem_of_find?_eq_some found), List.find?_some found⟩

end Removals

/-- No table has a row that the other lacks. -/
structure Fewer (fewer store : PublicControlStateStore) : Prop where
  relays : ∀ key row, fewer.relayRegistrationsByHash.get key = some row → store.relayRegistrationsByHash.get key = some row
  clients : ∀ key row, fewer.clientRegistrationsByHash.get key = some row →
    store.clientRegistrationsByHash.get key = some row
  devices : ∀ key row, fewer.grantsByHash.get key = some row → store.grantsByHash.get key = some row
  clientRelays : ∀ key row, fewer.clientRelayGrantsByKey.get key = some row →
    store.clientRelayGrantsByKey.get key = some row

namespace Fewer

variable {store : PublicControlStateStore}

theorem refl (store : PublicControlStateStore) : Fewer store store :=
  ⟨fun _ _ found => found, fun _ _ found => found, fun _ _ found => found, fun _ _ found => found⟩

theorem trans {fewest fewer : PublicControlStateStore} (less : Fewer fewest fewer) (also : Fewer fewer store) :
    Fewer fewest store where
  relays key row found := also.relays key row (less.relays key row found)
  clients key row found := also.clients key row (less.clients key row found)
  devices key row found := also.devices key row (less.devices key row found)
  clientRelays key row found := also.clientRelays key row (less.clientRelays key row found)

theorem removeDeviceGrants (store : PublicControlStateStore) (relayId : String) (room device : Option String) :
    Fewer (store.removeDeviceGrants relayId room device).1 store :=
  { refl store with devices := fun _ _ found => (kept_of_removeMatching found).1 }

theorem removeClientRelayGrants (store : PublicControlStateStore) (relayId : String) (room device : Option String) :
    Fewer (store.removeClientRelayGrants relayId room device).1 store :=
  { refl store with clientRelays := fun _ _ found => (kept_of_removeMatching found).1 }

theorem removeClientRelayGrantsByClientId (store : PublicControlStateStore) (clientId : String) :
    Fewer (store.removeClientRelayGrantsByClientId clientId).1 store :=
  { refl store with clientRelays := fun _ _ found => (kept_of_removeMatching found).1 }

theorem removeClientIdentityByClientId (store : PublicControlStateStore) (clientId : String) :
    Fewer (store.removeClientIdentityByClientId clientId).1 store :=
  { refl store with clients := fun _ _ found => (kept_of_removeMatching found).1 }

theorem removeRelayRegistrationByVerifyKey (store : PublicControlStateStore) (key : String) :
    Fewer (store.removeRelayRegistrationByVerifyKey key).1 store :=
  { refl store with relays := fun _ _ found => (kept_of_removeMatching found).1 }

theorem removeAllOtherDeviceGrants (store : PublicControlStateStore) (relayId room keep : String) :
    Fewer (store.removeAllOtherDeviceGrants relayId room keep).1 store :=
  { refl store with devices := fun _ _ found => (kept_of_collectRemoved found).1 }

theorem removeAllOtherClientRelayGrants (store : PublicControlStateStore) (relayId room keep : String) :
    Fewer (store.removeAllOtherClientRelayGrants relayId room keep).1 store :=
  { refl store with clientRelays := fun _ _ found => (kept_of_collectRemoved found).1 }

theorem dropDevice (store : PublicControlStateStore) (hash : String) :
    Fewer { store with grantsByHash := store.grantsByHash.drop hash } store :=
  { refl store with devices := fun _ _ found => Table.get_of_get_drop found }

theorem dropRelay (store : PublicControlStateStore) (hash : String) :
    Fewer { store with relayRegistrationsByHash := store.relayRegistrationsByHash.drop hash } store :=
  { refl store with relays := fun _ _ found => Table.get_of_get_drop found }

theorem removeRelayChain (store : PublicControlStateStore) (hash relayId room : String) :
    Fewer (store.removeRelayChain hash relayId room) store := by
  have unregistered : Fewer { store with
      relayRegistrationsByHash := (store.relayRegistrationsByHash.drop hash).retain fun _ registration =>
        !(registration.relayId == relayId && registration.brokerRoomId == room) } store :=
    { refl store with relays := fun _ _ found => Table.get_of_get_drop (Table.get_of_get_retain found) }
  exact (removeClientRelayGrants _ relayId (some room) none).trans
    ((removeDeviceGrants _ relayId (some room) none).trans unregistered)

end Fewer

/-- What the broker's store is, in memory and in its file: no token opens two rows, and each opens what it was minted
for. -/
structure StoreSound (p : Plane) (minted : List MintedToken) (store : PublicControlStateStore) : Prop where
  devices : deviceDoor.Sound store.grantsByHash
  clients : clientDoor.Sound store.clientRegistrationsByHash
  relays : ∀ key row, store.relayRegistrationsByHash.get key = some row → row.refreshTokenHash = key
  oneSeat : ∀ one first other second, store.grantsByHash.get one = some first → store.grantsByHash.get other = some second →
    first.relayId = second.relayId → first.deviceId = second.deviceId → one = other
  oneClient : ∀ one first other second, store.clientRegistrationsByHash.get one = some first →
    store.clientRegistrationsByHash.get other = some second → first.clientId = second.clientId → one = other
  sealed : ∀ key row, store.clientRegistrationsByHash.get key = some row → row.clientId = p.clientId row.clientVerifyKey
  deviceTokens : ∀ key row token, store.grantsByHash.get key = some row → deviceDoor.Bears row token →
    { hash := token, holder := .device row.relayId row.deviceId } ∈ minted
  clientTokens : ∀ key row token, store.clientRegistrationsByHash.get key = some row → clientDoor.Bears row token →
    { hash := token, holder := .client row.clientId } ∈ minted
  relayTokens : ∀ key row, store.relayRegistrationsByHash.get key = some row →
    { hash := row.refreshTokenHash, holder := .relay row.relayId } ∈ minted
  boundedDevices : ∀ key row, store.grantsByHash.get key = some row → row.superseded.length ≤ maxSupersededTokens
  boundedClients : ∀ key row, store.clientRegistrationsByHash.get key = some row →
    row.superseded.length ≤ maxSupersededTokens

/-- No token that was minted has the hash. -/
def Unminted (minted : List MintedToken) (hash : String) : Prop :=
  ∀ token ∈ minted, token.hash ≠ hash

namespace StoreSound

variable {p : Plane} {minted : List MintedToken} {store : PublicControlStateStore}

theorem empty (p : Plane) : StoreSound p [] {} := by
  have none_there {Row : Type} {P : Prop} {key : String} {row : Row} (found : (∅ : Table String Row).get key = some row) :
      P := by
    rw [Table.get_empty] at found
    cases found
  exact ⟨Rotating.sound_empty, Rotating.sound_empty, fun _ _ found => none_there found,
    fun _ _ _ _ found => none_there found, fun _ _ _ _ found => none_there found, fun _ _ found => none_there found,
    fun _ _ _ found => none_there found, fun _ _ _ found => none_there found, fun _ _ found => none_there found,
    fun _ _ found => none_there found, fun _ _ found => none_there found⟩

theorem mono (sound : StoreSound p minted store) {more : List MintedToken} (grown : ∀ token ∈ minted, token ∈ more) :
    StoreSound p more store :=
  { sound with
    deviceTokens := fun key row token found bears => grown _ (sound.deviceTokens key row token found bears)
    clientTokens := fun key row token found bears => grown _ (sound.clientTokens key row token found bears)
    relayTokens := fun key row found => grown _ (sound.relayTokens key row found) }

theorem mint (sound : StoreSound p minted store) (token : MintedToken) : StoreSound p (token :: minted) store :=
  sound.mono fun _ member => List.mem_cons_of_mem _ member

theorem fewer (sound : StoreSound p minted store) {less : PublicControlStateStore} (fewer : Fewer less store) :
    StoreSound p minted less where
  devices := sound.devices.sub fewer.devices
  clients := sound.clients.sub fewer.clients
  relays key row found := sound.relays key row (fewer.relays key row found)
  oneSeat one first other second found also :=
    sound.oneSeat one first other second (fewer.devices one first found) (fewer.devices other second also)
  oneClient one first other second found also :=
    sound.oneClient one first other second (fewer.clients one first found) (fewer.clients other second also)
  sealed key row found := sound.sealed key row (fewer.clients key row found)
  deviceTokens key row token found := sound.deviceTokens key row token (fewer.devices key row found)
  clientTokens key row token found := sound.clientTokens key row token (fewer.clients key row found)
  relayTokens key row found := sound.relayTokens key row (fewer.relays key row found)
  boundedDevices key row found := sound.boundedDevices key row (fewer.devices key row found)
  boundedClients key row found := sound.boundedClients key row (fewer.clients key row found)

theorem unknown_device (sound : StoreSound p minted store) {hash : String} (fresh : Unminted minted hash) :
    deviceDoor.Unknown store.grantsByHash hash :=
  fun key row found bears => fresh _ (sound.deviceTokens key row hash found bears) rfl

theorem unknown_client (sound : StoreSound p minted store) {hash : String} (fresh : Unminted minted hash) :
    clientDoor.Unknown store.clientRegistrationsByHash hash :=
  fun key row found bears => fresh _ (sound.clientTokens key row hash found bears) rfl

theorem now_of_put {Row : Type} {rows : Table String Row} {key other : String} {row found : Row}
    (there : (rows.put key row).get other = some found) :
    other = key ∧ found = row ∨ other ≠ key ∧ rows.get other = some found := by
  rw [Table.get_put] at there
  split at there
  · rename_i same
    cases there
    exact .inl ⟨same, rfl⟩
  · rename_i apart
    exact .inr ⟨apart, there⟩

/-- A device's row takes the place of the one it had. -/
theorem putDevice (sound : StoreSound p minted store) {less : PublicControlStateStore} (fewer : Fewer less store)
    {row : PersistedDeviceGrant} (fresh : Unminted minted row.refreshTokenHash)
    (replaces : ∀ token ∈ row.superseded, ∃ was before, store.grantsByHash.get was = some before ∧
      less.grantsByHash.get was = none ∧ deviceDoor.Bears before token.refreshTokenHash ∧
        before.relayId = row.relayId ∧ before.deviceId = row.deviceId)
    (alone : ∀ other found, less.grantsByHash.get other = some found →
      ¬(found.relayId = row.relayId ∧ found.deviceId = row.deviceId))
    (bounded : row.superseded.length ≤ maxSupersededTokens) :
    StoreSound p ({ hash := row.refreshTokenHash, holder := .device row.relayId row.deviceId } :: minted)
      (less.putDeviceGrant row) := by
  have kept := (sound.fewer fewer).mint { hash := row.refreshTokenHash, holder := .device row.relayId row.deviceId }
  refine { kept with
    devices := sound.devices.put fewer.devices (sound.unknown_device fresh) rfl fun old deadline honours => ?_
    oneSeat := fun one first other second there also relay device => ?_
    deviceTokens := fun key found token there bears => ?_
    boundedDevices := fun key found there => ?_ }
  · obtain ⟨was, before, held, gone, bears, -, -⟩ := replaces _ honours
    exact ⟨was, before, held, gone, bears⟩
  · rcases now_of_put there with ⟨rfl, rfl⟩ | ⟨-, was⟩
    · rcases now_of_put also with ⟨rfl, rfl⟩ | ⟨-, beside⟩
      · rfl
      · exact absurd ⟨relay.symm, device.symm⟩ (alone other second beside)
    · rcases now_of_put also with ⟨rfl, rfl⟩ | ⟨-, beside⟩
      · exact absurd ⟨relay, device⟩ (alone one first was)
      · exact kept.oneSeat one first other second was beside relay device
  · rcases now_of_put there with ⟨rfl, rfl⟩ | ⟨-, was⟩
    · rcases bears with rfl | ⟨deadline, honours⟩
      · exact List.mem_cons_self
      · obtain ⟨was, before, held, -, bore, relay, device⟩ := replaces _ honours
        have known := sound.deviceTokens was before token held bore
        rw [relay, device] at known
        exact List.mem_cons_of_mem _ known
    · exact kept.deviceTokens key found token was bears
  · rcases now_of_put there with ⟨rfl, rfl⟩ | ⟨-, was⟩
    · exact bounded
    · exact kept.boundedDevices key found was

/-- A client's row takes the place of the one it had. -/
theorem putClient (sound : StoreSound p minted store) {less : PublicControlStateStore} (fewer : Fewer less store)
    {row : PersistedClientIdentity} (fresh : Unminted minted row.refreshTokenHash)
    (replaces : ∀ token ∈ row.superseded, ∃ was before, store.clientRegistrationsByHash.get was = some before ∧
      less.clientRegistrationsByHash.get was = none ∧ clientDoor.Bears before token.refreshTokenHash ∧
        before.clientId = row.clientId)
    (alone : ∀ other found, less.clientRegistrationsByHash.get other = some found → found.clientId ≠ row.clientId)
    (sealed : row.clientId = p.clientId row.clientVerifyKey)
    (bounded : row.superseded.length ≤ maxSupersededTokens) :
    StoreSound p ({ hash := row.refreshTokenHash, holder := .client row.clientId } :: minted)
      (less.putClientIdentity row) := by
  have kept := (sound.fewer fewer).mint { hash := row.refreshTokenHash, holder := .client row.clientId }
  refine { kept with
    clients := sound.clients.put fewer.clients (sound.unknown_client fresh) rfl fun old deadline honours => ?_
    oneClient := fun one first other second there also same => ?_
    sealed := fun key found there => ?_
    clientTokens := fun key found token there bears => ?_
    boundedClients := fun key found there => ?_ }
  · obtain ⟨was, before, held, gone, bears, -⟩ := replaces _ honours
    exact ⟨was, before, held, gone, bears⟩
  · rcases now_of_put there with ⟨rfl, rfl⟩ | ⟨-, was⟩
    · rcases now_of_put also with ⟨rfl, rfl⟩ | ⟨-, beside⟩
      · rfl
      · exact absurd same.symm (alone other second beside)
    · rcases now_of_put also with ⟨rfl, rfl⟩ | ⟨-, beside⟩
      · exact absurd same (alone one first was)
      · exact kept.oneClient one first other second was beside same
  · rcases now_of_put there with ⟨rfl, rfl⟩ | ⟨-, was⟩
    · exact sealed
    · exact kept.sealed key found was
  · rcases now_of_put there with ⟨rfl, rfl⟩ | ⟨-, was⟩
    · rcases bears with rfl | ⟨deadline, honours⟩
      · exact List.mem_cons_self
      · obtain ⟨was, before, held, -, bore, same⟩ := replaces _ honours
        have known := sound.clientTokens was before token held bore
        rw [same] at known
        exact List.mem_cons_of_mem _ known
    · exact kept.clientTokens key found token was bears
  · rcases now_of_put there with ⟨rfl, rfl⟩ | ⟨-, was⟩
    · exact bounded
    · exact kept.boundedClients key found was

theorem putRelay (sound : StoreSound p minted store) {row : PersistedRelayRegistration}
    (known : { hash := row.refreshTokenHash, holder := .relay row.relayId } ∈ minted) :
    StoreSound p minted (store.putRelayRegistration row) := by
  refine { sound with relays := fun key found there => ?_, relayTokens := fun key found there => ?_ }
  · rcases now_of_put there with ⟨rfl, rfl⟩ | ⟨-, was⟩
    · rfl
    · exact sound.relays key found was
  · rcases now_of_put there with ⟨rfl, rfl⟩ | ⟨-, was⟩
    · exact known
    · exact sound.relayTokens key found was

theorem upsertClientRelay (sound : StoreSound p minted store) (grant : PersistedClientRelayGrant) :
    StoreSound p minted (store.upsertClientRelayGrant grant) :=
  { sound with }

theorem touch (sound : StoreSound p minted store) (hash : String) (now : Nat) :
    StoreSound p minted (store.touchDevice hash now) := by
  have was {key : String} {row : PersistedDeviceGrant} (there : (store.touchDevice hash now).grantsByHash.get key = some row) :
      ∃ before, store.grantsByHash.get key = some before ∧
        (row = before ∨ row = { before with lastSeen := some now }) := by
    have modified : (store.grantsByHash.modify hash fun grant => { grant with lastSeen := some now }).get key = some row :=
      there
    rw [Table.get_modify] at modified
    split at modified
    · rename_i same
      obtain ⟨before, held, rfl⟩ := Option.map_eq_some_iff.mp modified
      exact ⟨before, same ▸ held, .inr rfl⟩
    · exact ⟨row, modified, .inl rfl⟩
  refine { sound with
    devices := sound.devices.modify _ (fun _ => rfl) fun _ _ _ => Iff.rfl
    oneSeat := fun one first other second there also relay device => ?_
    deviceTokens := fun key row token there bears => ?_
    boundedDevices := fun key row there => ?_ }
  · obtain ⟨before, held, is⟩ := was there
    obtain ⟨beside, also_held, is_too⟩ := was also
    have seat : first.relayId = before.relayId ∧ first.deviceId = before.deviceId := by rcases is with rfl | rfl <;> exact ⟨rfl, rfl⟩
    have other_seat : second.relayId = beside.relayId ∧ second.deviceId = beside.deviceId := by
      rcases is_too with rfl | rfl <;> exact ⟨rfl, rfl⟩
    exact sound.oneSeat one before other beside held also_held (seat.1.symm.trans (relay.trans other_seat.1))
      (seat.2.symm.trans (device.trans other_seat.2))
  · obtain ⟨before, held, rfl | rfl⟩ := was there
    · exact sound.deviceTokens key row token held bears
    · exact sound.deviceTokens key before token held bears
  · obtain ⟨before, held, rfl | rfl⟩ := was there
    · exact sound.boundedDevices key row held
    · exact sound.boundedDevices key before held

end StoreSound

end Sealwire.Control

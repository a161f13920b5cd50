import Sealwire.Control.SharedSound

namespace Sealwire.Control

/-- A save that commits writes what its broker has changed since its snapshot, and nothing else. -/
structure SaveMerges (prev next : PublicControlStateStore) (db after : ControlTables) : Prop where
  relays : savedRegistrations.Merged prev.relayRegistrationsByHash next.relayRegistrationsByHash db.relayRegistrations
    after.relayRegistrations
  clients : savedClients.Merged prev.clientRegistrationsByHash next.clientRegistrationsByHash db.clientIdentities
    after.clientIdentities
  devices : savedDevices.Merged prev.grantsByHash next.grantsByHash db.deviceGrants after.deviceGrants

section Saving

variable {p : Plane} {issued : List IssuedHash} {named : List NamedRelay} {prev next : PublicControlStateStore}
  {db after : ControlTables}

theorem persistDelta_merges (once : (issued.map (·.hash)).Nodup) (before : StoreStands p issued named prev)
    (wanted : StoreStands p issued named next) (saved : persistDelta prev next db = .ok after) :
    SaveMerges prev next db after := by
  obtain ⟨⟨_, relays_gone, relays_put⟩, ⟨_, clients_gone, clients_put⟩, ⟨_, devices_gone, devices_put⟩⟩ := persistDelta_ok saved
  have functional := IssuedFor.functional once
  exact
    { relays := SavedRows.merged (before.relays.follows functional wanted.relays before.relaysApart)
        relays_gone relays_put
      clients := SavedRows.merged (before.clients.follows functional wanted.clients before.clientsApart)
        clients_gone clients_put
      devices := SavedRows.merged (before.devices.follows functional wanted.devices before.devicesApart)
        devices_gone devices_put }

/-- A save leaves the database as a store has to be. -/
theorem persistDelta_stands (once : (issued.map (·.hash)).Nodup) (before : StoreStands p issued named prev)
    (wanted : StoreStands p issued named next) (held : StoreStands p issued named db.load)
    (saved : persistDelta prev next db = .ok after) : StoreStands p issued named after.load := by
  have merges := persistDelta_merges once before wanted saved
  obtain ⟨⟨_, relays_gone, relays_put⟩, ⟨_, clients_gone, clients_put⟩, ⟨_, devices_gone, devices_put⟩⟩ := persistDelta_ok saved
  have relays := savedRegistrations_lawful (NamedFor named)
  have clients := savedClients_lawful fun client => client.clientId = p.clientId client.clientVerifyKey
  exact
    { relays := held.relays.merged relays wanted.relays merges.relays
      relaysApart := relays.upsert (relays.reconcile held.relaysApart relays_gone) relays_put
      clients := held.clients.merged clients wanted.clients merges.clients
      clientsApart := clients.upsert (clients.reconcile held.clientsApart clients_gone) clients_put
      devices := held.devices.merged savedDevices_lawful wanted.devices merges.devices
      devicesApart := savedDevices_lawful.upsert (savedDevices_lawful.reconcile held.devicesApart devices_gone) devices_put }

end Saving

/-- What a broker has in memory is as a store has to be, and what it has put by to go on with later. -/
structure BrokerStands (p : Plane) (issued : List IssuedHash) (named : List NamedRelay) (broker : SharedBroker) : Prop where
  store : StoreStands p issued named broker.store
  lastSaved : StoreStands p issued named broker.lastSaved
  snapshots : ∀ registration ∈ broker.snapshots,
    IssuedFor issued registration.refreshTokenHash (.relay registration.relayId) ∧ NamedFor named registration
  refreshes : ∀ k challenge cached refreshed, broker.refreshes.get k = some (.committed challenge cached refreshed) →
    StoreStands p issued named refreshed ∧ RefreshNames challenge refreshed

theorem BrokerStands.grow {p : Plane} {issued more : List IssuedHash} {named others : List NamedRelay} {broker : SharedBroker}
    (stands : BrokerStands p issued named broker) (grows : ∀ one ∈ issued, one ∈ more)
    (names : ∀ relay ∈ named, relay ∈ others) : BrokerStands p more others broker where
  store := stands.store.grow grows names
  lastSaved := stands.lastSaved.grow grows names
  snapshots registration member := by
    obtain ⟨was_issued, key, is_key, was_named⟩ := stands.snapshots registration member
    exact ⟨grows _ was_issued, key, is_key, names _ was_named⟩
  refreshes k challenge cached refreshed there :=
    ⟨(stands.refreshes k challenge cached refreshed there).1.grow grows names,
      (stands.refreshes k challenge cached refreshed there).2⟩

/-- A broker that has just started. -/
theorem BrokerStands.loaded {p : Plane} {issued : List IssuedHash} {named : List NamedRelay} {store : PublicControlStateStore}
    (stands : StoreStands p issued named store) : BrokerStands p issued named { store := store, lastSaved := store } where
  store := stands
  lastSaved := stands
  snapshots _ member := absurd member List.not_mem_nil
  refreshes k challenge cached refreshed there := by
    have none_there : (∅ : Table Nat PostgresRefresh).get k = some (.committed challenge cached refreshed) := there
    rw [Table.get_empty] at none_there
    cases none_there

/-- A refresh that has come to its end is put by no longer. -/
theorem BrokerStands.ends {p : Plane} {issued : List IssuedHash} {named : List NamedRelay} {broker : SharedBroker}
    (stands : BrokerStands p issued named broker) (k : Nat) :
    BrokerStands p issued named { broker with refreshes := broker.refreshes.drop k } :=
  { stands with
    refreshes := fun j challenge cached refreshed there =>
      stands.refreshes j challenge cached refreshed (Table.get_of_get_drop there) }

/-- Every broker's memory is as a store has to be, and so is what the database holds. -/
structure SharedSound (p : Plane) (w : SharedWorld) : Prop where
  once : (w.issued.map (·.hash)).Nodup
  namedOnce : (w.named.map (·.relayId)).Nodup
  database : StoreStands p w.issued w.named w.tables.load
  brokers : ∀ i, BrokerStands p w.issued w.named (w.brokers i)

namespace SharedSound

variable {p : Plane} {w : SharedWorld}

theorem start (p : Plane) : SharedSound p .start where
  once := List.nodup_nil
  namedOnce := List.nodup_nil
  database := .empty p _ _
  brokers _ := .loaded (.empty p _ _)

theorem set (sound : SharedSound p w) (i : Nat) {broker : SharedBroker} (stands : BrokerStands p w.issued w.named broker) :
    SharedSound p (w.set i broker) := by
  refine { sound with brokers := fun j => ?_ }
  simp only [SharedWorld.set]
  split
  · exact stands
  · exact sound.brokers j

theorem commit (sound : SharedSound p w) {tables : ControlTables} (stands : StoreStands p w.issued w.named tables.load) :
    SharedSound p { w with tables := tables } :=
  { sound with database := stands }

/-- Hashes that are new, and relays that are, change nothing of what stands. -/
theorem issue (sound : SharedSound p w) {issued : List IssuedHash} (named : List NamedRelay) {drawn : List String}
    (sublist : (issued.map (·.hash)).Sublist drawn) (fresh : ∀ one ∈ w.issued, one.hash ∉ drawn) (once : drawn.Nodup)
    (named_once : ((named ++ w.named).map (·.relayId)).Nodup) :
    SharedSound p { w with issued := issued ++ w.issued, named := named ++ w.named } := by
  have grows (one : IssuedHash) (member : one ∈ w.issued) : one ∈ issued ++ w.issued := List.mem_append_right _ member
  have names (relay : NamedRelay) (member : relay ∈ w.named) : relay ∈ named ++ w.named := List.mem_append_right _ member
  refine ⟨?_, named_once, sound.database.grow grows names, fun i => (sound.brokers i).grow grows names⟩
  rw [List.map_append, List.nodup_append]
  refine ⟨once.sublist sublist, sound.once, fun one first other second same => ?_⟩
  obtain ⟨before, was_issued, rfl⟩ := List.mem_map.mp second
  exact fresh before was_issued (same ▸ sublist.subset first)

/-- A save, whatever comes of it. -/
theorem save (sound : SharedSound p w) (i : Nat) (outcome : SaveOutcome) : SharedSound p (w.save i (w.brokers i) outcome) := by
  have broker := sound.brokers i
  have unsettled : BrokerStands p w.issued w.named { w.brokers i with unsettled := true } := { broker with }
  have committed {tables : ControlTables} (saved : persistDelta (w.brokers i).lastSaved (w.brokers i).store w.tables = .ok tables) :
      SharedSound p { w with tables := tables } :=
    sound.commit (persistDelta_stands sound.once broker.lastSaved broker.store sound.database saved)
  cases outcome with
  | busy => exact sound.set i { broker with store := broker.lastSaved }
  | answered =>
    simp only [SharedWorld.save]
    split
    · rename_i tables saved
      exact (committed saved).set i { broker with lastSaved := broker.store }
    · exact sound.set i unsettled
  | lost commits =>
    simp only [SharedWorld.save]
    split
    · rename_i tables saved
      split
      · exact (committed saved).set i unsettled
      · exact sound.set i unsettled
    · exact sound.set i unsettled

theorem edit (sound : SharedSound p w) (i : Nat) (change : StoreEdit) (may : (SharedMove.edit i change).May w) :
    SharedSound p ((SharedMove.edit i change).run p w) := by
  obtain ⟨-, -, fresh, drawn_once, new_names, restores⟩ := may
  have named_once : ((change.names (w.brokers i).store ++ w.named).map (·.relayId)).Nodup := by
    rw [List.map_append, List.nodup_append]
    refine ⟨StoreEdit.names_nodup change _, sound.namedOnce, fun one first other second => ?_⟩
    obtain ⟨relay, is_new, rfl⟩ := List.mem_map.mp first
    obtain ⟨before, was_named, rfl⟩ := List.mem_map.mp second
    exact new_names relay is_new before was_named
  have issues := sound.issue _ (StoreEdit.issued_sublist p change (w.brokers i).store) fresh drawn_once named_once
  have edited := StoreEdit.run_stands (sound.brokers i).store named_once fun registration member =>
    (sound.brokers i).snapshots registration (restores registration member)
  exact issues.set i { issues.brokers i with store := edited }

/-- What the transaction of a signed refresh works with, and that its hashes are new. -/
theorem refreshed (sound : SharedSound p w) {challenge : CredentialRefreshChallengeResponse}
    {clientVerifyKey hash deviceHash : String} {now : Nat} {made : RefreshedTables}
    (refreshed : w.tables.refresh p challenge clientVerifyKey hash deviceHash now = .ok made)
    (fresh : ∀ one ∈ w.issued, one.hash ∉ [deviceHash, hash]) (once : [deviceHash, hash].Nodup) :
    SharedSound p { w with issued := made.issued ++ w.issued } ∧ RefreshNames challenge made.refreshed ∧
      StoreStands p (made.issued ++ w.issued) w.named made.refreshed ∧ ∃ previous,
        StoreStands p (made.issued ++ w.issued) w.named previous ∧
        (∀ seat, savedDevices.Holds made.refreshed.grantsByHash seat → savedDevices.Holds previous.grantsByHash seat) ∧
        persistDelta previous made.refreshed w.tables = .ok made.tables := by
  obtain ⟨previous, read, rotated, is_issued, saved⟩ := ControlTables.refresh_ok refreshed
  have before := sound.database.ofScoped read
  have issues : SharedSound p { w with issued := made.issued ++ w.issued } := by
    refine sound.issue [] ?_ fresh once sound.namedOnce
    rw [is_issued]
    exact PublicControlStateStore.refreshedHashes_sublist previous challenge hash deviceHash
  have after := before.rotateSigned rotated
  rw [← is_issued] at after
  have grown : StoreStands p (made.issued ++ w.issued) w.named previous :=
    before.grow (fun _ member => List.mem_append_right _ member) fun _ member => member
  exact ⟨issues, read.names.rotate rotated, after, previous, grown, fun _ => StoreStands.seat_of_rotate rotated, saved⟩

/-- The transaction of a signed refresh, whatever comes of it. -/
theorem refresh (sound : SharedSound p w) (i k : Nat) (challenge : CredentialRefreshChallengeResponse)
    (clientVerifyKey : String) (cached : RefreshCacheRecords) {hash deviceHash : String} (now : Nat) (outcome : SaveOutcome)
    (fresh : ∀ one ∈ w.issued, one.hash ∉ [deviceHash, hash]) (once : [deviceHash, hash].Nodup) :
    SharedSound p (w.refresh p i k (w.brokers i) challenge clientVerifyKey cached hash deviceHash now outcome) := by
  have ended := (sound.brokers i).ends k
  have committed {made : RefreshedTables}
      (done : w.tables.refresh p challenge clientVerifyKey hash deviceHash now = .ok made) :
      SharedSound p { w with tables := made.tables, issued := made.issued ++ w.issued } ∧
        StoreStands p (made.issued ++ w.issued) w.named made.refreshed ∧ RefreshNames challenge made.refreshed := by
    obtain ⟨issues, names, after, previous, before, -, saved⟩ := sound.refreshed done fresh once
    exact ⟨issues.commit (persistDelta_stands issues.once before after issues.database saved), after, names⟩
  unfold SharedWorld.refresh
  dsimp only
  split
  · exact sound.set i ended
  · exact sound.set i ended
  · rename_i made refreshed
    obtain ⟨now_sound, stands, names⟩ := committed refreshed
    refine now_sound.set i { now_sound.brokers i with refreshes := fun j other also held there => ?_ }
    have put : ((w.brokers i).refreshes.put k (.committed challenge cached made.refreshed)).get j =
        some (.committed other also held) := there
    rw [Table.get_put] at put
    split at put
    · cases put
      exact ⟨stands, names⟩
    · exact (now_sound.brokers i).refreshes j other also held put
  · rename_i made commits refreshed
    split
    · have now_sound := (committed refreshed).1
      exact now_sound.set i { (now_sound.brokers i).ends k with }
    · exact sound.set i { ended with }

theorem mergeRefresh (sound : SharedSound p w) (i k : Nat) {challenge : CredentialRefreshChallengeResponse}
    {cached : RefreshCacheRecords} {refreshed : PublicControlStateStore}
    (there : (w.brokers i).refreshes.get k = some (.committed challenge cached refreshed)) :
    SharedSound p (w.set i (SharedWorld.mergeRefresh k (w.brokers i) challenge cached refreshed)) := by
  have broker := sound.brokers i
  have ended := broker.ends k
  obtain ⟨fresh, names⟩ := broker.refreshes k challenge cached refreshed there
  unfold SharedWorld.mergeRefresh
  dsimp only
  split
  · exact sound.set i { ended with
      store := broker.store.mergeRefreshRecords fresh names
      lastSaved := broker.lastSaved.mergeRefreshRecords fresh names }
  · exact sound.set i { ended with }

/-- Every move leaves it so. -/
theorem step (sound : SharedSound p w) (move : SharedMove) (may : move.May w) : SharedSound p (move.run p w) := by
  have loaded := sound.database
  cases move with
  | restarts i => exact sound.set i (.loaded loaded)
  | load i => exact sound.set i { sound.brokers i with store := loaded, lastSaved := loaded }
  | snapshot i key =>
    simp only [SharedMove.run]
    split
    · rename_i registration found
      obtain ⟨entry, first, rfl⟩ := Option.map_eq_some_iff.mp found
      have held := (found_of_pairs first).1
      have relays := (sound.brokers i).store.relays
      refine sound.set i { sound.brokers i with snapshots := fun other member => ?_ }
      rcases List.mem_cons.mp member with rfl | before
      · have filed : entry.2.refreshTokenHash = entry.1 := relays.filed entry.1 entry.2 held
        have was_issued := relays.issued entry.1 entry.2 held
        rw [← filed] at was_issued
        exact ⟨was_issued, relays.fact entry.1 entry.2 held⟩
      · exact (sound.brokers i).snapshots other before
    · exact sound
  | edit i change => exact sound.edit i change may
  | touch i hash now written =>
    have touched : BrokerStands p w.issued w.named { w.brokers i with store := (w.brokers i).store.touchDevice hash now } :=
      { sound.brokers i with store := (sound.brokers i).store.touch hash now }
    have database : StoreStands p w.issued w.named (w.tables.touch hash now).load := loaded.touch hash now
    simp only [SharedMove.run]
    split
    · unfold SharedWorld.touchTables
      split
      · exact (sound.commit database).set i touched
      · exact sound.set i touched
    · exact sound.set i touched
  | save i outcome => exact sound.save i outcome
  | reconcile i reached =>
    have broker := sound.brokers i
    cases reached with
    | false => exact sound.set i { broker with }
    | true =>
      simp only [SharedMove.run, SharedWorld.reconcile, if_true]
      split
      · exact sound.set i { broker with lastSaved := loaded }
      · exact sound.set i { broker with store := loaded }
      · exact sound.set i { broker with store := loaded, lastSaved := loaded }
  | beginRefresh i k challenge key =>
    refine sound.set i { sound.brokers i with refreshes := fun j other cached refreshed there => ?_ }
    have put : ((w.brokers i).refreshes.put k
        (.begun challenge key ((w.brokers i).store.refreshCacheRecords challenge))).get j =
          some (.committed other cached refreshed) := there
    rw [Table.get_put] at put
    split at put
    · cases put
    · exact (sound.brokers i).refreshes j other cached refreshed put
  | refresh i k hash deviceHash now outcome =>
    simp only [SharedMove.run]
    split
    · exact sound.refresh i k _ _ _ now outcome may.1 may.2
    · exact sound
  | mergeRefresh i k =>
    simp only [SharedMove.run]
    split
    · rename_i there
      exact sound.mergeRefresh i k there
    · exact sound

end SharedSound

theorem SharedReached.sound {p : Plane} {w : SharedWorld} (reached : SharedReached p w) : SharedSound p w :=
  reached.invariant (.start p) fun _ move sound may => sound.step move may

namespace SharedSample

def registration : PersistedRelayRegistration where
  relayId := "relay-1"
  brokerRoomId := "room-1"
  refreshTokenHash := "h0"
  createdAt := 0
  relayVerifyKey := some "rk"

def phone : PersistedDeviceGrant where
  relayId := "relay-1"
  brokerRoomId := "room-1"
  deviceId := "phone"
  refreshTokenHash := "h1"
  createdAt := 0
  lastSeen := some 0

def seat : Seat :=
  .device "relay-1" "room-1" "phone"

/-- One broker gives a seat away, another reads it, and the first is about to revoke it. -/
def moves : List SharedMove :=
  [.edit 0 (.enroll "rk" none "h0" "relay-1" "room-1" 0), .save 0 .answered,
    .edit 0 (.grantDevice registration "phone" none "h1" 0), .save 0 .answered, .load 1, .touch 1 "h1" 7200 false,
    .edit 0 (.revokeDevice "relay-1" "room-1" "phone")]

@[irreducible] def revoking : SharedWorld := moves.foldl (SharedMove.run PlaneSample.plane) .start

theorem revoking_reached : SharedReached PlaneSample.plane revoking := by
  have may : MayRun (SharedMove.run PlaneSample.plane) (fun w move => move.May w) .start moves := by decide +kernel
  unfold revoking
  exact .foldl may

theorem revoking_saves : ∃ after,
    persistDelta (revoking.brokers 0).lastSaved (revoking.brokers 0).store revoking.tables = .ok after := by
  have goes : (persistDelta (revoking.brokers 0).lastSaved (revoking.brokers 0).store revoking.tables).isOk = true := by
    decide +kernel
  cases saved : persistDelta (revoking.brokers 0).lastSaved (revoking.brokers 0).store revoking.tables with
  | ok after => exact ⟨after, rfl⟩
  | error reason =>
    rw [saved] at goes
    cases goes

end SharedSample

/-- A hash stands for one seat, in the database and with every broker, and no seat has two rows. -/
theorem hashes_keep_their_seats {p : Plane} {w : SharedWorld} (reached : SharedReached p w) :
    (w.issued.map (·.hash)).Nodup ∧ StoreStands p w.issued w.named w.tables.load ∧
      ∀ i, StoreStands p w.issued w.named (w.brokers i).store :=
  ⟨reached.sound.once, reached.sound.database, fun i => (reached.sound.brokers i).store⟩

theorem phone_keeps_its_seat : SharedSample.revoking.tables.deviceGrants.get "h1" = some SharedSample.phone ∧
    IssuedFor SharedSample.revoking.issued "h1" SharedSample.seat := by
  have held : SharedSample.revoking.tables.deviceGrants.get "h1" = some SharedSample.phone := by decide +kernel
  exact ⟨held, (hashes_keep_their_seats SharedSample.revoking_reached).2.1.devices.issued "h1" SharedSample.phone held⟩

/-- Whichever broker saves, rows that it has not changed stay as the others have left them, and a row that it has changed is
written only where nobody has removed it. -/
theorem saves_merge {p : Plane} {w : SharedWorld} (reached : SharedReached p w) {i : Nat} {after : ControlTables}
    (saved : persistDelta (w.brokers i).lastSaved (w.brokers i).store w.tables = .ok after) :
    SaveMerges (w.brokers i).lastSaved (w.brokers i).store w.tables after :=
  persistDelta_merges reached.sound.once (reached.sound.brokers i).lastSaved (reached.sound.brokers i).store saved

theorem revoking_merges : ∃ after,
    persistDelta (SharedSample.revoking.brokers 0).lastSaved (SharedSample.revoking.brokers 0).store
      SharedSample.revoking.tables = .ok after ∧
    SaveMerges (SharedSample.revoking.brokers 0).lastSaved (SharedSample.revoking.brokers 0).store
      SharedSample.revoking.tables after := by
  obtain ⟨after, saved⟩ := SharedSample.revoking_saves
  exact ⟨after, saved, saves_merge SharedSample.revoking_reached saved⟩

/-- Where nobody else has written since, a save leaves each credential in the database as its broker has it in memory. -/
theorem lone_saves_are_exact {p : Plane} {w : SharedWorld} (reached : SharedReached p w) {i : Nat} {after : ControlTables}
    (saved : persistDelta (w.brokers i).lastSaved (w.brokers i).store w.tables = .ok after)
    (alone : w.tables.load.Same (w.brokers i).lastSaved)
    (fits : ∀ entry ∈ (w.brokers i).store.grantsByHash.pairs, entry.2.lastSeen.all fitsBigint = true) :
    after.relayRegistrations.Same (w.brokers i).store.relayRegistrationsByHash ∧
      after.clientIdentities.Same (w.brokers i).store.clientRegistrationsByHash ∧
      after.deviceGrants.Same (w.brokers i).store.grantsByHash := by
  have merges := saves_merge reached saved
  obtain ⟨relays, clients, devices, -⟩ := alone
  refine ⟨merges.relays.exact relays fun _ row stored _ => savedRegistrations_plain row stored,
    merges.clients.exact clients fun _ row stored _ => savedClients_plain row stored,
    merges.devices.exact devices fun key row stored held stores => ?_⟩
  have fit := fits (key, row) (Table.mem_pairs_iff.mpr held)
  have whole : row.lastSeen.filter fitsBigint = row.lastSeen := by
    cases seen : row.lastSeen with
    | none => rfl
    | some at_ =>
      rw [seen, Option.all_some] at fit
      rw [Option.filter_some, if_pos fit]
  simp only [savedDevices, whole] at stores
  split at stores
  · exact (Except.ok.inj stores).symm
  · cases stores

theorem revoking_is_exact : ∃ after,
    persistDelta (SharedSample.revoking.brokers 0).lastSaved (SharedSample.revoking.brokers 0).store
      SharedSample.revoking.tables = .ok after ∧
    after.deviceGrants.Same (SharedSample.revoking.brokers 0).store.grantsByHash := by
  obtain ⟨after, saved⟩ := SharedSample.revoking_saves
  exact ⟨after, saved, (lone_saves_are_exact SharedSample.revoking_reached saved (by decide +kernel) (by decide +kernel)).2.2⟩

end Sealwire.Control

import Sealwire.Control.SharedRuns

namespace Sealwire.Control

/-- The seat is not in the database, and a broker that has it in memory has seen it saved. -/
structure SeatOut (w : SharedWorld) (seat : Seat) : Prop where
  database : ¬savedDevices.Holds w.tables.deviceGrants seat
  confirmed : ∀ i, savedDevices.Holds (w.brokers i).store.grantsByHash seat →
    savedDevices.Holds (w.brokers i).lastSaved.grantsByHash seat

namespace SeatOut

variable {p : Plane} {w : SharedWorld} {seat : Seat}

theorem set (out : SeatOut w seat) (i : Nat) {broker : SharedBroker}
    (confirmed : savedDevices.Holds broker.store.grantsByHash seat → savedDevices.Holds broker.lastSaved.grantsByHash seat) :
    SeatOut (w.set i broker) seat := by
  refine { out with confirmed := fun j => ?_ }
  simp only [SharedWorld.set]
  split
  · exact confirmed
  · exact out.confirmed j

/-- What was loaded from the database does not have the seat. -/
theorem setLoaded (out : SeatOut w seat) (i : Nat) {broker : SharedBroker} (loaded : broker.store = w.tables.load) :
    SeatOut (w.set i broker) seat := by
  refine out.set i fun holds => ?_
  rw [loaded] at holds
  exact absurd holds out.database

/-- What is written does not bring the seat back, where whoever asks for the seat has seen it saved. -/
theorem commit (out : SeatOut w seat) (sound : SharedSound p w) {prev next : PublicControlStateStore} {tables : ControlTables}
    (before : StoreStands p w.issued w.named prev) (wanted : StoreStands p w.issued w.named next)
    (confirmed : savedDevices.Holds next.grantsByHash seat → savedDevices.Holds prev.grantsByHash seat)
    (saved : persistDelta prev next w.tables = .ok tables) : SeatOut { w with tables := tables } seat := by
  have merges := persistDelta_merges sound.once before wanted saved
  have absent := merges.devices.stays_out savedDevices_lawful (IssuedFor.functional sound.once) before.devices
    sound.database.devices wanted.devicesApart confirmed out.database
  exact { out with database := absent }

/-- A signed refresh finds no device there. -/
theorem refresh (out : SeatOut w seat) (sound : SharedSound p w) (i k : Nat) (challenge : CredentialRefreshChallengeResponse)
    (clientVerifyKey : String) (cached : RefreshCacheRecords) {hash deviceHash : String} (now : Nat) (outcome : SaveOutcome)
    (fresh : ∀ one ∈ w.issued, one.hash ∉ [deviceHash, hash]) (once : [deviceHash, hash].Nodup) :
    SeatOut (w.refresh p i k (w.brokers i) challenge clientVerifyKey cached hash deviceHash now outcome) seat := by
  have committed {made : RefreshedTables}
      (done : w.tables.refresh p challenge clientVerifyKey hash deviceHash now = .ok made) :
      SeatOut { w with tables := made.tables, issued := made.issued ++ w.issued } seat := by
    obtain ⟨issues, -, after, previous, before, kept, saved⟩ := sound.refreshed done fresh once
    have still : SeatOut { w with issued := made.issued ++ w.issued } seat := { out with }
    exact still.commit issues before after (kept seat) saved
  have confirmed := out.confirmed i
  unfold SharedWorld.refresh
  dsimp only
  split
  · exact out.set i confirmed
  · exact out.set i confirmed
  · rename_i done
    exact (committed done).set i confirmed
  · rename_i done
    split
    · exact (committed done).set i confirmed
    · exact out.set i confirmed

theorem mergeRefresh (out : SeatOut w seat) (sound : SharedSound p w) (i k : Nat)
    {challenge : CredentialRefreshChallengeResponse} {cached : RefreshCacheRecords} {refreshed : PublicControlStateStore}
    (there : (w.brokers i).refreshes.get k = some (.committed challenge cached refreshed)) :
    SeatOut (w.set i (SharedWorld.mergeRefresh k (w.brokers i) challenge cached refreshed)) seat := by
  have broker := sound.brokers i
  have fresh := (broker.refreshes k challenge cached refreshed there).1
  unfold SharedWorld.mergeRefresh
  dsimp only
  split
  · exact out.set i fun holds => StoreStands.seat_of_merge sound.once broker.lastSaved fresh challenge (out.confirmed i) holds
  · exact out.set i (out.confirmed i)

theorem save (out : SeatOut w seat) (sound : SharedSound p w) (i : Nat) (outcome : SaveOutcome) :
    SeatOut (w.save i (w.brokers i) outcome) seat := by
  have committed {tables : ControlTables} (saved : persistDelta (w.brokers i).lastSaved (w.brokers i).store w.tables = .ok tables) :
      SeatOut { w with tables := tables } seat :=
    out.commit sound (sound.brokers i).lastSaved (sound.brokers i).store (out.confirmed i) saved
  cases outcome with
  | busy => exact out.set i fun holds => holds
  | answered =>
    simp only [SharedWorld.save]
    split
    · rename_i tables saved
      exact (committed saved).set i fun holds => holds
    · exact out.set i (out.confirmed i)
  | lost commits =>
    simp only [SharedWorld.save]
    split
    · rename_i tables saved
      split
      · exact (committed saved).set i (out.confirmed i)
      · exact out.set i (out.confirmed i)
    · exact out.set i (out.confirmed i)

/-- Only a grant of the seat brings it back. -/
theorem step (out : SeatOut w seat) (sound : SharedSound p w) (move : SharedMove) (may : move.May w)
    (ungranted : ¬move.Grants seat) : SeatOut (move.run p w) seat := by
  cases move with
  | restarts i => exact out.setLoaded i rfl
  | load i => exact out.setLoaded i rfl
  | snapshot i key =>
    simp only [SharedMove.run]
    split
    · exact out.set i (out.confirmed i)
    · exact out
  | edit i change =>
    have edited : SeatOut
        { w with
          issued := (change.run p (w.brokers i).store).2 ++ w.issued
          named := change.names (w.brokers i).store ++ w.named } seat := { out with }
    refine edited.set i fun holds => ?_
    rcases StoreEdit.seat_of_run holds with granted | before
    · exact absurd granted ungranted
    · exact out.confirmed i before
  | touch i hash now written =>
    have memory (holds : savedDevices.Holds ((w.brokers i).store.touchDevice hash now).grantsByHash seat) :
        savedDevices.Holds (w.brokers i).lastSaved.grantsByHash seat :=
      out.confirmed i (SavedRows.Holds.of_modify holds fun _ => rfl)
    simp only [SharedMove.run]
    split
    · unfold SharedWorld.touchTables
      split
      · have touched : SeatOut { w with tables := w.tables.touch hash now } seat :=
          { out with database := fun holds => out.database (SavedRows.Holds.of_modify holds fun _ => rfl) }
        exact touched.set i memory
      · exact out.set i memory
    · exact out.set i memory
  | save i outcome => exact out.save sound i outcome
  | reconcile i reached =>
    cases reached with
    | false => exact out.set i (out.confirmed i)
    | true =>
      simp only [SharedMove.run, SharedWorld.reconcile, if_true]
      split
      · rename_i committed
        -- What is in memory is what the database holds.
        have same : w.tables.load.Same (w.brokers i).store := by
          unfold classifySaveReconciliation at committed
          split at committed
          · assumption
          · split at committed
            · cases committed
            · cases committed
        refine out.set i fun holds => absurd (holds.sub fun key row found => ?_) out.database
        exact (same.2.2.1 key).trans found
      · exact out.setLoaded i rfl
      · exact out.setLoaded i rfl
  | beginRefresh i k challenge key => exact out.set i (out.confirmed i)
  | refresh i k hash deviceHash now outcome =>
    simp only [SharedMove.run]
    split
    · exact out.refresh sound i k _ _ _ now outcome may.1 may.2
    · exact out
  | mergeRefresh i k =>
    simp only [SharedMove.run]
    split
    · rename_i there
      exact out.mergeRefresh sound i k there
    · exact out

end SeatOut

end Sealwire.Control

import Sealwire.Control.PlaneRuns
import Sealwire.Lib.Counts

namespace Sealwire.Control

variable {p : Plane} {w : PlaneWorld} {store next : PublicControlStateStore} {relayId : String} {limit : Nat}

namespace PublicControlStateStore

theorem countDeviceGrants_eq (store : PublicControlStateStore) (relayId : String) :
    store.countDeviceGrantsForRelay relayId = store.grantsByHash.count fun grant => grant.relayId == relayId :=
  rfl

theorem countDeviceGrants_fewer (fewer : Fewer next store) (relayId : String) :
    next.countDeviceGrantsForRelay relayId ≤ store.countDeviceGrantsForRelay relayId := by
  rw [countDeviceGrants_eq, countDeviceGrants_eq]
  exact Table.count_le_of_sub fewer.devices

/-- A device that has a row takes that row's place; a new one has to fit under the limit of its relay. -/
theorem countDeviceGrants_grant {registration : PersistedRelayRegistration} {deviceId hash : String} {cap : Option Nat}
    {now grace : Nat} (granted : store.grantDevice registration deviceId cap hash now grace = .ok next) (relayId : String) :
    next.countDeviceGrantsForRelay relayId ≤ store.countDeviceGrantsForRelay relayId ∨
      registration.relayId = relayId ∧ (∀ most ∈ cap, next.countDeviceGrantsForRelay relayId ≤ most) := by
  unfold grantDevice at granted
  dsimp only at granted
  rw [Bool.cond_eq_ite] at granted
  split at granted
  · cases granted
  · rename_i fits
    cases granted
    have less := Fewer.removeDeviceGrants store registration.relayId none (some deviceId)
    have counted := countDeviceGrants_fewer less relayId
    rw [countDeviceGrants_eq, countDeviceGrants_eq] at counted
    rw [countDeviceGrants_eq, countDeviceGrants_eq]
    unfold putDeviceGrant
    dsimp only
    by_cases mine : registration.relayId = relayId
    · cases has : store.hasDeviceGrant registration.relayId none deviceId with
      | true =>
        -- The row that it had is gone before the new one comes in.
        obtain ⟨⟨was, before⟩, member, seat⟩ := List.any_eq_true.mp has
        dsimp only at seat
        have held := mem_pairs_iff.mp member
        obtain ⟨relay, device⟩ := StoreSound.targets_device.mp seat
        have kept : ∀ key row, (store.removeDeviceGrants registration.relayId none (some deviceId)).1.grantsByHash.get key =
            some row → (store.grantsByHash.drop was).get key = some row := by
          intro key row found
          obtain ⟨there, untargeted⟩ := kept_of_removeMatching found
          rw [Table.get_drop]
          split
          · rename_i same
            rw [same, held] at there
            cases there
            rw [seat] at untargeted
            cases untargeted
          · exact there
        have dropped : (store.grantsByHash.drop was).count (fun grant => grant.relayId == relayId) +
            (if (before.relayId == relayId) = true then 1 else 0) =
              store.grantsByHash.count fun grant => grant.relayId == relayId := Table.count_drop_of_get held
        have same : (before.relayId == relayId) = true := beq_iff_eq.mpr (relay.trans mine)
        rw [same, if_pos rfl] at dropped
        have removed := @Table.count_le_of_sub _ _ _ _ (fun grant => grant.relayId == relayId) _ kept
        refine .inl ((Table.count_put_le _ _ _).trans ?_)
        omega
      | false =>
        refine .inr ⟨mine, fun most is => (Table.count_put_le _ _ _).trans ?_⟩
        cases is
        rw [has] at fits
        have room : ¬most ≤ store.countDeviceGrantsForRelay registration.relayId := by simpa using fits
        rw [countDeviceGrants_eq, mine] at room
        omega
    · refine .inl ?_
      rw [Table.count_put]
      have not_counted : (registration.relayId == relayId) = false := beq_eq_false_iff_ne.mpr mine
      dsimp only
      rw [not_counted, if_neg Bool.false_ne_true, Nat.add_zero]
      exact (Table.count_drop_le _ _).trans counted

/-- A signed refresh gives no seat away. -/
theorem countDeviceGrants_rotate {minted : List MintedToken} (sound : StoreSound p minted store)
    {challenge : CredentialRefreshChallengeResponse} {key hash deviceHash : String} {now grace : Nat}
    (rotated : store.rotateSignedCredentials challenge key hash deviceHash now grace = .ok next) (relayId : String) :
    next.countDeviceGrantsForRelay relayId ≤ store.countDeviceGrantsForRelay relayId := by
  obtain ⟨_, client, -, -, -, ⟨-, rfl⟩ | ⟨_, device, _, was, -, -, -, held, rfl⟩⟩ := StoreSound.rotateSigned_cases rotated
  · exact le_rfl
  · have filed : device.refreshTokenHash = was := sound.devices.filed was device held
    have dropped : (store.grantsByHash.drop was).count (fun grant => grant.relayId == relayId) +
        (if (device.relayId == relayId) = true then 1 else 0) =
          store.grantsByHash.count fun grant => grant.relayId == relayId := Table.count_drop_of_get held
    have less : ((store.grantsByHash.drop was).drop deviceHash).count (fun grant => grant.relayId == relayId) ≤
        (store.grantsByHash.drop was).count fun grant => grant.relayId == relayId := Table.count_drop_le _ _
    rw [countDeviceGrants_eq, countDeviceGrants_eq]
    unfold putDeviceGrant rotateClientIdentity putClientIdentity removeClientIdentityByClientId
    dsimp only
    rw [filed, Table.count_put]
    dsimp only
    omega

theorem countDeviceGrants_touch (store : PublicControlStateStore) (hash : String) (now : Nat) (relayId : String) :
    (store.touchDevice hash now).countDeviceGrantsForRelay relayId ≤ store.countDeviceGrantsForRelay relayId := by
  rw [countDeviceGrants_eq, countDeviceGrants_eq]
  exact Table.count_modify_le _ _ _ fun _ => rfl

theorem clientRelayGrants_grant {registration : PersistedRelayRegistration} {deviceId hash : String} {cap : Option Nat}
    {now grace : Nat} (granted : store.grantDevice registration deviceId cap hash now grace = .ok next) :
    next.clientRelayGrantsByKey = store.clientRelayGrantsByKey := by
  unfold grantDevice at granted
  dsimp only at granted
  rw [Bool.cond_eq_ite] at granted
  split at granted
  · cases granted
  · cases granted
    rfl

theorem clientRelayGrants_rotate {challenge : CredentialRefreshChallengeResponse} {key hash deviceHash : String}
    {now grace : Nat} (rotated : store.rotateSignedCredentials challenge key hash deviceHash now grace = .ok next) :
    next.clientRelayGrantsByKey = store.clientRelayGrantsByKey := by
  obtain ⟨_, _, -, -, -, ⟨-, rfl⟩ | ⟨_, _, _, _, -, -, -, -, rfl⟩⟩ := StoreSound.rotateSigned_cases rotated
  · rfl
  · rfl

def countClientGrantsForRelay (store : PublicControlStateStore) (relayId : String) : Nat :=
  store.clientRelayGrantsByKey.count fun grant => grant.relayId == relayId

/-- Each client's grant of a relay is under the key of the two. -/
def ClientGrantsFiled (store : PublicControlStateStore) : Prop :=
  ∀ key grant, store.clientRelayGrantsByKey.get key = some grant → clientRelayGrantKey grant.clientId grant.relayId = key

theorem countClientGrants_fewer (fewer : Fewer next store) (relayId : String) :
    next.countClientGrantsForRelay relayId ≤ store.countClientGrantsForRelay relayId :=
  Table.count_le_of_sub fewer.clientRelays

/-- A claim that is not one too many leaves every relay within its limit. -/
theorem countClientGrants_claim (filed : store.ClientGrantsFiled) {existingId : Option String}
    {grant : PersistedClientRelayGrant} (admitted : store.tooManyClients grant.relayId existingId = false)
    (known : ∀ id ∈ existingId, grant.clientId = id)
    (within : ∀ relayId, store.countClientGrantsForRelay relayId ≤ maxClientIdentitiesPerRelay) (relayId : String) :
    (store.upsertClientRelayGrant grant).countClientGrantsForRelay relayId ≤ maxClientIdentitiesPerRelay := by
  have bound := within relayId
  unfold countClientGrantsForRelay at bound
  unfold countClientGrantsForRelay upsertClientRelayGrant
  dsimp only
  by_cases mine : grant.relayId = relayId
  · subst mine
    unfold tooManyClients at admitted
    simp only [Bool.and_eq_false_iff, decide_eq_false_iff_not, Bool.not_eq_false'] at admitted
    rcases admitted with room | has
    · have few : store.clientRelayGrantsByKey.count (fun other => other.relayId == grant.relayId) <
          maxClientIdentitiesPerRelay := Nat.lt_of_not_le room
      exact (Table.count_put_le _ _ _).trans few
    · obtain ⟨⟨was, before⟩, member, is_id⟩ := List.any_eq_true.mp has
      obtain ⟨listed, of_relay⟩ := List.mem_filter.mp member
      have held := mem_pairs_iff.mp listed
      have id : grant.clientId = before.clientId := known _ (beq_iff_eq.mp is_id).symm
      have relay : before.relayId = grant.relayId := beq_iff_eq.mp of_relay
      have under := filed was before held
      rw [← id, relay] at under
      rw [under]
      exact (Table.count_put_of_get held of_relay grant).trans bound
  · have not_counted : (grant.relayId == relayId) = false := beq_eq_false_iff_ne.mpr mine
    rw [Table.count_put, not_counted, if_neg Bool.false_ne_true, Nat.add_zero]
    exact (Table.count_drop_le _ _).trans bound

end PublicControlStateStore

/-- What the limits need of a store. -/
structure WithinLimits (relayId : String) (limit : Nat) (store : PublicControlStateStore) : Prop where
  seats : store.countDeviceGrantsForRelay relayId ≤ limit
  filed : store.ClientGrantsFiled
  clients : ∀ relayId, store.countClientGrantsForRelay relayId ≤ maxClientIdentitiesPerRelay

namespace WithinLimits

theorem fewer (within : WithinLimits relayId limit store) (fewer : Fewer next store) : WithinLimits relayId limit next where
  seats := (PublicControlStateStore.countDeviceGrants_fewer fewer relayId).trans within.seats
  filed key grant found := within.filed key grant (fewer.clientRelays key grant found)
  clients relayId := (PublicControlStateStore.countClientGrants_fewer fewer relayId).trans (within.clients relayId)

/-- The clients' grants are what they were. -/
theorem seated (within : WithinLimits relayId limit store) (seats : next.countDeviceGrantsForRelay relayId ≤ limit)
    (same : next.clientRelayGrantsByKey = store.clientRelayGrantsByKey) : WithinLimits relayId limit next where
  seats := seats
  filed := by
    unfold PublicControlStateStore.ClientGrantsFiled
    rw [same]
    exact within.filed
  clients relayId := by
    unfold PublicControlStateStore.countClientGrantsForRelay
    rw [same]
    exact within.clients relayId

theorem claim (within : WithinLimits relayId limit store) {existingId : Option String} {grant : PersistedClientRelayGrant}
    (admitted : store.tooManyClients grant.relayId existingId = false) (known : ∀ id ∈ existingId, grant.clientId = id)
    (seats : next.countDeviceGrantsForRelay relayId ≤ limit)
    (same : next.clientRelayGrantsByKey = store.clientRelayGrantsByKey) :
    WithinLimits relayId limit (next.upsertClientRelayGrant grant) where
  seats := seats
  filed key found there := by
    have put : (next.clientRelayGrantsByKey.put (clientRelayGrantKey grant.clientId grant.relayId) grant).get key =
        some found := there
    rcases StoreSound.now_of_put put with ⟨rfl, rfl⟩ | ⟨-, was⟩
    · rfl
    · rw [same] at was
      exact within.filed key found was
  clients other := by
    have bound := PublicControlStateStore.countClientGrants_claim within.filed admitted known within.clients other
    unfold PublicControlStateStore.countClientGrantsForRelay PublicControlStateStore.upsertClientRelayGrant at bound ⊢
    dsimp only at bound ⊢
    rw [same]
    exact bound

end WithinLimits

/-- Memory and file keep to the limits, and so will every grant that is under way. -/
structure KeepsLimits (relayId : String) (limit : Nat) (w : PlaneWorld) : Prop where
  store : WithinLimits relayId limit w.store
  file : WithinLimits relayId limit w.file
  calls : ∀ k registration deviceId cap, w.calls.get k = some (.granting registration deviceId cap) →
    registration.relayId = relayId → ∃ most ∈ cap, most ≤ limit

/-- The relay's devices are granted under a limit of at most this. -/
def PlaneMove.Capped (relayId : String) (limit : Nat) : PlaneMove → Prop
  | .issueDeviceGrant _ _ request cap => request.relayId = relayId → ∃ most ∈ cap, most ≤ limit
  | _ => True

namespace KeepsLimits

theorem start (relayId : String) (limit : Nat) : KeepsLimits relayId limit .start := by
  have none_there {Row : Type} {P : Prop} {key : String} {row : Row} (found : (∅ : Table String Row).get key = some row) :
      P := by
    rw [Table.get_empty] at found
    cases found
  have empty : WithinLimits relayId limit {} := ⟨Nat.zero_le _, fun _ _ found => none_there found, fun _ => Nat.zero_le _⟩
  refine ⟨empty, empty, fun k registration deviceId cap found => ?_⟩
  rw [PlaneWorld.start, Table.get_empty] at found
  cases found

theorem changes (keeps : KeepsLimits relayId limit w) (kept : PlaneKept p w) {move : PlaneMove} {minted : List MintedToken}
    (changes : Changes p w move next minted) : WithinLimits relayId limit next := by
  have within := keeps.store
  have seats := within.seats
  cases changes with
  | fewer fewer => exact within.fewer fewer
  | enrolled key => exact within.seated seats rfl
  | restored _ fewer =>
    have less := within.fewer fewer
    exact less.seated less.seats rfl
  | @granted k registration deviceId cap call _ _ _ _ granted =>
    refine within.seated ?_ (PublicControlStateStore.clientRelayGrants_grant granted)
    rcases PublicControlStateStore.countDeviceGrants_grant granted relayId with fewer | ⟨mine, under⟩
    · exact fewer.trans seats
    · obtain ⟨most, is, bound⟩ := keeps.calls k registration deviceId cap call mine
      exact (under most is).trans bound
  | claimed claim _ admitted issues =>
    unfold PublicControlStateStore.issueOrRotateClientIdentity at issues
    split at issues
    · rename_i existing found
      cases issues
      rw [found] at admitted
      have known : ∀ id ∈ some existing.clientId, existing.clientId = id := fun id is => Option.some.inj is
      exact within.claim admitted known seats rfl
    · rename_i found
      cases issues
      rw [found] at admitted
      have known : ∀ id ∈ (none : Option String), p.clientId claim.clientVerifyKey = id := fun id is => absurd is (Option.not_mem_none id)
      exact within.claim admitted known seats rfl
  | rotated => exact within.seated seats rfl
  | refreshed _ rotated =>
    exact within.seated ((PublicControlStateStore.countDeviceGrants_rotate kept.store rotated relayId).trans seats)
      (PublicControlStateStore.clientRelayGrants_rotate rotated)
  | touched hash now =>
    exact within.seated ((PublicControlStateStore.countDeviceGrants_touch w.store hash now relayId).trans seats) rfl

theorem step (keeps : KeepsLimits relayId limit w) (kept : PlaneKept p w) {move : PlaneMove} (may : move.May p w)
    (capped : move.Capped relayId limit) : KeepsLimits relayId limit (PlaneMove.run p w move) := by
  by_cases restarts : move = .restarts
  · subst restarts
    refine ⟨keeps.file, keeps.file, fun k registration deviceId cap found => ?_⟩
    have none_there : (∅ : Table Nat PlaneCall).get k = some (.granting registration deviceId cap) := found
    rw [Table.get_empty] at none_there
    cases none_there
  · have moved := Changed.step may restarts
    have within := keeps.changes kept moved.store
    refine ⟨within, ?_, fun k registration deviceId cap found mine => ?_⟩
    · rcases moved.file with same | same
      · exact same ▸ keeps.file
      · exact same ▸ within
    · rcases moved.calls k _ found with before | ⟨_, _, request, rfl, asked, -⟩
      · exact keeps.calls k registration deviceId cap before mine
      · exact capped (asked.trans mine)

end KeepsLimits

/-- As long as a relay's grants are asked for under a limit, its devices stay within it, in memory and in the file, and
no relay ever has more than sixty-four clients: however the calls overlap, whatever is saved and wherever it restarts. -/
theorem limits_hold (run : Reaches (PlaneMove.run p) (fun v move => move.May p v ∧ move.Capped relayId limit) .start w) :
    (w.store.countDeviceGrantsForRelay relayId ≤ limit ∧ w.file.countDeviceGrantsForRelay relayId ≤ limit) ∧
    ∀ relay, w.store.countClientGrantsForRelay relay ≤ maxClientIdentitiesPerRelay ∧
      w.file.countClientGrantsForRelay relay ≤ maxClientIdentitiesPerRelay := by
  have along := run.invariant (P := fun v => PlaneKept p v ∧ KeepsLimits relayId limit v) ⟨.start p, .start relayId limit⟩
    fun v move holds may => ⟨holds.1.step may.1, holds.2.step holds.1 may.1 may.2⟩
  exact ⟨⟨along.2.store.seats, along.2.file.seats⟩, fun relay => ⟨along.2.store.clients relay, along.2.file.clients relay⟩⟩

instance (relayId : String) (limit : Nat) : (move : PlaneMove) → Decidable (move.Capped relayId limit)
  | .issueDeviceGrant _ _ request cap =>
    inferInstanceAs (Decidable (request.relayId = relayId → ∃ most ∈ cap, most ≤ limit))
  | .passes | .restarts | .enroll .. | .snapshot .. | .rollback .. | .goesOn .. | .issueClientGrant ..
  | .claimClientIdentity .. | .createRefreshChallenge .. | .refreshCredentials .. | .rotateClientIdentity ..
  | .issueDeviceWsToken .. | .revokeDeviceGrant .. | .revokeOtherDeviceGrants .. | .revokeClientIdentity ..
  | .revokeRelayRegistrationChain .. => inferInstanceAs (Decidable True)

theorem limits_hold_on_the_sample : PlaneSample.seated.store.countDeviceGrantsForRelay "relay-1" ≤ 2 := by
  have run : MayRun (PlaneMove.run PlaneSample.plane) (fun w move => move.May PlaneSample.plane w ∧ move.Capped "relay-1" 2)
      .start (PlaneSample.seats ++ PlaneSample.rotates) := by decide +kernel
  unfold PlaneSample.seated
  exact (limits_hold (.foldl run)).1.1

end Sealwire.Control

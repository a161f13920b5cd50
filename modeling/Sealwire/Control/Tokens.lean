import Sealwire.Control.Grace

namespace Sealwire.Control

variable {p : Plane} {w : PlaneWorld} {store : PublicControlStateStore}

theorem PlaneKept.sound (kept : PlaneKept p w) (held : store = w.store ∨ store = w.file) : StoreSound p w.minted store := by
  rcases held with rfl | rfl
  · exact kept.store
  · exact kept.file

/-- A token that was minted was minted for one holder. -/
theorem PlaneKept.one_holder (kept : PlaneKept p w) {hash : String} {holder : TokenHolder}
    (known : { hash := hash, holder := holder } ∈ w.minted) {token : MintedToken} (also : token ∈ w.minted)
    (named : token.hash = hash) : token.holder = holder :=
  congrArg MintedToken.holder (List.inj_on_of_nodup_map kept.once also known named)

/-- In memory and in the file a lookup finds the one row that a token opens, in whatever order it looks. A device has one
row and a client one, and no row keeps more than sixteen tokens that it replaced. -/
theorem each_token_opens_one_row (reached : PlaneReached p w) (held : store = w.store ∨ store = w.file) :
    (∀ token now key grant, store.findDeviceGrantForToken token now = some (key, grant) ↔
      store.grantsByHash.get key = some grant ∧ (key = token ∨ supersedes grant.superseded token now = true)) ∧
    (∀ token now key client, store.findClientIdentityForToken token now = some (key, client) ↔
      store.clientRegistrationsByHash.get key = some client ∧ (key = token ∨ supersedes client.superseded token now = true)) ∧
    (∀ one first other second, store.grantsByHash.get one = some first → store.grantsByHash.get other = some second →
      first.relayId = second.relayId → first.deviceId = second.deviceId → one = other) ∧
    (∀ one first other second, store.clientRegistrationsByHash.get one = some first →
      store.clientRegistrationsByHash.get other = some second →
      first.clientId = second.clientId ∨ first.clientVerifyKey = second.clientVerifyKey → one = other) ∧
    (∀ key grant, store.grantsByHash.get key = some grant → grant.superseded.length ≤ maxSupersededTokens) ∧
    ∀ key client, store.clientRegistrationsByHash.get key = some client → client.superseded.length ≤ maxSupersededTokens := by
  have sound := reached.kept.sound held
  refine ⟨fun token now key grant => findForToken_iff sound.devices, fun token now key client => findForToken_iff sound.clients,
    sound.oneSeat, fun one first other second found also same => ?_, sound.boundedDevices, sound.boundedClients⟩
  rcases same with id | key
  · exact sound.oneClient one first other second found also id
  · have id : first.clientId = second.clientId := by
      rw [sound.sealed one first found, sound.sealed other second also, key]
    exact sound.oneClient one first other second found also id

theorem renewed_token_opens_one_row :
    PlaneSample.renewed.file.findDeviceGrantForToken "h-t1" 5 = some ("h-t6", PlaneSample.phone) := by
  have held : PlaneSample.renewed.file.grantsByHash.get "h-t6" = some PlaneSample.phone := by decide +kernel
  have still : supersedes PlaneSample.phone.superseded "h-t1" 5 = true := by decide
  have rows := each_token_opens_one_row PlaneSample.renewed_reached
    (.inr (rfl : PlaneSample.renewed.file = PlaneSample.renewed.file))
  exact (rows.1 _ _ _ _).mpr ⟨held, .inr still⟩

/-- Whatever a refresh token opens, now or while it is honoured, it was minted for, and for nothing else. -/
theorem tokens_open_what_they_were_minted_for (reached : PlaneReached p w) (held : store = w.store ∨ store = w.file)
    (token : String) (now : Nat) :
    (∀ key grant, store.findDeviceGrantForToken token now = some (key, grant) →
      (∃ minted ∈ w.minted, minted.hash = token) ∧
        ∀ minted ∈ w.minted, minted.hash = token → minted.holder = .device grant.relayId grant.deviceId) ∧
    (∀ key client, store.findClientIdentityForToken token now = some (key, client) →
      (∃ minted ∈ w.minted, minted.hash = token) ∧
        ∀ minted ∈ w.minted, minted.hash = token → minted.holder = .client client.clientId) ∧
    ∀ registration, store.relayRegistrationsByHash.get token = some registration →
      (∃ minted ∈ w.minted, minted.hash = token) ∧
        ∀ minted ∈ w.minted, minted.hash = token → minted.holder = .relay registration.relayId := by
  have kept := reached.kept
  have sound := kept.sound held
  have only {holder : TokenHolder} (known : { hash := token, holder := holder } ∈ w.minted) :
      (∃ minted ∈ w.minted, minted.hash = token) ∧ ∀ minted ∈ w.minted, minted.hash = token → minted.holder = holder :=
    ⟨⟨_, known, rfl⟩, fun _ also named => kept.one_holder known also named⟩
  refine ⟨fun key grant found => ?_, fun key client found => ?_, fun registration found => ?_⟩
  · obtain ⟨there, named⟩ := (findForToken_iff sound.devices).mp found
    have bears : deviceDoor.Bears grant token := by
      rcases named with rfl | names
      · exact sound.devices.bears_own there
      · exact bears_of_supersedes names
    exact only (sound.deviceTokens key grant token there bears)
  · obtain ⟨there, named⟩ := (findForToken_iff sound.clients).mp found
    have bears : clientDoor.Bears client token := by
      rcases named with rfl | names
      · exact sound.clients.bears_own there
      · exact bears_of_supersedes names
    exact only (sound.clientTokens key client token there bears)
  · have filed := sound.relays token registration found
    have known := sound.relayTokens token registration found
    rw [filed] at known
    exact only known

theorem renewed_token_opens_what_it_was_minted_for :
    (∃ minted ∈ PlaneSample.renewed.minted, minted.hash = "h-t4") ∧
      ¬∃ minted ∈ PlaneSample.renewed.minted, minted.hash = "h-t4" ∧ minted.holder ≠ .client "client-v1.k" := by
  have found : PlaneSample.renewed.store.findClientIdentityForToken "h-t4" 5 = some ("h-t5", PlaneSample.client) := by
    decide +kernel
  have opened := tokens_open_what_they_were_minted_for PlaneSample.renewed_reached
    (.inl (rfl : PlaneSample.renewed.store = PlaneSample.renewed.store)) "h-t4" 5
  obtain ⟨known, only⟩ := opened.2.1 _ _ found
  refine ⟨known, ?_⟩
  rintro ⟨minted, member, named, other⟩
  exact other (only minted member named)

/-- No row is the seat of the device in the room. -/
def NoSeat (relayId brokerRoomId deviceId : String) (store : PublicControlStateStore) : Prop :=
  ∀ key grant, store.grantsByHash.get key = some grant →
    ¬(grant.relayId = relayId ∧ grant.brokerRoomId = brokerRoomId ∧ grant.deviceId = deviceId)

def PlaneCall.Seats (relayId brokerRoomId deviceId : String) : PlaneCall → Prop
  | .granting registration seated _ =>
    registration.relayId = relayId ∧ registration.brokerRoomId = brokerRoomId ∧ seated = deviceId
  | _ => False

/-- The section in which a relay gives the device a seat in the room. -/
def PlaneMove.Seats (w : PlaneWorld) (relayId brokerRoomId deviceId : String) : PlaneMove → Prop
  | .goesOn k _ => ∃ call ∈ w.calls.get k, call.Seats relayId brokerRoomId deviceId
  | _ => False

namespace NoSeat

variable {relayId room device : String} {next : PublicControlStateStore} {facts : PlaneFacts}

theorem fewer (none_there : NoSeat relayId room device store) (fewer : Fewer next store) :
    NoSeat relayId room device next :=
  fun key grant found => none_there key grant (fewer.devices key grant found)

theorem sameGrants (none_there : NoSeat relayId room device store) (same : next.grantsByHash = store.grantsByHash) :
    NoSeat relayId room device next := by
  unfold NoSeat
  rw [same]
  exact none_there

theorem touch (none_there : NoSeat relayId room device store) (hash : String) (now : Nat) :
    NoSeat relayId room device (store.touchDevice hash now) := by
  intro key grant found
  have modified : (store.grantsByHash.modify hash fun grant => { grant with lastSeen := some now }).get key = some grant :=
    found
  rw [Table.get_modify] at modified
  split at modified
  · obtain ⟨before, held, rfl⟩ := Option.map_eq_some_iff.mp modified
    exact none_there hash before held
  · exact none_there key grant modified

theorem grantDevice (none_there : NoSeat relayId room device store) {registration : PersistedRelayRegistration}
    {deviceId hash : String} {limit : Option Nat} {now grace : Nat}
    (other : ¬(registration.relayId = relayId ∧ registration.brokerRoomId = room ∧ deviceId = device))
    (granted : store.grantDevice registration deviceId limit hash now grace = .ok next) :
    NoSeat relayId room device next := by
  unfold PublicControlStateStore.grantDevice at granted
  dsimp only at granted
  rw [Bool.cond_eq_ite] at granted
  split at granted
  · cases granted
  · cases granted
    intro key grant found
    rcases StoreSound.now_of_put found with ⟨-, rfl⟩ | ⟨-, was⟩
    · exact other
    · exact none_there key grant ((Fewer.removeDeviceGrants store registration.relayId none (some deviceId)).devices key
        grant was)

theorem rotateSigned (none_there : NoSeat relayId room device store) {challenge : CredentialRefreshChallengeResponse}
    {key hash deviceHash : String} {now grace : Nat}
    (rotated : store.rotateSignedCredentials challenge key hash deviceHash now grace = .ok next) :
    NoSeat relayId room device next := by
  obtain ⟨_, client, -, -, -, ⟨-, rfl⟩ | ⟨_, grant, _, was, -, -, -, held, rfl⟩⟩ := StoreSound.rotateSigned_cases rotated
  · exact none_there.sameGrants rfl
  · intro other found there
    rcases StoreSound.now_of_put there with ⟨-, rfl⟩ | ⟨-, earlier⟩
    · exact none_there was grant held
    · exact none_there other found (Table.get_of_get_drop earlier)

/-- Only the section that grants the seat takes it. -/
theorem changes (none_there : NoSeat relayId room device w.store) {move : PlaneMove} {minted : List MintedToken}
    (changes : Changes p w move next minted) (other : ¬move.Seats w relayId room device) :
    NoSeat relayId room device next := by
  cases changes with
  | fewer fewer => exact none_there.fewer fewer
  | enrolled key => exact none_there.sameGrants rfl
  | restored _ fewer => exact (none_there.fewer fewer).sameGrants rfl
  | granted call goesOn _ granted =>
    refine none_there.grantDevice (fun same => other ?_) granted
    rw [goesOn]
    exact ⟨_, call, same⟩
  | claimed claim _ _ issues =>
    refine none_there.sameGrants ?_
    unfold PublicControlStateStore.issueOrRotateClientIdentity at issues
    split at issues <;> cases issues <;> rfl
  | rotated => exact none_there.sameGrants rfl
  | refreshed _ rotated => exact none_there.rotateSigned rotated
  | touched hash now => exact none_there.touch hash now

end NoSeat

/-- The seat is taken neither in memory nor in the file. -/
def Vacant (relayId brokerRoomId deviceId : String) (w : PlaneWorld) : Prop :=
  NoSeat relayId brokerRoomId deviceId w.store ∧ NoSeat relayId brokerRoomId deviceId w.file

namespace Vacant

variable {relayId room device : String}

theorem step (vacant : Vacant relayId room device w) {move : PlaneMove} (may : move.May p w)
    (other : ¬move.Seats w relayId room device) : Vacant relayId room device (PlaneMove.run p w move) := by
  by_cases restarts : move = .restarts
  · subst restarts
    exact ⟨vacant.2, vacant.2⟩
  · have moved := Changed.step may restarts
    have none_there := vacant.1.changes moved.store other
    rcases moved.file with same | same
    · exact ⟨none_there, same ▸ vacant.2⟩
    · exact ⟨none_there, same ▸ none_there⟩

end Vacant

/-- A device that a revoke reports as revoked gets in again only through a new grant for it: no token that it was given
and no refresh that was pending brings it back, and neither does a failed save or a restart. -/
theorem revoked_device_stays_out {later : PlaneWorld} {k : Nat} {facts : PlaneFacts} {registration : PersistedRelayRegistration}
    {deviceId : String} (at_ : w.calls.get k = some (.revokingDevice registration deviceId)) {count : Nat}
    (answer : (w.revokeDevice registration deviceId facts).2 = .ok count) (revoked : 0 < count)
    (run : Reaches (PlaneMove.run p) (fun v move => move.May p v ∧
      ¬move.Seats v registration.relayId registration.brokerRoomId deviceId) (PlaneMove.run p w (.goesOn k facts)) later)
    {token key : String} {now : Nat} {grant : PersistedDeviceGrant}
    (found : later.store.findDeviceGrantForToken token now = some (key, grant)) :
    ¬(grant.relayId = registration.relayId ∧ grant.brokerRoomId = registration.brokerRoomId ∧ grant.deviceId = deviceId) := by
  have none_left : NoSeat registration.relayId registration.brokerRoomId deviceId
      (w.store.removeDeviceGrants registration.relayId (some registration.brokerRoomId) (some deviceId)).1 := by
    rintro other seat there ⟨relay, room, device⟩
    have untargeted := (kept_of_removeMatching there).2
    simp [matchesOptionalRelayTarget, relay, room, device] at untargeted
  have vacated : Vacant registration.relayId registration.brokerRoomId deviceId (PlaneMove.run p w (.goesOn k facts)) := by
    simp only [PlaneMove.run, at_, PlaneMove.finish]
    unfold PlaneWorld.revokeDevice at answer ⊢
    dsimp only [PlaneWorld.proceed] at answer ⊢
    rw [Bool.cond_eq_ite] at answer ⊢
    split at answer
    · rename_i removed
      rw [if_pos removed]
      unfold PlaneWorld.persist at answer ⊢
      cases saved : facts.saved with
      | false =>
        rw [saved] at answer
        cases answer
      | true =>
        have gone := none_left.fewer (Fewer.removeClientRelayGrants _ registration.relayId (some registration.brokerRoomId)
          (some deviceId))
        exact ⟨gone, gone⟩
    · rename_i nothing
      cases answer
      simp only [Bool.or_eq_true, decide_eq_true_eq, not_or] at nothing
      exact absurd revoked nothing.1
  have along := run.invariant (P := Vacant registration.relayId registration.brokerRoomId deviceId) vacated
    fun _ _ vacant may => vacant.step may.1 may.2
  exact along.1 key grant (found_of_findForToken found)

/-- The phone is revoked, and the pad is what the broker knows after a restart. -/
theorem revoked_phone_stays_out :
    let revoked := PlaneMove.run PlaneSample.plane PlaneSample.renewed (.revokeDeviceGrant 7 "t0" "relay-1" "room-1" "phone")
    let later := PlaneMove.run PlaneSample.plane (PlaneMove.run PlaneSample.plane revoked
      (.goesOn 7 { now := 1, token := "t7", deviceToken := "u7" })) .restarts
    ∃ key grant, later.store.findDeviceGrantForToken "h-t2" 5 = some (key, grant) ∧ ¬grant.deviceId = "phone" := by
  let registration : PersistedRelayRegistration :=
    { relayId := "relay-1"
      brokerRoomId := "room-1"
      refreshTokenHash := "h-t0"
      createdAt := 0
      relayVerifyKey := some "rk" }
  let pad : PersistedDeviceGrant :=
    { relayId := "relay-1"
      brokerRoomId := "room-1"
      deviceId := "pad"
      refreshTokenHash := "h-t2"
      createdAt := 0
      lastSeen := some 0 }
  intro revoked later
  have at_ : revoked.calls.get 7 = some (.revokingDevice registration "phone") := by decide +kernel
  have answer : (revoked.revokeDevice registration "phone" { now := 1, token := "t7", deviceToken := "u7" }).2 = .ok 1 := by
    decide +kernel
  have found : later.store.findDeviceGrantForToken "h-t2" 5 = some ("h-t2", pad) := by decide +kernel
  have run : Reaches (PlaneMove.run PlaneSample.plane) (fun v move => move.May PlaneSample.plane v ∧
      ¬move.Seats v "relay-1" "room-1" "phone") (PlaneMove.run PlaneSample.plane revoked
        (.goesOn 7 { now := 1, token := "t7", deviceToken := "u7" })) later :=
    .next (m := PlaneMove.restarts) .start ⟨trivial, id⟩
  have apart := revoked_device_stays_out at_ answer Nat.one_pos run found
  exact ⟨"h-t2", pad, found, fun same => apart ⟨rfl, rfl, same⟩⟩

end Sealwire.Control

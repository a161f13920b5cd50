import Sealwire.Control.PlaneSound
import Sealwire.Control.RefreshTexts

namespace Sealwire.Control

namespace StoreSound

variable {p : Plane} {minted : List MintedToken} {store next : PublicControlStateStore} {hash : String} {now grace : Nat}

/-- What a row leaves behind is a key that it was opened by. -/
theorem bears_of_carry {row : PersistedDeviceGrant} {token : SupersededToken}
    (kept : token ∈ carrySuperseded row.superseded row.refreshTokenHash now grace) :
    deviceDoor.Bears row token.refreshTokenHash := by
  rcases mem_carrySuperseded kept with ⟨before, -⟩ | rfl
  · exact .inr ⟨token.expiresAt, before⟩
  · exact .inl rfl

theorem targets_device {grant : PersistedDeviceGrant} {relayId deviceId : String} :
    matchesOptionalRelayTarget grant.relayId grant.brokerRoomId grant.deviceId relayId none (some deviceId) = true ↔
      grant.relayId = relayId ∧ grant.deviceId = deviceId := by
  simp only [matchesOptionalRelayTarget, Option.map_none, Option.getD_none, Bool.and_true, Option.map_some,
    Option.getD_some, Bool.and_eq_true, beq_iff_eq]
  exact and_congr_right fun _ => eq_comm

theorem grantDevice (sound : StoreSound p minted store) (fresh : Unminted minted hash)
    {registration : PersistedRelayRegistration} {deviceId : String} {limit : Option Nat}
    (granted : store.grantDevice registration deviceId limit hash now grace = .ok next) :
    StoreSound p ({ hash := hash, holder := .device registration.relayId deviceId } :: minted) next := by
  unfold PublicControlStateStore.grantDevice at granted
  dsimp only at granted
  rw [Bool.cond_eq_ite] at granted
  split at granted
  · cases granted
  · cases granted
    let row : PersistedDeviceGrant :=
      { relayId := registration.relayId
        brokerRoomId := registration.brokerRoomId
        deviceId := deviceId
        refreshTokenHash := hash
        createdAt := now
        lastSeen := some now
        superseded := store.supersededByDevice registration.relayId deviceId now grace }
    have put := sound.putDevice (Fewer.removeDeviceGrants store registration.relayId none (some deviceId))
      (show Unminted minted row.refreshTokenHash from fresh) (fun token kept => ?_) (fun other found there same => ?_) ?_
    · exact put
    · have carried : token ∈ store.supersededByDevice registration.relayId deviceId now grace := kept
      unfold PublicControlStateStore.supersededByDevice at carried
      split at carried
      · rename_i was before found
        obtain ⟨held, seat⟩ := found_of_pairs found
        simp only [Bool.and_eq_true, beq_iff_eq] at seat
        exact ⟨was, before, held, gone_of_removeMatching held (targets_device.mpr seat), bears_of_carry carried, seat⟩
      · exact absurd carried List.not_mem_nil
    · have untargeted := (kept_of_removeMatching there).2
      rw [targets_device.mpr same] at untargeted
      cases untargeted
    · show (store.supersededByDevice registration.relayId deviceId now grace).length ≤ maxSupersededTokens
      unfold PublicControlStateStore.supersededByDevice
      split
      · exact length_carrySuperseded _ _ _ _
      · exact Nat.zero_le _

/-- Each key that the live rows of a client leave behind opened one of them. -/
theorem carried_by_client {rows : List (String × PersistedClientIdentity)} {carried : List SupersededToken}
    {token : SupersededToken} (kept : token ∈ rows.foldl (fun superseded (entry : String × PersistedClientIdentity) =>
      carrySuperseded (entry.2.superseded ++ superseded) entry.2.refreshTokenHash now grace) carried) :
    token ∈ carried ∨ ∃ entry ∈ rows, clientDoor.Bears entry.2 token.refreshTokenHash := by
  induction rows generalizing carried with
  | nil => exact .inl kept
  | cons entry rest ih =>
    rcases ih kept with now_kept | ⟨other, member, bears⟩
    · rcases mem_carrySuperseded now_kept with ⟨before, -⟩ | rfl
      · rcases List.mem_append.mp before with own | earlier
        · exact .inr ⟨entry, List.mem_cons_self, .inr ⟨token.expiresAt, own⟩⟩
        · exact .inl earlier
      · exact .inr ⟨entry, List.mem_cons_self, .inl rfl⟩
    · exact .inr ⟨other, List.mem_cons_of_mem _ member, bears⟩

theorem length_supersededByClient (store : PublicControlStateStore) (clientId : String) (now grace : Nat) :
    (store.supersededByClient clientId now grace).length ≤ maxSupersededTokens := by
  have bounded (rows : List (String × PersistedClientIdentity)) :
      (rows.foldl (fun superseded (entry : String × PersistedClientIdentity) =>
        carrySuperseded (entry.2.superseded ++ superseded) entry.2.refreshTokenHash now grace) []).length ≤
          maxSupersededTokens := by
    rcases List.eq_nil_or_concat rows with rfl | ⟨before, last, rfl⟩
    · exact Nat.zero_le _
    · rw [List.concat_eq_append, List.foldl_append]
      exact length_carrySuperseded _ _ _ _
  exact bounded _

theorem rotateClient (sound : StoreSound p minted store) (fresh : Unminted minted hash) {key : String}
    {client : PersistedClientIdentity} (found : store.clientRegistrationsByHash.get key = some client) :
    StoreSound p ({ hash := hash, holder := .client client.clientId } :: minted)
      (store.rotateClientIdentity client hash now grace) := by
  let row : PersistedClientIdentity :=
    { client with
      refreshTokenHash := hash
      superseded := store.supersededByClient client.clientId now grace }
  have put := sound.putClient (Fewer.removeClientIdentityByClientId store client.clientId)
    (show Unminted minted row.refreshTokenHash from fresh) (fun token kept => ?_) (fun other beside there same => ?_)
    (sound.sealed key client found) (length_supersededByClient store client.clientId now grace)
  · exact put
  · rcases carried_by_client kept with none_before | ⟨⟨was, before⟩, member, bears⟩
    · exact absurd none_before List.not_mem_nil
    · obtain ⟨there, same⟩ := List.mem_filter.mp member
      have held := mem_pairs_iff.mp there
      exact ⟨was, before, held, gone_of_removeMatching held same, bears, beq_iff_eq.mp same⟩
  · have untargeted := (kept_of_removeMatching there).2
    have target : (beside.clientId == client.clientId) = true := beq_iff_eq.mpr same
    rw [target] at untargeted
    cases untargeted

theorem issueOrRotate (sound : StoreSound p minted store) (fresh : Unminted minted hash) (verifyKey : String)
    (label : Option String) (now grace : Nat) : StoreSound p
      ({ hash := hash
         holder := .client (store.issueOrRotateClientIdentity p.clientId verifyKey label hash now grace).2 } :: minted)
      (store.issueOrRotateClientIdentity p.clientId verifyKey label hash now grace).1 := by
  unfold PublicControlStateStore.issueOrRotateClientIdentity
  split
  · rename_i existing found
    obtain ⟨⟨was, before⟩, first, rfl⟩ := Option.map_eq_some_iff.mp found
    obtain ⟨held, is_key⟩ := found_of_pairs first
    have same_key : before.clientVerifyKey = verifyKey := beq_iff_eq.mp is_key
    have target : (before.clientId == before.clientId) = true := beq_self_eq_true _
    let row : PersistedClientIdentity :=
      { clientId := before.clientId
        clientVerifyKey := verifyKey
        refreshTokenHash := hash
        createdAt := now
        clientLabel := label.or before.clientLabel
        superseded := carrySuperseded before.superseded before.refreshTokenHash now grace }
    have put := sound.putClient (Fewer.removeClientIdentityByClientId store before.clientId)
      (show Unminted minted row.refreshTokenHash from fresh) (fun token kept => ?_) (fun other beside there same => ?_)
      (show before.clientId = p.clientId verifyKey from same_key ▸ sound.sealed was before held)
      (length_carrySuperseded _ _ _ _)
    · exact put
    · refine ⟨was, before, held, gone_of_removeMatching held target, ?_, rfl⟩
      rcases mem_carrySuperseded kept with ⟨earlier, -⟩ | rfl
      · exact .inr ⟨token.expiresAt, earlier⟩
      · exact .inl rfl
    · have untargeted := (kept_of_removeMatching there).2
      have targeted : (beside.clientId == before.clientId) = true := beq_iff_eq.mpr same
      rw [targeted] at untargeted
      cases untargeted
  · rename_i none_found
    let row : PersistedClientIdentity :=
      { clientId := p.clientId verifyKey
        clientVerifyKey := verifyKey
        refreshTokenHash := hash
        createdAt := now
        clientLabel := label
        superseded := [] }
    have put := sound.putClient (Fewer.refl store) (show Unminted minted row.refreshTokenHash from fresh)
      (fun token kept => absurd kept List.not_mem_nil) (fun other beside there same => ?_) rfl (Nat.zero_le _)
    · exact put
    -- Whoever has the sealed id has the verify key, and would have been found.
    · have sealed := sound.sealed other beside there
      have key : beside.clientVerifyKey = verifyKey := p.clientId_injective (sealed.symm.trans same)
      have unlisted := List.find?_eq_none.mp (Option.map_eq_none_iff.mp none_found) (other, beside)
        (mem_pairs_iff.mpr there)
      simp [key] at unlisted

/-- The device of a refresh is one of the store, in the room the refresh names. -/
theorem found_of_refreshDevice {clientId room : String} {device : PersistedDeviceGrant}
    {registration : PersistedRelayRegistration}
    (found : store.refreshDeviceForClient clientId room = .ok (device, registration)) :
    ∃ key, store.grantsByHash.get key = some device ∧ device.brokerRoomId = room := by
  obtain ⟨⟨_, grant⟩, -, found⟩ := bind_eq_ok found
  obtain ⟨⟨key, other⟩, listed, found⟩ := bind_eq_ok found
  obtain ⟨⟨_, other_registration⟩, -, found⟩ := bind_eq_ok found
  cases found
  obtain ⟨held, fits⟩ := found_of_pairs (of_orInvalid listed)
  simp only [Bool.and_eq_true, beq_iff_eq] at fits
  exact ⟨key, held, fits.1.2⟩

/-- What a signed refresh does: the client's row is rotated, and the row of the device it names, if it names one. -/
theorem rotateSigned_cases {challenge : CredentialRefreshChallengeResponse} {verifyKey deviceHash : String}
    (rotated : store.rotateSignedCredentials challenge verifyKey hash deviceHash now grace = .ok next) :
    ∃ key client, store.clientRegistrationsByHash.get key = some client ∧ client.clientId = challenge.clientId ∧
      client.clientVerifyKey = verifyKey ∧
      ((challenge.brokerRoomId = none ∧ next = store.rotateClientIdentity client hash now grace) ∨
        ∃ room device registration was, challenge.brokerRoomId = some room ∧
          store.refreshDeviceForClient challenge.clientId room = .ok (device, registration) ∧
          some device.deviceId = challenge.deviceId ∧ store.grantsByHash.get was = some device ∧
          next = { store.rotateClientIdentity client hash now grace with
            grantsByHash := (store.rotateClientIdentity client hash now grace).grantsByHash.drop
              device.refreshTokenHash }.putDeviceGrant
            { device with
              superseded := carrySuperseded device.superseded device.refreshTokenHash now grace
              refreshTokenHash := deviceHash
              createdAt := now
              lastSeen := some now }) := by
  unfold PublicControlStateStore.rotateSignedCredentials at rotated
  obtain ⟨client, found, rotated⟩ := bind_eq_ok rotated
  obtain ⟨listed, is_key⟩ := Option.filter_eq_some_iff.mp (of_orInvalid found)
  obtain ⟨⟨key, other⟩, first, rfl⟩ := Option.map_eq_some_iff.mp listed
  obtain ⟨held, is_id⟩ := found_of_pairs first
  have same_id : other.clientId = challenge.clientId := beq_iff_eq.mp is_id
  refine ⟨key, other, held, same_id, beq_iff_eq.mp is_key, ?_⟩
  cases room : challenge.brokerRoomId with
  | none =>
    rw [room] at rotated
    cases rotated
    exact .inl ⟨rfl, rfl⟩
  | some room' =>
    rw [room] at rotated
    obtain ⟨⟨device, registration⟩, finds, rotated⟩ := bind_eq_ok rotated
    obtain ⟨_, valid, rotated⟩ := bind_eq_ok rotated
    cases rotated
    obtain ⟨was, there, -⟩ := found_of_refreshDevice finds
    rw [same_id] at finds
    exact .inr ⟨room', device, registration, was, rfl, finds, of_decide_eq_true (of_requireValid valid), there, rfl⟩

/-- Both rows are rotated under keys of their own. -/
theorem rotateSigned (sound : StoreSound p minted store) {challenge : CredentialRefreshChallengeResponse}
    {verifyKey deviceHash : String} (fresh : Unminted minted hash) (fresh_device : Unminted minted deviceHash)
    (distinct : hash ≠ deviceHash)
    (rotated : store.rotateSignedCredentials challenge verifyKey hash deviceHash now grace = .ok next) :
    (challenge.brokerRoomId = none ∧
        StoreSound p ({ hash := hash, holder := .client challenge.clientId } :: minted) next) ∨
      ∃ room device registration, challenge.brokerRoomId = some room ∧
        store.refreshDeviceForClient challenge.clientId room = .ok (device, registration) ∧
        StoreSound p ({ hash := deviceHash, holder := .device device.relayId device.deviceId } ::
          { hash := hash, holder := .client challenge.clientId } :: minted) next := by
  obtain ⟨key, client, found, same, -, ⟨no_room, rfl⟩ | ⟨room, device, registration, was, is_room, finds, -, held, rfl⟩⟩ :=
    rotateSigned_cases rotated
  · refine .inl ⟨no_room, ?_⟩
    rw [← same]
    exact sound.rotateClient fresh found
  · refine .inr ⟨room, device, registration, is_room, finds, ?_⟩
    have turned : StoreSound p ({ hash := hash, holder := .client challenge.clientId } :: minted)
        (store.rotateClientIdentity client hash now grace) := by
      rw [← same]
      exact sound.rotateClient fresh found
    have filed : device.refreshTokenHash = was := sound.devices.filed was device held
    have there : (store.rotateClientIdentity client hash now grace).grantsByHash.get was = some device := held
    have fresh_too : Unminted ({ hash := hash, holder := .client challenge.clientId } :: minted) deviceHash := by
      intro token member
      rcases List.mem_cons.mp member with rfl | before
      · exact distinct
      · exact fresh_device token before
    let row : PersistedDeviceGrant :=
      { device with
        superseded := carrySuperseded device.superseded device.refreshTokenHash now grace
        refreshTokenHash := deviceHash
        createdAt := now
        lastSeen := some now }
    have put := turned.putDevice (Fewer.dropDevice _ device.refreshTokenHash)
      (show Unminted _ row.refreshTokenHash from fresh_too) (fun token kept => ?_) (fun other beside there_too seat => ?_)
      (length_carrySuperseded _ _ _ _)
    · exact put
    · refine ⟨was, device, there, ?_, bears_of_carry kept, rfl, rfl⟩
      dsimp only
      rw [filed, Table.get_drop, if_pos rfl]
    · have dropped : ((store.rotateClientIdentity client hash now grace).grantsByHash.drop device.refreshTokenHash).get
          other = some beside := there_too
      have one := turned.oneSeat other beside was device (Table.get_of_get_drop dropped) there seat.1 seat.2
      rw [filed, Table.get_drop, if_pos one] at dropped
      cases dropped

end StoreSound

theorem found_of_findForToken {Row : Type} {rows : Table String Row} {superseded : Row → List SupersededToken}
    {token key : String} {now : Nat} {row : Row} (found : findForToken rows superseded token now = some (key, row)) :
    rows.get key = some row := by
  unfold findForToken at found
  split at found
  · rename_i held
    cases found
    exact held
  · exact (found_of_pairs found).1

/-- Everything that a section can make of the store, and of the tokens that were minted. -/
inductive Changes (p : Plane) (w : PlaneWorld) (move : PlaneMove) : PublicControlStateStore → List MintedToken → Prop
  | fewer {next : PublicControlStateStore} (fewer : Fewer next w.store) : Changes p w move next w.minted
  | enrolled (relayVerifyKey relayId brokerRoomId : String) (relayLabel : Option String) {facts : PlaneFacts}
      (draws : PlaneMove.Draws p w facts) : Changes p w move
        ((w.store.removeRelayRegistrationByVerifyKey relayVerifyKey).1.putRelayRegistration
          { relayId := relayId
            brokerRoomId := brokerRoomId
            refreshTokenHash := p.broker.sha256Hex facts.token
            createdAt := facts.now
            relayLabel := relayLabel
            relayVerifyKey := some relayVerifyKey })
        ({ hash := p.broker.sha256Hex facts.token, holder := .relay relayId } :: w.minted)
  | restored {k : Nat} {registration : PersistedRelayRegistration} (call : w.calls.get k = some (.restoring registration))
      {less : PublicControlStateStore} (fewer : Fewer less w.store) :
      Changes p w move (less.putRelayRegistration registration) w.minted
  | granted {k : Nat} {registration : PersistedRelayRegistration} {deviceId : String} {deviceLimit : Option Nat}
      (call : w.calls.get k = some (.granting registration deviceId deviceLimit)) {facts : PlaneFacts}
      (goesOn : move = .goesOn k facts) (draws : PlaneMove.Draws p w facts) {next : PublicControlStateStore}
      (granted : w.store.grantDevice registration deviceId deviceLimit (p.broker.sha256Hex facts.token) facts.now
        p.rotationGraceSecs = .ok next) :
      Changes p w move next
        ({ hash := p.broker.sha256Hex facts.token, holder := .device registration.relayId deviceId } :: w.minted)
  | claimed (claim : PendingClientClaim) {facts : PlaneFacts} (draws : PlaneMove.Draws p w facts)
      (admitted : w.store.tooManyClients claim.relayId
        ((w.store.clientIdentityForVerifyKey claim.clientVerifyKey).map (·.clientId)) = false)
      {issued : PublicControlStateStore} {clientId : String}
      (issues : w.store.issueOrRotateClientIdentity p.clientId claim.clientVerifyKey claim.clientLabel
        (p.broker.sha256Hex facts.token) facts.now p.rotationGraceSecs = (issued, clientId)) :
      Changes p w move
        (issued.upsertClientRelayGrant
          { clientId := clientId
            relayId := claim.relayId
            brokerRoomId := claim.brokerRoomId
            deviceId := claim.deviceId
            grantedAt := facts.now
            relayLabel := claim.relayLabel
            deviceLabel := claim.deviceLabel })
        ({ hash := p.broker.sha256Hex facts.token, holder := .client clientId } :: w.minted)
  | rotated {key : String} {client : PersistedClientIdentity}
      (found : w.store.clientRegistrationsByHash.get key = some client) {facts : PlaneFacts}
      (draws : PlaneMove.Draws p w facts) : Changes p w move
        (w.store.rotateClientIdentity client (p.broker.sha256Hex facts.token) facts.now p.rotationGraceSecs)
        ({ hash := p.broker.sha256Hex facts.token, holder := .client client.clientId } :: w.minted)
  | refreshed {challenge : CredentialRefreshChallengeResponse} {clientVerifyKey room : String} {facts : PlaneFacts}
      (draws : PlaneMove.Draws p w facts) {next : PublicControlStateStore}
      (rotated : w.store.rotateSignedCredentials challenge clientVerifyKey (p.broker.sha256Hex facts.token)
        (p.broker.sha256Hex facts.deviceToken) facts.now p.rotationGraceSecs = .ok next)
      (is_room : challenge.brokerRoomId = some room) {device : PersistedDeviceGrant} {registration : PersistedRelayRegistration}
      (finds : w.store.refreshDeviceForClient challenge.clientId room = .ok (device, registration)) : Changes p w move next
        ({ hash := p.broker.sha256Hex facts.deviceToken, holder := .device device.relayId device.deviceId } ::
          { hash := p.broker.sha256Hex facts.token, holder := .client challenge.clientId } :: w.minted)
  | touched (hash : String) (now : Nat) : Changes p w move (w.store.touchDevice hash now) w.minted

/-- The calls that a section starts, as far as they bring something into the store later. -/
def Begun (w : PlaneWorld) (move : PlaneMove) : PlaneCall → Prop
  | .restoring registration => ∃ k key, move = .snapshot k key ∧ w.store.registrationForVerifyKey key = some registration
  | .granting registration deviceId deviceLimit => ∃ k bearer request, move = .issueDeviceGrant k bearer request deviceLimit ∧
      request.relayId = registration.relayId ∧ request.deviceId = deviceId
  | _ => True

/-- What a section does, but a restart: memory changes in one of these ways, and the file follows it or stays. -/
structure Changed (p : Plane) (w : PlaneWorld) (move : PlaneMove) (next : PlaneWorld) : Prop where
  store : Changes p w move next.store next.minted
  file : next.file = w.file ∨ next.file = next.store
  calls : ∀ k call, next.calls.get k = some call → w.calls.get k = some call ∨ Begun w move call
  unix : w.unix ≤ next.unix

namespace Changed

variable {p : Plane} {w : PlaneWorld} {move : PlaneMove} {facts : PlaneFacts} {store : PublicControlStateStore}
  {minted : List MintedToken}

/-- A change is saved, or stands in memory alone. -/
theorem save (changes : Changes p w move store minted) : Changed p w move ({ w with minted := minted }.persist store facts).1 := by
  unfold PlaneWorld.persist
  cases facts.saved with
  | true => exact ⟨changes, .inr rfl, fun _ _ found => .inl found, le_rfl⟩
  | false => exact ⟨changes, .inl rfl, fun _ _ found => .inl found, le_rfl⟩

theorem remember (changes : Changes p w move store w.minted) : Changed p w move { w with store := store } :=
  ⟨changes, .inl rfl, fun _ _ found => .inl found, le_rfl⟩

theorem same (p : Plane) (w : PlaneWorld) (move : PlaneMove) : Changed p w move w :=
  remember (.fewer (.refl w.store))

/-- The claims and the challenges are no part of the store. -/
theorem pending {next : PlaneWorld} (changed : Changed p w move next) (claims : Table String PendingClientClaim)
    (refreshes : PendingRefreshes) :
    Changed p w move { next with pendingClientClaims := claims, pendingCredentialRefreshes := refreshes } :=
  ⟨changed.store, changed.file, changed.calls, changed.unix⟩

theorem proceed {next : PlaneWorld} (changed : Changed p w move next) (k : Nat) {call : PlaneCall}
    (begun : Begun w move call) : Changed p w move (next.proceed k (some call)) := by
  refine ⟨changed.store, changed.file, fun j other found => ?_, changed.unix⟩
  have put : (next.calls.put k call).get j = some other := found
  rw [Table.get_put] at put
  split at put
  · cases put
    exact .inr begun
  · exact changed.calls j other put

theorem admits {next : PlaneWorld} (changed : Changed p w move next) (k : Nat) {Admitted : Type}
    {call : Admitted → PlaneCall} {admitted : Except String Admitted}
    (begun : ∀ value, admitted = .ok value → Begun w move (call value)) :
    Changed p w move (PlaneMove.admits next k call admitted) := by
  cases admitted with
  | error reason => exact changed
  | ok value => exact changed.proceed k (begun value rfl)

section Calls

variable (k : Nat)

theorem enrollRelay (draws : PlaneMove.Draws p w facts) (key : String) (label : Option String) :
    Changed p w move (w.enrollRelay p key label facts).1 :=
  save (.enrolled key _ _ label draws)

theorem restoreRegistration {registration : PersistedRelayRegistration}
    (call : w.calls.get k = some (.restoring registration)) : Changed p w move (w.restoreRegistration registration facts) := by
  refine save (.restored call ?_)
  split
  · exact .removeRelayRegistrationByVerifyKey w.store _
  · exact .refl w.store

theorem grantDevice (goesOn : move = .goesOn k facts) (draws : PlaneMove.Draws p w facts)
    {registration : PersistedRelayRegistration} {deviceId : String} {limit : Option Nat} (call : w.calls.get k = some (.granting registration deviceId limit)) :
    Changed p w move (w.grantDevice p registration deviceId limit facts).1 := by
  unfold PlaneWorld.grantDevice
  dsimp only
  split
  · exact same p w move
  · rename_i store granted
    exact save (.granted call goesOn draws granted)

theorem claimClient (draws : PlaneMove.Draws p w facts) (claim : PendingClientClaim) :
    Changed p w move (w.claimClient p claim facts).1 := by
  unfold PlaneWorld.claimClient
  rw [Bool.cond_eq_ite]
  split
  · exact same p w move
  · rename_i admitted
    exact save (.claimed claim draws (Bool.not_eq_true _ ▸ admitted) rfl)

theorem refreshCredentials (draws : PlaneMove.Draws p w facts) (challenge : CredentialRefreshChallengeResponse)
    (key : String) : Changed p w move (w.refreshCredentials p challenge key facts).1 := by
  unfold PlaneWorld.refreshCredentials
  dsimp only
  split
  · exact same p w move
  · rename_i store rotated
    obtain ⟨_, client, found, named, -, ⟨no_room, rfl⟩ | ⟨room, device, registration, _, is_room, finds, -⟩⟩ :=
      StoreSound.rotateSigned_cases rotated
    · simp only [no_room]
      rw [← named]
      exact save (.rotated found draws)
    · simp only [is_room, finds]
      exact save (.refreshed draws rotated is_room finds)

theorem rotateClient (draws : PlaneMove.Draws p w facts) (bearer : String) :
    Changed p w move (w.rotateClient p bearer facts).1 := by
  unfold PlaneWorld.rotateClient
  split
  · rename_i primary client found
    rw [Bool.cond_eq_ite]
    split
    · exact same p w move
    · obtain ⟨key, held⟩ : ∃ key, w.store.clientRegistrationsByHash.get key = some client := by
        unfold PlaneWorld.findCredential at found
        rw [Bool.cond_eq_ite] at found
        split at found
        · obtain ⟨⟨hash, identity⟩, finds, is⟩ := Option.map_eq_some_iff.mp found
          cases is
          exact ⟨primary, found_of_findForToken finds⟩
        · cases found
      exact save (.rotated held draws)
  · exact same p w move

theorem takeClaim (claimId signature : String) (now checkedAt : Nat) :
    Changed p w move (w.takeClaim p claimId signature now checkedAt).1 := by
  have taken (claims : Table String PendingClientClaim) : Changed p w move { w with pendingClientClaims := claims } :=
    (same p w move).pending claims w.pendingCredentialRefreshes
  unfold PlaneWorld.takeClaim
  dsimp only
  split
  · exact taken _
  · rw [Bool.cond_eq_ite]
    split
    · exact taken _
    · split <;> exact taken _

theorem revokeDevice (registration : PersistedRelayRegistration) (deviceId : String) :
    Changed p w move (w.revokeDevice registration deviceId facts).1 := by
  have fewer := (Fewer.removeClientRelayGrants (w.store.removeDeviceGrants registration.relayId
    (some registration.brokerRoomId) (some deviceId)).1 registration.relayId (some registration.brokerRoomId)
      (some deviceId)).trans (Fewer.removeDeviceGrants _ _ _ _)
  unfold PlaneWorld.revokeDevice
  dsimp only
  rw [Bool.cond_eq_ite]
  split
  · exact save (.fewer fewer)
  · exact remember (.fewer fewer)

theorem revokeOthers (registration : PersistedRelayRegistration) (keep : String) :
    Changed p w move (w.revokeOthers registration keep facts).1 := by
  have fewer := (Fewer.removeAllOtherClientRelayGrants (w.store.removeAllOtherDeviceGrants registration.relayId
    registration.brokerRoomId keep).1 registration.relayId registration.brokerRoomId keep).trans
      (Fewer.removeAllOtherDeviceGrants _ _ _ _)
  unfold PlaneWorld.revokeOthers
  dsimp only
  rw [Bool.cond_eq_ite]
  split
  · exact save (.fewer fewer)
  · exact remember (.fewer fewer)

theorem revokeClient (client : PersistedClientIdentity) : Changed p w move (w.revokeClient client facts).1 := by
  have fewer := (Fewer.removeClientRelayGrantsByClientId (w.store.removeClientIdentityByClientId client.clientId).1
    client.clientId).trans (Fewer.removeClientIdentityByClientId _ _)
  unfold PlaneWorld.revokeClient
  dsimp only
  rw [Bool.cond_eq_ite]
  split
  · exact save (.fewer fewer)
  · exact remember (.fewer fewer)

theorem revokeChain (bearer relayId room : String) : Changed p w move (w.revokeChain p bearer relayId room facts).1 := by
  unfold PlaneWorld.revokeChain
  dsimp only
  split
  · exact same p w move
  · simp only [Bool.cond_eq_ite]
    split
    · exact same p w move
    · split
      · exact same p w move
      · have saved : Changed p w move
            (w.persist (w.store.removeRelayChain (p.broker.tokenHash .relay bearer) relayId room) facts).1 :=
          save (.fewer (.removeRelayChain w.store _ relayId room))
        split
        · rename_i next is
          rw [is] at saved
          exact saved
        · exact same p w move

theorem rollbackEnrollment (token : String) : Changed p w move (w.rollbackEnrollment p token facts) := by
  unfold PlaneWorld.rollbackEnrollment
  dsimp only
  rw [Bool.cond_eq_ite]
  split
  · exact save (.fewer (.dropRelay w.store _))
  · exact same p w move

theorem issueDeviceWsToken (bearer : String) (room : Option String) (now : Nat) :
    Changed p w move (w.issueDeviceWsToken p bearer room now).1 := by
  unfold PlaneWorld.issueDeviceWsToken
  split
  · simp only [Bool.cond_eq_ite]
    split
    · exact same p w move
    · refine remember ?_
      split
      · exact .touched _ now
      · exact .fewer (.refl w.store)
  · exact same p w move

theorem finish (goesOn : move = .goesOn k facts) (draws : PlaneMove.Draws p w facts) {call : PlaneCall} (at_ : w.calls.get k = some call) :
    Changed p w move (PlaneMove.finish p w facts call) := by
  cases call with
  | enrolling key label => exact enrollRelay draws key label
  | restoring registration => exact restoreRegistration k at_
  | granting registration deviceId limit => exact grantDevice k goesOn draws at_
  | attesting registration request => exact (same p w move).pending _ w.pendingCredentialRefreshes
  | claiming claim => exact claimClient draws claim
  | refreshing challenge key => exact refreshCredentials draws challenge key
  | revokingDevice registration deviceId => exact revokeDevice registration deviceId
  | revokingOthers registration keep => exact revokeOthers registration keep
  | revokingClient client => exact revokeClient client

end Calls

theorem drop {next : PlaneWorld} (changed : Changed p w move next) (k : Nat) : Changed p w move (next.proceed k none) := by
  refine ⟨changed.store, changed.file, fun j call found => ?_, changed.unix⟩
  have dropped : (next.calls.drop k).get j = some call := found
  exact changed.calls j call (Table.get_of_get_drop dropped)

/-- Every section but a restart changes the store in one of these ways. -/
theorem step (may : move.May p w) (lives : move ≠ .restarts) : Changed p w move (PlaneMove.run p w move) := by
  have idle := same p w move
  cases move with
  | passes => exact ⟨idle.store, idle.file, idle.calls, Nat.le_succ _⟩
  | restarts => exact absurd rfl lives
  | enroll k key label => exact idle.proceed k trivial
  | snapshot k key =>
    simp only [PlaneMove.run]
    split
    · rename_i registration found
      exact idle.proceed k ⟨k, key, rfl, found⟩
    · exact idle
  | rollback token facts => exact rollbackEnrollment token
  | issueDeviceGrant k bearer request limit =>
    refine idle.admits k fun registration admitted => ?_
    obtain ⟨known, authenticated, rest⟩ := bind_eq_ok admitted
    obtain ⟨_, -, rest⟩ := bind_eq_ok rest
    cases rest
    refine ⟨k, bearer, request, rfl, ?_, rfl⟩
    unfold PlaneWorld.authenticateRelay at authenticated
    split at authenticated
    · simp only [Bool.cond_eq_ite] at authenticated
      split at authenticated
      · cases authenticated
      · rename_i same_relay
        split at authenticated
        · cases authenticated
        · cases authenticated
          rw [Bool.not_eq_true, bne_eq_false_iff_eq] at same_relay
          exact same_relay.symm
    · cases authenticated
  | issueClientGrant k bearer request => exact idle.admits k fun _ _ => trivial
  | claimClientIdentity k claimId signature now checkedAt =>
    exact (takeClaim claimId signature now checkedAt).admits k fun _ _ => trivial
  | createRefreshChallenge request origin quotaKey facts => exact idle.pending w.pendingClientClaims _
  | refreshCredentials k request origin now =>
    have taken := idle.pending w.pendingClientClaims (takeRefresh p.keys w.pendingCredentialRefreshes now request origin).2
    exact taken.admits k fun _ _ => trivial
  | rotateClientIdentity bearer facts => exact rotateClient may bearer
  | issueDeviceWsToken bearer room now => exact issueDeviceWsToken bearer room now
  | revokeDeviceGrant k bearer relayId room deviceId => exact idle.admits k fun _ _ => trivial
  | revokeOtherDeviceGrants k bearer relayId room keep => exact idle.admits k fun _ _ => trivial
  | revokeClientIdentity k bearer now => exact idle.admits k fun _ _ => trivial
  | revokeRelayRegistrationChain bearer relayId room facts => exact revokeChain bearer relayId room
  | goesOn k facts =>
    simp only [PlaneMove.run]
    split
    · rename_i call at_
      exact (finish k rfl may at_).drop k
    · exact idle

end Changed

/-- Memory and file are sound, and no hash was minted twice. -/
structure PlaneKept (p : Plane) (w : PlaneWorld) : Prop where
  store : StoreSound p w.minted w.store
  file : StoreSound p w.minted w.file
  restoring : ∀ k registration, w.calls.get k = some (.restoring registration) →
    { hash := registration.refreshTokenHash, holder := .relay registration.relayId } ∈ w.minted
  once : (w.minted.map (·.hash)).Nodup

theorem unminted_of_draws {p : Plane} {w : PlaneWorld} {facts : PlaneFacts} (draws : PlaneMove.Draws p w facts) :
    Unminted w.minted (p.broker.sha256Hex facts.token) ∧ Unminted w.minted (p.broker.sha256Hex facts.deviceToken) :=
  ⟨fun token member => (draws.2.1 token member).1, fun token member => (draws.2.1 token member).2⟩

namespace PlaneKept

variable {p : Plane} {w : PlaneWorld} {store : PublicControlStateStore} {minted : List MintedToken}

theorem start (p : Plane) : PlaneKept p .start where
  store := .empty p
  file := .empty p
  restoring k registration found := by
    rw [PlaneWorld.start, Table.get_empty] at found
    cases found
  once := List.nodup_nil

/-- A changed store is sound, and its tokens are new. -/
theorem changes (kept : PlaneKept p w) {move : PlaneMove} (changes : Changes p w move store minted) :
    StoreSound p minted store ∧
    (∀ token ∈ w.minted, token ∈ minted) ∧ (minted.map (·.hash)).Nodup := by
  have unused {hash : String} (fresh : Unminted w.minted hash) : hash ∉ w.minted.map (·.hash) := by
    intro member
    obtain ⟨token, there, same⟩ := List.mem_map.mp member
    exact fresh token there same
  have drawn {facts : PlaneFacts} (draws : PlaneMove.Draws p w facts) (holder : TokenHolder) :
      (∀ token ∈ w.minted, token ∈ { hash := p.broker.sha256Hex facts.token, holder := holder } :: w.minted) ∧
        (({ hash := p.broker.sha256Hex facts.token, holder := holder } :: w.minted).map (·.hash)).Nodup :=
    ⟨fun _ member => List.mem_cons_of_mem _ member,
      List.nodup_cons.mpr ⟨unused (unminted_of_draws draws).1, kept.once⟩⟩
  cases changes with
  | fewer fewer => exact ⟨kept.store.fewer fewer, fun _ member => member, kept.once⟩
  | enrolled key relayId room label draws =>
    have cleared := kept.store.fewer (Fewer.removeRelayRegistrationByVerifyKey w.store key)
    exact ⟨(cleared.mint _).putRelay List.mem_cons_self, drawn draws _⟩
  | restored call fewer =>
    exact ⟨(kept.store.fewer fewer).putRelay (kept.restoring _ _ call), fun _ member => member, kept.once⟩
  | granted call _ draws granted => exact ⟨kept.store.grantDevice (unminted_of_draws draws).1 granted, drawn draws _⟩
  | claimed claim draws admitted issues =>
    rename_i facts _ _
    have issued := kept.store.issueOrRotate (unminted_of_draws draws).1 claim.clientVerifyKey claim.clientLabel facts.now
      p.rotationGraceSecs
    rw [issues] at issued
    exact ⟨issued.upsertClientRelay _, drawn draws _⟩
  | rotated found draws => exact ⟨kept.store.rotateClient (unminted_of_draws draws).1 found, drawn draws _⟩
  | refreshed draws rotated is_room finds =>
    obtain ⟨fresh, fresh_device⟩ := unminted_of_draws draws
    obtain ⟨grown, once⟩ := drawn draws (.client _)
    rcases kept.store.rotateSigned fresh fresh_device draws.2.2 rotated with
      ⟨no_room, -⟩ | ⟨_, _, _, also_room, also_finds, sound⟩
    · rw [no_room] at is_room
      cases is_room
    · rw [is_room] at also_room
      cases also_room
      rw [finds] at also_finds
      cases also_finds
      refine ⟨sound, fun token member => List.mem_cons_of_mem _ (grown token member), List.nodup_cons.mpr ⟨?_, once⟩⟩
      intro member
      rcases List.mem_cons.mp member with same | before
      · exact draws.2.2 same.symm
      · exact unused fresh_device before
  | touched hash now => exact ⟨kept.store.touch hash now, fun _ member => member, kept.once⟩

theorem step (kept : PlaneKept p w) {move : PlaneMove} (may : move.May p w) : PlaneKept p (PlaneMove.run p w move) := by
  by_cases restarts : move = .restarts
  · subst restarts
    refine ⟨kept.file, kept.file, fun k registration found => ?_, kept.once⟩
    have none_there : (∅ : Table Nat PlaneCall).get k = some (.restoring registration) := found
    rw [Table.get_empty] at none_there
    cases none_there
  · have changed := Changed.step may restarts
    obtain ⟨sound, grown, once⟩ := kept.changes changed.store
    refine ⟨sound, ?_, fun k registration found => ?_, once⟩
    · rcases changed.file with same | same
      · rw [same]
        exact kept.file.mono grown
      · rw [same]
        exact sound
    · rcases changed.calls k _ found with before | ⟨_, key, rfl, snapshot⟩
      · exact grown _ (kept.restoring k registration before)
      · obtain ⟨⟨was, row⟩, first, rfl⟩ := Option.map_eq_some_iff.mp snapshot
        exact grown _ (kept.store.relayTokens was row (found_of_pairs first).1)

end PlaneKept

theorem PlaneReached.kept {p : Plane} {w : PlaneWorld} (reached : PlaneReached p w) : PlaneKept p w :=
  reached.invariant (.start p) fun _ _ kept may => kept.step may

namespace PlaneSample

def plane : Plane where
  broker :=
    { sha256Hex := ("h-" ++ ·)
      hasSubject := fun _ _ => true
      sharedBackend := false
      reloadBeforeUse := false
      missReloadMinInterval := 0 }
  keys := plainKeys
  clientId := ("client-v1." ++ ·)
  clientId_injective _ _ := (String.append_right_inj _).mp
  rotationGraceSecs := 10

def seat (deviceId : String) : DeviceGrantRequest :=
  { relayId := "relay-1", brokerRoomId := "room-1", deviceId := deviceId }

/-- A relay enrolls, and gives its two seats away. -/
def seats : List PlaneMove :=
  [.enroll 0 "rk" none, .goesOn 0 { token := "t0", deviceToken := "u0", relayId := "1", brokerRoomId := "1" },
    .issueDeviceGrant 1 "t0" (seat "phone") (some 2), .goesOn 1 { token := "t1", deviceToken := "u1" },
    .issueDeviceGrant 2 "t0" (seat "pad") (some 2), .goesOn 2 { token := "t2", deviceToken := "u2" }, .passes]

/-- The phone proves its key, and its tokens are replaced. -/
def rotates : List PlaneMove :=
  [.issueClientGrant 3 "t0"
      { relayId := "relay-1"
        brokerRoomId := "room-1"
        deviceId := "phone"
        clientVerifyKey := "k"
        clientLabel := none
        deviceLabel := none },
    .goesOn 3 { now := 1, token := "t3", deviceToken := "u3", idToken := "a", nonceToken := "b" },
    .claimClientIdentity 4 "ccl-a" "kagent-relay:client-claim:ccl-a:cn-b:relay-1" 1 1,
    .goesOn 4 { now := 1, token := "t4", deviceToken := "u4" },
    .rotateClientIdentity "t4" { now := 1, token := "t5", deviceToken := "u5" },
    .issueDeviceGrant 6 "t0" (seat "phone") (some 2)]

@[irreducible] def seated : PlaneWorld := (seats ++ rotates).foldl (PlaneMove.run plane) .start

theorem seated_reached : PlaneReached plane seated := by
  have may : MayRun (PlaneMove.run plane) (fun w move => move.May plane w) .start (seats ++ rotates) := by decide +kernel
  unfold seated
  exact .foldl may

def renewal : PlaneMove :=
  .goesOn 6 { now := 1, token := "t6", deviceToken := "u6" }

def renewed : PlaneWorld := PlaneMove.run plane seated renewal

theorem renewed_reached : PlaneReached plane renewed :=
  .next (m := renewal) seated_reached (by decide +kernel)

def phone : PersistedDeviceGrant where
  relayId := "relay-1"
  brokerRoomId := "room-1"
  deviceId := "phone"
  refreshTokenHash := "h-t6"
  createdAt := 1
  lastSeen := some 1
  superseded := [{ refreshTokenHash := "h-t1", expiresAt := 11 }]

def client : PersistedClientIdentity where
  clientId := "client-v1.k"
  clientVerifyKey := "k"
  refreshTokenHash := "h-t5"
  createdAt := 1
  superseded := [{ refreshTokenHash := "h-t4", expiresAt := 11 }]

end PlaneSample

end Sealwire.Control

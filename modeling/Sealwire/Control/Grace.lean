import Sealwire.Control.PlaneRuns

namespace Sealwire.Control

/-- What one operation does to the rows that refresh tokens open. -/
structure StoreTurns (fresh : String → Prop) (latest : Nat) (store next : PublicControlStateStore) : Prop where
  devices : deviceDoor.Turns fresh latest store.grantsByHash next.grantsByHash
  clients : clientDoor.Turns fresh latest store.clientRegistrationsByHash next.clientRegistrationsByHash

theorem saturatingAdd_le (a b : Nat) : saturatingAdd a b ≤ a + b :=
  Nat.min_le_left _ _

namespace StoreTurns

variable {p : Plane} {fresh : String → Prop} {latest now grace : Nat} {store next : PublicControlStateStore} {hash : String}

theorem fewer {less : PublicControlStateStore} (fewer : Fewer less store) : StoreTurns fresh latest store less :=
  ⟨.sub fewer.devices, .sub fewer.clients⟩

theorem refl (store : PublicControlStateStore) : StoreTurns fresh latest store store :=
  fewer (Fewer.refl store)

/-- What is carried of a row was honoured by it, or is its own key. -/
theorem carried {superseded : List SupersededToken} {own old : String} {deadline : Nat} (bound : now + grace ≤ latest)
    (kept : { refreshTokenHash := old, expiresAt := deadline } ∈ carrySuperseded superseded own now grace) :
    { refreshTokenHash := old, expiresAt := deadline } ∈ superseded ∨ own = old ∧ deadline ≤ latest := by
  rcases mem_carrySuperseded kept with ⟨before, -⟩ | is
  · exact .inl before
  · cases is
    exact .inr ⟨rfl, (saturatingAdd_le now grace).trans bound⟩

theorem grantDevice (is_fresh : fresh hash) (bound : now + grace ≤ latest) {registration : PersistedRelayRegistration}
    {deviceId : String} {limit : Option Nat}
    (granted : store.grantDevice registration deviceId limit hash now grace = .ok next) :
    StoreTurns fresh latest store next := by
  unfold PublicControlStateStore.grantDevice at granted
  dsimp only at granted
  rw [Bool.cond_eq_ite] at granted
  split at granted
  · cases granted
  · cases granted
    have less := Fewer.removeDeviceGrants store registration.relayId none (some deviceId)
    refine ⟨.put less.devices is_fresh rfl fun old deadline honours => ?_, .sub less.clients⟩
    have kept : { refreshTokenHash := old, expiresAt := deadline } ∈
        store.supersededByDevice registration.relayId deviceId now grace := honours
    unfold PublicControlStateStore.supersededByDevice at kept
    split at kept
    · rename_i was before found
      exact ⟨was, before, (found_of_pairs found).1, carried bound kept⟩
    · exact absurd kept List.not_mem_nil

/-- The keys that the live rows of a client leave behind were honoured by them, or are their own. -/
theorem carried_by_client {rows : List (String × PersistedClientIdentity)} {superseded : List SupersededToken}
    {old : String} {deadline : Nat} (bound : now + grace ≤ latest)
    (kept : { refreshTokenHash := old, expiresAt := deadline } ∈
      rows.foldl (fun superseded (entry : String × PersistedClientIdentity) =>
        carrySuperseded (entry.2.superseded ++ superseded) entry.2.refreshTokenHash now grace) superseded) :
    { refreshTokenHash := old, expiresAt := deadline } ∈ superseded ∨ ∃ entry ∈ rows,
      clientDoor.honours entry.2 old deadline ∨ clientDoor.own entry.2 = old ∧ deadline ≤ latest := by
  induction rows generalizing superseded with
  | nil => exact .inl kept
  | cons entry rest ih =>
    rcases ih kept with now_kept | ⟨other, member, source⟩
    · rcases carried bound now_kept with before | own
      · rcases List.mem_append.mp before with mine | earlier
        · exact .inr ⟨entry, List.mem_cons_self, .inl mine⟩
        · exact .inl earlier
      · exact .inr ⟨entry, List.mem_cons_self, .inr own⟩
    · exact .inr ⟨other, List.mem_cons_of_mem _ member, source⟩

theorem rotateClient (is_fresh : fresh hash) (bound : now + grace ≤ latest) (client : PersistedClientIdentity) :
    StoreTurns fresh latest store (store.rotateClientIdentity client hash now grace) := by
  have less := Fewer.removeClientIdentityByClientId store client.clientId
  refine ⟨.sub less.devices, .put less.clients is_fresh rfl fun old deadline honours => ?_⟩
  rcases carried_by_client bound honours with none_before | ⟨⟨was, before⟩, member, source⟩
  · exact absurd none_before List.not_mem_nil
  · exact ⟨was, before, mem_pairs_iff.mp (List.mem_filter.mp member).1, source⟩

theorem issueOrRotate (is_fresh : fresh hash) (bound : now + grace ≤ latest) (newId : String → String) (key : String)
    (label : Option String) :
    StoreTurns fresh latest store (store.issueOrRotateClientIdentity newId key label hash now grace).1 := by
  unfold PublicControlStateStore.issueOrRotateClientIdentity
  split
  · rename_i existing found
    obtain ⟨⟨was, before⟩, first, rfl⟩ := Option.map_eq_some_iff.mp found
    have less := Fewer.removeClientIdentityByClientId store before.clientId
    refine ⟨.sub less.devices, .put less.clients is_fresh rfl fun old deadline honours => ?_⟩
    exact ⟨was, before, (found_of_pairs first).1, carried bound honours⟩
  · exact ⟨.sub fun _ _ found => found,
      .put (fun _ _ found => found) is_fresh rfl fun old deadline honours => absurd honours List.not_mem_nil⟩

theorem rotateSigned {challenge : CredentialRefreshChallengeResponse} {key deviceHash : String} (is_fresh : fresh hash)
    (is_fresh_device : fresh deviceHash) (bound : now + grace ≤ latest)
    (rotated : store.rotateSignedCredentials challenge key hash deviceHash now grace = .ok next) :
    StoreTurns fresh latest store next := by
  obtain ⟨_, client, -, -, -, ⟨-, rfl⟩ | ⟨_, device, _, was, -, -, -, held, rfl⟩⟩ := StoreSound.rotateSigned_cases rotated
  · exact rotateClient is_fresh bound client
  · have turned : StoreTurns fresh latest store (store.rotateClientIdentity client hash now grace) :=
      rotateClient is_fresh bound client
    refine ⟨.put (fun _ _ found => Table.get_of_get_drop found) is_fresh_device rfl fun old deadline honours => ?_,
      turned.clients⟩
    exact ⟨was, device, held, carried bound honours⟩

theorem touch (hash : String) (now : Nat) : StoreTurns fresh latest store (store.touchDevice hash now) := by
  refine ⟨⟨fun key row there => .inl ?_⟩, .sub fun _ _ found => found⟩
  have modified : (store.grantsByHash.modify hash fun grant => { grant with lastSeen := some now }).get key = some row :=
    there
  rw [Table.get_modify] at modified
  split at modified
  · rename_i same
    obtain ⟨before, held, rfl⟩ := Option.map_eq_some_iff.mp modified
    exact ⟨before, same ▸ held, rfl, fun _ _ honours => honours⟩
  · exact ⟨row, modified, rfl, fun _ _ honours => honours⟩

theorem upsert (turns : StoreTurns fresh latest store next) (grant : PersistedClientRelayGrant) :
    StoreTurns fresh latest store (next.upsertClientRelayGrant grant) :=
  ⟨turns.devices, turns.clients⟩

end StoreTurns

namespace Changes

variable {p : Plane} {w : PlaneWorld} {move : PlaneMove} {store : PublicControlStateStore}
  {minted : List MintedToken}

theorem grown (changes : Changes p w move store minted) : ∀ token ∈ w.minted, token ∈ minted := by
  intro token member
  cases changes with
  | fewer | restored | touched => exact member
  | enrolled | granted | claimed | rotated => exact List.mem_cons_of_mem _ member
  | refreshed => exact List.mem_cons_of_mem _ (List.mem_cons_of_mem _ member)

/-- Whatever a section does to the store, what opens a row afterwards opened it before, or was drawn for it. -/
theorem turns (changes : Changes p w move store minted) :
    StoreTurns (Unminted w.minted) (w.unix + p.rotationGraceSecs) w.store store := by
  have bound {facts : PlaneFacts} (draws : PlaneMove.Draws p w facts) :
      facts.now + p.rotationGraceSecs ≤ w.unix + p.rotationGraceSecs := Nat.add_le_add_right draws.1 _
  cases changes with
  | fewer fewer => exact .fewer fewer
  | enrolled key => exact ⟨.sub fun _ _ found => found, .sub fun _ _ found => found⟩
  | restored _ fewer => exact ⟨.sub fewer.devices, .sub fewer.clients⟩
  | granted _ _ draws granted => exact .grantDevice (unminted_of_draws draws).1 (bound draws) granted
  | claimed claim draws _ issues =>
    have issued := @StoreTurns.issueOrRotate (Unminted w.minted) _ _ _ w.store _ (unminted_of_draws draws).1 (bound draws)
      p.clientId claim.clientVerifyKey claim.clientLabel
    rw [issues] at issued
    exact issued.upsert _
  | rotated _ draws => exact .rotateClient (unminted_of_draws draws).1 (bound draws) _
  | refreshed draws rotated =>
    obtain ⟨fresh, fresh_device⟩ := unminted_of_draws draws
    exact .rotateSigned fresh fresh_device (bound draws) rotated
  | touched hash now => exact .touch hash now

end Changes

/-- The token opens nothing once its time is over, in memory or in the file. -/
structure EndsEverywhere (hash : String) (last : Nat) (w : PlaneWorld) : Prop where
  devices : deviceDoor.EndsBy w.store.grantsByHash hash last
  clients : clientDoor.EndsBy w.store.clientRegistrationsByHash hash last
  fileDevices : deviceDoor.EndsBy w.file.grantsByHash hash last
  fileClients : clientDoor.EndsBy w.file.clientRegistrationsByHash hash last
  minted : ∃ token ∈ w.minted, token.hash = hash

namespace EndsEverywhere

variable {p : Plane} {w : PlaneWorld} {hash : String} {last : Nat}

theorem step (ends : EndsEverywhere hash last w) {move : PlaneMove} (may : move.May p w) :
    EndsEverywhere hash last (PlaneMove.run p w move) := by
  by_cases restarts : move = .restarts
  · subst restarts
    exact ⟨ends.fileDevices, ends.fileClients, ends.fileDevices, ends.fileClients, ends.minted⟩
  · have moved := Changed.step may restarts
    have turns := moved.store.turns
    obtain ⟨token, member, named⟩ := ends.minted
    have filed : ∀ key, Unminted w.minted key → key ≠ hash := fun key is_fresh same =>
      is_fresh token member (named.trans same.symm)
    have devices := turns.devices.endsBy filed ends.devices
    have clients := turns.clients.endsBy filed ends.clients
    have known : ∃ token ∈ (PlaneMove.run p w move).minted, token.hash = hash := ⟨token, moved.store.grown token member, named⟩
    rcases moved.file with same | same
    · exact ⟨devices, clients, same ▸ ends.fileDevices, same ▸ ends.fileClients, known⟩
    · exact ⟨devices, clients, same ▸ devices, same ▸ clients, known⟩

/-- Nobody gets in with the token any more. -/
theorem refused (ends : EndsEverywhere hash last w) (kept : PlaneKept p w) {now : Nat} (past : last ≤ now) :
    w.store.findDeviceGrantForToken hash now = none ∧ w.store.findClientIdentityForToken hash now = none :=
  ⟨findForToken_of_endsBy kept.store.devices ends.devices past, findForToken_of_endsBy kept.store.clients ends.clients past⟩

/-- A token that no row has for its own any more was replaced, or its row was removed. -/
theorem of_replaced (kept : PlaneKept p w) {move : PlaneMove} (may : move.May p w) (lives : move ≠ .restarts)
    (was : w.store.grantsByHash.has hash = true ∨ w.store.clientRegistrationsByHash.has hash = true)
    (gone : (PlaneMove.run p w move).store.grantsByHash.get hash = none ∧
      (PlaneMove.run p w move).store.clientRegistrationsByHash.get hash = none)
    (saved : (PlaneMove.run p w move).file = (PlaneMove.run p w move).store) :
    EndsEverywhere hash (w.unix + p.rotationGraceSecs) (PlaneMove.run p w move) := by
  have after := kept.step may
  have moved := Changed.step may lives
  have turns := moved.store.turns
  -- A token was minted for one holder, so that the other table never knew it.
  have unknown (holder : TokenHolder) (known : { hash := hash, holder := holder } ∈ (PlaneMove.run p w move).minted)
      (other : TokenHolder) (also : { hash := hash, holder := other } ∈ (PlaneMove.run p w move).minted) : holder = other := by
    have same := List.inj_on_of_nodup_map after.once known also rfl
    exact congrArg MintedToken.holder same
  have ends : deviceDoor.EndsBy (PlaneMove.run p w move).store.grantsByHash hash (w.unix + p.rotationGraceSecs) ∧
      clientDoor.EndsBy (PlaneMove.run p w move).store.clientRegistrationsByHash hash (w.unix + p.rotationGraceSecs) ∧
      ∃ token ∈ w.minted, token.hash = hash := by
    rcases was with there | there
    · obtain ⟨row, held⟩ := Table.has_iff.mp there
      have minted := kept.store.deviceTokens hash row hash held (kept.store.devices.bears_own held)
      refine ⟨turns.devices.ends_replaced kept.store.devices after.store.devices held gone.1, ?_, _, minted, rfl⟩
      have none_bears (key : String) (client : PersistedClientIdentity)
          (found : (PlaneMove.run p w move).store.clientRegistrationsByHash.get key = some client) :
          ¬clientDoor.Bears client hash := by
        intro bears
        have also := after.store.clientTokens key client hash found bears
        cases unknown _ (moved.store.grown _ minted) _ also
      exact fun key client found => ⟨fun own => none_bears key client found (.inl own), fun deadline honours =>
        absurd (.inr ⟨deadline, honours⟩) (none_bears key client found)⟩
    · obtain ⟨row, held⟩ := Table.has_iff.mp there
      have minted := kept.store.clientTokens hash row hash held (kept.store.clients.bears_own held)
      refine ⟨?_, turns.clients.ends_replaced kept.store.clients after.store.clients held gone.2, _, minted, rfl⟩
      have none_bears (key : String) (grant : PersistedDeviceGrant)
          (found : (PlaneMove.run p w move).store.grantsByHash.get key = some grant) : ¬deviceDoor.Bears grant hash := by
        intro bears
        have also := after.store.deviceTokens key grant hash found bears
        cases unknown _ (moved.store.grown _ minted) _ also
      exact fun key grant found => ⟨fun own => none_bears key grant found (.inl own), fun deadline honours =>
        absurd (.inr ⟨deadline, honours⟩) (none_bears key grant found)⟩
  obtain ⟨devices, clients, token, member, named⟩ := ends
  exact ⟨devices, clients, saved ▸ devices, saved ▸ clients, token, moved.store.grown token member, named⟩

end EndsEverywhere

/-- Once a refresh token was replaced or revoked by a change that was saved, nothing makes it last longer than the grace
it is given: no later rotation, no failed save and no restart. -/
theorem replaced_tokens_end_in_time {p : Plane} {w later : PlaneWorld} (reached : PlaneReached p w) {move : PlaneMove}
    (may : move.May p w) (lives : move ≠ .restarts) {hash : String}
    (was : w.store.grantsByHash.has hash = true ∨ w.store.clientRegistrationsByHash.has hash = true)
    (gone : (PlaneMove.run p w move).store.grantsByHash.get hash = none ∧
      (PlaneMove.run p w move).store.clientRegistrationsByHash.get hash = none)
    (saved : (PlaneMove.run p w move).file = (PlaneMove.run p w move).store)
    (run : Reaches (PlaneMove.run p) (fun w move => move.May p w) (PlaneMove.run p w move) later) {now : Nat}
    (past : w.unix + p.rotationGraceSecs ≤ now) :
    later.store.findDeviceGrantForToken hash now = none ∧ later.store.findClientIdentityForToken hash now = none := by
  have along := run.invariant (P := fun v => PlaneKept p v ∧ EndsEverywhere hash (w.unix + p.rotationGraceSecs) v)
    ⟨reached.kept.step may, .of_replaced reached.kept may lives was gone saved⟩
    fun v next holds may => ⟨holds.1.step may, holds.2.step may⟩
  exact along.2.refused along.1 past

theorem renewed_token_ends_in_time :
    let renewed := PlaneMove.run PlaneSample.plane PlaneSample.seated PlaneSample.renewal
    (PlaneMove.run PlaneSample.plane renewed .restarts).store.findDeviceGrantForToken "h-t1" 11 = none := by
  intro renewed
  have may : PlaneSample.renewal.May PlaneSample.plane PlaneSample.seated := by decide +kernel
  have lives : PlaneSample.renewal ≠ .restarts := by
    unfold PlaneSample.renewal
    exact PlaneMove.noConfusion
  have was : PlaneSample.seated.store.grantsByHash.has "h-t1" = true := by decide +kernel
  have gone : renewed.store.grantsByHash.get "h-t1" = none ∧ renewed.store.clientRegistrationsByHash.get "h-t1" = none := by
    decide +kernel
  have saved : renewed.file = renewed.store := by
    rcases (Changed.step may lives).file with stays | follows
    · have unfiled : PlaneSample.seated.file.grantsByHash.has "h-t6" = false := by decide +kernel
      have filed : renewed.file.grantsByHash.has "h-t6" = true := by decide +kernel
      rw [← stays] at unfiled
      exact absurd (unfiled.symm.trans filed) Bool.false_ne_true
    · exact follows
  have past : PlaneSample.seated.unix + PlaneSample.plane.rotationGraceSecs ≤ 11 := by decide +kernel
  have run : Reaches (PlaneMove.run PlaneSample.plane) (fun w move => move.May PlaneSample.plane w) renewed
      (PlaneMove.run PlaneSample.plane renewed .restarts) := .next (m := PlaneMove.restarts) .start trivial
  exact (replaced_tokens_end_in_time PlaneSample.seated_reached may lives (.inl was) gone saved run past).1

end Sealwire.Control

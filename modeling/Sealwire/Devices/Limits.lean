import Sealwire.Devices.Records
import Sealwire.Requests.Window

namespace Sealwire.Devices

open Sealwire.Core (PairedDevice PairingBroker)

abbrev DeviceEffects (changing : String → Prop) : RelayState → RelayState → Prop :=
  Relation.ReflTransGen (DeviceEffect changing)

/-- The move approves the device, or forgets the record of it. -/
def DeviceMove.settles (s : RelayState) (deviceId : String) : DeviceMove → Prop
  | .decide pairingId true _ _ _ =>
    ∃ request, s.pendingPairingRequests.get pairingId = some request ∧ request.deviceId = deviceId
  | .clearHistory => deviceId ∈ s.clearedIds
  | _ => False

/-- Neither the device tables nor the access lists are touched. -/
structure Quiet (s t : RelayState) : Prop where
  paired : t.pairedDevices = s.pairedDevices
  records : t.deviceRecords = s.deviceRecords
  access : SameAccess s t

section Moves

variable {world : PairingWorld} {s t u : RelayState} {changing : String → Prop}

theorem Quiet.refl (s : RelayState) : Quiet s s :=
  ⟨rfl, rfl, .refl s⟩

theorem Quiet.trans (first : Quiet s t) (second : Quiet t u) : Quiet s u :=
  ⟨second.paired.trans first.paired, second.records.trans first.records, first.access.trans second.access⟩

theorem Quiet.effects (quiet : Quiet s t) : DeviceEffects changing s t :=
  .single (.quiet quiet.paired quiet.records quiet.access)

theorem prune_quiet (s : RelayState) (now : UInt64) : Quiet s (s.pruneExpiredPairings now) :=
  ⟨rfl, rfl, ⟨rfl, rfl, rfl, rfl, rfl, rfl⟩⟩

theorem prepare_quiet (s : RelayState) (requestedTtlSecs : Option UInt64) (pathScope : List String)
    (pairingId pairingSecret : String) (now : UInt64) :
    Quiet s (s.preparePairingTicket requestedTtlSecs pathScope pairingId pairingSecret now).1 := by
  unfold RelayState.preparePairingTicket
  simp only
  split <;> exact ⟨rfl, rfl, ⟨rfl, rfl, rfl, rfl, rfl, rfl⟩⟩

theorem retireOne_quiet (retiring : RelayState × List PendingPairingResult) (pairing : String × PendingPairing) :
    Quiet retiring.1 (RelayState.retireOne retiring pairing).1 := by
  obtain ⟨s, owed⟩ := retiring
  unfold RelayState.retireOne
  simp only
  split <;> exact ⟨rfl, rfl, ⟨rfl, rfl, rfl, rfl, rfl, rfl⟩⟩

theorem retireAll_quiet (pairings : List (String × PendingPairing)) (retiring : RelayState × List PendingPairingResult) :
    Quiet retiring.1 (pairings.foldl RelayState.retireOne retiring).1 := by
  induction pairings generalizing retiring with
  | nil => exact .refl retiring.1
  | cons pairing rest ih => exact (retireOne_quiet retiring pairing).trans (ih _)

theorem install_quiet (s : RelayState) (prepared : PreparedPairingTicket) (now : UInt64) :
    Quiet s (s.installPairingTicket world prepared now).1 := by
  unfold RelayState.installPairingTicket
  split
  · exact .refl s
  split
  · exact .refl s
  have retired := retireAll_quiet s.pendingPairings.pairs ({ s with pendingPairings := ∅ }, [])
  exact ⟨retired.paired, retired.records, retired.access.controller, retired.access.pin, retired.access.push,
    retired.access.apns, retired.access.watched, retired.access.sessions⟩

theorem register_quiet (s : RelayState) (pairingId : String) (requestedDeviceId deviceLabel : Option String)
    (peerId deviceVerifyKey : String) (now : UInt64) :
    Quiet s (s.registerPairingRequest world pairingId requestedDeviceId deviceLabel peerId deviceVerifyKey now).1 := by
  unfold RelayState.registerPairingRequest
  simp only
  split
  · exact prune_quiet s now
  split
  · exact prune_quiet s now
  split
  · split <;> exact ⟨rfl, rfl, ⟨rfl, rfl, rfl, rfl, rfl, rfl⟩⟩
  · exact ⟨rfl, rfl, ⟨rfl, rfl, rfl, rfl, rfl, rfl⟩⟩

theorem claimRequest_quiet (s : RelayState) (pairingId : String) (now : UInt64) :
    Quiet s (s.claimPairingRequest pairingId now).1 := by
  unfold RelayState.claimPairingRequest
  simp only
  split <;> exact ⟨rfl, rfl, ⟨rfl, rfl, rfl, rfl, rfl, rfl⟩⟩

theorem restoreRequest_quiet (s : RelayState) (request : PendingPairingRequest) :
    Quiet s (s.restorePairingRequest request) := by
  unfold RelayState.restorePairingRequest
  simp only
  split <;> exact ⟨rfl, rfl, ⟨rfl, rfl, rfl, rfl, rfl, rfl⟩⟩

theorem storeSeen_effects (s : RelayState) {deviceId peerId : String} {device : PairedDevice} {now : UInt64}
    (named : device.deviceId = deviceId)
    (keeps : (∃ old, s.pairedDevices.get deviceId = some old ∧ device.pathScope = old.pathScope) ∨ changing deviceId) :
    DeviceEffects changing s (s.storeSeenDevice deviceId device peerId now) := by
  subst named
  exact .single (.synced device now keeps rfl rfl ⟨rfl, rfl, rfl, rfl, rfl, rfl⟩)

theorem approvedDevice_named (agree : DevicesAgree s) {pending : PendingPairing}
    {deviceId label deviceVerifyKey peerId payloadSecret : String} {brokerJoinTicketExpiresAt : Option UInt64}
    {now : UInt64} :
    (RelayState.approvedDevice (s.pairedDevices.get deviceId) pending deviceId label deviceVerifyKey
      brokerJoinTicketExpiresAt peerId payloadSecret now).deviceId = deviceId := by
  unfold RelayState.approvedDevice
  cases held : s.pairedDevices.get deviceId with
  | none => rfl
  | some device => exact agree.deviceIds deviceId device held

theorem consume_effects (s : RelayState) {pairingId pairingSecret deviceId : String} {deviceLabel : Option String}
    {deviceVerifyKey : String} {brokerJoinTicketExpiresAt : Option UInt64} {peerId payloadSecret : String}
    {now : UInt64} (agree : DevicesAgree s) (changes : changing deviceId) :
    DeviceEffects changing s (s.consumePairingTicket world pairingId pairingSecret deviceId deviceLabel
      deviceVerifyKey brokerJoinTicketExpiresAt peerId payloadSecret now).1 := by
  unfold RelayState.consumePairingTicket
  simp only
  split
  · exact (prune_quiet s now).effects
  rename_i pending _
  split
  · exact (prune_quiet s now).effects
  have ready : Quiet s { s.pruneExpiredPairings now with
      pendingPairings := (s.pruneExpiredPairings now).pendingPairings.drop pairingId } :=
    ⟨rfl, rfl, ⟨rfl, rfl, rfl, rfl, rfl, rfl⟩⟩
  refine ready.effects.trans (storeSeen_effects _ ?_ (.inr changes))
  exact approvedDevice_named agree

theorem DevicesAgree.quiet (agree : DevicesAgree s) (quiet : Quiet s t) : DevicesAgree t :=
  agree.same quiet.paired quiet.records quiet.access

theorem decide_effects (s : RelayState) {pairingId : String} {approved : Bool}
    {deviceJoinTicketExpiresAt : Option UInt64} {payloadSecret : String} {now : UInt64} (agree : DevicesAgree s)
    (changes : approved = true → ∀ request, s.pendingPairingRequests.get pairingId = some request →
      changing request.deviceId) :
    DeviceEffects changing s
      (s.decidePairingRequest world pairingId approved deviceJoinTicketExpiresAt payloadSecret now).1 := by
  unfold RelayState.decidePairingRequest
  simp only
  split
  · exact (prune_quiet s now).effects
  rename_i request waiting
  have taken : Quiet s { s.pruneExpiredPairings now with
      pendingPairingRequests := (s.pruneExpiredPairings now).pendingPairingRequests.drop pairingId } :=
    ⟨rfl, rfl, ⟨rfl, rfl, rfl, rfl, rfl, rfl⟩⟩
  split
  · exact taken.effects
  rename_i pending _
  split
  · rename_i yes
    have consumed := @consume_effects world changing _ pairingId pending.pairingSecret _ (some request.label)
      request.deviceVerifyKey deviceJoinTicketExpiresAt request.brokerPeerId payloadSecret now (agree.quiet taken)
      (changes yes request (Table.get_of_get_retain waiting))
    split
    · rename_i t error consume
      rw [consume] at consumed
      exact taken.effects.trans consumed
    · rename_i t device token consume
      rw [consume] at consumed
      refine (taken.effects.trans consumed).trans ?_
      exact .single (.quiet rfl rfl ⟨rfl, rfl, rfl, rfl, rfl, rfl⟩)
  · have closed : Quiet s { { s.pruneExpiredPairings now with
        pendingPairingRequests := (s.pruneExpiredPairings now).pendingPairingRequests.drop pairingId } with
        pendingPairings := (s.pruneExpiredPairings now).pendingPairings.drop pairingId } :=
      ⟨rfl, rfl, ⟨rfl, rfl, rfl, rfl, rfl, rfl⟩⟩
    refine closed.effects.trans (.single ?_)
    refine .rejected request.deviceId request.label request.deviceVerifyKey request.brokerPeerId request.requestedAt now
      ?_ rfl ?_
    · unfold RelayState.recordRejectedDevice
      simp only
      split <;> rfl
    · unfold RelayState.recordRejectedDevice
      simp only
      split <;> exact ⟨rfl, rfl, rfl, rfl, rfl, rfl⟩

theorem attachCredential_effects (s : RelayState) {pairingId : String} {deviceRefreshToken : Option String}
    {deviceJoinTicket : String} {deviceJoinTicketExpiresAt : Option UInt64} {now : UInt64} (agree : DevicesAgree s) :
    DeviceEffects changing s (s.attachPairingBrokerCredential pairingId deviceRefreshToken deviceJoinTicket
      deviceJoinTicketExpiresAt now).1 := by
  unfold RelayState.attachPairingBrokerCredential
  split
  · exact .refl
  simp only
  split
  · exact .single (.quiet rfl rfl ⟨rfl, rfl, rfl, rfl, rfl, rfl⟩)
  rename_i view _
  split
  · exact .single (.quiet rfl rfl ⟨rfl, rfl, rfl, rfl, rfl, rfl⟩)
  rename_i device held
  have named : device.deviceId = view.deviceId := agree.deviceIds _ device held
  rw [← named] at held ⊢
  exact .single (.synced { device with brokerJoinTicketExpiresAt := deviceJoinTicketExpiresAt } now
    (.inl ⟨device, held, rfl⟩) rfl rfl ⟨rfl, rfl, rfl, rfl, rfl, rfl⟩)

theorem attachGrant_quiet (s : RelayState) (pairingId : String) (relayId relayLabel clientClaimId
    clientClaimNonce : Option String) (clientClaimExpiresAt : Option UInt64) :
    Quiet s (s.attachPairingClientGrant pairingId relayId relayLabel clientClaimId clientClaimNonce
      clientClaimExpiresAt).1 := by
  unfold RelayState.attachPairingClientGrant
  split
  · exact .refl s
  · exact ⟨rfl, rfl, ⟨rfl, rfl, rfl, rfl, rfl, rfl⟩⟩

theorem claimChallenge_quiet (s : RelayState) (deviceId challengeId peerId : String) (now : UInt64) :
    Quiet s (s.claimChallenge deviceId challengeId peerId now).1 := by
  have pruned : Quiet s (s.pruneExpiredClaimChallenges now) := ⟨rfl, rfl, ⟨rfl, rfl, rfl, rfl, rfl, rfl⟩⟩
  unfold RelayState.claimChallenge
  simp only
  split
  · exact pruned
  split
  · exact pruned
  split
  · exact pruned
  split <;> exact pruned

theorem issueChallenge_quiet (s : RelayState) (deviceId peerId challengeId challenge : String) (now : UInt64) :
    Quiet s (s.issueClaimChallenge deviceId peerId challengeId challenge now).1 := by
  unfold RelayState.issueClaimChallenge
  simp only
  split <;> exact ⟨rfl, rfl, ⟨rfl, rfl, rfl, rfl, rfl, rfl⟩⟩

theorem stampSeen_effects (s : RelayState) {deviceId peerId : String} {device : PairedDevice} {now : UInt64}
    (agree : DevicesAgree s) (held : s.pairedDevices.get deviceId = some device) :
    DeviceEffects changing s (s.stampSeen device deviceId peerId now) := by
  have named := agree.deviceIds deviceId device held
  subst named
  exact .single (.synced { device with lastSeenAt := some now, lastPeerId := some peerId } now
    (.inl ⟨device, held, rfl⟩) rfl rfl ⟨rfl, rfl, rfl, rfl, rfl, rfl⟩)

theorem completeClaim_effects (s : RelayState) {deviceId challengeId peerId : String} {now : UInt64}
    (agree : DevicesAgree s) : DeviceEffects changing s (s.completeRemoteClaim deviceId challengeId peerId now).1 := by
  have claimed := claimChallenge_quiet s deviceId challengeId peerId now
  unfold RelayState.completeRemoteClaim
  split
  · rename_i t error claim
    rw [claim] at claimed
    exact claimed.effects
  · rename_i t challenge claim
    rw [claim] at claimed
    have answered : Quiet s { t with pendingClaimChallenges := t.pendingClaimChallenges.drop challengeId } :=
      claimed.trans ⟨rfl, rfl, ⟨rfl, rfl, rfl, rfl, rfl, rfl⟩⟩
    simp only
    split
    · exact answered.effects
    · rename_i device held
      have stamped := @stampSeen_effects changing _ _ peerId _ now (agree.quiet answered) held
      refine (answered.effects.trans stamped).trans ?_
      exact .single (.quiet rfl rfl ⟨rfl, rfl, rfl, rfl, rfl, rfl⟩)

theorem markSeen_effects (s : RelayState) {deviceId peerId : String} {lease : Option UInt64} {now : UInt64}
    (agree : DevicesAgree s) : DeviceEffects changing s (s.markPairedDeviceSeen deviceId peerId lease now).1 := by
  unfold RelayState.markPairedDeviceSeen
  split
  · exact .refl
  split
  · exact .refl
  · rename_i device held
    exact stampSeen_effects s agree held

theorem revokeAll_effects (deviceIds : List String) (s : RelayState) (now : UInt64) :
    DeviceEffects changing s (deviceIds.foldl (fun s deviceId => (s.revokePairedDevice deviceId now).1) s) := by
  induction deviceIds generalizing s with
  | nil => exact .refl
  | cons deviceId rest ih => exact (Relation.ReflTransGen.single (.revoked s deviceId now)).trans (ih _)

theorem revokeOthers_effects (s : RelayState) (keepDeviceId : String) (now : UInt64) :
    DeviceEffects changing s (s.revokeAllOtherPairedDevices keepDeviceId now).1 := by
  unfold RelayState.revokeAllOtherPairedDevices
  split
  · exact revokeAll_effects _ s now
  · exact .refl

theorem settleAll_effects (deviceIds : List String) (failed : Bool) (s : RelayState) :
    DeviceEffects changing s (s.settleBrokerRevoke deviceIds failed) := by
  unfold RelayState.settleBrokerRevoke
  induction deviceIds generalizing s with
  | nil => exact .refl
  | cons deviceId rest ih =>
    refine Relation.ReflTransGen.trans (.single ?_) (ih _)
    exact .flagged deviceId failed rfl rfl ⟨rfl, rfl, rfl, rfl, rfl, rfl⟩

theorem forgetAll_effects (deviceIds : List String) (s : RelayState) (changes : ∀ id ∈ deviceIds, changing id)
    (settled : ∀ id ∈ deviceIds, ∀ record, s.deviceRecords.get id = some record →
      record.lifecycleState ≠ .approved) :
    DeviceEffects changing s (deviceIds.foldl RelayState.forgetRecord s) := by
  induction deviceIds generalizing s with
  | nil => exact .refl
  | cons deviceId rest ih =>
    have first : DeviceEffect changing s (s.forgetRecord deviceId) :=
      .forgotten s deviceId (changes deviceId List.mem_cons_self) (settled deviceId List.mem_cons_self)
    refine Relation.ReflTransGen.trans (.single first) (ih _ (fun id member => changes id (List.mem_cons_of_mem _ member)) ?_)
    intro id member record known
    rw [(forgetRecord_spec s deviceId).2.1] at known
    exact settled id (List.mem_cons_of_mem _ member) record (Table.get_of_get_drop known)

/-- What is cleared has a record that is revoked or rejected. -/
theorem clearedIds_settled (agree : DevicesAgree s) {deviceId : String} (cleared : deviceId ∈ s.clearedIds)
    {record : DeviceRecord} (known : s.deviceRecords.get deviceId = some record) :
    record.lifecycleState ≠ .approved := by
  unfold RelayState.clearedIds at cleared
  rw [List.mem_mergeSort, List.mem_map] at cleared
  obtain ⟨entry, member, rfl⟩ := cleared
  obtain ⟨listed, history⟩ := List.mem_filter.mp member
  obtain ⟨e, there, rfl⟩ := List.mem_map.mp listed
  have found : s.deviceRecords.get e.1 = some e.2 := Table.get_eq_some_iff.mpr there
  have same := agree.recordIds e.1 e.2 found
  change s.deviceRecords.get e.2.deviceId = some record at known
  rw [same, found] at known
  obtain rfl := Option.some.inj known
  intro approved
  change s.isHistory e.2 = true at history
  unfold RelayState.isHistory at history
  rw [approved] at history
  simp at history

theorem mem_book_paired (s : RelayState) (deviceId : String) :
    deviceId ∈ s.book.pairedDevices ↔ s.pairedDevices.has deviceId = true := by
  unfold RelayState.book
  simp only [List.mem_toFinset, List.mem_map, Table.has_iff]
  constructor
  · rintro ⟨entry, member, rfl⟩
    obtain ⟨e, there, rfl⟩ := List.mem_map.mp member
    exact ⟨e.2, Table.get_eq_some_iff.mpr there⟩
  · rintro ⟨device, held⟩
    exact ⟨(deviceId, device), List.mem_map.mpr ⟨_, Table.get_eq_some_iff.mp held, rfl⟩, rfl⟩

theorem openSession_effects (s : RelayState) (boot deviceId peerId sid : String) (nowMs nowSecs : UInt64) :
    DeviceEffects changing s (s.setBook (s.book.openRequestSession boot deviceId peerId sid nowMs nowSecs).1) := by
  unfold Requests.RelayState.openRequestSession
  split
  · exact .refl
  · rename_i held
    have paired := (mem_book_paired s deviceId).mp (not_not.mp held)
    refine .single (.granted deviceId paired rfl rfl ⟨rfl, rfl, fun _ _ => rfl, fun _ _ => rfl, rfl, ?_⟩)
    intro name session known
    change Table.get (Table.put _ sid _) name = some session at known
    rw [Table.get_put] at known
    split at known
    · obtain rfl := Option.some.inj known
      exact .inl rfl
    · have kept := Table.get_of_get_retain (Requests.RelayState.evictOldestSessions_get known)
      exact .inr (Table.get_of_get_retain kept)

theorem registerPush_effects (s : RelayState) (input : PushSubscriptionInput) (now : UInt64) :
    DeviceEffects changing s (s.registerPushSubscription world input now).1 := by
  unfold RelayState.registerPushSubscription
  split
  · exact .refl
  rename_i deviceId _
  split
  · exact .refl
  rename_i held
  split
  · exact .refl
  split
  · exact .refl
  simp only
  split
  · exact .refl
  · refine .single (.granted deviceId (by simpa using held) rfl rfl ⟨rfl, rfl, ?_, fun _ _ => rfl, rfl, ?_⟩)
    · exact fun other apart => Table.get_put_ne _ _ apart
    · exact fun sid session known => .inr known

theorem registerApns_effects (s : RelayState) (input : ApnsTokenInput) :
    DeviceEffects changing s (s.registerApnsToken input).1 := by
  unfold RelayState.registerApnsToken
  split
  · exact .refl
  rename_i deviceId _
  split
  · exact .refl
  rename_i held
  split
  · exact .refl
  split
  · exact .refl
  split
  · exact .refl
  simp only
  split
  · exact .refl
  · refine .single (.granted deviceId (by simpa using held) rfl rfl ⟨rfl, rfl, ?_, ?_, rfl, ?_⟩)
    · exact fun other apart => by rw [Table.get_drop, if_neg apart]
    · exact fun other apart => Table.get_put_ne _ _ apart
    · exact fun sid session known => .inr known

/-- What one operation does, told in steps; only what it settles is approved or forgotten. -/
theorem DeviceMove.effects (agree : DevicesAgree s) (m : DeviceMove) :
    DeviceEffects (fun deviceId => m.settles s deviceId) s (m.run world s) := by
  cases m with
  | prepare requestedTtlSecs pathScope pairingId pairingSecret now =>
    exact (prepare_quiet s requestedTtlSecs pathScope pairingId pairingSecret now).effects
  | install prepared now => exact (install_quiet s prepared now).effects
  | issueView prepared broker => exact .single (.quiet rfl rfl ⟨rfl, rfl, rfl, rfl, rfl, rfl⟩)
  | register pairingId requestedDeviceId deviceLabel peerId deviceVerifyKey now =>
    exact (register_quiet s pairingId requestedDeviceId deviceLabel peerId deviceVerifyKey now).effects
  | claimRequest pairingId now => exact (claimRequest_quiet s pairingId now).effects
  | restoreRequest request => exact (restoreRequest_quiet s request).effects
  | decide pairingId approved deviceJoinTicketExpiresAt payloadSecret now =>
    refine decide_effects s agree ?_
    rintro rfl request waiting
    exact ⟨request, waiting, rfl⟩
  | prune now => exact (prune_quiet s now).effects
  | attachCredential pairingId deviceRefreshToken deviceJoinTicket deviceJoinTicketExpiresAt now =>
    exact attachCredential_effects s agree
  | attachGrant pairingId relayId relayLabel clientClaimId clientClaimNonce clientClaimExpiresAt =>
    exact (attachGrant_quiet s pairingId relayId relayLabel clientClaimId clientClaimNonce
      clientClaimExpiresAt).effects
  | revoke deviceId now => exact .single (.revoked s deviceId now)
  | revokeOthers keepDeviceId now =>
    exact revokeOthers_effects s keepDeviceId now
  | beginBrokerRevoke deviceIds => exact .single (.quiet rfl rfl ⟨rfl, rfl, rfl, rfl, rfl, rfl⟩)
  | settleBrokerRevoke deviceIds failed => exact settleAll_effects deviceIds failed s
  | clearHistory =>
    exact forgetAll_effects s.clearedIds s (fun _ cleared => cleared)
      fun _ cleared _ known => clearedIds_settled agree cleared known
  | issueChallenge deviceId peerId challengeId challenge now =>
    exact (issueChallenge_quiet s deviceId peerId challengeId challenge now).effects
  | claimChallenge deviceId challengeId peerId now =>
    exact (claimChallenge_quiet s deviceId challengeId peerId now).effects
  | completeClaim deviceId challengeId peerId now => exact completeClaim_effects s agree
  | markSeen deviceId peerId lease now => exact markSeen_effects s agree
  | openSession boot deviceId peerId sid nowMs nowSecs =>
    exact openSession_effects s boot deviceId peerId sid nowMs nowSecs
  | registerPush input now => exact registerPush_effects s input now
  | registerApns input => exact registerApns_effects s input

theorem DevicesAgree.effects (agree : DevicesAgree s) (effects : DeviceEffects changing s t) : DevicesAgree t := by
  induction effects with
  | refl => exact agree
  | tail _ effect ih => exact ih.effect effect

theorem DeviceEffect.mono {weaker : String → Prop} (effect : DeviceEffect changing s t)
    (weaken : ∀ deviceId, changing deviceId → weaker deviceId) : DeviceEffect weaker s t := by
  cases effect with
  | quiet paired records access => exact .quiet paired records access
  | flagged deviceId failed paired records access => exact .flagged deviceId failed paired records access
  | synced device now keeps paired records access =>
    exact .synced device now (keeps.imp_right (weaken _)) paired records access
  | rejected deviceId label deviceVerifyKey lastPeerId createdAt now paired records access =>
    exact .rejected deviceId label deviceVerifyKey lastPeerId createdAt now paired records access
  | revoked deviceId now => exact .revoked s deviceId now
  | forgotten deviceId changes settled => exact .forgotten s deviceId (weaken _ changes) settled
  | granted deviceId held paired records only => exact .granted deviceId held paired records only

theorem Limited.effects {deviceId : String} {pathScope : List String} (agree : DevicesAgree s)
    (limited : Limited s deviceId pathScope) (effects : DeviceEffects changing s t) (spared : ¬changing deviceId) :
    Limited t deviceId pathScope := by
  suffices both : DevicesAgree t ∧ Limited t deviceId pathScope from both.2
  induction effects with
  | refl => exact ⟨agree, limited⟩
  | tail _ effect ih =>
    refine ⟨ih.1.effect effect, ih.2.effect ih.1 (effect.mono fun other changes => ?_)⟩
    rintro rfl
    exact spared changes

end Moves

/-- A relay that has no device yet, whatever else it holds. -/
structure NoDevices (s : RelayState) : Prop where
  paired : s.pairedDevices = ∅
  records : s.deviceRecords = ∅

theorem NoDevices.agree {s : RelayState} (none_yet : NoDevices s) : DevicesAgree s := by
  constructor
  · intro deviceId device held
    rw [none_yet.paired, Table.get_empty] at held
    cases held
  · intro deviceId record known
    rw [none_yet.records, Table.get_empty] at known
    cases known
  · intro deviceId device held
    rw [none_yet.paired, Table.get_empty] at held
    cases held
  · intro deviceId record known
    rw [none_yet.records, Table.get_empty] at known
    cases known
  · intro deviceId record known
    rw [none_yet.records, Table.get_empty] at known
    cases known

variable {world : PairingWorld}

theorem run_agree {first last : RelayState} (none_yet : NoDevices first)
    (run : Reaches (fun s m => DeviceMove.run world s m) (fun _ _ => True) first last) : DevicesAgree last :=
  run.invariant none_yet.agree fun _ m agree _ => agree.effects (@DeviceMove.effects world _ agree m)

/-- The limit of a paired device stays through every run that neither approves it anew nor
clears its record. -/
theorem run_limited {middle last : RelayState} {deviceId : String} {pathScope : List String}
    (agree : DevicesAgree middle) (limited : Limited middle deviceId pathScope)
    (run : Reaches (fun s m => DeviceMove.run world s m) (fun s m => ¬m.settles s deviceId) middle last) :
    Limited last deviceId pathScope := by
  have both : DevicesAgree last ∧ Limited last deviceId pathScope :=
    run.invariant (P := fun s => DevicesAgree s ∧ Limited s deviceId pathScope) ⟨agree, limited⟩ fun s m so_far spared =>
      ⟨so_far.1.effects (@DeviceMove.effects world _ so_far.1 m), so_far.2.effects so_far.1 (m.effects so_far.1) spared⟩
  exact both.2

/-- A device's folder limit never widens by itself: the two device tables always agree, what is
revoked holds no access, and the scope a device was paired under limits it until it is approved
again or its record is cleared. -/
theorem folder_limits_never_widen {first middle : RelayState} (none_yet : NoDevices first)
    (run : Reaches (fun s m => DeviceMove.run world s m) (fun _ _ => True) first middle) :
    (∀ deviceId, middle.pairedDevices.has deviceId = true ↔
      ∃ record, middle.deviceRecords.get deviceId = some record ∧ record.lifecycleState = .approved) ∧
    (∀ deviceId device, middle.pairedDevices.get deviceId = some device →
      ∃ record, middle.deviceRecords.get deviceId = some record ∧ Matches device record) ∧
    (∀ deviceId record, middle.deviceRecords.get deviceId = some record → record.lifecycleState = .revoked →
      CutOff middle deviceId) ∧
    (∀ deviceId device last, middle.pairedDevices.get deviceId = some device →
      Reaches (fun s m => DeviceMove.run world s m) (fun s m => ¬m.settles s deviceId) middle last →
      last.deviceFolderLimit deviceId = device.pathScope) := by
  have agree := run_agree none_yet run
  refine ⟨?_, agree.approved, agree.cutOff, ?_⟩
  · intro deviceId
    constructor
    · intro held
      obtain ⟨device, there⟩ := Table.has_iff.mp held
      obtain ⟨record, known, same⟩ := agree.approved deviceId device there
      exact ⟨record, known, same.1⟩
    · rintro ⟨record, known, approved⟩
      exact agree.paired deviceId record known approved
  · intro deviceId device last held after
    exact (run_limited agree (.inl ⟨device, held, rfl⟩) after).deviceFolderLimit

/-- A world whose hash is the text itself. -/
def plainWorld : PairingWorld where
  sha256Hex := id
  brokerOrigin := id
  deviceFingerprint := fun _ => none
  isAcceptablePushEndpoint := fun _ => true

def emptyRelay : RelayState where
  pairingStarts := []
  pairingGeneration := 0
  pendingPairings := ∅
  pendingPairingRequests := ∅
  claimedPairingRequests := ∅
  retiredPairings := ∅
  completedPairings := ∅
  pairedDevices := ∅
  deviceRecords := ∅
  brokerRevokesInFlight := ∅
  pendingClaimChallenges := ∅
  surfaceLeases := ∅
  onlineSurfacePeerDevices := ∅
  watchedThreads := ∅
  pushSubscriptions := ∅
  apnsTokens := ∅
  activeControllerDeviceId := none
  activeControllerLastSeenAt := none
  orchestratorThreadId := none
  orchestratorDeviceId := none
  orchestratorSystemPrompt := none
  orchestratorSystemPromptVersion := none
  recentRemoteActions := ∅
  remoteRequests := ⟨∅, ∅⟩
  nextNotify := 0
  woken := []

/-- A phone pairs by the QR `pairingId`, and the operator decides. -/
def pairingMoves (pairingId : String) (pathScope : List String) (generation : UInt64) (approved : Bool) :
    List DeviceMove :=
  [.prepare none pathScope pairingId "secret" 0,
    .install { pairingId := pairingId, pairingSecret := "secret", expiresAt := 180, pathScope := pathScope,
               generation := generation } 0,
    .register pairingId none none "peer" "key" 1,
    .decide pairingId approved none "token" 2]

/-- A phone paired for one folder, revoked and then refused a new pairing stays in its folder. -/
theorem revoked_phone_stays_in_its_folder :
    let paired := (pairingMoves "pair-1" ["/work"] 1 true).foldl (fun s m => m.run plainWorld s) emptyRelay
    let last := (.revoke "mobile-key\n" 3 :: pairingMoves "pair-2" [] 2 false).foldl
      (fun s m => m.run plainWorld s) paired
    (last.deviceRecords.get "mobile-key\n").map (·.lifecycleState) = some .revoked ∧
      last.deviceFolderLimit "mobile-key\n" = ["/work"] := by
  intro paired last
  have before : Reaches (fun s m => DeviceMove.run plainWorld s m) (fun _ _ => True) emptyRelay paired :=
    .foldl ⟨trivial, trivial, trivial, trivial, trivial⟩
  have after : Reaches (fun s m => DeviceMove.run plainWorld s m) (fun s m => ¬m.settles s "mobile-key\n") paired last :=
    .foldl ⟨id, id, id, id, id, trivial⟩
  obtain ⟨device, held, scope⟩ : ∃ device, paired.pairedDevices.get "mobile-key\n" = some device ∧
      device.pathScope = ["/work"] := ⟨_, rfl, rfl⟩
  refine ⟨by rfl, ?_⟩
  rw [(folder_limits_never_widen ⟨rfl, rfl⟩ before).2.2.2 "mobile-key\n" device last held after, scope]

end Sealwire.Devices

import Sealwire.Broker.PresenceRuns

namespace Sealwire.Broker

def Call.isJoin : Call → Bool
  | .join .. => true
  | _ => false

/-- The calls that release access, and so refuse the joins in flight. -/
def Call.isRelease : Call → Bool
  | .closeRevokedSurfaces .. => true
  | .forceCloseRoom .. => true
  | _ => false

/-- The room, the sender and the payload of a publish. -/
def Call.published : Call → Option (String × String × Json)
  | .publish channelId fromPeerId payload => some (channelId, fromPeerId, payload)
  | .publishConnection channelId fromPeerId _ payload => some (channelId, fromPeerId, payload)
  | _ => none

/-- A message approves the pairing a seat was admitted with, and names its device. -/
structure Approves (message : TargetedMessage) (peerId pairingId deviceId : String) : Prop where
  target : message.targetPeerId = peerId
  kind : payloadKind message.payload = "encrypted_pairing_result"
  pairing : (message.payload.field "pairing_id").bind Json.asStr = some pairingId
  device : (message.payload.field "device_id").bind Json.asStr = some deviceId

theorem approvedPairingDevice_eq_some {message : TargetedMessage} {admitted : Option String} {deviceId : String}
    (approved : approvedPairingDevice message.payload admitted = some deviceId) :
    ∃ pairingId, admitted = some pairingId ∧ Approves message message.targetPeerId pairingId deviceId := by
  unfold approvedPairingDevice at approved
  split at approved
  · cases approved
  · rename_i kind
    split at approved
    · rename_i pairingId pairing
      split at approved
      · rename_i same
        exact ⟨pairingId, same, rfl, not_not.mp kind, pairing, (Option.filter_eq_some_iff.mp approved).1⟩
      · cases approved
    · cases approved

/-- A seat after some deliveries: as it was, or given a device by an approval of its own pairing. -/
def Named (senderRole : PeerRole) (messages : List TargetedMessage) (peerId : String) (before after : PeerHandle) :
    Prop :=
  after = before ∨ senderRole = .relay ∧ before.deviceId = none ∧ ∃ message ∈ messages, ∃ pairingId deviceId,
    before.pairingId = some pairingId ∧ Approves message peerId pairingId deviceId ∧
      after = { before with deviceId := some deviceId }

theorem Named.trans {senderRole : PeerRole} {first rest : List TargetedMessage} {peerId : String}
    {before middle after : PeerHandle} (one : Named senderRole first peerId before middle)
    (two : Named senderRole rest peerId middle after) : Named senderRole (first ++ rest) peerId before after := by
  rcases one with rfl | ⟨relay, unnamed, message, member, pairingId, deviceId, admitted, approves, rfl⟩
  · rcases two with rfl | ⟨relay, unnamed, message, member, named⟩
    · exact .inl rfl
    · exact .inr ⟨relay, unnamed, message, List.mem_append_right _ member, named⟩
  · rcases two with rfl | ⟨_, absent, _⟩
    · exact .inr ⟨relay, unnamed, message, List.mem_append_left _ member, pairingId, deviceId, admitted, approves, rfl⟩
    · cases absent

/-- Nothing was given out and nothing was released. -/
structure SameCounts (s t : Inner) : Prop where
  ids : t.ids = s.ids
  connection : t.nextConnectionId = s.nextConnectionId
  epoch : t.accessEpoch = s.accessEpoch

theorem SameCounts.trans {s t u : Inner} (first : SameCounts s t) (second : SameCounts t u) : SameCounts s u :=
  ⟨second.ids.trans first.ids, second.connection.trans first.connection, second.epoch.trans first.epoch⟩

theorem SameCounts.dropEmpty (s : Inner) (channelId : String) : SameCounts s (s.dropEmpty channelId) := by
  unfold Inner.dropEmpty
  split <;> exact ⟨rfl, rfl, rfl⟩

section Deliver

variable {s : Inner} {length : ServerMessage → Nat} {channelId fromPeerId : String} {senderRole : PeerRole}

theorem seated_deliver {message : TargetedMessage} {c p : String} {h' : PeerHandle}
    (seated : Seated (deliver length channelId fromPeerId senderRole s message) c p h') :
    ∃ h, Seated s c p h ∧ (c ≠ channelId → h' = h) ∧ Named senderRole [message] p h h' := by
  unfold deliver at seated
  cases found : (s.room channelId).get message.targetPeerId with
  | none =>
    rw [found] at seated
    exact ⟨h', seated, fun _ => rfl, .inl rfl⟩
  | some handle =>
    rw [found] at seated
    dsimp only at seated
    split at seated
    · rename_i deviceId approved
      have named := seated_setRoom_put.mp seated
      split at approved
      · rename_i unnamed
        split at named
        · rename_i here
          obtain ⟨rfl, rfl⟩ := here
          obtain ⟨pairingId, admitted, approves⟩ := approvedPairingDevice_eq_some approved
          exact ⟨handle, found, fun other => absurd rfl other, .inr ⟨unnamed.1, unnamed.2, message,
            List.mem_singleton_self _, pairingId, deviceId, admitted, approves, named⟩⟩
        · exact ⟨h', named, fun _ => rfl, .inl rfl⟩
      · cases approved
    · exact ⟨h', seated, fun _ => rfl, .inl rfl⟩

theorem seated_deliverAll {messages : List TargetedMessage} {c p : String} {h' : PeerHandle}
    (seated : Seated (messages.foldl (deliver length channelId fromPeerId senderRole) s) c p h') :
    ∃ h, Seated s c p h ∧ (c ≠ channelId → h' = h) ∧ Named senderRole messages p h h' := by
  induction messages generalizing s with
  | nil => exact ⟨h', seated, fun _ => rfl, .inl rfl⟩
  | cons message messages ih =>
    obtain ⟨middle, held, far, rest⟩ := ih seated
    obtain ⟨h, first, other, one⟩ := seated_deliver held
    exact ⟨h, first, fun apart => (far apart).trans (other apart), one.trans rest⟩

theorem deliver_counts (message : TargetedMessage) :
    SameCounts s (deliver length channelId fromPeerId senderRole s message) := by
  unfold deliver
  split
  · exact ⟨rfl, rfl, rfl⟩
  · dsimp only
    split
    · exact ⟨Inner.ids_enqueue _ _ _, rfl, rfl⟩
    · exact ⟨Inner.ids_enqueue _ _ _, rfl, rfl⟩

theorem deliverAll_counts (messages : List TargetedMessage) :
    SameCounts s (messages.foldl (deliver length channelId fromPeerId senderRole) s) := by
  induction messages generalizing s with
  | nil => exact ⟨rfl, rfl, rfl⟩
  | cons message messages ih => exact (deliver_counts message).trans ih

end Deliver

/-- What one call can do to the seats, the connection ids and the access epoch. -/
inductive Change (s : Inner) (call : Call) (t : Inner) : Prop
  | fewer (seats : ∀ {c p h}, Seated t c p h → Seated s c p h) (ids : t.ids = s.ids)
      (connection : t.nextConnectionId = s.nextConnectionId)
      (epoch : t.accessEpoch = if call.isRelease then saturatingAdd s.accessEpoch 1 else s.accessEpoch)
  | counted (joins : call.isJoin = true) (counted : t = countConnection s)
  | joined {channelId peerId : String} {pairingId : Option String} {handle : PeerHandle}
      (joined : Joined s t channelId peerId pairingId handle) (joins : call.isJoin = true)
      (pairing : handle.pairingId = pairingId) (number : handle.connectionId = max (s.nextConnectionId + 1) 1)
  | delivered {channelId fromPeerId : String} {payload : Json} {sender : PeerHandle} {messages : List TargetedMessage}
      (published : call.published = some (channelId, fromPeerId, payload))
      (sends : Seated s channelId fromPeerId sender) (parsed : parseTargetedMessagesPayload payload = .ok messages)
      (seats : ∀ {c p h'}, Seated t c p h' →
        ∃ h, Seated s c p h ∧ (c ≠ channelId → h' = h) ∧ Named sender.role messages p h h')
      (counts : SameCounts s t)

section Calls

variable {s : Inner} {length : ServerMessage → Nat}

/-- A call that releases no access and takes no seat away but maybe some. -/
theorem Change.quiet {t : Inner} {call : Call} (quiet : call.isRelease = false)
    (seats : ∀ {c p h}, Seated t c p h → Seated s c p h) (counts : SameCounts s t) : Change s call t :=
  .fewer seats counts.ids counts.connection (by rw [quiet]; exact counts.epoch)

theorem Change.same {call : Call} (quiet : call.isRelease = false) : Change s call s :=
  .quiet quiet id ⟨rfl, rfl, rfl⟩

theorem Matched.leaveInner_change (matched : Matched s) {call : Call} (quiet : call.isRelease = false)
    (channelId peerId : String) (expected : Option UInt64) :
    Change s call (Broker.leaveInner length s channelId peerId expected) := by
  unfold Broker.leaveInner
  cases found : (s.room channelId).get peerId with
  | none => exact .same quiet
  | some handle =>
    dsimp only
    split
    · exact .same quiet
    · obtain ⟨t, result, gone⟩ := matched.unseat length (found : Seated s channelId peerId handle)
      have counts : SameCounts s t := ⟨gone.ids, gone.connection, gone.epoch⟩
      rw [result]
      refine .quiet quiet (fun seated => (gone.seats.mp ?_).1) (counts.trans (.dropEmpty t channelId))
      rwa [Seated, Inner.get_room_dropEmpty] at seated

theorem Matched.closeRevokedSurfaces_change (matched : Matched s) (channelId : String)
    (isRevokedDevice : String → Bool) :
    Change s (.closeRevokedSurfaces channelId isRevokedDevice)
      (Broker.closeRevokedSurfaces length s channelId isRevokedDevice).1 := by
  have counted : Matched { s with accessEpoch := saturatingAdd s.accessEpoch 1 } := matched.congr rfl fun _ _ => rfl
  unfold Broker.closeRevokedSurfaces
  dsimp only
  split
  · exact .fewer id rfl rfl rfl
  · rename_i room _
    have gone := counted.evictAll length channelId "device_revoked" "this device was revoked"
      (revokedPeers room isRevokedDevice)
    have counts := SameCounts.trans ⟨gone.ids, gone.connection, gone.epoch⟩ (.dropEmpty _ channelId)
    refine .fewer (fun seated => (gone.seats.mp ?_).1) counts.ids counts.connection counts.epoch
    rwa [Seated, Inner.get_room_dropEmpty] at seated

theorem forceCloseRoom_change (channelId code message : String) :
    Change s (.forceCloseRoom channelId code message) (forceCloseRoom length s channelId code message).1 := by
  unfold forceCloseRoom
  dsimp only
  split
  · exact .fewer id rfl rfl rfl
  · refine .fewer ?_ ((Inner.ids_enqueueAll _ _ _).trans (Inner.ids_unseatAll _)) (by simp) (by simp [Call.isRelease])
    intro c p h seated
    rw [Seated, Inner.room_onQueues, Inner.room_onQueues, Inner.room, Table.get_drop] at seated
    split at seated
    · simp at seated
    · exact seated

theorem publishInner_change {call : Call} {channelId fromPeerId : String} {payload : Json}
    (published : call.published = some (channelId, fromPeerId, payload)) (quiet : call.isRelease = false)
    (expected : Option UInt64) :
    Change s call (publishInner length s channelId fromPeerId expected payload).1 := by
  unfold publishInner
  split
  · exact .same quiet
  · rename_i room kept
    split
    · exact .same quiet
    · rename_i sender found
      have sends : Seated s channelId fromPeerId sender := by
        rw [Seated, Inner.room, kept]
        exact found
      repeat' split
      case h_2.isFalse messages parsed _ =>
        exact .delivered published sends parsed seated_deliverAll (deliverAll_counts messages)
      all_goals exact .same quiet

theorem Matched.join_change (matched : Matched s) (channelId peerId : String) (role : PeerRole)
    (deviceId pairingId : Option String) (expectedEpoch : Option UInt64) :
    Change s (.join channelId peerId role deviceId pairingId expectedEpoch)
      (Broker.join length s channelId peerId role deviceId pairingId expectedEpoch).1 := by
  rcases matched.join_cases channelId peerId role deviceId pairingId expectedEpoch with
    ⟨_, result⟩ | ⟨_, _, result⟩ | ⟨_, _, _, _, result, joined⟩
  · rw [result]
    exact .same rfl
  · rw [result]
    exact .counted rfl rfl
  · rw [result]
    exact .joined joined rfl rfl rfl

theorem reorder_change (channelId : String) (room : RoomState) :
    Change s (.reorder channelId room) (reorderRoom s channelId room) := by
  unfold reorderRoom
  split
  · exact .same rfl
  · rename_i old found
    split
    · rename_i same
      refine .quiet rfl ?_ ⟨rfl, rfl, rfl⟩
      intro c p h seated
      rw [Seated, Inner.room_setRoom] at seated
      split at seated
      · rename_i here
        rw [Table.get_perm same] at seated
        rw [Seated, here, Inner.room, found]
        exact seated
      · exact seated
    · exact .same rfl

theorem Matched.step_change (matched : Matched s) (call : Call) : Change s call (Broker.step length s call) := by
  cases call with
  | join channelId peerId role deviceId pairingId expectedEpoch =>
    exact matched.join_change channelId peerId role deviceId pairingId expectedEpoch
  | leave channelId peerId => exact matched.leaveInner_change rfl channelId peerId none
  | leaveConnection channelId peerId connectionId =>
    exact matched.leaveInner_change rfl channelId peerId (some connectionId)
  | closeRevokedSurfaces channelId isRevokedDevice =>
    exact matched.closeRevokedSurfaces_change channelId isRevokedDevice
  | forceCloseRoom channelId code message => exact forceCloseRoom_change channelId code message
  | publish channelId fromPeerId payload => exact publishInner_change rfl rfl none
  | publishConnection channelId fromPeerId connectionId payload => exact publishInner_change rfl rfl (some connectionId)
  | drain tx waiting used => exact .quiet rfl id ⟨Inner.ids_onQueue tx fun _ => rfl, rfl, rfl⟩
  | close tx => exact .quiet rfl id ⟨Inner.ids_onQueue tx fun _ => rfl, rfl, rfl⟩
  | reorder channelId room => exact reorder_change channelId room

end Calls

/-- The counts of a run: connection ids rise as long as they do not wrap. -/
structure Numbered (s : Inner) (joins : Nat) : Prop where
  count : s.nextConnectionId.toNat ≤ joins
  bounded : ∀ id ∈ s.ids, id ≤ s.nextConnectionId
  rising : s.ids.Pairwise (· < ·)

/-- A seat has the connection id of its queue. -/
def Labelled (s : Inner) : Prop :=
  ∀ {c p h}, Seated s c p h → s.ids[h.tx]? = some h.connectionId

/-- No two seats of a room were admitted by the same pairing id. -/
def SinglePairing (s : Inner) : Prop :=
  ∀ {c p h p' h' k}, Seated s c p h → Seated s c p' h' → h.pairingId = some k → h'.pairingId = some k → p = p'

theorem mem_supersededPeers {room : RoomState} {peerId p k : String} :
    p ∈ supersededPeers room peerId (some k) ↔ p ≠ peerId ∧ ∃ h, room.get p = some h ∧ h.pairingId = some k := by
  simp only [supersededPeers, List.mem_map, List.mem_filter, Prod.exists, decide_eq_true_iff, Table.mem_pairs_iff]
  constructor
  · rintro ⟨_, h, ⟨held, other, admitted⟩, rfl⟩
    exact ⟨other, h, held, admitted⟩
  · rintro ⟨other, h, held, admitted⟩
    exact ⟨p, h, ⟨held, other, admitted⟩, rfl⟩

section Invariants

variable {s t : Inner} {call : Call}

theorem SinglePairing.change (single : SinglePairing s) (change : Change s call t) : SinglePairing t := by
  intro c p h p' h' k one two first second
  cases change with
  | fewer seats => exact single (seats one) (seats two) first second
  | counted _ counted =>
    subst counted
    exact single one two first second
  | @joined channelId peerId pairingId handle joined _ pairing _ =>
    have alone {q : String} {g : PeerHandle} (held : Seated t c q g) (admitted : g.pairingId = some k)
        (here : c = channelId) (same : pairingId = some k) : q = peerId := by
      subst here
      rw [joined.seats] at held
      split at held
      · rename_i at_peer
        exact at_peer.2
      · rename_i other
        rw [same] at held
        have apart : q ≠ peerId := fun equal => other ⟨rfl, equal⟩
        exact absurd ⟨rfl, mem_supersededPeers.mpr ⟨apart, g, held.1, admitted⟩⟩ held.2
    by_cases mine : c = channelId ∧ pairingId = some k
    · rw [alone one first mine.1 mine.2, alone two second mine.1 mine.2]
    · have old {q : String} {g : PeerHandle} (held : Seated t c q g) (admitted : g.pairingId = some k) :
          Seated s c q g := by
        rw [joined.seats] at held
        split at held
        · rename_i at_peer
          subst held
          exact absurd ⟨at_peer.1, pairing.symm.trans admitted⟩ mine
        · exact held.1
      exact single (old one first) (old two second) first second
  | delivered _ _ _ seats _ =>
    have old {q : String} {g : PeerHandle} (held : Seated t c q g) : ∃ g', Seated s c q g' ∧ g'.pairingId = g.pairingId := by
      obtain ⟨g', held, _, named⟩ := seats held
      refine ⟨g', held, ?_⟩
      rcases named with rfl | ⟨_, _, _, _, _, _, _, _, rfl⟩ <;> rfl
    obtain ⟨g, one, same⟩ := old one
    obtain ⟨g', two, same'⟩ := old two
    exact single one two (same.trans first) (same'.trans second)

theorem Labelled.change (labelled : Labelled s) (change : Change s call t) : Labelled t := by
  intro c p h held
  cases change with
  | fewer seats ids =>
    rw [ids]
    exact labelled (seats held)
  | counted _ counted =>
    subst counted
    exact labelled held
  | @joined channelId peerId pairingId handle joined _ _ _ =>
    rw [joined.seats] at held
    rw [joined.ids]
    split at held
    · subst held
      rw [joined.tx]
      simp
    · have found := labelled held.1
      rw [List.getElem?_append_left (List.getElem?_eq_some_iff.mp found).1]
      exact found
  | delivered _ _ _ seats counts =>
    obtain ⟨g, seat, _, named⟩ := seats held
    have found := labelled seat
    rw [counts.ids]
    rcases named with rfl | ⟨_, _, _, _, _, _, _, _, rfl⟩ <;> exact found

theorem Numbered.same {joins : Nat} (numbered : Numbered s joins) (ids : t.ids = s.ids)
    (connection : t.nextConnectionId = s.nextConnectionId) : Numbered t joins := by
  refine ⟨connection ▸ numbered.count, ?_, ids ▸ numbered.rising⟩
  rw [ids, connection]
  exact numbered.bounded

theorem toNat_countConnection {n : UInt64} (room : n.toNat < 2 ^ 64 - 1) : (max (n + 1) 1).toNat = n.toNat + 1 := by
  rw [toNat_max, toNat_add_one room]
  simp

theorem Numbered.mono {joins more : Nat} (numbered : Numbered s joins) (le : joins ≤ more) : Numbered s more :=
  ⟨numbered.count.trans le, numbered.bounded, numbered.rising⟩

/-- As long as the ids do not wrap, a join counts one further. -/
theorem Numbered.change {joins : Nat} (numbered : Numbered s joins) (change : Change s call t)
    (room : joins + call.isJoin.toNat < 2 ^ 64) : Numbered t (joins + call.isJoin.toNat) := by
  have count := numbered.count
  have later {n : UInt64} (le : n ≤ s.nextConnectionId) (joinsNow : call.isJoin = true) :
      n < max (s.nextConnectionId + 1) 1 := by
    rw [joinsNow, Bool.toNat_true] at room
    rw [UInt64.lt_iff_toNat_lt, toNat_countConnection (by omega)]
    exact Nat.lt_succ_of_le (UInt64.le_iff_toNat_le.mp le)
  cases change with
  | fewer _ ids connection => exact (numbered.same ids connection).mono (Nat.le_add_right _ _)
  | counted joinsNow counted =>
    subst counted
    refine ⟨?_, fun id member => ?_, numbered.rising⟩
    · rw [joinsNow, Bool.toNat_true] at room ⊢
      rw [countConnection, toNat_countConnection (by omega)]
      omega
    · exact UInt64.le_of_lt (later (numbered.bounded id member) joinsNow)
  | @joined channelId peerId pairingId handle joined joinsNow _ number =>
    refine ⟨?_, ?_, ?_⟩
    · rw [joinsNow, Bool.toNat_true] at room ⊢
      rw [joined.connection, toNat_countConnection (by omega)]
      omega
    · intro id member
      rw [joined.ids] at member
      rw [joined.connection]
      rcases List.mem_append.mp member with old | new
      · exact UInt64.le_of_lt (later (numbered.bounded id old) joinsNow)
      · rw [List.mem_singleton.mp new, number]
        exact UInt64.le_refl _
    · rw [joined.ids, List.pairwise_append]
      refine ⟨numbered.rising, List.pairwise_singleton _ _, ?_⟩
      intro old member new same
      rw [List.mem_singleton.mp same, number]
      exact later (numbered.bounded old member) joinsNow
  | delivered _ _ _ _ counts => exact (numbered.same counts.ids counts.connection).mono (Nat.le_add_right _ _)

/-- The access epoch never falls, and a release raises it until it saturates. -/
theorem Change.epoch (change : Change s call t) :
    t.accessEpoch = if call.isRelease then saturatingAdd s.accessEpoch 1 else s.accessEpoch := by
  have quiet (joins : call.isJoin = true) : call.isRelease = false := by
    cases call <;> first | rfl | cases joins
  cases change with
  | fewer _ _ _ epoch => exact epoch
  | counted joins counted =>
    rw [quiet joins, counted]
    rfl
  | joined joined joins =>
    rw [quiet joins]
    exact joined.epoch
  | delivered published _ _ _ counts =>
    have silent : call.isRelease = false := by
      cases call <;> first | rfl | cases published
    rw [silent]
    exact counts.epoch

end Invariants

end Sealwire.Broker

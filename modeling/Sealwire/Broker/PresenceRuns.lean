import Sealwire.Broker.Presence

namespace Sealwire.Broker

section Calls

variable {s : Inner} {length : ServerMessage → Nat}

@[simp] theorem Inner.room_countConnection (s : Inner) : (countConnection s).room = s.room := rfl

/-- What an accepted join has done: the seats the same ticket had admitted are gone, and the peer is seated. -/
structure Joined (s t : Inner) (channelId peerId : String) (pairingId : Option String) (handle : PeerHandle) : Prop where
  seats : ∀ {c p h}, Seated t c p h ↔ if c = channelId ∧ p = peerId then h = handle
    else Seated s c p h ∧ ¬(c = channelId ∧ p ∈ supersededPeers (s.room channelId) peerId pairingId)
  rooms : ∀ c, c ≠ channelId → t.rooms.get c = s.rooms.get c
  seated : ∃ room : RoomState, t.rooms.get channelId = some (room.put peerId handle)
  epoch : t.accessEpoch = s.accessEpoch
  connection : t.nextConnectionId = max (s.nextConnectionId + 1) 1
  ids : t.ids = s.ids ++ [handle.connectionId]
  tx : handle.tx = s.ids.length
  matched : Matched t

/-- A join is refused before it counts, refused after, or seats the peer. -/
theorem Matched.join_cases (matched : Matched s) (channelId peerId : String) (role : PeerRole)
    (deviceId pairingId : Option String) (expectedEpoch : Option UInt64) :
    (∃ error, join length s channelId peerId role deviceId pairingId expectedEpoch = (s, .error error)) ∨
    ((∀ epoch ∈ expectedEpoch, s.accessEpoch = epoch) ∧
      ∃ error, join length s channelId peerId role deviceId pairingId expectedEpoch =
        (countConnection s, .error error)) ∨
    ((∀ epoch ∈ expectedEpoch, s.accessEpoch = epoch) ∧
      ∃ t result tx, join length s channelId peerId role deviceId pairingId expectedEpoch = (t, .ok result) ∧
        Joined s t channelId peerId pairingId
          { connectionId := max (s.nextConnectionId + 1) 1, role := role, deviceId := deviceId, pairingId := pairingId,
            tx := tx }) := by
  unfold Broker.join
  split
  · exact .inl ⟨_, rfl⟩
  · rename_i current
    have same : ∀ epoch ∈ expectedEpoch, s.accessEpoch = epoch := fun epoch member =>
      not_not.mp fun other => current ⟨epoch, member, other⟩
    dsimp only
    split
    · exact .inr (.inl ⟨same, _, rfl⟩)
    · have counted : Matched (countConnection s) := matched.congr rfl fun _ _ => rfl
      set u := (supersededPeers ((countConnection s).room channelId) peerId pairingId).foldl
        (Broker.evict length channelId "pairing_ticket_superseded" "another client joined with this pairing ticket")
        (countConnection s)
      have gone : Evicted (countConnection s) u channelId (supersededPeers (s.room channelId) peerId pairingId) :=
        counted.evictAll length channelId _ _ _
      have now : SeatedNow u (Broker.seat length u channelId peerId role deviceId pairingId u.nextConnectionId).1 channelId
          peerId _ := gone.matched.seat role deviceId pairingId u.nextConnectionId
      have number : u.nextConnectionId = max (s.nextConnectionId + 1) 1 := gone.connection
      have joined : Joined s (Broker.seat length u channelId peerId role deviceId pairingId u.nextConnectionId).1
          channelId peerId pairingId
          { connectionId := max (s.nextConnectionId + 1) 1, role := role, deviceId := deviceId, pairingId := pairingId,
            tx := u.outbound.length } := by
        refine ⟨?_, ?_, ?_, now.epoch.trans gone.epoch, now.connection.trans number, ?_, ?_, now.matched⟩
        · intro c p h
          rw [now.seats, gone.seats, number]
          rfl
        · intro c other
          rw [now.rooms, Table.get_put_ne _ _ other, gone.rooms c other]
          rfl
        · rw [now.rooms, Table.get_put_self, number]
          exact ⟨_, rfl⟩
        · rw [now.ids, gone.ids, number]
          rfl
        · have size := congrArg List.length gone.ids
          rwa [Inner.ids, List.length_map] at size
      exact .inr (.inr ⟨same, _, _, _, rfl, joined⟩)

theorem Matched.join (matched : Matched s) (channelId peerId : String) (role : PeerRole)
    (deviceId pairingId : Option String) (expectedEpoch : Option UInt64) :
    Matched (Broker.join length s channelId peerId role deviceId pairingId expectedEpoch).1 := by
  rcases matched.join_cases channelId peerId role deviceId pairingId expectedEpoch with
    ⟨_, result⟩ | ⟨_, _, result⟩ | ⟨_, _, _, _, result, joined⟩
  · rw [result]
    exact matched
  · rw [result]
    exact matched.congr rfl fun _ _ => rfl
  · rw [result]
    exact joined.matched

theorem Matched.leaveInner (matched : Matched s) (channelId peerId : String) (expected : Option UInt64) :
    Matched (Broker.leaveInner length s channelId peerId expected) := by
  unfold Broker.leaveInner
  cases found : (s.room channelId).get peerId with
  | none => exact matched
  | some handle =>
    dsimp only
    split
    · exact matched
    · obtain ⟨t, result, gone⟩ := matched.unseat length (found : Seated s channelId peerId handle)
      rw [result]
      exact gone.matched.congr (Inner.outbound_dropEmpty channelId) fun _ _ => Inner.get_room_dropEmpty channelId _ _

theorem Matched.closeRevokedSurfaces (matched : Matched s) (channelId : String) (isRevokedDevice : String → Bool) :
    Matched (Broker.closeRevokedSurfaces length s channelId isRevokedDevice).1 := by
  have counted : Matched { s with accessEpoch := saturatingAdd s.accessEpoch 1 } := matched.congr rfl fun _ _ => rfl
  unfold Broker.closeRevokedSurfaces
  dsimp only
  split
  · exact counted
  · have gone := counted.evictAll length channelId "device_revoked" "this device was revoked"
    exact (gone _).matched.congr (Inner.outbound_dropEmpty channelId) fun _ _ => Inner.get_room_dropEmpty channelId _ _

theorem Matched.forceCloseRoom (matched : Matched s) (channelId code message : String) :
    Matched (Broker.forceCloseRoom length s channelId code message).1 := by
  have counted : Matched { s with accessEpoch := saturatingAdd s.accessEpoch 1 } := matched.congr rfl fun _ _ => rfl
  unfold Broker.forceCloseRoom
  dsimp only
  split
  · exact counted
  · rename_i room found
    have closed := counted.closeRoom length channelId code message
    have same : ({ s with accessEpoch := saturatingAdd s.accessEpoch 1 } : Inner).room channelId = room := by
      rw [Inner.room, found]
      rfl
    rwa [same] at closed

theorem Matched.publishInner (matched : Matched s) (channelId fromPeerId : String) (expected : Option UInt64)
    (payload : Json) : Matched (Broker.publishInner length s channelId fromPeerId expected payload).1 := by
  unfold Broker.publishInner
  repeat' split
  all_goals first | exact matched | exact matched.deliverAll _ _ _

theorem Matched.reorder (matched : Matched s) (channelId : String) (room : RoomState) :
    Matched (reorderRoom s channelId room) := by
  unfold reorderRoom
  split
  · exact matched
  · rename_i old found
    split
    · rename_i same
      refine matched.congr rfl fun c p => ?_
      rw [Inner.room_setRoom]
      split
      · rename_i here
        rw [here, Inner.room, found]
        exact Table.get_perm same p
      · rfl
    · exact matched

theorem Matched.step (matched : Matched s) (call : Call) : Matched (Broker.step length s call) := by
  cases call with
  | join channelId peerId role deviceId pairingId expectedEpoch =>
    exact matched.join channelId peerId role deviceId pairingId expectedEpoch
  | leave channelId peerId => exact matched.leaveInner channelId peerId none
  | leaveConnection channelId peerId connectionId => exact matched.leaveInner channelId peerId (some connectionId)
  | closeRevokedSurfaces channelId isRevokedDevice => exact matched.closeRevokedSurfaces channelId isRevokedDevice
  | forceCloseRoom channelId code message => exact matched.forceCloseRoom channelId code message
  | publish channelId fromPeerId payload => exact matched.publishInner channelId fromPeerId none payload
  | publishConnection channelId fromPeerId connectionId payload =>
    exact matched.publishInner channelId fromPeerId (some connectionId) payload
  | drain tx waiting used => exact matched.socket tx (fun _ => rfl) (fun _ => rfl) fun _ => rfl
  | close tx => exact matched.socket tx (fun _ => rfl) (fun _ => rfl) fun _ => rfl
  | reorder channelId room => exact matched.reorder channelId room

end Calls

theorem run_append (length : ServerMessage → Nat) (calls more : List Call) :
    run length (calls ++ more) = more.foldl (step length) (run length calls) :=
  List.foldl_append

theorem foldl_matched {length : ServerMessage → Nat} {s : Inner} (matched : Matched s) (calls : List Call) :
    Matched (calls.foldl (step length) s) := by
  induction calls generalizing s with
  | nil => exact matched
  | cons call calls ih => exact ih (matched.step call)

theorem run_matched (length : ServerMessage → Nat) (calls : List Call) : Matched (run length calls) :=
  foldl_matched .start calls

/-- After any calls in any order: every seated peer none of whose messages was refused knows
exactly the other peers of its room, and a connection whose seat was taken away is sent nothing
but a final error. -/
theorem presence_matches_room (length : ServerMessage → Nat) (calls : List Call) :
    (∀ channelId room peerId handle, (run length calls).rooms.get channelId = some room →
      room.get peerId = some handle → ∃ queue, (run length calls).outbound[handle.tx]? = some queue ∧
        .unseated ∉ queue.log ∧
        (queue.failed = false → ∀ id, id ∈ queue.view ↔ id ≠ peerId ∧ room.has id = true)) ∧
    ∀ tx queue, (run length calls).outbound[tx]? = some queue →
      ((∀ channelId room peerId handle, (run length calls).rooms.get channelId = some room →
        room.get peerId = some handle → handle.tx ≠ tx) → .unseated ∈ queue.log) ∧
      ∀ before after, queue.log = before ++ .unseated :: after →
        after = [] ∨ ∃ code message, after = [.queued (.error code message)] := by
  have matched := run_matched length calls
  have seated {channelId peerId : String} {room : RoomState} {handle : PeerHandle}
      (kept : (run length calls).rooms.get channelId = some room) (found : room.get peerId = some handle) :
      (run length calls).room channelId = room ∧ Seated (run length calls) channelId peerId handle := by
    have same : (run length calls).room channelId = room := by
      rw [Inner.room, kept]
      rfl
    exact ⟨same, by rw [Seated, same]; exact found⟩
  constructor
  · intro channelId room peerId handle kept found
    obtain ⟨same, held⟩ := seated kept found
    obtain ⟨queue, at_tx, told⟩ := matched.told held
    rw [same] at told
    exact ⟨queue, at_tx, told.seated, told.view⟩
  · intro tx queue at_tx
    by_cases held : ∃ c p h, Seated (run length calls) c p h ∧ h.tx = tx
    · obtain ⟨c, p, h, held, rfl⟩ := held
      obtain ⟨queue', found, told⟩ := matched.told held
      rw [at_tx] at found
      cases found
      refine ⟨fun free => ?_, fun before after split => ?_⟩
      · cases kept : (run length calls).rooms.get c with
        | none => simp [Seated, Inner.room, kept] at held
        | some room =>
          have inRoom : room.get p = some h := by simpa [Seated, Inner.room, kept] using held
          exact absurd rfl (free c room p h kept inRoom)
      · exact absurd (by rw [split]; simp) told.seated
    · have ended := matched.ended at_tx fun c p h seat same => held ⟨c, p, h, seat, same⟩
      exact ⟨fun _ => ended.unseated_mem, fun before after => ended.after⟩

end Sealwire.Broker

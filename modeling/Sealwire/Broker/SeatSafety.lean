import Sealwire.Broker.Seats

namespace Sealwire.Broker

/-- No empty room is kept. -/
def Kept (s : Inner) : Prop :=
  ∀ c room, s.rooms.get c = some room → room.pairs ≠ []

/-- No empty room is kept but maybe one. -/
def KeptBut (s : Inner) (channelId : String) : Prop :=
  ∀ c room, c ≠ channelId → s.rooms.get c = some room → room.pairs ≠ []

theorem pairs_put_ne_nil (room : RoomState) (peerId : String) (handle : PeerHandle) :
    (room.put peerId handle).pairs ≠ [] :=
  List.ne_nil_of_mem (Table.mem_pairs_iff.mpr (Table.get_put_self room peerId handle))

section Calls

variable {s t : Inner} {length : ServerMessage → Nat} {channelId : String}

theorem Kept.but (kept : Kept s) (rooms : ∀ c, c ≠ channelId → t.rooms.get c = s.rooms.get c) : KeptBut t channelId :=
  fun c room other found => kept c room ((rooms c other).symm.trans found)

theorem KeptBut.dropEmpty (kept : KeptBut s channelId) : Kept (s.dropEmpty channelId) := by
  intro c room found
  by_cases here : c = channelId
  · subst here
    unfold Inner.dropEmpty at found
    split at found
    · simp [Table.get_drop] at found
    · rename_i filled
      rwa [Inner.room, found] at filled
  · refine kept c room here ?_
    unfold Inner.dropEmpty at found
    split at found
    · rwa [Table.get_drop, if_neg here] at found
    · exact found

theorem Kept.deliver (kept : Kept s) (fromPeerId : String) (role : PeerRole) (message : TargetedMessage) :
    Kept (Broker.deliver length channelId fromPeerId role s message) := by
  intro c room found
  unfold Broker.deliver at found
  split at found
  · exact kept c room found
  · dsimp only at found
    split at found
    · rw [Inner.rooms_onQueue, Inner.setRoom, Table.get_put] at found
      split at found
      · cases found
        exact pairs_put_ne_nil _ _ _
      · exact kept c room found
    · exact kept c room found

theorem Kept.deliverAll (kept : Kept s) (fromPeerId : String) (role : PeerRole) (messages : List TargetedMessage) :
    Kept (messages.foldl (Broker.deliver length channelId fromPeerId role) s) := by
  induction messages generalizing s with
  | nil => exact kept
  | cons message messages ih => exact ih (kept.deliver fromPeerId role message)

theorem Kept.join (kept : Kept s) (matched : Matched s) (channelId peerId : String) (role : PeerRole)
    (deviceId pairingId : Option String) (expectedEpoch : Option UInt64) :
    Kept (Broker.join length s channelId peerId role deviceId pairingId expectedEpoch).1 := by
  rcases matched.join_cases channelId peerId role deviceId pairingId expectedEpoch with
    ⟨_, result⟩ | ⟨_, _, result⟩ | ⟨_, _, _, _, result, joined⟩
  · rw [result]
    exact kept
  · rw [result]
    exact kept
  · rw [result]
    intro c room found
    by_cases here : c = channelId
    · obtain ⟨old, seated⟩ := joined.seated
      rw [here, seated] at found
      cases found
      exact pairs_put_ne_nil _ _ _
    · exact kept.but joined.rooms c room here found

theorem Kept.leaveInner (kept : Kept s) (matched : Matched s) (channelId peerId : String) (expected : Option UInt64) :
    Kept (Broker.leaveInner length s channelId peerId expected) := by
  unfold Broker.leaveInner
  cases found : (s.room channelId).get peerId with
  | none => exact kept
  | some handle =>
    dsimp only
    split
    · exact kept
    · obtain ⟨t, result, gone⟩ := matched.unseat length (found : Seated s channelId peerId handle)
      rw [result]
      refine (kept.but fun c other => ?_).dropEmpty
      rw [gone.rooms]
      exact Table.get_put_ne _ _ other

theorem Kept.closeRevokedSurfaces (kept : Kept s) (matched : Matched s) (channelId : String)
    (isRevokedDevice : String → Bool) :
    Kept (Broker.closeRevokedSurfaces length s channelId isRevokedDevice).1 := by
  have counted : Matched { s with accessEpoch := saturatingAdd s.accessEpoch 1 } := matched.congr rfl fun _ _ => rfl
  unfold Broker.closeRevokedSurfaces
  dsimp only
  split
  · exact kept
  · rename_i room _
    have gone := counted.evictAll length channelId "device_revoked" "this device was revoked"
      (revokedPeers room isRevokedDevice)
    exact (kept.but gone.rooms).dropEmpty

theorem Kept.forceCloseRoom (kept : Kept s) (channelId code message : String) :
    Kept (Broker.forceCloseRoom length s channelId code message).1 := by
  unfold Broker.forceCloseRoom
  dsimp only
  split
  · exact kept
  · intro c room found
    rw [Inner.rooms_onQueues, Inner.rooms_onQueues] at found
    exact kept c room (Table.get_of_get_drop found)

theorem Kept.publishInner (kept : Kept s) (channelId fromPeerId : String) (expected : Option UInt64)
    (payload : Json) : Kept (Broker.publishInner length s channelId fromPeerId expected payload).1 := by
  unfold Broker.publishInner
  repeat' split
  all_goals first | exact kept | exact kept.deliverAll _ _ _

theorem Kept.reorder (kept : Kept s) (channelId : String) (room : RoomState) :
    Kept (reorderRoom s channelId room) := by
  unfold reorderRoom
  split
  · exact kept
  · rename_i old found
    split
    · rename_i same
      intro c other held
      rw [Inner.setRoom, Table.get_put] at held
      split at held
      · cases held
        have filled := kept channelId old found
        intro empty
        have size := (same.map fun entry => (entry.1, entry.2)).length_eq
        rw [Table.pairs] at empty filled
        rw [empty, List.length_nil] at size
        exact filled (List.eq_nil_of_length_eq_zero size.symm)
      · exact kept c other held
    · exact kept

theorem Kept.step (kept : Kept s) (matched : Matched s) (call : Call) : Kept (Broker.step length s call) := by
  cases call with
  | join channelId peerId role deviceId pairingId expectedEpoch =>
    exact kept.join matched channelId peerId role deviceId pairingId expectedEpoch
  | leave channelId peerId => exact kept.leaveInner matched channelId peerId none
  | leaveConnection channelId peerId connectionId =>
    exact kept.leaveInner matched channelId peerId (some connectionId)
  | closeRevokedSurfaces channelId isRevokedDevice => exact kept.closeRevokedSurfaces matched channelId isRevokedDevice
  | forceCloseRoom channelId code message => exact kept.forceCloseRoom channelId code message
  | publish channelId fromPeerId payload => exact kept.publishInner channelId fromPeerId none payload
  | publishConnection channelId fromPeerId connectionId payload =>
    exact kept.publishInner channelId fromPeerId (some connectionId) payload
  | drain tx waiting used => exact kept
  | close tx => exact kept
  | reorder channelId room => exact kept.reorder channelId room

end Calls

section Runs

variable {length : ServerMessage → Nat}

/-- What holds in every state. -/
structure Sound (s : Inner) : Prop where
  matched : Matched s
  kept : Kept s
  single : SinglePairing s
  labelled : Labelled s

theorem Sound.start : Sound .start where
  matched := .start
  kept := fun _ _ found => by simp [Inner.start] at found
  single := fun seated => by simp [Seated, Inner.start, Inner.room] at seated
  labelled := fun seated => by simp [Seated, Inner.start, Inner.room] at seated

theorem Sound.step {s : Inner} (sound : Sound s) (length : ServerMessage → Nat) (call : Call) :
    Sound (Broker.step length s call) :=
  have change := sound.matched.step_change call
  ⟨sound.matched.step call, sound.kept.step sound.matched call, SinglePairing.change sound.single change,
    Labelled.change sound.labelled change⟩

theorem Sound.foldl {s : Inner} (sound : Sound s) (calls : List Call) : Sound (calls.foldl (Broker.step length) s) := by
  induction calls generalizing s with
  | nil => exact sound
  | cons call calls ih => exact ih (sound.step length call)

theorem run_sound (length : ServerMessage → Nat) (calls : List Call) : Sound (run length calls) :=
  Sound.start.foldl calls

theorem foldl_numbered {s : Inner} {joins : Nat} (sound : Sound s) (numbered : Numbered s joins) (calls : List Call)
    (room : joins + calls.countP Call.isJoin < 2 ^ 64) :
    Numbered (calls.foldl (step length) s) (joins + calls.countP Call.isJoin) := by
  induction calls generalizing s joins with
  | nil => exact numbered
  | cons call calls ih =>
    have split : (call :: calls).countP Call.isJoin = call.isJoin.toNat + calls.countP Call.isJoin := by
      rw [List.countP_cons]
      cases call.isJoin <;> simp [Nat.add_comm]
    rw [split, ← Nat.add_assoc] at room ⊢
    exact ih (sound.step length call) (numbered.change (sound.matched.step_change call) (by omega)) room

theorem run_numbered {calls : List Call} (room : calls.countP Call.isJoin < 2 ^ 64) :
    Numbered (run length calls) (calls.countP Call.isJoin) := by
  have first : Numbered .start 0 := ⟨Nat.le_refl _, fun _ member => absurd member List.not_mem_nil, .nil⟩
  have numbered : Numbered (run length calls) (0 + calls.countP Call.isJoin) :=
    foldl_numbered .start first calls (by rwa [Nat.zero_add])
  rwa [Nat.zero_add] at numbered

theorem foldl_epoch_le {s : Inner} (sound : Sound s) (calls : List Call) :
    s.accessEpoch ≤ (calls.foldl (step length) s).accessEpoch := by
  induction calls generalizing s with
  | nil => exact UInt64.le_refl _
  | cons call calls ih =>
    refine UInt64.le_trans ?_ (ih (sound.step length call))
    rw [(sound.matched.step_change call).epoch]
    split
    · exact le_saturatingAdd_self _ _
    · exact UInt64.le_refl _

/-- A release raises an epoch that is not saturated. -/
theorem foldl_epoch_lt {s : Inner} (sound : Sound s) {calls : List Call} (room : s.accessEpoch.toNat < 2 ^ 64 - 1)
    (released : ∃ call ∈ calls, call.isRelease = true) :
    s.accessEpoch < (calls.foldl (step length) s).accessEpoch := by
  induction calls generalizing s with
  | nil =>
    obtain ⟨_, member, _⟩ := released
    cases member
  | cons call calls ih =>
    have epoch : (step length s call).accessEpoch = _ := (sound.matched.step_change call).epoch
    rw [List.foldl_cons]
    by_cases release : call.isRelease = true
    · rw [if_pos release] at epoch
      refine UInt64.lt_of_lt_of_le ?_ (foldl_epoch_le (sound.step length call) calls)
      rw [epoch]
      exact lt_saturatingAdd_one room
    · rw [if_neg release] at epoch
      have later : ∃ call ∈ calls, call.isRelease = true := by
        obtain ⟨other, member, released⟩ := released
        rcases List.mem_cons.mp member with rfl | inside
        · exact absurd released release
        · exact ⟨other, inside, released⟩
      have rest := ih (sound.step length call) (by rwa [epoch]) later
      rwa [epoch] at rest

theorem foldl_epoch_count {s : Inner} (sound : Sound s) (calls : List Call) :
    (calls.foldl (step length) s).accessEpoch.toNat ≤ s.accessEpoch.toNat + calls.countP Call.isRelease := by
  induction calls generalizing s with
  | nil => exact Nat.le_refl _
  | cons call calls ih =>
    have epoch : (step length s call).accessEpoch = _ := (sound.matched.step_change call).epoch
    have rest := ih (sound.step length call)
    rw [List.foldl_cons, List.countP_cons]
    refine rest.trans ?_
    rw [epoch]
    split
    · have one := toNat_saturatingAdd s.accessEpoch 1
      simp only [UInt64.toNat_one] at one
      omega
    · omega

/-- As long as connection ids do not wrap, a seat with the id of a queue has that queue. -/
theorem tx_of_connectionId {s : Inner} {joins : Nat} (sound : Sound s) (numbered : Numbered s joins)
    {c p : String} {h : PeerHandle} (seated : Seated s c p h) {tx : Nat} {queue : Outbound}
    (found : s.outbound[tx]? = some queue) (same : h.connectionId = queue.connectionId) : h.tx = tx := by
  have once : s.ids.Nodup := numbered.rising.imp fun less => UInt64.ne_of_lt less
  have first := sound.labelled seated
  have second : s.ids[tx]? = some queue.connectionId := by
    rw [Inner.ids, List.getElem?_map, found]
    rfl
  exact (List.getElem?_inj (List.getElem?_eq_some_iff.mp first).1 once).mp (by rw [first, second, same])

/-- A connection whose seat was taken away can neither leave nor publish. -/
theorem unseated_inert {s : Inner} {joins : Nat} (sound : Sound s) (numbered : Numbered s joins) {tx : Nat}
    {queue : Outbound} (found : s.outbound[tx]? = some queue) (gone : .unseated ∈ queue.log) (channelId peerId : String) :
    leaveConnection length s channelId peerId queue.connectionId = s ∧
    ∀ payload, ∃ error, publishConnection length s channelId peerId queue.connectionId payload = (s, .error error) := by
  have other {h : PeerHandle} (seated : Seated s channelId peerId h) : h.connectionId ≠ queue.connectionId := by
    intro same
    have mine := tx_of_connectionId sound numbered seated found same
    obtain ⟨queue', found', told⟩ := sound.matched.told seated
    rw [mine, found] at found'
    cases found'
    exact told.seated gone
  constructor
  · unfold leaveConnection leaveInner
    cases held : (s.room channelId).get peerId with
    | none => rfl
    | some h => exact if_pos ⟨_, rfl, other held⟩
  · intro payload
    unfold publishConnection publishInner
    cases kept : s.rooms.get channelId with
    | none => exact ⟨_, rfl⟩
    | some room =>
      dsimp only
      cases held : room.get peerId with
      | none => exact ⟨_, rfl⟩
      | some sender =>
        have seated : Seated s channelId peerId sender := by
          rw [Seated, Inner.room, kept]
          exact held
        exact ⟨_, if_pos ⟨_, rfl, other seated⟩⟩

/-- A seat's device is changed only by a relay's approval of the pairing the seat was admitted with. -/
theorem device_change {s : Inner} (sound : Sound s) (call : Call) {c p : String} {before after : PeerHandle}
    (seated : Seated s c p before) (still : Seated (step length s call) c p after) (same : after.tx = before.tx)
    (changed : after.deviceId ≠ before.deviceId) :
    ∃ fromPeerId payload sender messages, call.published = some (c, fromPeerId, payload) ∧
      Seated s c fromPeerId sender ∧ sender.role = .relay ∧ parseTargetedMessagesPayload payload = .ok messages ∧
      ∃ message ∈ messages, ∃ pairingId deviceId, before.pairingId = some pairingId ∧
        Approves message p pairingId deviceId ∧ after.deviceId = some deviceId := by
  have only {h : PeerHandle} (held : Seated s c p h) : h = before := Option.some.inj (held.symm.trans seated)
  have change : Change s call (step length s call) := sound.matched.step_change call
  cases change with
  | fewer seats => exact absurd (congrArg PeerHandle.deviceId (only (seats still))) changed
  | counted _ counted =>
    rw [counted] at still
    exact absurd (congrArg PeerHandle.deviceId (only still)) changed
  | joined joined =>
    rw [joined.seats] at still
    split at still
    · have bound := (List.getElem?_eq_some_iff.mp (sound.labelled seated)).1
      rw [← same, still, joined.tx] at bound
      exact absurd bound (Nat.lt_irrefl _)
    · exact absurd (congrArg PeerHandle.deviceId (only still.1)) changed
  | @delivered channelId fromPeerId payload sender messages published sends parsed seats _ =>
    obtain ⟨h, held, far, named⟩ := seats still
    have here : c = channelId := by
      by_contra apart
      exact changed (congrArg PeerHandle.deviceId ((far apart).trans (only held)))
    subst here
    have first := only held
    subst first
    rcases named with unchanged | ⟨relay, _, message, member, pairingId, deviceId, admitted, approves, named⟩
    · exact absurd (congrArg PeerHandle.deviceId unchanged) changed
    · exact ⟨fromPeerId, payload, sender, messages, published, sends, relay, parsed, message, member, pairingId,
        deviceId, admitted, approves, congrArg PeerHandle.deviceId named⟩

/-- Seat safety: no empty room is kept and a pairing id holds one seat of it; a join that captured its
epoch before a release is refused, as long as the epoch was not saturated; a connection whose seat
is gone can neither leave nor publish, as long as no connection id was given out twice; and only a
relay's approval of a seat's own pairing changes its device. -/
theorem seat_safety (length : ServerMessage → Nat) (calls : List Call) :
    (∀ channelId room, (run length calls).rooms.get channelId = some room → room.pairs ≠ [] ∧
      ∀ p h p' h' pairingId, room.get p = some h → room.get p' = some h' → h.pairingId = some pairingId →
        h'.pairingId = some pairingId → p = p') ∧
    (∀ before middle, calls = before ++ middle → before.countP Call.isRelease < 2 ^ 64 - 1 →
      (∃ call ∈ middle, call.isRelease = true) → ∀ channelId peerId role deviceId pairingId, ∃ error,
        join length (run length calls) channelId peerId role deviceId pairingId (some (run length before).accessEpoch) =
          (run length calls, .error error)) ∧
    (calls.countP Call.isJoin < 2 ^ 64 → ∀ (tx : Nat) (queue : Outbound), (run length calls).outbound[tx]? = some queue →
      .unseated ∈ queue.log → ∀ channelId peerId,
        leaveConnection length (run length calls) channelId peerId queue.connectionId = run length calls ∧
        ∀ payload, ∃ error, publishConnection length (run length calls) channelId peerId queue.connectionId payload =
          (run length calls, .error error)) ∧
    ∀ call channelId peerId before after, Seated (run length calls) channelId peerId before →
      Seated (step length (run length calls) call) channelId peerId after → after.tx = before.tx →
      after.deviceId ≠ before.deviceId →
      ∃ fromPeerId payload sender messages, call.published = some (channelId, fromPeerId, payload) ∧
        Seated (run length calls) channelId fromPeerId sender ∧ sender.role = .relay ∧
        parseTargetedMessagesPayload payload = .ok messages ∧ ∃ message ∈ messages, ∃ pairingId deviceId,
          before.pairingId = some pairingId ∧ Approves message peerId pairingId deviceId ∧
          after.deviceId = some deviceId := by
  have sound := run_sound length calls
  refine ⟨?_, ?_, ?_, ?_⟩
  · intro channelId room kept
    refine ⟨sound.kept channelId room kept, ?_⟩
    intro p h p' h' pairingId first second admitted admitted'
    have inRoom : (run length calls).room channelId = room := by
      rw [Inner.room, kept]
      rfl
    have seat {q : String} {g : PeerHandle} (found : room.get q = some g) : Seated (run length calls) channelId q g := by
      rwa [Seated, inRoom]
    exact sound.single (seat first) (seat second) admitted admitted'
  · intro before middle split few released channelId peerId role deviceId pairingId
    subst split
    have count : (run length before).accessEpoch.toNat ≤ _ := foldl_epoch_count .start before
    have room : (run length before).accessEpoch.toNat < 2 ^ 64 - 1 := by
      refine Nat.lt_of_le_of_lt count ?_
      rwa [show Inner.start.accessEpoch.toNat = 0 from rfl, Nat.zero_add]
    have raised : (run length before).accessEpoch < (run length (before ++ middle)).accessEpoch := by
      rw [run_append]
      exact foldl_epoch_lt (run_sound length before) room released
    refine ⟨_, if_pos ⟨_, rfl, ?_⟩⟩
    exact (UInt64.ne_of_lt raised).symm
  · intro few tx queue found gone channelId peerId
    exact unseated_inert sound (run_numbered few) found gone channelId peerId
  · intro call channelId peerId before after seated still same changed
    exact device_change sound call seated still same changed

end Runs

/-- Where nobody is seated, a relay is seated at once. -/
theorem join_empty {s : Inner} (sound : Sound s) (free : ∀ c p h, ¬Seated s c p h) (length : ServerMessage → Nat)
    (channelId peerId : String) : ∃ t result tx,
      join length s channelId peerId .relay none none none = (t, .ok result) ∧
      Joined s t channelId peerId none
        { connectionId := max (s.nextConnectionId + 1) 1, role := .relay, deviceId := none, pairingId := none,
          tx := tx } := by
  have empty : (s.room channelId).get peerId = none := by
    cases found : (s.room channelId).get peerId with
    | none => rfl
    | some h => exact absurd found (free channelId peerId h)
  have accepted : ∃ t result, join length s channelId peerId .relay none none none = (t, .ok result) := by
    unfold join
    simp [empty]
  obtain ⟨t, result, ok⟩ := accepted
  rcases sound.matched.join_cases channelId peerId .relay none none none with
    ⟨_, refused⟩ | ⟨_, _, refused⟩ | ⟨_, t', result', tx, same, joined⟩
  · rw [ok] at refused
    cases refused
  · rw [ok] at refused
    cases refused
  · exact ⟨t', result', tx, same, joined⟩

/-- A relay that joins an empty broker and leaves it again. -/
def comeAndGo : List Call :=
  [.join "room" "relay" .relay none none none, .leave "room" "relay"]

/-- What is left of a relay that came and went: the connection is counted, and nobody is seated. -/
theorem comeAndGo_empty {s : Inner} (sound : Sound s) (free : ∀ c p h, ¬Seated s c p h)
    (length : ServerMessage → Nat) :
    (∀ c p h, ¬Seated (comeAndGo.foldl (step length) s) c p h) ∧
    (comeAndGo.foldl (step length) s).nextConnectionId = max (s.nextConnectionId + 1) 1 ∧
    (comeAndGo.foldl (step length) s).ids = s.ids ++ [max (s.nextConnectionId + 1) 1] := by
  obtain ⟨t, result, tx, ok, joined⟩ := join_empty sound free length "room" "relay"
  have seated : Seated t "room" "relay" _ := joined.seats.mpr (by rw [if_pos ⟨rfl, rfl⟩])
  obtain ⟨u, left, gone⟩ := joined.matched.unseat length seated
  have state : comeAndGo.foldl (step length) s = u.dropEmpty "room" := by
    have found : (t.room "room").get "relay" = some _ := seated
    simp only [comeAndGo, List.foldl_cons, List.foldl_nil, step, ok, leave, leaveInner, found, left]
    simp
  have counts := SameCounts.dropEmpty u "room"
  rw [state]
  refine ⟨?_, counts.connection.trans (gone.connection.trans joined.connection),
    counts.ids.trans (gone.ids.trans joined.ids)⟩
  intro c p h held
  rw [Seated, Inner.get_room_dropEmpty] at held
  obtain ⟨before, other⟩ := gone.seats.mp held
  rw [joined.seats, if_neg other] at before
  exact free c p h before.1

/-- After a number of them that does not wrap, the next connection is the one after. -/
theorem comeAndGo_many (length : ServerMessage → Nat) (n : Nat) (few : n < 2 ^ 64) :
    (∀ c p h, ¬Seated (run length (List.replicate n comeAndGo).flatten) c p h) ∧
    (run length (List.replicate n comeAndGo).flatten).nextConnectionId.toNat = n ∧
    (0 < n → (run length (List.replicate n comeAndGo).flatten).ids[0]? = some 1) := by
  induction n with
  | zero => exact ⟨fun c p h held => by simp [Seated, run, Inner.start, Inner.room] at held, rfl, fun none => by omega⟩
  | succ n ih =>
    obtain ⟨free, count, first⟩ := ih (by omega)
    have sound := run_sound length (List.replicate n comeAndGo).flatten
    obtain ⟨free', count', ids⟩ := comeAndGo_empty sound free length
    rw [List.replicate_succ', List.flatten_append, List.flatten_singleton, run_append]
    refine ⟨free', ?_, fun _ => ?_⟩
    · rw [count', toNat_countConnection (by omega), count]
    · rw [ids]
      cases n with
      | zero => rfl
      | succ n =>
        have found := first (Nat.succ_pos n)
        rw [List.getElem?_append_left (List.getElem?_eq_some_iff.mp found).1, found]

/-- A release that finds no room raises the epoch until it saturates, and changes nothing else. -/
theorem releases_saturate (length : ServerMessage → Nat) (n : Nat) :
    run length (List.replicate n (.forceCloseRoom "room" "" "")) =
      { Inner.start with accessEpoch := UInt64.ofNat (min n (2 ^ 64 - 1)) } := by
  induction n with
  | zero => rfl
  | succ n ih =>
    rw [List.replicate_succ', run_append, ih]
    simp only [List.foldl_cons, List.foldl_nil, step, forceCloseRoom, Inner.start, Table.get_empty]
    congr 1
    apply UInt64.toNat_inj.mp
    have size : UInt64.size = 2 ^ 64 := rfl
    rw [toNat_saturatingAdd, UInt64.toNat_ofNat_of_lt' (by omega), UInt64.toNat_ofNat_of_lt' (by omega)]
    simp only [UInt64.toNat_one]
    omega

/-- Where the words run out, seat safety does: a join seats after a release that found the epoch
saturated, and a connection that left takes away the seat of one that was given its id again. -/
theorem seat_safety_wraps : ∃ length : ServerMessage → Nat,
    (∃ before call, call.isRelease = true ∧ ∃ result,
      (join length (run length (before ++ [call])) "room" "phone" .surface none none
        (some (run length before).accessEpoch)).2 = .ok result) ∧
    ∃ calls, ∃ tx : Nat, ∃ queue : Outbound, (run length calls).outbound[tx]? = some queue ∧ .unseated ∈ queue.log ∧
      leaveConnection length (run length calls) "room" "relay" queue.connectionId ≠ run length calls := by
  obtain ⟨n, large⟩ : ∃ n, n = 2 ^ 64 - 1 := ⟨_, rfl⟩
  refine ⟨fun _ => 1, ⟨List.replicate n (.forceCloseRoom "room" "" ""), .forceCloseRoom "room" "" "", rfl, ?_⟩, ?_⟩
  · rw [← List.replicate_succ', releases_saturate, releases_saturate, Nat.min_eq_right (by omega),
      Nat.min_eq_right (by omega)]
    simp [join, countConnection, Inner.room, Inner.start]
  · obtain ⟨free, count, first⟩ := comeAndGo_many (fun _ => 1) n (by omega)
    have sound := run_sound (fun _ => 1) (List.replicate n comeAndGo).flatten
    obtain ⟨t, result, tx, ok, joined⟩ := join_empty sound free (fun _ => 1) "room" "relay"
    set s := run (fun _ => 1) (List.replicate n comeAndGo).flatten
    have state : run (fun _ => 1) ((List.replicate n comeAndGo).flatten ++
        [.join "room" "relay" .relay none none none]) = t := by
      rw [run_append]
      exact congrArg Prod.fst ok
    have wrapped : max (s.nextConnectionId + 1) 1 = 1 := by
      have zero : s.nextConnectionId + 1 = 0 := by
        apply UInt64.toNat_inj.mp
        rw [UInt64.toNat_add, count, large]
        rfl
      rw [zero]
      rfl
    rw [wrapped] at joined
    have found : t.ids[0]? = some 1 := by
      have one := first (by omega)
      rw [joined.ids, List.getElem?_append_left (List.getElem?_eq_some_iff.mp one).1, one]
    have held : 0 < s.ids.length := (List.getElem?_eq_some_iff.mp (first (by omega))).1
    rw [Inner.ids, List.getElem?_map, Option.map_eq_some_iff] at found
    obtain ⟨queue, at_zero, number⟩ := found
    have seated : Seated t "room" "relay" _ := joined.seats.mpr (by rw [if_pos ⟨rfl, rfl⟩])
    have alone : ∀ c p h, Seated t c p h → h.tx ≠ 0 := by
      intro c p h other
      rw [joined.seats] at other
      split at other
      · rw [other, joined.tx]
        exact held.ne'
      · exact absurd other.1 (free c p h)
    refine ⟨_, 0, queue, by rw [state]; exact at_zero, (joined.matched.ended at_zero alone).unseated_mem, ?_⟩
    rw [state, number]
    obtain ⟨u, left, gone⟩ := joined.matched.unseat (fun _ => 1) seated
    have after : leaveConnection (fun _ => 1) t "room" "relay" 1 = u.dropEmpty "room" := by
      have present : (t.room "room").get "relay" = some _ := seated
      simp [leaveConnection, leaveInner, present, left]
    intro unchanged
    rw [after] at unchanged
    have still := seated
    rw [← unchanged, Seated, Inner.get_room_dropEmpty] at still
    exact (gone.seats.mp still).2 ⟨rfl, rfl⟩

end Sealwire.Broker

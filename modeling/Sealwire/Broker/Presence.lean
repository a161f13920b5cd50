import Mathlib.Data.List.Nodup
import Sealwire.Broker.Queues

namespace Sealwire.Broker

/-- A peer holds a seat in a room. -/
def Seated (s : Inner) (channelId peerId : String) (handle : PeerHandle) : Prop :=
  (s.room channelId).get peerId = some handle

/-- What a seated connection was told makes it know the other peers of its room. -/
structure Told (room : RoomState) (peerId : String) (queue : Outbound) : Prop where
  seated : .unseated ∉ queue.log
  view : queue.failed = false → ∀ id, id ∈ queue.view ↔ id ≠ peerId ∧ room.has id = true

/-- Every seat has an outbound queue of its own that matches the room, and every other queue has ended. -/
structure Matched (s : Inner) : Prop where
  apart : ∀ {c p h c' p' h'}, Seated s c p h → Seated s c' p' h' → h.tx = h'.tx → c = c' ∧ p = p'
  told : ∀ {c p h}, Seated s c p h → ∃ queue, s.outbound[h.tx]? = some queue ∧ Told (s.room c) p queue
  ended : ∀ {tx queue}, s.outbound[tx]? = some queue → (∀ c p h, Seated s c p h → h.tx ≠ tx) → Ended queue.log

theorem Matched.start : Matched .start where
  apart := fun seated => by simp [Seated, Inner.start, Inner.room] at seated
  told := fun seated => by simp [Seated, Inner.start, Inner.room] at seated
  ended := fun found => by simp [Inner.start] at found

/-- Only who is seated where and what is queued matters. -/
theorem Matched.congr {s t : Inner} (matched : Matched s) (outbound : t.outbound = s.outbound)
    (rooms : ∀ c p, (t.room c).get p = (s.room c).get p) : Matched t := by
  have seats : ∀ {c p h}, Seated t c p h ↔ Seated s c p h := by
    intro c p h
    rw [Seated, rooms]
    rfl
  refine ⟨fun first second => matched.apart (seats.mp first) (seats.mp second), ?_, ?_⟩
  · intro c p h seated
    obtain ⟨queue, found, told⟩ := matched.told (seats.mp seated)
    refine ⟨queue, outbound ▸ found, told.seated, fun intact id => ?_⟩
    rw [told.view intact id, Table.has, Table.has, rooms]
  · intro tx queue found free
    exact matched.ended (outbound ▸ found) fun c p h seated => free c p h (seats.mpr seated)

section Steps

variable {s : Inner} {channelId peerId : String} {handle : PeerHandle} {length : ServerMessage → Nat}

/-- The queues of different seats of one room are different. -/
theorem Matched.queues_nodup (matched : Matched s) {seats : List (String × PeerHandle)}
    (keys : (seats.map Prod.fst).Nodup) (listed : ∀ seat ∈ seats, Seated s channelId seat.1 seat.2) :
    (seats.map fun seat => seat.2.tx).Nodup := by
  refine keys.of_map.map_on ?_
  intro a inA b inB same
  exact List.inj_on_of_nodup_map keys inA inB (matched.apart (listed a inA) (listed b inB) same).2

/-- A message that is not about presence changes no view. -/
theorem Matched.enqueue (matched : Matched s) (seated : Seated s channelId peerId handle) {message : ServerMessage}
    (quiet : ∀ peers, Outbound.see peers (.queued message) = peers) :
    Matched (s.onQueue handle.tx (.enqueue length message)) where
  apart := matched.apart
  told := by
    intro c p h held
    obtain ⟨queue, found, told⟩ := matched.told held
    rw [Inner.queue_onQueue, found]
    split
    · refine ⟨queue.enqueue length message, rfl, ?_, ?_⟩
      · rw [Outbound.unseated_mem_enqueue]
        exact told.seated
      · intro intact id
        obtain ⟨before, view⟩ := Outbound.view_enqueue intact
        rw [view, quiet]
        exact told.view before id
    · exact ⟨queue, rfl, told⟩
  ended := by
    intro tx queue found free
    rw [Inner.queue_onQueue, if_neg (free channelId peerId handle seated)] at found
    exact matched.ended found free

/-- The last message for a seat that was just taken away. -/
theorem Matched.final (matched : Matched s) {tx : Nat} {queue : Outbound} (found : s.outbound[tx]? = some queue)
    (just : JustEnded queue.log) (free : ∀ c p h, Seated s c p h → h.tx ≠ tx) (code message : String) :
    Matched (s.onQueue tx (.enqueue length (.error code message))) where
  apart := matched.apart
  told := by
    intro c p h held
    obtain ⟨other, at_tx, told⟩ := matched.told held
    rw [Inner.queue_onQueue, if_neg (free c p h held).symm]
    exact ⟨other, at_tx, told⟩
  ended := by
    intro i other at_i unheld
    rw [Inner.queue_onQueue] at at_i
    split at at_i
    · rename_i same
      subst same
      rw [found] at at_i
      cases at_i
      exact just.error length code message
    · exact matched.ended at_i unheld

theorem view_left {queue : Outbound} {room : RoomState} {p : String} {peer : PeerSummary}
    (told : Told room p queue) (same : peer.peerId = peerId) :
    Told (room.drop peerId) p (queue.enqueue length (.presence channelId .left peer)) where
  seated := by
    rw [Outbound.unseated_mem_enqueue]
    exact told.seated
  view := by
    intro intact id
    obtain ⟨before, view⟩ := Outbound.view_enqueue intact
    rw [view, Outbound.see, List.mem_filter, told.view before, Table.has_drop, same, decide_eq_true_iff]
    tauto

theorem view_joined {queue : Outbound} {room : RoomState} {p : String} {peer : PeerSummary}
    (told : Told room p queue) (same : peer.peerId = peerId) (other : p ≠ peerId) (handle : PeerHandle) :
    Told (room.put peerId handle) p (queue.enqueue length (.presence channelId .joined peer)) where
  seated := by
    rw [Outbound.unseated_mem_enqueue]
    exact told.seated
  view := by
    intro intact id
    obtain ⟨before, view⟩ := Outbound.view_enqueue intact
    rw [view, Outbound.see, List.mem_cons, told.view before, Table.has_put, same]
    by_cases here : id = peerId
    · simp [here, other.symm]
    · simp [here]

/-- What is left of the seats when one is taken away. -/
theorem seated_unseat {c p : String} {h : PeerHandle} :
    Seated (s.setRoom channelId ((s.room channelId).drop peerId)) c p h ↔
      Seated s c p h ∧ ¬(c = channelId ∧ p = peerId) := by
  unfold Seated
  rw [Inner.room_setRoom]
  by_cases here : c = channelId
  · subst here
    rw [if_pos rfl, Table.get_drop]
    by_cases same : p = peerId <;> simp [same]
  · simp [here]

/-- What `unseat` leaves behind. -/
structure Unseated (s t : Inner) (channelId peerId : String) (handle : PeerHandle) : Prop where
  seats : ∀ {c p h}, Seated t c p h ↔ Seated s c p h ∧ ¬(c = channelId ∧ p = peerId)
  rooms : t.rooms = s.rooms.put channelId ((s.room channelId).drop peerId)
  epoch : t.accessEpoch = s.accessEpoch
  connection : t.nextConnectionId = s.nextConnectionId
  ids : t.ids = s.ids
  queue : ∃ queue, t.outbound[handle.tx]? = some queue ∧ JustEnded queue.log
  matched : Matched t

theorem Matched.unseat (matched : Matched s) (length : ServerMessage → Nat)
    (seated : Seated s channelId peerId handle) :
    ∃ t, Broker.unseat length s channelId peerId = some (handle, t) ∧ Unseated s t channelId peerId handle := by
  have found : (s.room channelId).get peerId = some handle := seated
  refine ⟨_, by rw [Broker.unseat, found], ?_⟩
  set rest := (s.room channelId).drop peerId with rest_eq
  set f := Outbound.enqueue length (.presence channelId .left (handle.summary peerId))
  set t := ((s.setRoom channelId rest).onQueue handle.tx .unseat).onQueues rest.pairs f with t_eq
  have seats {c p : String} {h : PeerHandle} : Seated t c p h ↔ Seated s c p h ∧ ¬(c = channelId ∧ p = peerId) := by
    rw [← seated_unseat]
    simp [Seated, t_eq, rest_eq]
  have listed : ∀ seat ∈ rest.pairs, Seated t channelId seat.1 seat.2 := by
    intro seat member
    simpa [Seated, t_eq] using Table.mem_pairs_iff.mp member
  have inRest {p : String} {h : PeerHandle} (held : Seated t channelId p h) :
      h.tx ∈ rest.pairs.map fun seat => seat.2.tx := by
    have get : rest.get p = some h := by simpa [Seated, t_eq] using held
    exact List.mem_map.mpr ⟨(p, h), Table.mem_pairs_iff.mpr get, rfl⟩
  have once := matched.queues_nodup rest.pairs_nodup fun seat member => (seats.mp (listed seat member)).1
  have apart {c p : String} {h : PeerHandle} (held : Seated t c p h) : handle.tx ≠ h.tx := by
    intro same
    obtain ⟨rfl, rfl⟩ := matched.apart seated (seats.mp held).1 same
    exact (seats.mp held).2 ⟨rfl, rfl⟩
  have notRest {i : Nat} (free : ∀ c p h, Seated t c p h → h.tx ≠ i) : i ∉ rest.pairs.map fun seat => seat.2.tx := by
    intro member
    obtain ⟨seat, inside, rfl⟩ := List.mem_map.mp member
    exact free _ _ _ (listed seat inside) rfl
  have untouched {i : Nat} (outside : i ∉ rest.pairs.map fun seat => seat.2.tx) (other : handle.tx ≠ i) :
      t.outbound[i]? = s.outbound[i]? := by
    rw [t_eq, Inner.queue_onQueues once, if_neg outside, Inner.queue_onQueue, if_neg other, Inner.outbound_setRoom]
  obtain ⟨old, at_old, told⟩ := matched.told seated
  have queue : t.outbound[handle.tx]? = some old.unseat := by
    rw [t_eq, Inner.queue_onQueues once, if_neg (notRest fun c p h held => (apart held).symm), Inner.queue_onQueue,
      if_pos rfl, Inner.outbound_setRoom, at_old]
    rfl
  refine ⟨seats, by simp [t_eq, rest_eq, Inner.setRoom], by simp [t_eq, Inner.setRoom, Inner.onQueue],
    by simp [t_eq, Inner.setRoom, Inner.onQueue], ?_, ⟨_, queue, .unseat told.seated⟩, ?_, ?_, ?_⟩
  · rw [t_eq, Inner.ids_enqueueAll, Inner.ids_unseat, Inner.ids_setRoom]
  · exact fun first second => matched.apart (seats.mp first).1 (seats.mp second).1
  · intro c p h held
    obtain ⟨mine, at_mine, knows⟩ := matched.told (seats.mp held).1
    by_cases here : c = channelId
    · subst here
      refine ⟨f mine, ?_, ?_⟩
      · rw [t_eq, Inner.queue_onQueues once, if_pos (inRest held), Inner.queue_onQueue, if_neg (apart held),
          Inner.outbound_setRoom, at_mine]
        rfl
      · have room : t.room c = rest := by simp [t_eq]
        rw [room]
        exact view_left knows rfl
    · have outside : h.tx ∉ rest.pairs.map fun seat => seat.2.tx := by
        intro member
        obtain ⟨seat, inside, same⟩ := List.mem_map.mp member
        exact here (matched.apart (seats.mp held).1 (seats.mp (listed seat inside)).1 same.symm).1
      refine ⟨mine, (untouched outside (apart held)).trans at_mine, ?_⟩
      have room : t.room c = s.room c := by simp [t_eq, here]
      rwa [room]
  · intro i mine at_mine free
    by_cases same : handle.tx = i
    · subst same
      rw [queue] at at_mine
      cases at_mine
      exact (JustEnded.unseat told.seated).ended
    · rw [untouched (notRest free) same] at at_mine
      refine matched.ended at_mine fun c p h held taken => ?_
      by_cases gone : c = channelId ∧ p = peerId
      · obtain ⟨rfl, rfl⟩ := gone
        have equal : h = handle := Option.some.inj (held.symm.trans seated)
        exact same (equal ▸ taken)
      · exact free c p h (seats.mpr ⟨held, gone⟩) taken

/-- What taking away several seats of one room leaves behind. -/
structure Evicted (s t : Inner) (channelId : String) (peers : List String) : Prop where
  seats : ∀ {c p h}, Seated t c p h ↔ Seated s c p h ∧ ¬(c = channelId ∧ p ∈ peers)
  rooms : ∀ c, c ≠ channelId → t.rooms.get c = s.rooms.get c
  epoch : t.accessEpoch = s.accessEpoch
  connection : t.nextConnectionId = s.nextConnectionId
  ids : t.ids = s.ids
  matched : Matched t

theorem Matched.evict (matched : Matched s) (length : ServerMessage → Nat) (channelId code message peerId : String) :
    Evicted s (evict length channelId code message s peerId) channelId [peerId] := by
  unfold Broker.evict
  cases found : (s.room channelId).get peerId with
  | none =>
    have nobody : Broker.unseat length s channelId peerId = none := by rw [Broker.unseat, found]
    rw [nobody]
    refine ⟨?_, fun _ _ => rfl, rfl, rfl, rfl, matched⟩
    intro c p h
    constructor
    · intro seated
      refine ⟨seated, ?_⟩
      rintro ⟨rfl, member⟩
      rw [List.mem_singleton.mp member, Seated, found] at seated
      cases seated
    · exact fun held => held.1
  | some handle =>
    have seated : Seated s channelId peerId handle := found
    obtain ⟨t, result, gone⟩ := matched.unseat length seated
    obtain ⟨queue, at_tx, just⟩ := gone.queue
    rw [result]
    have ids := (Inner.ids_enqueue handle.tx length (.error code message)).trans gone.ids
    refine ⟨?_, ?_, gone.epoch, gone.connection, ids, gone.matched.final at_tx just ?_ code message⟩
    · intro c p h
      rw [List.mem_singleton]
      exact gone.seats
    · intro c other
      rw [Inner.rooms_onQueue, gone.rooms]
      exact Table.get_put_ne _ _ other
    · intro c p h held same
      obtain ⟨old, apart⟩ := gone.seats.mp held
      exact apart (matched.apart old seated same)

theorem Matched.evictAll (matched : Matched s) (length : ServerMessage → Nat) (channelId code message : String)
    (peers : List String) :
    Evicted s (peers.foldl (Broker.evict length channelId code message) s) channelId peers := by
  induction peers generalizing s with
  | nil => exact ⟨by simp, fun _ _ => rfl, rfl, rfl, rfl, matched⟩
  | cons peer peers ih =>
    have first := matched.evict length channelId code message peer
    have rest := ih first.matched
    refine ⟨?_, ?_, rest.epoch.trans first.epoch, rest.connection.trans first.connection, rest.ids.trans first.ids,
      rest.matched⟩
    · intro c p h
      rw [List.foldl_cons, rest.seats, first.seats, List.mem_singleton, List.mem_cons]
      tauto
    · intro c other
      exact (rest.rooms c other).trans (first.rooms c other)

/-- What seating a peer leaves behind. -/
structure SeatedNow (s t : Inner) (channelId peerId : String) (handle : PeerHandle) : Prop where
  seats : ∀ {c p h}, Seated t c p h ↔ if c = channelId ∧ p = peerId then h = handle else Seated s c p h
  rooms : t.rooms = s.rooms.put channelId ((s.room channelId).put peerId handle)
  epoch : t.accessEpoch = s.accessEpoch
  connection : t.nextConnectionId = s.nextConnectionId
  ids : t.ids = s.ids ++ [handle.connectionId]
  matched : Matched t

theorem view_new (room : RoomState) (peerId : String) (handle : PeerHandle) (connectionId : UInt64) :
    Told (room.put peerId handle) peerId (.new connectionId
      ((room.pairs.filter fun seat => seat.1 ≠ peerId).map fun seat => seat.2.summary seat.1)) where
  seated := List.not_mem_nil
  view := by
    intro _ id
    have known : id ∈ (room.pairs.filter fun seat => seat.1 ≠ peerId).map Prod.fst ↔ id ≠ peerId ∧ room.has id = true := by
      simp only [List.mem_map, List.mem_filter, Prod.exists, decide_eq_true_iff, Table.has_iff, Table.mem_pairs_iff]
      constructor
      · rintro ⟨_, h, ⟨held, other⟩, rfl⟩
        exact ⟨other, h, held⟩
      · rintro ⟨other, h, held⟩
        exact ⟨id, h, ⟨held, other⟩, rfl⟩
    rw [Outbound.view, Outbound.new, List.foldl_nil, List.map_map, Table.has_put]
    exact known.trans (by tauto)

theorem Matched.seat (matched : Matched s) (role : PeerRole) (deviceId pairingId : Option String)
    (connectionId : UInt64) :
    SeatedNow s (Broker.seat length s channelId peerId role deviceId pairingId connectionId).1 channelId peerId
      { connectionId := connectionId, role := role, deviceId := deviceId, pairingId := pairingId,
        tx := s.outbound.length } := by
  set room := s.room channelId with room_eq
  set others := room.pairs.filter fun seat => seat.1 ≠ peerId
  set f := Outbound.enqueue length
    (.presence channelId .joined { peerId := peerId, role := role, deviceId := deviceId })
  set told := (s.onQueues others f).dropHandle (room.get peerId) with told_eq
  set handle : PeerHandle :=
    { connectionId := connectionId, role := role, deviceId := deviceId, pairingId := pairingId, tx := s.outbound.length }
  have size : told.outbound.length = s.outbound.length := by simp [told_eq]
  set t := (Broker.seat length s channelId peerId role deviceId pairingId connectionId).1
  have queues (i : Nat) : t.outbound[i]? = (told.outbound ++
      [.new connectionId (others.map fun seat => seat.2.summary seat.1)])[i]? := rfl
  have before {i : Nat} (bound : i < s.outbound.length) : t.outbound[i]? = told.outbound[i]? := by
    rw [queues, List.getElem?_append_left (by omega)]
  have now : t.outbound[s.outbound.length]? =
      some (.new connectionId (others.map fun seat => seat.2.summary seat.1)) := by
    rw [queues, ← size]
    simp
  have rooms : t.rooms = s.rooms.put channelId (room.put peerId handle) := by
    have same : told.rooms = s.rooms := by simp [told_eq]
    rw [← same]
    rfl
  have inRoom (c : String) : t.room c = if c = channelId then room.put peerId handle else s.room c := by
    simp only [Inner.room, rooms, Table.get_put]
    split <;> rfl
  have seats {c p : String} {h : PeerHandle} :
      Seated t c p h ↔ if c = channelId ∧ p = peerId then h = handle else Seated s c p h := by
    unfold Seated
    rw [inRoom]
    by_cases here : c = channelId
    · subst here
      rw [if_pos rfl, Table.get_put]
      by_cases same : p = peerId <;> simp [same, eq_comm, room_eq]
    · simp [here]
  have inOthers {p : String} {h : PeerHandle} : (p, h) ∈ others ↔ Seated s channelId p h ∧ p ≠ peerId := by
    rw [List.mem_filter, Table.mem_pairs_iff, decide_eq_true_iff]
    rfl
  have once : (others.map fun seat => seat.2.tx).Nodup :=
    matched.queues_nodup ((List.filter_sublist.map Prod.fst).nodup room.pairs_nodup)
      fun seat member => (inOthers.mp member).1
  have txs {i : Nat} : i ∈ others.map (fun seat => seat.2.tx) ↔
      ∃ p h, Seated s channelId p h ∧ p ≠ peerId ∧ h.tx = i := by
    constructor
    · intro member
      obtain ⟨⟨p, h⟩, inside, same⟩ := List.mem_map.mp member
      exact ⟨p, h, (inOthers.mp inside).1, (inOthers.mp inside).2, same⟩
    · rintro ⟨p, h, held, other, same⟩
      exact List.mem_map.mpr ⟨(p, h), inOthers.mpr ⟨held, other⟩, same⟩
  have bounded {c p : String} {h : PeerHandle} (held : Seated s c p h) : h.tx < s.outbound.length := by
    obtain ⟨queue, found, _⟩ := matched.told held
    exact (List.getElem?_eq_some_iff.mp found).1
  have kept {c p : String} {h : PeerHandle} (held : Seated s c p h) (other : ¬(c = channelId ∧ p = peerId)) :
      t.outbound[h.tx]? = (s.onQueues others f).outbound[h.tx]? := by
    rw [before (bounded held)]
    refine Inner.queue_dropHandle_ne fun replaced found same => other ?_
    exact matched.apart held (found : Seated s channelId peerId replaced) same.symm
  have ids : t.ids = s.ids ++ [connectionId] := by
    have same : told.ids = s.ids := by
      rw [told_eq, Inner.ids_dropHandle, Inner.ids_enqueueAll]
    rw [← same]
    exact List.map_append
  refine ⟨seats, rooms, ?_, ?_, ids, ?_, ?_, ?_⟩
  · exact (by simp [told_eq] : told.accessEpoch = s.accessEpoch)
  · exact (by simp [told_eq] : told.nextConnectionId = s.nextConnectionId)
  · intro c p h c' p' h' first second same
    rw [seats] at first second
    split at first <;> split at second
    · rename_i one two
      exact ⟨one.1.trans two.1.symm, one.2.trans two.2.symm⟩
    · subst first
      exact absurd same (bounded second).ne'
    · subst second
      exact absurd same (bounded first).ne
    · exact matched.apart first second same
  · intro c p h held
    rw [seats] at held
    rw [inRoom]
    split at held
    · rename_i here
      obtain ⟨rfl, rfl⟩ := here
      subst held
      rw [if_pos rfl]
      exact ⟨_, now, view_new room p handle connectionId⟩
    · rename_i other
      obtain ⟨queue, found, knows⟩ := matched.told held
      rw [kept held other, Inner.queue_onQueues once, found]
      by_cases here : c = channelId
      · subst here
        have different : p ≠ peerId := fun same => other ⟨rfl, same⟩
        rw [if_pos (txs.mpr ⟨p, h, held, different, rfl⟩), if_pos rfl]
        refine ⟨f queue, rfl, view_joined knows ?_ different handle⟩
        rfl
      · have outside : h.tx ∉ others.map fun seat => seat.2.tx := by
          intro member
          obtain ⟨p', h', held', _, same⟩ := txs.mp member
          exact here (matched.apart held held' same.symm).1
        rw [if_neg outside, if_neg here]
        exact ⟨queue, rfl, knows⟩
  · intro i queue found free
    have notNew : i ≠ s.outbound.length := by
      intro same
      exact free channelId peerId handle (seats.mpr (by rw [if_pos ⟨rfl, rfl⟩])) same.symm
    have bound : i < s.outbound.length := by
      have inside := (List.getElem?_eq_some_iff.mp found).1
      have total : t.outbound.length = told.outbound.length + 1 := List.length_append
      omega
    rw [before bound] at found
    have outside : i ∉ others.map fun seat => seat.2.tx := by
      intro member
      obtain ⟨p, h, held, other, same⟩ := txs.mp member
      exact free channelId p h (seats.mpr (by rwa [if_neg fun here => other here.2])) same
    by_cases gone : ∃ old ∈ room.get peerId, old.tx = i
    · obtain ⟨old, replaced, same⟩ := gone
      obtain ⟨queue', found', knows⟩ := matched.told (replaced : Seated s channelId peerId old)
      subst same
      rw [told_eq, replaced, Inner.queue_dropHandle_self, Inner.queue_onQueues once, if_neg outside, found'] at found
      cases found
      exact (JustEnded.unseat knows.seated).ended
    · have other : ∀ old ∈ room.get peerId, old.tx ≠ i := fun old replaced same => gone ⟨old, replaced, same⟩
      rw [told_eq, Inner.queue_dropHandle_ne other, Inner.queue_onQueues once, if_neg outside] at found
      refine matched.ended found fun c p h held => ?_
      by_cases here : c = channelId ∧ p = peerId
      · obtain ⟨rfl, rfl⟩ := here
        exact other h held
      · exact free c p h (seats.mpr (by rwa [if_neg here]))

theorem seated_setRoom_put {c p : String} {h : PeerHandle} :
    Seated (s.setRoom channelId ((s.room channelId).put peerId handle)) c p h ↔
      if c = channelId ∧ p = peerId then h = handle else Seated s c p h := by
  unfold Seated
  rw [Inner.room_setRoom]
  by_cases here : c = channelId
  · subst here
    rw [if_pos rfl, Table.get_put]
    by_cases same : p = peerId <;> simp [same, eq_comm]
  · simp [here]

/-- A seat that is given a device is the same seat. -/
theorem Matched.name (matched : Matched s) (seated : Seated s channelId peerId handle) (deviceId : Option String) :
    Matched (s.setRoom channelId ((s.room channelId).put peerId { handle with deviceId := deviceId })) := by
  set t := s.setRoom channelId ((s.room channelId).put peerId { handle with deviceId := deviceId })
  have old {c p : String} {h : PeerHandle} (held : Seated t c p h) : ∃ h', Seated s c p h' ∧ h'.tx = h.tx := by
    rw [seated_setRoom_put] at held
    split at held
    · rename_i here
      obtain ⟨rfl, rfl⟩ := here
      subst held
      exact ⟨handle, seated, rfl⟩
    · exact ⟨h, held, rfl⟩
  have has (c id : String) : (t.room c).has id = true ↔ (s.room c).has id = true := by
    rw [Inner.room_setRoom]
    by_cases here : c = channelId
    · subst here
      rw [if_pos rfl, Table.has_put]
      refine or_iff_right_of_imp ?_
      rintro rfl
      exact Table.has_iff.mpr ⟨handle, seated⟩
    · rw [if_neg here]
  refine ⟨?_, ?_, ?_⟩
  · intro c p h c' p' h' first second same
    obtain ⟨one, first, left⟩ := old first
    obtain ⟨two, second, right⟩ := old second
    exact matched.apart first second (left.trans (same.trans right.symm))
  · intro c p h held
    obtain ⟨h', held, same⟩ := old held
    obtain ⟨queue, found, knows⟩ := matched.told held
    refine ⟨queue, same ▸ found, knows.seated, fun intact id => ?_⟩
    rw [knows.view intact id, has]
  · intro i queue found free
    refine matched.ended found fun c p h held => ?_
    by_cases here : c = channelId ∧ p = peerId
    · obtain ⟨rfl, rfl⟩ := here
      have equal : h = handle := Option.some.inj (held.symm.trans seated)
      subst equal
      exact free c p { h with deviceId := deviceId } (seated_setRoom_put.mpr (by rw [if_pos ⟨rfl, rfl⟩]))
    · exact free c p h (seated_setRoom_put.mpr (by rwa [if_neg here]))

theorem Matched.deliver (matched : Matched s) (fromPeerId : String) (role : PeerRole) (message : TargetedMessage) :
    Matched (Broker.deliver length channelId fromPeerId role s message) := by
  unfold Broker.deliver
  cases found : (s.room channelId).get message.targetPeerId with
  | none => exact matched
  | some handle =>
    have seated : Seated s channelId message.targetPeerId handle := found
    dsimp only
    split
    · rename_i deviceId _
      have named : Seated (s.setRoom channelId ((s.room channelId).put message.targetPeerId
          { handle with deviceId := some deviceId })) channelId message.targetPeerId
          { handle with deviceId := some deviceId } := by
        rw [seated_setRoom_put, if_pos ⟨rfl, rfl⟩]
      exact (matched.name seated (some deviceId)).enqueue named fun _ => rfl
    · exact matched.enqueue seated fun _ => rfl

theorem Matched.deliverAll (matched : Matched s) (fromPeerId : String) (role : PeerRole)
    (messages : List TargetedMessage) :
    Matched (messages.foldl (Broker.deliver length channelId fromPeerId role) s) := by
  induction messages generalizing s with
  | nil => exact matched
  | cons message messages ih => exact ih (matched.deliver fromPeerId role message)

/-- Every seat of a room is taken away at once, and told why. -/
theorem Matched.closeRoom (matched : Matched s) (length : ServerMessage → Nat) (channelId code message : String) :
    Matched (({ s with rooms := s.rooms.drop channelId }.onQueues (s.room channelId).pairs .unseat).onQueues
      (s.room channelId).pairs (.enqueue length (.error code message))) := by
  set room := s.room channelId with room_eq
  set closed : Inner := { s with rooms := s.rooms.drop channelId } with closed_eq
  set t := (closed.onQueues room.pairs .unseat).onQueues room.pairs (.enqueue length (.error code message)) with t_eq
  have rooms : t.rooms = s.rooms.drop channelId := by simp [t_eq, closed_eq]
  have inRoom (c : String) : t.room c = if c = channelId then ∅ else s.room c := by
    simp only [Inner.room, rooms, Table.get_drop]
    split <;> rfl
  have seats {c p : String} {h : PeerHandle} : Seated t c p h ↔ c ≠ channelId ∧ Seated s c p h := by
    unfold Seated
    rw [inRoom]
    by_cases here : c = channelId <;> simp [here]
  have listed : ∀ seat ∈ room.pairs, Seated s channelId seat.1 seat.2 :=
    fun seat member => Table.mem_pairs_iff.mp member
  have once := matched.queues_nodup room.pairs_nodup listed
  have txs {i : Nat} : i ∈ room.pairs.map (fun seat => seat.2.tx) ↔ ∃ p h, Seated s channelId p h ∧ h.tx = i := by
    constructor
    · intro member
      obtain ⟨seat, inside, same⟩ := List.mem_map.mp member
      exact ⟨seat.1, seat.2, listed seat inside, same⟩
    · rintro ⟨p, h, held, same⟩
      exact List.mem_map.mpr ⟨(p, h), Table.mem_pairs_iff.mpr held, same⟩
  have queues (i : Nat) : t.outbound[i]? = if i ∈ room.pairs.map fun seat => seat.2.tx then
      (s.outbound[i]?.map .unseat).map (.enqueue length (.error code message)) else s.outbound[i]? := by
    rw [t_eq, Inner.queue_onQueues once, Inner.queue_onQueues once]
    split <;> rfl
  refine ⟨fun first second => matched.apart (seats.mp first).2 (seats.mp second).2, ?_, ?_⟩
  · intro c p h held
    obtain ⟨other, held⟩ := seats.mp held
    obtain ⟨queue, found, knows⟩ := matched.told held
    have outside : h.tx ∉ room.pairs.map fun seat => seat.2.tx := by
      intro member
      obtain ⟨p', h', held', same⟩ := txs.mp member
      exact other (matched.apart held held' same.symm).1
    rw [queues, if_neg outside, inRoom, if_neg other]
    exact ⟨queue, found, knows⟩
  · intro i queue found free
    rw [queues] at found
    split at found
    · rename_i member
      obtain ⟨p, h, held, rfl⟩ := txs.mp member
      obtain ⟨queue', found', knows⟩ := matched.told held
      rw [found'] at found
      cases found
      exact (JustEnded.unseat knows.seated).error length code message
    · rename_i outside
      refine matched.ended found fun c p h held same => ?_
      by_cases here : c = channelId
      · subst here
        exact outside (txs.mpr ⟨p, h, held, same⟩)
      · exact free c p h (seats.mpr ⟨here, held⟩) same

/-- What the socket task does to its queue changes no history. -/
theorem Matched.socket (matched : Matched s) (tx : Nat) {f : Outbound → Outbound}
    (log : ∀ queue, (f queue).log = queue.log) (failed : ∀ queue, (f queue).failed = queue.failed)
    (existing : ∀ queue, (f queue).existingPeers = queue.existingPeers) : Matched (s.onQueue tx f) where
  apart := matched.apart
  told := by
    intro c p h held
    obtain ⟨queue, found, knows⟩ := matched.told held
    rw [Inner.queue_onQueue, found]
    split
    · refine ⟨f queue, rfl, by rw [log]; exact knows.seated, fun intact => ?_⟩
      rw [Outbound.view, log, existing]
      exact knows.view (failed queue ▸ intact)
    · exact ⟨queue, rfl, knows⟩
  ended := by
    intro i queue found free
    rw [Inner.queue_onQueue] at found
    split at found
    · obtain ⟨old, at_i, rfl⟩ := Option.map_eq_some_iff.mp found
      rw [log]
      exact matched.ended at_i free
    · exact matched.ended found free

end Steps

end Sealwire.Broker

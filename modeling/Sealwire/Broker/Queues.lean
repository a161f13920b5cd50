import Mathlib.Data.List.Nodup
import Sealwire.Lib.RowStore
import Sealwire.Broker.State

namespace Sealwire.Broker

namespace Outbound

variable {length : ServerMessage → Nat} {message : ServerMessage} {queue : Outbound}

/-- A message is queued, or refused and the refusal remembered. -/
theorem enqueue_cases (length : ServerMessage → Nat) (message : ServerMessage) (queue : Outbound) :
    ((queue.enqueue length message).log = queue.log ++ [.queued message] ∧
      (queue.enqueue length message).failed = queue.failed) ∨
    ((queue.enqueue length message).log = queue.log ∧ (queue.enqueue length message).failed = true) := by
  unfold enqueue
  split
  · exact .inr ⟨rfl, rfl⟩
  · split
    · exact .inr ⟨rfl, rfl⟩
    · split
      · exact .inr ⟨rfl, rfl⟩
      · split
        · exact .inr ⟨rfl, rfl⟩
        · exact .inl ⟨rfl, rfl⟩

@[simp] theorem enqueue_existingPeers : (queue.enqueue length message).existingPeers = queue.existingPeers := by
  unfold enqueue
  split_ifs <;> rfl

@[simp] theorem enqueue_connectionId : (queue.enqueue length message).connectionId = queue.connectionId := by
  unfold enqueue
  split_ifs <;> rfl

theorem unseated_mem_enqueue : .unseated ∈ (queue.enqueue length message).log ↔ .unseated ∈ queue.log := by
  rcases enqueue_cases length message queue with ⟨log, _⟩ | ⟨log, _⟩ <;> simp [log]

/-- A queue that was not failed shows the view with the message applied. -/
theorem view_enqueue (intact : (queue.enqueue length message).failed = false) :
    queue.failed = false ∧ (queue.enqueue length message).view = see queue.view (.queued message) := by
  rcases enqueue_cases length message queue with ⟨log, failed⟩ | ⟨_, failed⟩
  · refine ⟨failed.symm.trans intact, ?_⟩
    rw [view, log, List.foldl_append, enqueue_existingPeers]
    rfl
  · rw [failed] at intact
    cases intact

end Outbound

/-- A seat was taken away, and at most a final error came after. -/
def Ended (log : List Event) : Prop :=
  ∃ before after, log = before ++ .unseated :: after ∧ .unseated ∉ before ∧
    (after = [] ∨ ∃ code message, after = [.queued (.error code message)])

/-- A log without such a mark has just got one. -/
def JustEnded (log : List Event) : Prop :=
  ∃ before, log = before ++ [.unseated] ∧ .unseated ∉ before

theorem JustEnded.ended {log : List Event} (just : JustEnded log) : Ended log := by
  obtain ⟨before, same, fresh⟩ := just
  exact ⟨before, [], same, fresh, .inl rfl⟩

theorem JustEnded.error {queue : Outbound} (just : JustEnded queue.log) (length : ServerMessage → Nat)
    (code message : String) : Ended (queue.enqueue length (.error code message)).log := by
  obtain ⟨before, same, fresh⟩ := just
  rcases Outbound.enqueue_cases length (.error code message) queue with ⟨log, _⟩ | ⟨log, _⟩
  · exact ⟨before, [.queued (.error code message)], by rw [log, same]; simp, fresh, .inr ⟨code, message, rfl⟩⟩
  · exact ⟨before, [], log.trans same, fresh, .inl rfl⟩

theorem JustEnded.unseat {queue : Outbound} (seated : .unseated ∉ queue.log) : JustEnded queue.unseat.log :=
  ⟨queue.log, rfl, seated⟩

theorem Ended.unseated_mem {log : List Event} (ended : Ended log) : .unseated ∈ log := by
  obtain ⟨before, after, rfl, _, _⟩ := ended
  simp

/-- After any mark of a log that has ended comes nothing but a final error. -/
theorem Ended.after {log before after : List Event} (ended : Ended log) (split : log = before ++ .unseated :: after) :
    after = [] ∨ ∃ code message, after = [.queued (.error code message)] := by
  obtain ⟨first, rest, same, fresh, final⟩ := ended
  have later : .unseated ∉ rest := by
    rcases final with rfl | ⟨_, _, rfl⟩ <;> simp
  rw [split] at same
  have equal : after = rest := by
    rcases List.append_eq_append_iff.mp same with ⟨middle, left, right⟩ | ⟨middle, left, right⟩
    · cases middle with
      | nil => exact (List.cons.inj right).2
      | cons event middle =>
        rw [List.cons_append] at right
        rw [left] at fresh
        exact absurd (by rw [← (List.cons.inj right).1]; simp) fresh
    · cases middle with
      | nil => exact ((List.cons.inj right).2).symm
      | cons event middle =>
        rw [List.cons_append] at right
        rw [(List.cons.inj right).2] at later
        exact absurd (by simp) later
  rwa [equal]

namespace Inner

variable {s : Inner}

/-- The connection ids that were given out, in the order of the joins. -/
def ids (s : Inner) : List UInt64 :=
  s.outbound.map Outbound.connectionId

theorem ids_onQueue (tx : Nat) {f : Outbound → Outbound}
    (same : ∀ queue, (f queue).connectionId = queue.connectionId) : (s.onQueue tx f).ids = s.ids := by
  apply List.ext_getElem?
  intro i
  simp only [ids, onQueue, List.getElem?_map, List.getElem?_modify]
  cases s.outbound[i]? with
  | none => rfl
  | some queue => split <;> simp [same]

theorem ids_onQueues (seats : List (String × PeerHandle)) {f : Outbound → Outbound}
    (same : ∀ queue, (f queue).connectionId = queue.connectionId) : (s.onQueues seats f).ids = s.ids := by
  induction seats generalizing s with
  | nil => rfl
  | cons seat seats ih => exact ih.trans (ids_onQueue seat.2.tx same)

@[simp] theorem rooms_onQueue (tx : Nat) (f : Outbound → Outbound) : (s.onQueue tx f).rooms = s.rooms := rfl

@[simp] theorem room_onQueue (tx : Nat) (f : Outbound → Outbound) : (s.onQueue tx f).room = s.room := rfl

theorem queue_onQueue (tx : Nat) (f : Outbound → Outbound) (i : Nat) :
    (s.onQueue tx f).outbound[i]? = if tx = i then s.outbound[i]?.map f else s.outbound[i]? := by
  rw [onQueue, List.getElem?_modify]
  split
  · rfl
  · simp

/-- Nothing but the queues is changed. -/
theorem onQueues_eq (seats : List (String × PeerHandle)) (f : Outbound → Outbound) :
    s.onQueues seats f = { s with outbound := (s.onQueues seats f).outbound } := by
  induction seats generalizing s with
  | nil => rfl
  | cons seat seats ih => exact ih

@[simp] theorem rooms_onQueues (seats : List (String × PeerHandle)) (f : Outbound → Outbound) :
    (s.onQueues seats f).rooms = s.rooms := by
  rw [onQueues_eq]

@[simp] theorem accessEpoch_onQueues (seats : List (String × PeerHandle)) (f : Outbound → Outbound) :
    (s.onQueues seats f).accessEpoch = s.accessEpoch := by
  rw [onQueues_eq]

@[simp] theorem nextConnectionId_onQueues (seats : List (String × PeerHandle)) (f : Outbound → Outbound) :
    (s.onQueues seats f).nextConnectionId = s.nextConnectionId := by
  rw [onQueues_eq]

@[simp] theorem room_onQueues (seats : List (String × PeerHandle)) (f : Outbound → Outbound) :
    (s.onQueues seats f).room = s.room := by
  funext channelId
  simp [room]

@[simp] theorem length_onQueues (seats : List (String × PeerHandle)) (f : Outbound → Outbound) :
    (s.onQueues seats f).outbound.length = s.outbound.length := by
  induction seats generalizing s with
  | nil => rfl
  | cons seat seats ih =>
    rw [onQueues, List.foldl_cons]
    exact (ih (s := s.onQueue seat.2.tx f)).trans (List.length_modify _ _ _)

theorem queue_onQueues {seats : List (String × PeerHandle)} (once : (seats.map fun seat => seat.2.tx).Nodup)
    (f : Outbound → Outbound) (i : Nat) :
    (s.onQueues seats f).outbound[i]? =
      if i ∈ seats.map fun seat => seat.2.tx then s.outbound[i]?.map f else s.outbound[i]? := by
  induction seats generalizing s with
  | nil => simp [onQueues]
  | cons seat seats ih =>
    rw [List.map_cons, List.nodup_cons] at once
    have rest := ih (s := s.onQueue seat.2.tx f) once.2
    rw [onQueues, List.foldl_cons, ← onQueues, rest, queue_onQueue, List.map_cons]
    by_cases here : seat.2.tx = i
    · subst here
      simp [once.1]
    · have other : ¬i = seat.2.tx := fun same => here same.symm
      simp only [if_neg here, List.mem_cons, other, false_or]

@[simp] theorem ids_unseat (tx : Nat) : (s.onQueue tx .unseat).ids = s.ids :=
  ids_onQueue tx fun _ => rfl

@[simp] theorem ids_enqueue (tx : Nat) (length : ServerMessage → Nat) (message : ServerMessage) :
    (s.onQueue tx (.enqueue length message)).ids = s.ids :=
  ids_onQueue tx fun _ => Outbound.enqueue_connectionId

@[simp] theorem ids_unseatAll (seats : List (String × PeerHandle)) : (s.onQueues seats .unseat).ids = s.ids :=
  ids_onQueues seats fun _ => rfl

@[simp] theorem ids_enqueueAll (seats : List (String × PeerHandle)) (length : ServerMessage → Nat)
    (message : ServerMessage) : (s.onQueues seats (.enqueue length message)).ids = s.ids :=
  ids_onQueues seats fun _ => Outbound.enqueue_connectionId

@[simp] theorem ids_dropHandle (replaced : Option PeerHandle) : (s.dropHandle replaced).ids = s.ids := by
  cases replaced with
  | none => rfl
  | some handle => exact ids_onQueue handle.tx fun _ => rfl

@[simp] theorem rooms_dropHandle (replaced : Option PeerHandle) : (s.dropHandle replaced).rooms = s.rooms := by
  cases replaced <;> rfl

@[simp] theorem accessEpoch_dropHandle (replaced : Option PeerHandle) :
    (s.dropHandle replaced).accessEpoch = s.accessEpoch := by
  cases replaced <;> rfl

@[simp] theorem nextConnectionId_dropHandle (replaced : Option PeerHandle) :
    (s.dropHandle replaced).nextConnectionId = s.nextConnectionId := by
  cases replaced <;> rfl

@[simp] theorem length_dropHandle (replaced : Option PeerHandle) :
    (s.dropHandle replaced).outbound.length = s.outbound.length := by
  cases replaced with
  | none => rfl
  | some handle => exact List.length_modify _ _ _

theorem queue_dropHandle_ne {replaced : Option PeerHandle} {i : Nat} (other : ∀ handle ∈ replaced, handle.tx ≠ i) :
    (s.dropHandle replaced).outbound[i]? = s.outbound[i]? := by
  cases replaced with
  | none => rfl
  | some handle =>
    rw [dropHandle, queue_onQueue, if_neg (other handle rfl)]

theorem queue_dropHandle_self (handle : PeerHandle) :
    (s.dropHandle (some handle)).outbound[handle.tx]? = s.outbound[handle.tx]?.map .unseat := by
  rw [dropHandle, queue_onQueue, if_pos rfl]

@[simp] theorem room_setRoom (channelId other : String) (room : RoomState) :
    (s.setRoom channelId room).room other = if other = channelId then room else s.room other := by
  simp only [setRoom, Inner.room, Table.get_put]
  split <;> rfl

@[simp] theorem outbound_setRoom (channelId : String) (room : RoomState) :
    (s.setRoom channelId room).outbound = s.outbound := rfl

@[simp] theorem ids_setRoom (channelId : String) (room : RoomState) : (s.setRoom channelId room).ids = s.ids := rfl

theorem room_dropEmpty (channelId other : String) : (s.dropEmpty channelId).room other = s.room other ∨
    (s.dropEmpty channelId).room other = ∅ ∧ (s.room other).pairs = [] := by
  unfold dropEmpty
  split
  · rename_i empty
    by_cases same : other = channelId
    · subst same
      exact .inr ⟨by simp [room, Table.get_drop], empty⟩
    · exact .inl (by simp [room, Table.get_drop, same])
  · exact .inl rfl

@[simp] theorem get_room_dropEmpty (channelId other peerId : String) :
    ((s.dropEmpty channelId).room other).get peerId = (s.room other).get peerId := by
  rcases room_dropEmpty (s := s) channelId other with same | ⟨same, empty⟩
  · rw [same]
  · rw [same, Table.get_empty]
    cases held : (s.room other).get peerId with
    | none => rfl
    | some handle =>
      have listed := Table.mem_pairs_iff.mpr held
      rw [empty] at listed
      cases listed

@[simp] theorem outbound_dropEmpty (channelId : String) : (s.dropEmpty channelId).outbound = s.outbound := by
  unfold dropEmpty
  split <;> rfl

end Inner

end Sealwire.Broker

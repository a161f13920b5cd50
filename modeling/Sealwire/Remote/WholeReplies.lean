import Sealwire.Remote.Reassembly

namespace Sealwire.Remote

variable {Result Envelope : Type} {wire : Wire Result Envelope}

/-- Each piece goes out in its own payload, under its place, and can be opened. -/
theorem chunkPayloads_get {header : ReplyHeader} {chunkCount : Nat} {pieces : List String} {first : Nat}
    {payloads : List (ChunkPayload Envelope)} (built : chunkPayloads wire header chunkCount first pieces = .ok payloads) :
    payloads.length = pieces.length ∧ ∀ k payload, payloads[k]? = some payload → ∃ piece envelope,
      pieces[k]? = some piece ∧ payload = header.payload (first + k) chunkCount envelope ∧
        wire.decrypt envelope = some (header.plaintext (first + k) chunkCount piece) := by
  induction pieces generalizing first payloads with
  | nil =>
    cases built
    exact ⟨rfl, by simp⟩
  | cons piece pieces ih =>
    cases sealed : wire.encrypt (header.plaintext first chunkCount piece) with
    | error error => simp [chunkPayloads, chunkPayload, sealed, bind, Except.bind] at built
    | ok envelope =>
      cases rest : chunkPayloads wire header chunkCount (first + 1) pieces with
      | error error => simp [chunkPayloads, chunkPayload, sealed, rest, bind, Except.bind, pure, Except.pure] at built
      | ok others =>
        have split : payloads = header.payload first chunkCount envelope :: others := by
          simp only [chunkPayloads, chunkPayload, sealed, rest, bind, Except.bind, pure, Except.pure,
            Except.ok.injEq] at built
          exact built.symm
        obtain ⟨length, each⟩ := ih rest
        subst split
        refine ⟨by simp [length], ?_⟩
        intro k payload at_k
        cases k with
        | zero =>
          cases at_k
          exact ⟨piece, envelope, rfl, rfl, wire.decrypts sealed⟩
        | succ k =>
          obtain ⟨own, envelope, at_piece, is, opens⟩ := each k payload (by simpa using at_k)
          have place : first + 1 + k = first + (k + 1) := by omega
          exact ⟨own, envelope, by simpa using at_piece, place ▸ is, place ▸ opens⟩

/-- The text of a train and its pieces. -/
structure Train.Splits (train : Train wire) (text : String) (pieces : List String) : Prop where
  serialized : wire.serialized train.plaintext = .ok text
  joins : String.join pieces = text
  nonempty : pieces ≠ []
  length : train.payloads.length = pieces.length
  get : ∀ k payload, train.payloads[k]? = some payload → ∃ piece envelope,
    pieces[k]? = some piece ∧ payload = train.header.payload k pieces.length envelope ∧
      wire.decrypt envelope = some (train.header.plaintext k pieces.length piece)

theorem Train.splits (train : Train wire) : ∃ text pieces, train.Splits text pieces := by
  have built := train.built
  unfold buildEncryptedRemoteActionResultChunkPayloads at built
  cases serialized : wire.serialized train.plaintext with
  | error error => simp [serialized, bind, Except.bind] at built
  | ok text =>
    simp only [serialized, bind, Except.bind] at built
    generalize fits : fitChunks text _ _ = fitted at built
    rcases fitted with ⟨_ | pieces, _ | error⟩
    · cases built
    · cases built
    · obtain ⟨maxChars, split⟩ := fitChunksFrom_split (congrArg Prod.fst fits)
      obtain ⟨length, each⟩ := chunkPayloads_get built
      refine ⟨text, pieces, serialized, ?_, ?_, length, ?_⟩
      · rw [split, splitOnCharBoundaries_join]
      · exact split ▸ splitOnCharBoundaries_ne_nil text maxChars
      · intro k payload at_k
        obtain ⟨piece, envelope, at_piece, is, opens⟩ := each k payload at_k
        rw [Nat.zero_add] at is opens
        exact ⟨piece, envelope, at_piece, is, opens⟩
    · cases built

namespace Train.Splits

variable {train : Train wire} {text : String} {pieces : List String}

theorem piece (splits : train.Splits text pieces) (k : Nat) : train.piece k = pieces[k]? := by
  unfold Train.piece
  cases at_k : train.payloads[k]? with
  | none =>
    have short := List.getElem?_eq_none_iff.mp at_k
    rw [splits.length] at short
    simp [short]
  | some payload =>
    obtain ⟨piece, envelope, at_piece, rfl, opens⟩ := splits.get k payload at_k
    simp [ReplyHeader.payload, opens, at_piece, ReplyHeader.plaintext]

/-- A payload of the train carries one of its pieces. -/
theorem of_mem (splits : train.Splits text pieces) {payload : ChunkPayload Envelope} (there : payload ∈ train.payloads) :
    payload.actionId = train.header.actionId ∧ payload.chunkIndex < payload.chunkCount ∧
      payload.chunkCount = pieces.length ∧ ∃ piece, pieces[payload.chunkIndex]? = some piece ∧
        wire.decrypt payload.envelope =
          some { actionId := payload.actionId, action := payload.action, chunkIndex := payload.chunkIndex
                 chunkCount := payload.chunkCount, data := piece } := by
  obtain ⟨k, at_k⟩ := List.mem_iff_getElem?.mp there
  obtain ⟨piece, envelope, at_piece, rfl, opens⟩ := splits.get k payload at_k
  exact ⟨rfl, (List.getElem?_eq_some_iff.mp at_piece).1, rfl, piece, at_piece, opens⟩

end Train.Splits

theorem reassembleFrom_some (index : Nat) (serialized : String) (pieces : List String) :
    reassembleFrom index serialized (pieces.map some) = .ok (serialized ++ String.join pieces) := by
  induction pieces generalizing index serialized with
  | nil => simp [reassembleFrom]
  | cons piece pieces ih => simp [reassembleFrom, ih, String.join_cons, String.append_assoc]

/-- All pieces of a train make its result. -/
theorem Train.Splits.reassemble {train : Train wire} {text : String} {pieces : List String}
    (splits : train.Splits text pieces) :
    reassembleRemoteActionResultChunks wire (pieces.map some) = .ok train.plaintext := by
  unfold reassembleRemoteActionResultChunks
  rw [reassembleFrom_some, String.empty_append, splits.joins]
  exact wire.parses splits.serialized

namespace PendingChunks

/-- As many pieces are held as were counted, and a place is open. -/
structure Open (pending : PendingChunks) : Prop where
  places : pending.chunks.length = pending.chunkCount
  counted : pending.receivedCount = pending.chunks.countP Option.isSome
  room : pending.receivedCount < pending.chunkCount

def Holds (pending : PendingChunks) (k : Nat) : Prop :=
  ∃ piece, pending.chunks[k]? = some (some piece)

theorem open_new (action : String) {chunkCount : Nat} (positive : 0 < chunkCount) : (new action chunkCount).Open := by
  refine ⟨by simp [new], ?_, positive⟩
  simp [new, List.countP_replicate]

section Receive

variable {pending : PendingChunks} {k : Nat} {data : String}

theorem advances_iff (k_lt : k < pending.chunks.length) : pending.advances k = true ↔ pending.chunks[k] = none := by
  simp [advances, List.getD_eq_getElem?_getD, k_lt]

theorem Open.receive_counted (open_ : pending.Open) (k_lt : k < pending.chunkCount) :
    (pending.receive k data).receivedCount = (pending.receive k data).chunks.countP Option.isSome := by
  have inside : k < pending.chunks.length := by rw [open_.places]; exact k_lt
  have held : pending.chunks[k].isSome = true → 0 < pending.chunks.countP Option.isSome := fun some_ =>
    List.countP_pos_iff.mpr ⟨pending.chunks[k], List.getElem_mem inside, some_⟩
  simp only [receive, List.countP_set inside, advances_iff inside, open_.counted]
  cases at_k : pending.chunks[k] with
  | none => simp
  | some piece =>
    have positive := held (by simp [at_k])
    simp only [reduceCtorEq, if_false, Option.isSome_some, if_true]
    omega

theorem Open.receive_le (open_ : pending.Open) (k_lt : k < pending.chunkCount) :
    (pending.receive k data).receivedCount ≤ pending.chunkCount := by
  rw [open_.receive_counted k_lt, ← open_.places]
  simpa [receive] using List.countP_le_length (p := Option.isSome) (l := (pending.receive k data).chunks)

theorem Open.receive_open (open_ : pending.Open) (k_lt : k < pending.chunkCount)
    (more : (pending.receive k data).receivedCount ≠ pending.chunkCount) : (pending.receive k data).Open := by
  refine ⟨by simpa [receive] using open_.places, open_.receive_counted k_lt, ?_⟩
  exact lt_of_le_of_ne (open_.receive_le k_lt) more

/-- The piece that makes the count full filled the last open place. -/
theorem Open.last (open_ : pending.Open) (full : (pending.receive k data).receivedCount = pending.chunkCount) :
    pending.receivedCount + 1 = pending.chunkCount ∧ pending.advances k = true := by
  have room := open_.room
  unfold receive at full
  by_cases advances : pending.advances k = true
  · exact ⟨by simpa [advances] using full, advances⟩
  · simp only [advances, Bool.false_eq_true, if_false] at full
    omega

theorem Open.receive_holds (open_ : pending.Open) (k_lt : k < pending.chunkCount) : (pending.receive k data).Holds k := by
  refine ⟨data, ?_⟩
  simp [receive, open_.places, k_lt]

theorem Holds.receive {j : Nat} (holds : pending.Holds j) (k : Nat) (data : String) : (pending.receive k data).Holds j := by
  obtain ⟨piece, at_j⟩ := holds
  by_cases same : k = j
  · subst same
    exact ⟨data, by simp [PendingChunks.receive, (List.getElem?_eq_some_iff.mp at_j).1]⟩
  · exact ⟨piece, by simp [PendingChunks.receive, List.getElem?_set_ne same, at_j]⟩

/-- Whatever is still open does not hold every piece. -/
theorem Open.not_full (open_ : pending.Open) : ∃ k < pending.chunkCount, ¬pending.Holds k := by
  by_contra full
  push Not at full
  have all : pending.chunks.countP Option.isSome = pending.chunks.length := by
    refine List.countP_eq_length.mpr ?_
    intro place there
    obtain ⟨k, at_k⟩ := List.mem_iff_getElem?.mp there
    have k_lt := (List.getElem?_eq_some_iff.mp at_k).1
    obtain ⟨piece, holds⟩ := full k (open_.places ▸ k_lt)
    cases at_k.symm.trans holds
    rfl
  have room := open_.room
  rw [open_.counted, all, open_.places] at room
  exact absurd room (Nat.lt_irrefl _)

end Receive

end PendingChunks

namespace Replies

variable {trains : List (Train wire)} {w : Replies Result Envelope}

theorem clear_chunks (actionId id : String) : (w.clearPendingActionChunks actionId).pendingActionChunks.get id =
    if actionId ≠ "" ∧ id = actionId then none else w.pendingActionChunks.get id := by
  unfold clearPendingActionChunks
  by_cases empty : actionId = ""
  · simp [empty]
  · simp [empty, Table.get_drop]

@[simp] theorem clear_pendingActions (actionId : String) :
    (w.clearPendingActionChunks actionId).pendingActions = w.pendingActions := by
  unfold clearPendingActionChunks
  split <;> rfl

@[simp] theorem clear_settled (actionId : String) : (w.clearPendingActionChunks actionId).settled = w.settled := by
  unfold clearPendingActionChunks
  split <;> rfl

@[simp] theorem clear_opening (actionId : String) : (w.clearPendingActionChunks actionId).opening = w.opening := by
  unfold clearPendingActionChunks
  split <;> rfl

@[simp] theorem clear_clear (actionId : String) :
    (w.clearPendingActionChunks actionId).clearPendingActionChunks actionId = w.clearPendingActionChunks actionId := by
  unfold clearPendingActionChunks
  by_cases empty : actionId = ""
  · simp [empty]
  · simp [empty, Table.drop_drop]

/-- What a chunk of a train does where the condition holds: nothing but dropping the pieces of an action that is no
longer pending; or it is kept; or it settles the action with the result of a train. -/
inductive ChunkEffect (trains : List (Train wire)) (w : Replies Result Envelope) (payload : ChunkPayload Envelope) :
    Replies Result Envelope → Prop
  | ignored (absent : payload.actionId ∉ w.pendingActions) :
      ChunkEffect trains w payload (w.clearPendingActionChunks payload.actionId)
  | kept (pending : PendingChunks) (held : payload.actionId ∈ w.pendingActions) (open_ : pending.Open)
      (count : pending.chunkCount = payload.chunkCount) (holds : pending.Holds payload.chunkIndex)
      (keeps : ∀ old ∈ w.pendingActionChunks.get payload.actionId,
        pending.chunkCount = old.chunkCount ∧ ∀ k, old.Holds k → pending.Holds k) :
      ChunkEffect trains w payload
        { w with pendingActionChunks := w.pendingActionChunks.put payload.actionId pending }
  | settles (train : Train wire) (known : train ∈ trains) (own : train.header.actionId = payload.actionId)
      (held : payload.actionId ∈ w.pendingActions) :
      ChunkEffect trains w payload
        ((w.clearPendingActionChunks payload.actionId).settle payload.actionId (.chunks train.plaintext))

/-- What the chunks leave: pieces that are counted and never complete, accepted frames that the relay sent, and actions
settled with the result of a train. -/
structure Sound (trains : List (Train wire)) (w : Replies Result Envelope) : Prop where
  named : "" ∉ w.pendingActions
  opening : ∀ payload, .chunk payload ∈ w.opening → ∃ train ∈ trains, payload ∈ train.payloads
  pieces : ∀ id pending, w.pendingActionChunks.get id = some pending → pending.Open
  settled : ∀ id result, (id, .chunks result) ∈ w.settled →
    ∃ train ∈ trains, train.header.actionId = id ∧ train.plaintext = result

/-- The pieces a chunk finds, or an empty place for each where it is the first. -/
theorem ChunkMeets.taken {payload : ChunkPayload Envelope} (meets : w.ChunkMeets trains payload)
    (pieces : ∀ id pending, w.pendingActionChunks.get id = some pending → pending.Open) {sender : Train wire}
    (known : sender ∈ trains) (sent : payload ∈ sender.payloads) (positive : 0 < payload.chunkCount) :
    ∃ pending, (w.pendingActionChunks.get payload.actionId).getD (.new payload.action payload.chunkCount) = pending ∧
      pending.Open ∧ pending.chunkCount = payload.chunkCount ∧
      (pending.receivedCount + 1 = pending.chunkCount → pending.advances payload.chunkIndex = true →
        ∃ train ∈ trains, payload ∈ train.payloads ∧ pending.RestOf train payload.chunkIndex) := by
  cases found : w.pendingActionChunks.get payload.actionId with
  | some pending =>
    obtain ⟨count, last⟩ := meets pending found
    exact ⟨pending, rfl, pieces _ _ found, count, last⟩
  | none =>
    refine ⟨.new payload.action payload.chunkCount, rfl, PendingChunks.open_new _ positive, rfl, ?_⟩
    intro single _
    refine ⟨sender, known, sent, ?_⟩
    intro k k_lt other
    obtain ⟨text, pieces, splits⟩ := sender.splits
    have inside := (splits.of_mem sent).2.1
    simp only [PendingChunks.new] at single k_lt
    omega

/-- The pieces of one train, all in place. -/
theorem receive_full {pending : PendingChunks} {train : Train wire} {text : String} {pieces : List String}
    {payload : ChunkPayload Envelope} {piece : String} (open_ : pending.Open) (splits : train.Splits text pieces)
    (count : pending.chunkCount = pieces.length) (at_piece : pieces[payload.chunkIndex]? = some piece)
    (rest : pending.RestOf train payload.chunkIndex) :
    (pending.receive payload.chunkIndex piece).chunks = pieces.map some := by
  apply List.ext_getElem?
  intro k
  simp only [PendingChunks.receive, List.getElem?_set, List.getElem?_map, open_.places, count]
  by_cases same : payload.chunkIndex = k
  · rw [← same, at_piece, if_pos rfl, if_pos (List.getElem?_eq_some_iff.mp at_piece).1, Option.map_some]
  · rw [if_neg same]
    by_cases k_lt : k < pieces.length
    · rw [rest k (count ▸ k_lt) (Ne.symm same), splits.piece]
      simp [k_lt]
    · have none_held : pending.chunks[k]? = none := by
        rw [List.getElem?_eq_none_iff, open_.places, count]
        omega
      simp [none_held, not_lt.mp k_lt]

section Handle

variable {chunk : RemoteActionResultChunkPlaintext} {actionId : String} {pending : PendingChunks}

theorem handle_kept (is_named : actionId ≠ "") (held : actionId ∈ w.pendingActions) (inside : chunk.chunkIndex < chunk.chunkCount)
    (taken : (w.pendingActionChunks.get actionId).getD (.new chunk.action chunk.chunkCount) = pending)
    (count : pending.chunkCount = chunk.chunkCount)
    (more : (pending.receive chunk.chunkIndex chunk.data).receivedCount ≠ chunk.chunkCount) :
    w.handleRemoteActionResultChunk wire actionId chunk = { w with
      pendingActionChunks := w.pendingActionChunks.put actionId (pending.receive chunk.chunkIndex chunk.data) } := by
  have well_formed : ¬(chunk.chunkCount = 0 ∨ chunk.chunkIndex ≥ chunk.chunkCount) := by omega
  unfold handleRemoteActionResultChunk
  rw [if_neg (not_or.mpr ⟨is_named, not_not.mpr held⟩), if_neg well_formed]
  simp only [taken]
  rw [if_neg (not_not.mpr count), if_pos more]

theorem handle_complete {result : Result} (is_named : actionId ≠ "") (held : actionId ∈ w.pendingActions)
    (inside : chunk.chunkIndex < chunk.chunkCount)
    (taken : (w.pendingActionChunks.get actionId).getD (.new chunk.action chunk.chunkCount) = pending)
    (count : pending.chunkCount = chunk.chunkCount)
    (full : (pending.receive chunk.chunkIndex chunk.data).receivedCount = chunk.chunkCount)
    (made : reassembleRemoteActionResultChunks wire (pending.receive chunk.chunkIndex chunk.data).chunks = .ok result) :
    w.handleRemoteActionResultChunk wire actionId chunk =
      (w.clearPendingActionChunks actionId).settle actionId (.chunks result) := by
  have well_formed : ¬(chunk.chunkCount = 0 ∨ chunk.chunkIndex ≥ chunk.chunkCount) := by omega
  unfold handleRemoteActionResultChunk
  rw [if_neg (not_or.mpr ⟨is_named, not_not.mpr held⟩), if_neg well_formed]
  simp only [taken]
  rw [if_neg (not_not.mpr count), if_neg (not_not.mpr full)]
  simp only [made, handleRemoteActionResult, settlePendingAction, is_named, if_false, clear_pendingActions, held, if_true,
    clear_clear]

end Handle

theorem handle_chunk {payload : ChunkPayload Envelope} {piece : String}
    (opens : wire.decrypt payload.envelope =
      some { actionId := payload.actionId, action := payload.action, chunkIndex := payload.chunkIndex
             chunkCount := payload.chunkCount, data := piece }) :
    w.handleEncryptedRemoteActionResultChunk wire payload = w.handleRemoteActionResultChunk wire payload.actionId
      { actionId := payload.actionId, action := payload.action, chunkIndex := payload.chunkIndex
        chunkCount := payload.chunkCount, data := piece } := by
  unfold handleEncryptedRemoteActionResultChunk
  simp only [opens, ne_eq, not_true_eq_false, or_self, if_false]

theorem Sound.chunk (sound : w.Sound trains) {payload : ChunkPayload Envelope} {sender : Train wire}
    (known : sender ∈ trains) (sent : payload ∈ sender.payloads)
    (meets : payload.actionId ∈ w.pendingActions → w.ChunkMeets trains payload) :
    ChunkEffect trains w payload (w.handleEncryptedRemoteActionResultChunk wire payload) := by
  obtain ⟨text, pieces, splits⟩ := sender.splits
  obtain ⟨own, inside, count, piece, at_piece, opens⟩ := splits.of_mem sent
  rw [handle_chunk opens]
  by_cases held : payload.actionId ∈ w.pendingActions
  · have is_named : payload.actionId ≠ "" := fun empty => sound.named (empty ▸ held)
    obtain ⟨pending, taken, open_, same_count, last⟩ := (meets held).taken sound.pieces known sent
      (Nat.zero_lt_of_lt inside)
    by_cases full : (pending.receive payload.chunkIndex piece).receivedCount = pending.chunkCount
    · obtain ⟨one_left, advances⟩ := open_.last full
      obtain ⟨train, known, sent, rest⟩ := last one_left advances
      obtain ⟨text, pieces, splits⟩ := train.splits
      obtain ⟨own, -, count, other, at_other, also⟩ := splits.of_mem sent
      have same_piece : piece = other := by simpa using opens.symm.trans also
      have made : reassembleRemoteActionResultChunks wire (pending.receive payload.chunkIndex piece).chunks =
          .ok train.plaintext := by
        rw [same_piece, receive_full open_ splits (same_count.trans count) at_other rest, splits.reassemble]
      rw [handle_complete is_named held inside taken same_count (full.trans same_count) made]
      exact .settles train known own.symm held
    · rw [handle_kept is_named held inside taken same_count fun same => full (same.trans same_count.symm)]
      refine .kept _ held (open_.receive_open (same_count ▸ inside) full) same_count
        (open_.receive_holds (same_count ▸ inside)) ?_
      intro old found
      obtain rfl : old = pending := by simpa [Option.mem_def.mp found] using taken
      exact ⟨rfl, fun k holds => holds.receive _ _⟩
  · have skipped : w.handleRemoteActionResultChunk wire payload.actionId
        { actionId := payload.actionId, action := payload.action, chunkIndex := payload.chunkIndex
          chunkCount := payload.chunkCount, data := piece } = w.clearPendingActionChunks payload.actionId := by
      unfold handleRemoteActionResultChunk
      rw [if_pos (.inr held)]
    rw [skipped]
    exact .ignored held

theorem Sound.clear (sound : w.Sound trains) (actionId : String) : (w.clearPendingActionChunks actionId).Sound trains := by
  refine ⟨by simpa using sound.named, by simpa using sound.opening, ?_, by simpa using sound.settled⟩
  intro id pending found
  rw [clear_chunks] at found
  split at found
  · cases found
  · exact sound.pieces id pending found

theorem Sound.settle (sound : w.Sound trains) {actionId : String} {how : Settlement Result}
    (right : ∀ result, how = .chunks result → ∃ train ∈ trains, train.header.actionId = actionId ∧ train.plaintext = result) :
    (w.settle actionId how).Sound trains := by
  refine ⟨?_, sound.opening, sound.pieces, ?_⟩
  · intro there
    exact sound.named (List.mem_of_mem_filter there)
  · intro id result there
    rcases List.mem_cons.mp there with new | old
    · cases new
      exact right result rfl
    · exact sound.settled id result old

theorem Sound.reject (sound : w.Sound trains) (actionId error : String) :
    (w.rejectPendingAction actionId error).Sound trains := by
  unfold rejectPendingAction
  split
  · exact sound
  split
  · exact (sound.clear actionId).settle fun result is => by cases is
  · exact sound.clear actionId

theorem Sound.rejectAll (sound : w.Sound trains) (error : String) : (w.rejectPendingActions error).Sound trains := by
  have rejected : ∀ (ids : List String) (w : Replies Result Envelope), w.Sound trains →
      (ids.foldl (fun w actionId => w.rejectPendingAction actionId error) w).Sound trains := by
    intro ids
    induction ids with
    | nil => exact fun w sound => sound
    | cons id ids ih => exact fun w sound => ih _ (sound.reject id error)
  have after := rejected w.pendingActions w sound
  refine ⟨after.named, after.opening, ?_, after.settled⟩
  intro id pending found
  simp [rejectPendingActions] at found

theorem Sound.whole (sound : w.Sound trains) (payload : ResultPayload Envelope) :
    (w.handleEncryptedRemoteActionResult wire payload).Sound trains := by
  unfold handleEncryptedRemoteActionResult
  split
  · unfold handleRemoteActionResult settlePendingAction
    have cleared := sound.clear payload.actionId
    split
    · exact cleared
    split
    · exact (cleared.clear payload.actionId).settle fun result is => by cases is
    · exact cleared
  · exact sound

theorem ChunkEffect.sound {payload : ChunkPayload Envelope} {after : Replies Result Envelope} (sound : w.Sound trains)
    (effect : ChunkEffect trains w payload after) : after.Sound trains := by
  cases effect with
  | ignored _ => exact sound.clear payload.actionId
  | kept pending _ open_ _ _ _ =>
    refine ⟨sound.named, sound.opening, ?_, sound.settled⟩
    intro id other found
    rw [Table.get_put] at found
    split at found
    · cases found
      exact open_
    · exact sound.pieces id other found
  | settles train known own _ =>
    refine (sound.clear payload.actionId).settle ?_
    intro result is
    cases is
    exact ⟨train, known, own, rfl⟩

/-- A frame is taken from those that are being decrypted. -/
theorem Sound.opens (sound : w.Sound trains) (k : Nat) : Sound trains { w with opening := w.opening.eraseIdx k } :=
  ⟨sound.named, fun payload there => sound.opening payload (List.mem_of_mem_eraseIdx there), sound.pieces, sound.settled⟩

theorem Sound.opened (sound : w.Sound trains) {k : Nat} {payload : ChunkPayload Envelope}
    (at_k : w.opening[k]? = some (.chunk payload)) (meets : w.Meets trains (.opened k)) :
    ChunkEffect trains { w with opening := w.opening.eraseIdx k } payload (w.step wire (.opened k)) := by
  obtain ⟨train, known, sent⟩ := sound.opening payload (List.mem_of_getElem? at_k)
  simp only [step, at_k]
  exact (sound.opens k).chunk known sent fun held => meets payload at_k held

theorem Sound.step (sound : w.Sound trains) {event : ReplyEvent Envelope} (sent : FromRelay trains event)
    (meets : w.Meets trains event) : (w.step wire event).Sound trains := by
  cases event with
  | bind socketPeerId deviceId => exact ⟨sound.named, sound.opening, sound.pieces, sound.settled⟩
  | register actionId =>
    simp only [Replies.step]
    split
    · exact sound
    · rename_i new
      refine ⟨?_, sound.opening, sound.pieces, sound.settled⟩
      intro there
      rcases List.mem_append.mp there with old | is
      · exact sound.named old
      · exact new (.inl (List.mem_singleton.mp is).symm)
  | receive reply =>
    simp only [Replies.step]
    split
    · refine ⟨sound.named, ?_, sound.pieces, sound.settled⟩
      intro payload there
      rcases List.mem_append.mp there with old | new
      · exact sound.opening payload old
      · obtain rfl := List.mem_singleton.mp new
        exact sent
    · exact sound
  | opened k =>
    cases at_k : w.opening[k]? with
    | none =>
      simp only [Replies.step, at_k]
      exact sound
    | some reply =>
      cases reply with
      | result payload =>
        simp only [Replies.step, at_k]
        exact (sound.opens k).whole payload
      | chunk payload => exact (sound.opened at_k meets).sound (sound.opens k)
  | reject actionId error => exact sound.reject actionId error
  | rejectAll error => exact sound.rejectAll error

end Replies

end Sealwire.Remote

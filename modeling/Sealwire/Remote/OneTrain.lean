import Sealwire.Remote.WholeReplies

namespace Sealwire.Remote

variable {Result Envelope : Type} {wire : Wire Result Envelope}

namespace Replies

variable {trains : List (Train wire)} {w : Replies Result Envelope}

/-- The action was settled by chunks since. -/
def SettledSince (actionId : String) (w after : Replies Result Envelope) : Prop :=
  ∃ new result, after.settled = new ++ w.settled ∧ (actionId, .chunks result) ∈ new

/-- The action is still pending, no piece of it was lost, and those handled since are there. -/
structure Keeps (actionId : String) (handled : List (EncryptedReply Envelope)) (w after : Replies Result Envelope) :
    Prop where
  log : ∃ new, after.settled = new ++ w.settled
  pending : actionId ∈ after.pendingActions
  old : ∀ old ∈ w.pendingActionChunks.get actionId, ∃ pending ∈ after.pendingActionChunks.get actionId,
    pending.chunkCount = old.chunkCount ∧ ∀ k, old.Holds k → pending.Holds k
  fresh : ∀ payload, .chunk payload ∈ handled → payload.actionId = actionId →
    ∃ pending ∈ after.pendingActionChunks.get actionId,
      pending.chunkCount = payload.chunkCount ∧ pending.Holds payload.chunkIndex

section Keep

variable {actionId : String} {handled : List (EncryptedReply Envelope)} {after last : Replies Result Envelope}

theorem Keeps.unchanged (pending : actionId ∈ after.pendingActions) (log : ∃ new, after.settled = new ++ w.settled)
    (same : after.pendingActionChunks.get actionId = w.pendingActionChunks.get actionId)
    (none_own : ∀ payload, .chunk payload ∈ handled → payload.actionId ≠ actionId) : Keeps actionId handled w after := by
  refine ⟨log, pending, ?_, ?_⟩
  · intro old found
    exact ⟨old, same ▸ found, rfl, fun k holds => holds⟩
  · intro payload there own
    exact absurd own (none_own payload there)

theorem Keeps.trans {more : List (EncryptedReply Envelope)} (first : Keeps actionId handled w after)
    (second : Keeps actionId more after last) : Keeps actionId (handled ++ more) w last := by
  obtain ⟨new, log⟩ := first.log
  obtain ⟨newer, later⟩ := second.log
  refine ⟨⟨newer ++ new, by rw [later, log, List.append_assoc]⟩, second.pending, ?_, ?_⟩
  · intro old found
    obtain ⟨middle, at_middle, count, holds⟩ := first.old old found
    obtain ⟨pending, at_last, same, also⟩ := second.old middle at_middle
    exact ⟨pending, at_last, same.trans count, fun k held => also k (holds k held)⟩
  · intro payload there own
    rcases List.mem_append.mp there with old | new
    · obtain ⟨middle, at_middle, count, holds⟩ := first.fresh payload old own
      obtain ⟨pending, at_last, same, also⟩ := second.old middle at_middle
      exact ⟨pending, at_last, same.trans count, also _ holds⟩
    · exact second.fresh payload new own

theorem SettledSince.later (first : SettledSince actionId w after) (log : ∃ new, last.settled = new ++ after.settled) :
    SettledSince actionId w last := by
  obtain ⟨new, result, grown, there⟩ := first
  obtain ⟨newer, later⟩ := log
  exact ⟨newer ++ new, result, by rw [later, grown, List.append_assoc], List.mem_append_right newer there⟩

theorem SettledSince.earlier (log : ∃ new, after.settled = new ++ w.settled) (second : SettledSince actionId after last) :
    SettledSince actionId w last := by
  obtain ⟨new, grown⟩ := log
  obtain ⟨newer, result, later, there⟩ := second
  exact ⟨newer ++ new, result, by rw [later, grown, List.append_assoc], List.mem_append_left new there⟩

end Keep

/-- Nothing but an action of another name is touched. -/
structure Apart (actionId : String) (w after : Replies Result Envelope) : Prop where
  log : ∃ new, after.settled = new ++ w.settled
  pending : actionId ∈ w.pendingActions → actionId ∈ after.pendingActions
  same : after.pendingActionChunks.get actionId = w.pendingActionChunks.get actionId

theorem apart_clear {actionId other : String} (apart : other ≠ actionId) :
    Apart actionId w (w.clearPendingActionChunks other) := by
  refine ⟨⟨[], by simp⟩, by simp, ?_⟩
  rw [clear_chunks, if_neg fun own => apart own.2.symm]

theorem Apart.settle {actionId other : String} {after : Replies Result Envelope} (so_far : Apart actionId w after)
    (apart : other ≠ actionId) (how : Settlement Result) : Apart actionId w (after.settle other how) := by
  obtain ⟨new, log⟩ := so_far.log
  refine ⟨⟨(other, how) :: new, by simp [Replies.settle, log]⟩, ?_, so_far.same⟩
  intro held
  exact List.mem_filter.mpr ⟨so_far.pending held, by simpa using Ne.symm apart⟩

theorem apart_reject {actionId other : String} (apart : other ≠ actionId) (error : String) :
    Apart actionId w (w.rejectPendingAction other error) := by
  unfold rejectPendingAction
  split
  · exact ⟨⟨[], rfl⟩, id, rfl⟩
  split
  · exact (apart_clear apart).settle apart _
  · exact apart_clear apart

theorem apart_whole {actionId : String} {payload : ResultPayload Envelope} (apart : payload.actionId ≠ actionId) :
    Apart actionId w (w.handleEncryptedRemoteActionResult wire payload) := by
  unfold handleEncryptedRemoteActionResult
  split
  · unfold handleRemoteActionResult settlePendingAction
    have cleared := apart_clear (w := w) apart
    split
    · exact cleared
    split
    · rw [clear_clear]
      exact cleared.settle apart _
    · exact cleared
  · exact ⟨⟨[], rfl⟩, id, rfl⟩

theorem ChunkEffect.apart {actionId : String} {payload : ChunkPayload Envelope} {after : Replies Result Envelope}
    (effect : ChunkEffect trains w payload after) (apart : payload.actionId ≠ actionId) : Apart actionId w after := by
  cases effect with
  | ignored _ => exact apart_clear apart
  | kept pending _ _ _ _ _ => exact ⟨⟨[], rfl⟩, id, Table.get_put_ne _ _ (Ne.symm apart)⟩
  | settles _ _ _ _ => exact (apart_clear apart).settle apart _

theorem ChunkEffect.own {payload : ChunkPayload Envelope} {after : Replies Result Envelope}
    (effect : ChunkEffect trains w payload after) (held : payload.actionId ∈ w.pendingActions) :
    Keeps payload.actionId [.chunk payload] w after ∨ SettledSince payload.actionId w after := by
  cases effect with
  | ignored absent => exact absurd held absent
  | settles train _ _ _ =>
    exact .inr ⟨[(payload.actionId, .chunks train.plaintext)], train.plaintext, by simp [settle], List.mem_singleton.mpr rfl⟩
  | kept pending _ _ count holds keeps =>
    have found : (w.pendingActionChunks.put payload.actionId pending).get payload.actionId = some pending :=
      Table.get_put_self _ _ _
    refine .inl ⟨⟨[], rfl⟩, held, ?_, ?_⟩
    · intro old before
      exact ⟨pending, found, keeps old before⟩
    · intro other there own
      cases List.mem_singleton.mp there
      exact ⟨pending, found, count, holds⟩

theorem ChunkEffect.log {payload : ChunkPayload Envelope} {after : Replies Result Envelope}
    (effect : ChunkEffect trains w payload after) : ∃ new, after.settled = new ++ w.settled := by
  cases effect with
  | ignored _ => exact ⟨[], by simp⟩
  | kept _ _ _ _ _ _ => exact ⟨[], rfl⟩
  | settles train _ _ _ => exact ⟨[(payload.actionId, .chunks train.plaintext)], by simp [settle]⟩

/-- A step that leaves an action to its chunks: they are kept, or they settle it. -/
theorem Sound.leaves (sound : w.Sound trains) {actionId : String} {event : ReplyEvent Envelope}
    (meets : w.Meets trains event) (leaves : w.LeavesToChunks actionId event) :
    (∃ new, (w.step wire event).settled = new ++ w.settled) ∧
      (actionId ∈ w.pendingActions →
        Keeps actionId (w.handled event) w (w.step wire event) ∨ SettledSince actionId w (w.step wire event)) := by
  have quiet {handled : List (EncryptedReply Envelope)} {after : Replies Result Envelope} (apart : Apart actionId w after)
      (none_own : ∀ payload, .chunk payload ∈ handled → payload.actionId ≠ actionId) :
      (∃ new, after.settled = new ++ w.settled) ∧
        (actionId ∈ w.pendingActions → Keeps actionId handled w after ∨ SettledSince actionId w after) :=
    ⟨apart.log, fun held => .inl (.unchanged (apart.pending held) apart.log apart.same none_own)⟩
  cases event with
  | bind socketPeerId deviceId => exact quiet ⟨⟨[], rfl⟩, id, rfl⟩ (by simp [handled])
  | register other =>
    simp only [Replies.step]
    split
    · exact quiet ⟨⟨[], rfl⟩, id, rfl⟩ (by simp [handled])
    · exact quiet ⟨⟨[], rfl⟩, List.mem_append_left _, rfl⟩ (by simp [handled])
  | receive reply =>
    simp only [Replies.step]
    split
    · exact quiet ⟨⟨[], rfl⟩, id, rfl⟩ (by simp [handled])
    · exact quiet ⟨⟨[], rfl⟩, id, rfl⟩ (by simp [handled])
  | reject other error => exact quiet (apart_reject leaves error) (by simp [handled])
  | rejectAll error => exact leaves.elim
  | opened k =>
    cases at_k : w.opening[k]? with
    | none =>
      simp only [Replies.step, at_k]
      exact quiet ⟨⟨[], rfl⟩, id, rfl⟩ (by simp [handled, at_k])
    | some reply =>
      cases reply with
      | result payload =>
        simp only [Replies.step, at_k]
        have apart : Apart actionId { w with opening := w.opening.eraseIdx k }
            (handleEncryptedRemoteActionResult wire { w with opening := w.opening.eraseIdx k } payload) :=
          apart_whole (leaves payload at_k)
        exact quiet ⟨apart.log, apart.pending, apart.same⟩ (by simp [handled, at_k])
      | chunk payload =>
        have effect := sound.opened at_k meets
        simp only [handled, at_k, Option.toList_some]
        by_cases own : payload.actionId = actionId
        · subst own
          refine ⟨effect.log, fun held => ?_⟩
          rcases effect.own held with keeps | settled
          · exact .inl ⟨keeps.log, keeps.pending, keeps.old, keeps.fresh⟩
          · exact .inr settled
        · have apart := effect.apart own
          refine quiet ⟨apart.log, apart.pending, apart.same⟩ ?_
          intro other there
          cases List.mem_singleton.mp there
          exact own

theorem Sound.after (sound : w.Sound trains) {actionId : String} {events : List (ReplyEvent Envelope)}
    (all : RepliesAllowed trains (fun w event => w.Meets trains event ∧ w.LeavesToChunks actionId event) w events) :
    (events.foldl (Replies.step wire) w).Sound trains := by
  induction events generalizing w with
  | nil => exact sound
  | cons event events ih => exact ih (sound.step all.1.1 all.1.2.1) all.2

/-- Along steps that leave an action to its chunks, the pieces handled are all there, or have settled it. -/
theorem Sound.along (sound : w.Sound trains) {actionId : String} {events : List (ReplyEvent Envelope)}
    (all : RepliesAllowed trains (fun w event => w.Meets trains event ∧ w.LeavesToChunks actionId event) w events) :
    (∃ new, (events.foldl (Replies.step wire) w).settled = new ++ w.settled) ∧
      (actionId ∈ w.pendingActions →
        Keeps actionId (handledAlong wire w events) w (events.foldl (Replies.step wire) w) ∨
          SettledSince actionId w (events.foldl (Replies.step wire) w)) := by
  induction events generalizing w with
  | nil =>
    refine ⟨⟨[], rfl⟩, fun held => .inl (.unchanged held ⟨[], rfl⟩ rfl ?_)⟩
    simp [handledAlong]
  | cons event events ih =>
    obtain ⟨⟨sent, meets, leaves⟩, rest⟩ := all
    obtain ⟨log, goes⟩ := sound.leaves meets leaves
    obtain ⟨more, later⟩ := ih (sound.step sent meets) rest
    refine ⟨?_, fun held => ?_⟩
    · obtain ⟨new, grown⟩ := log
      obtain ⟨newer, after⟩ := more
      exact ⟨newer ++ new, by rw [List.foldl_cons, after, grown, List.append_assoc]⟩
    · rcases goes held with keeps | settled
      · rcases later keeps.pending with also | settled
        · exact .inl (keeps.trans also)
        · exact .inr (.earlier log settled)
      · exact .inr (settled.later more)

/-- A train of which every payload was handled leaves no open place. -/
theorem Sound.settles (sound : w.Sound trains) {train : Train wire} {handled : List (EncryptedReply Envelope)}
    {before : Replies Result Envelope} (keeps : Keeps train.header.actionId handled before w)
    (complete : ∀ payload ∈ train.payloads, .chunk payload ∈ handled) : False := by
  obtain ⟨text, pieces, splits⟩ := train.splits
  have each (k : Nat) (k_lt : k < pieces.length) : ∃ pending ∈ w.pendingActionChunks.get train.header.actionId,
      pending.chunkCount = pieces.length ∧ pending.Holds k := by
    have inside : k < train.payloads.length := by rw [splits.length]; exact k_lt
    have at_k := List.getElem?_eq_getElem inside
    obtain ⟨piece, envelope, at_piece, is, opens⟩ := splits.get k _ at_k
    have there := complete _ (List.getElem_mem inside)
    rw [is] at there
    exact keeps.fresh _ there rfl
  obtain ⟨pending, found, count, -⟩ := each 0 (List.length_pos_iff.mpr splits.nonempty)
  obtain ⟨k, k_lt, open_⟩ := (sound.pieces _ _ found).not_full
  obtain ⟨other, also, -, holds⟩ := each k (count ▸ k_lt)
  cases Option.some.inj (found.symm.trans also)
  exact open_ holds

end Replies

section TwoAnswers

/-- A wire that leaves pieces in the clear. -/
def clearWire : Wire String RemoteActionResultChunkPlaintext where
  serialized error := .ok ("\x7b\"error\":\"" ++ error ++ "\"\x7d")
  parse text := .ok (String.ofList ((text.toList.drop 10).dropLast.dropLast))
  parses is := by
    obtain rfl := Except.ok.inj is
    simp
  encrypt := .ok
  decrypt := some
  decrypts is := by rw [Except.ok.inj is]
  decryptResult _ := none
  frameBytes payload := payload.envelope.data.toList.length * 4 / 3 + 600

def diffHeader : ReplyHeader where
  actionId := "diff"
  targetPeerId := "peer"
  deviceId := "phone"
  action := "fetch_workspace_diff"

def diffChunk (chunkIndex chunkCount : Nat) (piece : String) : ChunkPayload RemoteActionResultChunkPlaintext :=
  diffHeader.payload chunkIndex chunkCount (diffHeader.plaintext chunkIndex chunkCount piece)

/-- The phone accepts these chunks and handles each before the next arrives. -/
def arrivals (payloads : List (ChunkPayload RemoteActionResultChunkPlaintext)) :
    List (ReplyEvent RemoteActionResultChunkPlaintext) :=
  payloads.flatMap fun payload => [.receive (.chunk payload), .opened 0]

theorem receive_opened (wire : Wire Result Envelope) {w : Replies Result Envelope} {payload : ChunkPayload Envelope} (idle : w.opening = [])
    (accepts : w.accepts (.chunk payload) = true) :
    (w.step wire (.receive (.chunk payload))).step wire (.opened 0) =
      w.handleEncryptedRemoteActionResultChunk wire payload := by
  obtain ⟨peer, device, opening, pendingActions, pieces, settled⟩ := w
  obtain rfl : opening = [] := idle
  simp only [Replies.step, accepts, if_true, List.nil_append, List.getElem?_cons_zero, List.eraseIdx_cons_zero,
    Replies.handle]

/-- One chunk that arrives at a phone that decrypts nothing else. -/
structure Arrives (w : Replies String RemoteActionResultChunkPlaintext)
    (payload : ChunkPayload RemoteActionResultChunkPlaintext) (after : Replies String RemoteActionResultChunkPlaintext) :
    Prop where
  received : w.step clearWire (.receive (.chunk payload)) = { w with opening := [.chunk payload] }
  handled : (w.step clearWire (.receive (.chunk payload))).step clearWire (.opened 0) = after

section Arrival

variable {w : Replies String RemoteActionResultChunkPlaintext} (idle : w.opening = [])
  (peer : w.socketPeerId = some "peer") (device : w.deviceId = some "phone")
include idle peer device

theorem diffChunk_arrives (chunkIndex chunkCount : Nat) (piece : String) :
    Arrives w (diffChunk chunkIndex chunkCount piece)
      (w.handleRemoteActionResultChunk clearWire "diff" (diffHeader.plaintext chunkIndex chunkCount piece)) := by
  have accepts : w.accepts (.chunk (diffChunk chunkIndex chunkCount piece)) = true := by
    simp [Replies.accepts, peer, device, diffChunk, ReplyHeader.payload, diffHeader]
  have opens : clearWire.decrypt (diffChunk chunkIndex chunkCount piece).envelope =
    some (diffHeader.plaintext chunkIndex chunkCount piece) := rfl
  have handled := receive_opened clearWire idle accepts
  rw [Replies.handle_chunk opens] at handled
  exact ⟨by simp only [Replies.step, accepts, if_true, idle, List.nil_append], handled⟩

theorem arrives (chunkIndex chunkCount : Nat) (piece : String)
    (payloads : List (ChunkPayload RemoteActionResultChunkPlaintext)) :
    (arrivals (diffChunk chunkIndex chunkCount piece :: payloads)).foldl (Replies.step clearWire) w =
      (arrivals payloads).foldl (Replies.step clearWire)
        (w.handleRemoteActionResultChunk clearWire "diff" (diffHeader.plaintext chunkIndex chunkCount piece)) := by
  simp only [arrivals, List.flatMap_cons, List.cons_append, List.nil_append, List.foldl_cons,
    (diffChunk_arrives idle peer device chunkIndex chunkCount piece).handled]

end Arrival

end TwoAnswers

end Sealwire.Remote

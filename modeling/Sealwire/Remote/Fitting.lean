import Mathlib
import Sealwire.Remote.OneTrain

namespace Sealwire.Remote

section Fit

variable {frameBytes : String → Nat → Nat → Nat}

theorem measure_of_sized (pieces : List String) (chunkCount : Nat) (largest : Nat) :
    ∃ most, pieces.foldl (measureStep (fun piece index count => .ok (frameBytes piece index count)) chunkCount)
        (largest, none) = (most, none) ∧ largest ≤ most ∧
      (∀ piece ∈ pieces, frameBytes piece (chunkCount - 1) chunkCount ≤ most) ∧
      (most = largest ∨ ∃ piece ∈ pieces, frameBytes piece (chunkCount - 1) chunkCount = most) := by
  induction pieces generalizing largest with
  | nil => exact ⟨largest, rfl, Nat.le_refl _, by simp, .inl rfl⟩
  | cons piece pieces ih =>
    obtain ⟨most, folded, grown, each, reached⟩ := ih (max largest (frameBytes piece (chunkCount - 1) chunkCount))
    have largest_le : largest ≤ most := by omega
    refine ⟨most, by rw [List.foldl_cons, measureStep, folded], largest_le, ?_, ?_⟩
    · intro other member
      rcases List.mem_cons.mp member with rfl | there
      · omega
      · exact each other there
    · rcases reached with same | ⟨other, there, same⟩
      · rcases Nat.le_total largest (frameBytes piece (chunkCount - 1) chunkCount) with le | le
        · exact .inr ⟨piece, List.mem_cons_self, by omega⟩
        · exact .inl (by omega)
      · exact .inr ⟨other, List.mem_cons_of_mem _ there, same⟩

/-- A text that fits in one piece is not split. -/
theorem splitOnCharBoundaries_whole {serialized : String} {maxChars : Nat} (room : serialized.toList.length ≤ max maxChars 1) :
    splitOnCharBoundaries serialized maxChars = [serialized] := by
  have filled : serialized.toList.foldl (splitStep (max maxChars 1)) ([], []) = ([], serialized.toList) :=
    splitStep_fill (by simpa using room)
  unfold splitOnCharBoundaries
  rw [filled]
  simp

/-- What the loop answers with, from a size that the loop can be at. -/
theorem fitChunksFrom_cases (serialized : String) (chunkChars least : Nat)
    (floor : remoteActionResultChunkMinChars < chunkChars → least = remoteActionResultChunkMinChars)
    (bottom : chunkChars ≤ remoteActionResultChunkMinChars →
      splitOnCharBoundaries serialized chunkChars = splitOnCharBoundaries serialized least) :
    (∀ pieces, (fitChunksFrom serialized (fun piece index count => .ok (frameBytes piece index count)) chunkChars none).1 =
        some pieces → (∃ maxChars, pieces = splitOnCharBoundaries serialized maxChars) ∧
      ∀ piece ∈ pieces, frameBytes piece (pieces.length - 1) pieces.length ≤ maxBrokerTextFrameBytes) ∧
    ((fitChunksFrom serialized (fun piece index count => .ok (frameBytes piece index count)) chunkChars none).1 = none →
      ∃ piece ∈ splitOnCharBoundaries serialized least, maxBrokerTextFrameBytes <
        frameBytes piece ((splitOnCharBoundaries serialized least).length - 1)
          (splitOnCharBoundaries serialized least).length) := by
  induction chunkChars using Nat.strongRecOn with
  | ind chunkChars ih =>
    obtain ⟨most, measured, _, each, reached⟩ :=
      @measure_of_sized frameBytes (splitOnCharBoundaries serialized chunkChars)
        (splitOnCharBoundaries serialized chunkChars).length 0
    rw [fitChunksFrom]
    simp only [measure, measured]
    by_cases fits : most ≤ maxBrokerTextFrameBytes
    · rw [if_pos fits]
      refine ⟨fun pieces same => ?_, fun none => (by cases none)⟩
      obtain rfl := Option.some.inj same
      exact ⟨⟨chunkChars, rfl⟩, fun piece member => Nat.le_trans (each piece member) fits⟩
    · rw [if_neg fits]
      by_cases last : chunkChars ≤ remoteActionResultChunkMinChars
      · rw [if_pos last]
        refine ⟨fun pieces some_ => (by cases some_), fun _ => ?_⟩
        rw [← bottom last]
        rcases reached with none_there | ⟨piece, there, same⟩
        · omega
        · exact ⟨piece, there, by omega⟩
      · rw [if_neg last]
        have smaller : max (chunkChars / 2) remoteActionResultChunkMinChars < chunkChars := by
          simp only [remoteActionResultChunkMinChars] at *
          omega
        have at_floor := floor (by omega)
        refine ih _ smaller (fun _ => at_floor) fun low => ?_
        have same : max (chunkChars / 2) remoteActionResultChunkMinChars = least := by omega
        rw [same]

/-- The floor of the loop: the least size, or the target where that is lower. -/
def leastChunkChars (targetChars : Nat) : Nat :=
  min (max targetChars 1) remoteActionResultChunkMinChars

example : leastChunkChars remoteActionResultChunkTargetChars = remoteActionResultChunkMinChars := rfl

theorem fitChunks_cases (serialized : String) (targetChars : Nat) :
    (∀ pieces, (fitChunks serialized targetChars fun piece index count => .ok (frameBytes piece index count)).1 =
        some pieces → (∃ maxChars, pieces = splitOnCharBoundaries serialized maxChars) ∧
      ∀ piece ∈ pieces, frameBytes piece (pieces.length - 1) pieces.length ≤ maxBrokerTextFrameBytes) ∧
    ((fitChunks serialized targetChars fun piece index count => .ok (frameBytes piece index count)).1 = none →
      ∃ piece ∈ splitOnCharBoundaries serialized (leastChunkChars targetChars), maxBrokerTextFrameBytes <
        frameBytes piece ((splitOnCharBoundaries serialized (leastChunkChars targetChars)).length - 1)
          (splitOnCharBoundaries serialized (leastChunkChars targetChars)).length) := by
  unfold fitChunks
  refine fitChunksFrom_cases serialized _ (leastChunkChars targetChars) (fun high => ?_) fun low => ?_
  · have long : remoteActionResultChunkMinChars < max targetChars 1 := by
      simp only [remoteActionResultChunkMinChars] at *
      omega
    exact Nat.min_eq_right (Nat.le_of_lt long)
  · by_cases short : serialized.toList.length ≤ targetChars
    · have room : serialized.toList.length ≤ max (max (min serialized.toList.length targetChars) 1) 1 := by omega
      have also : serialized.toList.length ≤ max (leastChunkChars targetChars) 1 := by
        simp only [leastChunkChars]
        omega
      rw [splitOnCharBoundaries_whole room, splitOnCharBoundaries_whole also]
    · have same : max (min serialized.toList.length targetChars) 1 = leastChunkChars targetChars := by
        simp only [leastChunkChars]
        omega
      rw [same]

/-- A frame's size grows no smaller where its index has more digits. -/
def Widens (frameBytes : String → Nat → Nat → Nat) : Prop :=
  ∀ piece index other chunkCount, (toString index).length ≤ (toString other).length →
    frameBytes piece index chunkCount ≤ frameBytes piece other chunkCount

theorem length_toString_mono {index other : Nat} (le : index ≤ other) :
    (toString index).length ≤ (toString other).length := by
  have positive : 0 < other.repr.length := Nat.length_repr_pos
  have below := (Nat.length_repr_le_iff positive).mp (Nat.le_refl other.repr.length)
  exact (Nat.length_repr_le_iff positive).mpr (Nat.lt_of_le_of_lt le below)

/-- The frame of a piece at its own place is no larger than the one that was measured. -/
theorem Widens.own_place (widens : Widens frameBytes) {pieces : List String}
    (measured : ∀ piece ∈ pieces, frameBytes piece (pieces.length - 1) pieces.length ≤ maxBrokerTextFrameBytes)
    (place : Fin pieces.length) : frameBytes pieces[place] place pieces.length ≤ maxBrokerTextFrameBytes := by
  have le : place.val ≤ pieces.length - 1 := by omega
  exact Nat.le_trans (widens _ _ _ _ (length_toString_mono le)) (measured _ (List.getElem_mem place.isLt))

end Fit

section Built

variable {Result Envelope : Type} {wire : Wire Result Envelope} {header : ReplyHeader}

theorem chunkPayloads_made {chunkCount first : Nat} {pieces : List String} {payloads : List (ChunkPayload Envelope)}
    (built : chunkPayloads wire header chunkCount first pieces = .ok payloads) :
    ∀ payload ∈ payloads, ∃ k piece, pieces[k]? = some piece ∧
      chunkPayload wire header (first + k) chunkCount piece = .ok payload := by
  induction pieces generalizing first payloads with
  | nil =>
    cases built
    simp
  | cons piece pieces ih =>
    cases made : chunkPayload wire header first chunkCount piece with
    | error error => simp [chunkPayloads, made, bind, Except.bind] at built
    | ok head =>
      cases rest : chunkPayloads wire header chunkCount (first + 1) pieces with
      | error error => simp [chunkPayloads, made, rest, bind, Except.bind] at built
      | ok others =>
        have split : payloads = head :: others := by
          simp only [chunkPayloads, made, rest, bind, Except.bind, pure, Except.pure, Except.ok.injEq] at built
          exact built.symm
        subst split
        intro payload member
        rcases List.mem_cons.mp member with rfl | there
        · exact ⟨0, piece, rfl, made⟩
        · obtain ⟨k, own, at_k, is⟩ := ih rest payload there
          have place : first + 1 + k = first + (k + 1) := by omega
          exact ⟨k + 1, own, by simpa using at_k, place ▸ is⟩

/-- What the relay sends of an answer fits the broker's frames. -/
theorem built_fits {frameBytes : String → Nat → Nat → Nat} {plaintext : Result} {payloads : List (ChunkPayload Envelope)}
    (sizes : ∀ piece index chunkCount,
      (chunkPayload wire header index chunkCount piece).map wire.frameBytes = .ok (frameBytes piece index chunkCount))
    (widens : Widens frameBytes) (built : buildEncryptedRemoteActionResultChunkPayloads wire header plaintext = .ok payloads) :
    ∀ payload ∈ payloads, wire.frameBytes payload ≤ maxBrokerTextFrameBytes := by
  have same : (fun piece index chunkCount => (chunkPayload wire header index chunkCount piece).map wire.frameBytes) =
      fun piece index chunkCount => .ok (frameBytes piece index chunkCount) := by
    funext piece index chunkCount
    exact sizes piece index chunkCount
  unfold buildEncryptedRemoteActionResultChunkPayloads at built
  cases serialized : wire.serialized plaintext with
  | error error => simp [serialized, bind, Except.bind] at built
  | ok text =>
    simp only [serialized, bind, Except.bind, same] at built
    generalize fits : fitChunks text _ _ = fitted at built
    rcases fitted with ⟨_ | pieces, _ | error⟩
    · cases built
    · cases built
    · intro payload member
      obtain ⟨k, piece, at_k, made⟩ := chunkPayloads_made built payload member
      have k_lt : k < pieces.length := (List.getElem?_eq_some_iff.mp at_k).1
      have is : pieces[k] = piece := (List.getElem?_eq_some_iff.mp at_k).2
      have measured := ((fitChunks_cases text remoteActionResultChunkTargetChars).1 pieces (congrArg Prod.fst fits)).2
      have small := widens.own_place measured ⟨k, k_lt⟩
      have bytes := sizes piece k pieces.length
      rw [Nat.zero_add] at made
      rw [made] at bytes
      have own : wire.frameBytes payload = frameBytes piece k pieces.length := Except.ok.inj bytes
      rw [own, ← is]
      exact small
    · cases built

end Built

namespace Replies

variable {Result Envelope : Type} (wire : Wire Result Envelope) (header : ReplyHeader)

/-- The phone opens the piece at this place. -/
def deliver (pieces : List String) (w : Replies Result Envelope) (place : Fin pieces.length) : Replies Result Envelope :=
  w.handleRemoteActionResultChunk wire header.actionId (header.plaintext place pieces.length pieces[place])

/-- How an action whose answer is this text is settled. -/
def outcome (serialized : String) : Settlement Result :=
  match wire.parse serialized with
  | .ok result => .chunks result
  | .error error => .rejected error

/-- The action waits, with the pieces that were delivered. -/
structure Waiting (pieces : List String) (w after : Replies Result Envelope) (seen : List (Fin pieces.length)) : Prop where
  pending : header.actionId ∈ after.pendingActions
  settled : after.settled = w.settled
  held : ∃ pending, (after.pendingActionChunks.get header.actionId).getD (.new header.action pieces.length) = pending ∧
    pending.Open ∧ pending.chunkCount = pieces.length ∧
    ∀ place : Fin pieces.length, pending.chunks[place.val]? = some (if place ∈ seen then some pieces[place] else none)

/-- The action was settled once, with the text. -/
structure Answered (serialized : String) (w after : Replies Result Envelope) : Prop where
  pending : header.actionId ∉ after.pendingActions
  settled : after.settled = (header.actionId, outcome wire serialized) :: w.settled

variable {wire header}

theorem Waiting.missing {pieces : List String} {w after : Replies Result Envelope} {seen : List (Fin pieces.length)}
    (waiting : Waiting header pieces w after seen) : ∃ place, place ∉ seen := by
  obtain ⟨pending, _, open_, count, at_⟩ := waiting.held
  obtain ⟨k, k_lt, bare⟩ := open_.not_full
  refine ⟨⟨k, count ▸ k_lt⟩, fun there => bare ⟨pieces.get ⟨k, count ▸ k_lt⟩, ?_⟩⟩
  have here := at_ ⟨k, count ▸ k_lt⟩
  rwa [if_pos there] at here

/-- The places of the pieces after one more was received. -/
theorem received_at {pieces : List String} {pending : PendingChunks} {seen : List (Fin pieces.length)}
    (at_ : ∀ place : Fin pieces.length,
      pending.chunks[place.val]? = some (if place ∈ seen then some pieces[place] else none))
    (place other : Fin pieces.length) :
    (pending.receive place pieces[place]).chunks[other.val]? =
      some (if other ∈ place :: seen then some pieces[other] else none) := by
  have inside : place.val < pending.chunks.length := (List.getElem?_eq_some_iff.mp (at_ place)).1
  by_cases same : other = place
  · subst same
    simp [PendingChunks.receive, inside]
  · have apart : place.val ≠ other.val := fun is => same (Fin.ext is.symm)
    have here := at_ other
    simp only [PendingChunks.receive, List.getElem?_set_ne apart, here, List.mem_cons, same, false_or]

theorem open_full {pending : PendingChunks} {place : Nat} {data : String} (open_ : pending.Open)
    (inside : place < pending.chunkCount) (full : (pending.receive place data).receivedCount = pending.chunkCount) (k : Nat)
    (k_lt : k < pending.chunkCount) : ∃ piece, (pending.receive place data).chunks[k]? = some (some piece) := by
  have length : (pending.receive place data).chunks.length = pending.chunkCount := by
    simpa [PendingChunks.receive] using open_.places
  have counted := @PendingChunks.Open.receive_counted pending place data open_ inside
  have all : (pending.receive place data).chunks.countP Option.isSome = (pending.receive place data).chunks.length := by
    omega
  have k_in : k < (pending.receive place data).chunks.length := by omega
  have some_ := List.countP_eq_length.mp all _ (List.getElem_mem k_in)
  obtain ⟨piece, is⟩ := Option.isSome_iff_exists.mp some_
  exact ⟨piece, by rw [List.getElem?_eq_getElem k_in, is]⟩

/-- All pieces in their places. -/
theorem chunks_eq {pieces : List String} {chunks : List (Option String)} {seen : List (Fin pieces.length)}
    (length : chunks.length = pieces.length)
    (at_ : ∀ place : Fin pieces.length, chunks[place.val]? = some (if place ∈ seen then some pieces[place] else none))
    (all : ∀ place, place ∈ seen) : chunks = pieces.map some := by
  apply List.ext_getElem?
  intro k
  by_cases k_lt : k < pieces.length
  · have here := at_ ⟨k, k_lt⟩
    rw [if_pos (all _)] at here
    simp only [here, List.getElem?_map, List.getElem?_eq_getElem k_lt, Option.map_some]
    rfl
  · have outside : pieces.length ≤ k := by omega
    have also : chunks.length ≤ k := by omega
    rw [List.getElem?_eq_none also, List.getElem?_map, List.getElem?_eq_none outside]
    rfl

theorem handle_broken {chunk : RemoteActionResultChunkPlaintext} {actionId : String} {w : Replies Result Envelope}
    {pending : PendingChunks} {error : String} (is_named : actionId ≠ "") (held : actionId ∈ w.pendingActions)
    (inside : chunk.chunkIndex < chunk.chunkCount)
    (taken : (w.pendingActionChunks.get actionId).getD (.new chunk.action chunk.chunkCount) = pending)
    (count : pending.chunkCount = chunk.chunkCount)
    (full : (pending.receive chunk.chunkIndex chunk.data).receivedCount = chunk.chunkCount)
    (made : reassembleRemoteActionResultChunks wire (pending.receive chunk.chunkIndex chunk.data).chunks = .error error) :
    w.handleRemoteActionResultChunk wire actionId chunk =
      (w.clearPendingActionChunks actionId).settle actionId (.rejected error) := by
  have well_formed : ¬(chunk.chunkCount = 0 ∨ chunk.chunkIndex ≥ chunk.chunkCount) := by omega
  unfold handleRemoteActionResultChunk
  rw [if_neg (not_or.mpr ⟨is_named, not_not.mpr held⟩), if_neg well_formed]
  simp only [taken]
  rw [if_neg (not_not.mpr count), if_neg (not_not.mpr full)]
  simp only [made, rejectPendingAction, is_named, if_false, clear_pendingActions, held, if_true, clear_clear]

theorem Waiting.deliver {pieces : List String} {serialized : String} {w after : Replies Result Envelope}
    {seen : List (Fin pieces.length)} (waiting : Waiting header pieces w after seen) (is_named : header.actionId ≠ "")
    (joins : String.join pieces = serialized) (place : Fin pieces.length) :
    Waiting header pieces w (deliver wire header pieces after place) (place :: seen) ∨
      (∀ other, other ∈ place :: seen) ∧ Answered wire header serialized w (deliver wire header pieces after place) := by
  obtain ⟨pending, taken, open_, count, at_⟩ := waiting.held
  have inside : place.val < pending.chunkCount := by omega
  have places := received_at at_ place
  have length : (pending.receive place pieces[place]).chunks.length = pieces.length := by
    simpa [PendingChunks.receive, count] using open_.places
  by_cases full : (pending.receive place pieces[place]).receivedCount = pending.chunkCount
  · have all : ∀ other, other ∈ place :: seen := by
      intro other
      obtain ⟨piece, is⟩ := open_full open_ inside full other (by omega)
      by_contra absent
      have here := places other
      rw [if_neg absent, is] at here
      cases here
    have made : reassembleRemoteActionResultChunks wire (pending.receive place pieces[place]).chunks =
        wire.parse serialized := by
      rw [reassembleRemoteActionResultChunks, chunks_eq length places all, reassembleFrom_some, String.empty_append, joins]
      rfl
    refine .inr ⟨all, ?_⟩
    cases parsed : wire.parse serialized with
    | ok result =>
      have handled : Replies.deliver wire header pieces after place =
          (after.clearPendingActionChunks header.actionId).settle header.actionId (.chunks result) :=
        handle_complete is_named waiting.pending place.isLt taken count (full.trans count) (made.trans parsed)
      rw [handled]
      exact ⟨by simp [settle], by simp [settle, waiting.settled, outcome, parsed]⟩
    | error error =>
      have handled : Replies.deliver wire header pieces after place =
          (after.clearPendingActionChunks header.actionId).settle header.actionId (.rejected error) :=
        handle_broken is_named waiting.pending place.isLt taken count (full.trans count) (made.trans parsed)
      rw [handled]
      exact ⟨by simp [settle], by simp [settle, waiting.settled, outcome, parsed]⟩
  · have handled : Replies.deliver wire header pieces after place = { after with
        pendingActionChunks := after.pendingActionChunks.put header.actionId (pending.receive place pieces[place]) } :=
      handle_kept is_named waiting.pending place.isLt taken count fun same => full (same.trans count.symm)
    rw [handled]
    refine .inl ⟨waiting.pending, waiting.settled, _, ?_, open_.receive_open inside full, count, places⟩
    rw [Table.get_put_self, Option.getD_some]

/-- What is left of a settled action's pieces is ignored. -/
theorem Answered.deliver {pieces : List String} {serialized : String} {w after : Replies Result Envelope}
    (answered : Answered wire header serialized w after) (place : Fin pieces.length) :
    Answered wire header serialized w (deliver wire header pieces after place) := by
  have ignored : Replies.deliver wire header pieces after place = after.clearPendingActionChunks header.actionId := by
    unfold Replies.deliver handleRemoteActionResultChunk
    rw [if_pos (.inr answered.pending)]
  rw [ignored]
  exact ⟨by simpa using answered.pending, by simpa using answered.settled⟩

/-- Along any deliveries the action waits until every piece was there, and was settled then. -/
theorem delivered {pieces : List String} {serialized : String} {w : Replies Result Envelope} (is_named : header.actionId ≠ "")
    (joins : String.join pieces = serialized) (order seen : List (Fin pieces.length)) (after : Replies Result Envelope)
    (so_far : Waiting header pieces w after seen ∨
      (∀ place, place ∈ seen) ∧ Answered wire header serialized w after) :
    Waiting header pieces w (order.foldl (deliver wire header pieces) after) (order.reverse ++ seen) ∨
      (∀ place, place ∈ order.reverse ++ seen) ∧
        Answered wire header serialized w (order.foldl (deliver wire header pieces) after) := by
  induction order generalizing seen after with
  | nil => exact so_far
  | cons place order ih =>
    have next : Waiting header pieces w (Replies.deliver wire header pieces after place) (place :: seen) ∨
        (∀ other, other ∈ place :: seen) ∧
          Answered wire header serialized w (Replies.deliver wire header pieces after place) := by
      rcases so_far with waiting | ⟨all, answered⟩
      · exact waiting.deliver is_named joins place
      · exact .inr ⟨fun other => List.mem_cons_of_mem _ (all other), answered.deliver place⟩
    simpa using ih (place :: seen) _ next

end Replies

open Replies in
/-- A reply that fits is split into frames within the broker's limit, and the phone has its text again from these pieces
in any order and with any repetition, once all are there. -/
theorem fitChunks_reassembles {Result Envelope : Type} (wire : Wire Result Envelope) (header : ReplyHeader)
    (serialized : String) (targetChars : Nat) (frameBytes : String → Nat → Nat → Nat) (widens : Widens frameBytes) :
    (∀ pieces, (fitChunks serialized targetChars fun piece index count => .ok (frameBytes piece index count)).1 =
        some pieces →
      (∀ place : Fin pieces.length, frameBytes pieces[place] place pieces.length ≤ maxBrokerTextFrameBytes) ∧
      String.join pieces = serialized ∧
      ∀ w : Replies Result Envelope, header.actionId ≠ "" → header.actionId ∈ w.pendingActions →
        w.pendingActionChunks.get header.actionId = none → ∀ order : List (Fin pieces.length),
          if ∀ place, place ∈ order then
            Answered wire header serialized w (order.foldl (deliver wire header pieces) w)
          else
            header.actionId ∈ (order.foldl (deliver wire header pieces) w).pendingActions ∧
              (order.foldl (deliver wire header pieces) w).settled = w.settled) ∧
    ((fitChunks serialized targetChars fun piece index count => .ok (frameBytes piece index count)).1 = none →
      ∃ piece ∈ splitOnCharBoundaries serialized (leastChunkChars targetChars), maxBrokerTextFrameBytes <
        frameBytes piece ((splitOnCharBoundaries serialized (leastChunkChars targetChars)).length - 1)
          (splitOnCharBoundaries serialized (leastChunkChars targetChars)).length) := by
  obtain ⟨found, refused⟩ := @fitChunks_cases frameBytes serialized targetChars
  refine ⟨fun pieces fits => ?_, refused⟩
  obtain ⟨⟨maxChars, split⟩, measured⟩ := found pieces fits
  have joins : String.join pieces = serialized := by rw [split, splitOnCharBoundaries_join]
  have nonempty : pieces ≠ [] := split ▸ splitOnCharBoundaries_ne_nil serialized maxChars
  refine ⟨fun place => widens.own_place measured place, joins, ?_⟩
  intro w is_named held fresh order
  have start : Waiting header pieces w w [] := by
    have positive : 0 < pieces.length := List.length_pos_iff.mpr nonempty
    refine ⟨held, rfl, _, rfl, ?_⟩
    rw [fresh, Option.getD_none]
    refine ⟨PendingChunks.open_new header.action positive, rfl, fun place => ?_⟩
    simp [PendingChunks.new]
  have along := @delivered _ _ wire header pieces serialized w is_named joins order [] w (.inl start)
  rw [List.append_nil] at along
  split
  · rename_i all
    rcases along with waiting | ⟨_, answered⟩
    · obtain ⟨place, absent⟩ := waiting.missing
      exact absurd (List.mem_reverse.mpr (all place)) absent
    · exact answered
  · rename_i some_missing
    rcases along with waiting | ⟨all, _⟩
    · exact ⟨waiting.pending, waiting.settled⟩
    · exact absurd (fun place => List.mem_reverse.mp (all place)) some_missing

/-- The size of a sealed piece in a frame of 300 bytes. -/
def sealedBytes (piece : String) (index chunkCount : Nat) : Nat :=
  piece.utf8ByteSize * 4 / 3 + (toString index).length + (toString chunkCount).length + 300

/-- `phone-1` waits for its first action. -/
def awaitsFirst : Replies String RemoteActionResultChunkPlaintext :=
  { Replies.new with pendingActions := ["a-1"] }

def firstHeader : ReplyHeader where
  actionId := "a-1"
  targetPeerId := "surface-1"
  deviceId := "phone-1"
  action := "list_threads"

theorem fitChunks_reassembles_three : ∃ pieces, ∃ order : List (Fin pieces.length),
    (fitChunks "\"é\"" 2 fun piece index count => .ok (sealedBytes piece index count)).1 = some pieces ∧
      pieces = ["\"é", "\""] ∧ Replies.Answered clearWire firstHeader "\"é\"" awaitsFirst
        (order.foldl (Replies.deliver clearWire firstHeader pieces) awaitsFirst) := by
  have widens : Widens sealedBytes := by
    intro piece index other chunkCount le
    unfold sealedBytes
    omega
  have fits : (fitChunks "\"é\"" 2 fun piece index count => .ok (sealedBytes piece index count)).1 =
      some ["\"é", "\""] := by
    rw [fitChunks, fitChunksFrom]
    decide +kernel
  obtain ⟨_, _, answers⟩ := (fitChunks_reassembles clearWire firstHeader "\"é\"" 2 sealedBytes widens).1 _ fits
  have answered := answers awaitsFirst (by decide) (by decide) rfl [1, 0, 1]
  rw [if_pos (by decide)] at answered
  exact ⟨_, _, fits, rfl, answered⟩

end Sealwire.Remote

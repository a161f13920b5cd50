import Sealwire.Hydration.Deliveries
import Sealwire.Hydration.Wire
import Sealwire.Transcript.RowText

namespace Sealwire.Hydration

open Snapshot (InjectionView)
open Transcript (IdSpace ThreadRuntime)

/-- A thread's runtime and a client's window of the thread, with the texts one row has had and the deltas published for
it. -/
structure Stream where
  runtime : ThreadRuntime
  texts : List String
  published : List TranscriptDelta
  window : HydrationState InjectionView

/-- An agent delta for the row, any other change of the runtime, or a delivery to the window. -/
inductive StreamMove
  | append (space : IdSpace) (itemId delta turnId : String) (revision : UInt64)
  | relay (runtime : ThreadRuntime)
  | deliver (delivery : Delivery InjectionView)

/-- What may come to a window loaded for its thread: copies of the row the relay sent, and its published deltas; of other
rows, anything. -/
structure Delivery.Sent (rowId : String) (copies : Entry InjectionView → Prop) (published : List TranscriptDelta)
    (window : HydrationState InjectionView) (delivery : Delivery InjectionView) : Prop where
  finds : delivery.findsWindow window
  distinct : (delivery.entries.filterMap transcriptRowKey).Nodup
  copies : ∀ entry ∈ delivery.entries, transcriptRowKey entry = some rowId → copies entry
  published : ∀ event, delivery = .delta event → event.rowKey = some rowId → event ∈ published

theorem Continues.at_end (text delta : Text) : Continues (text ++ delta) delta text.length := by
  refine ⟨by rw [List.length_append]; omega, ?_⟩
  rw [List.take_left]

theorem Continues.grown {text grown delta : Text} {start : Nat} (continues : Continues text delta start)
    (grows : text <+: grown) : Continues grown delta start := by
  obtain ⟨inside, goes_on⟩ := continues
  obtain ⟨more, rfl⟩ := grows
  refine ⟨by rw [List.length_append]; omega, ?_⟩
  rw [List.take_append_of_le_length inside]
  exact goes_on.trans (List.prefix_append _ _)

namespace Stream

variable (c : CardBodies InjectionView) (threadId generation rowId : String)

def step (s : Stream) : StreamMove → Stream
  | .append space itemId delta turnId revision =>
    match s.runtime.appendAgentDelta space itemId delta turnId revision with
    | none => s
    | some (runtime, mutation) =>
      { s with
        runtime := runtime
        texts := runtime.textOf rowId :: s.texts
        published :=
          localTranscriptDelta threadId generation mutation "agent_text" (some turnId) delta :: s.published }
  | .relay runtime => { s with runtime := runtime }
  | .deliver delivery => { s with window := delivery.apply c s.window }

/-- The text of the row at the relay. -/
def text (s : Stream) : Text := utf16 (s.runtime.textOf rowId)

/-- Only agent deltas change the row's text, which fits in memory. -/
def may (s : Stream) : StreamMove → Prop
  | .append space itemId delta turnId revision =>
    (∃ runtime mutation, s.runtime.appendAgentDelta space itemId delta turnId revision = some (runtime, mutation) ∧
      mutation.rowId = rowId) ∧ (s.text rowId).length < 2 ^ 64
  | .relay runtime => runtime.transcript.Consistent ∧ runtime.textOf rowId = s.runtime.textOf rowId
  | .deliver delivery => delivery.Sent rowId (RelayCopy .agentText s.texts) s.published s.window

/-- The delivery marks a cut text full. -/
def marksCut (s : Stream) : StreamMove → Prop
  | .deliver delivery => ∃ move ∈ delivery.moveAt s.window rowId, move.promotesCut (s.text rowId) (bodyAt s.window rowId)
  | _ => False

/-- A row held full has the beginning of the relay's text. -/
def Faithful (s : Stream) : Prop := ∀ body ∈ bodyAt s.window rowId, body.Faithful (s.text rowId)

/-- A window loaded for the thread, before anything of the row is published. -/
structure Begun (s : Stream) : Prop where
  consistent : s.runtime.transcript.Consistent
  texts : s.texts = [s.runtime.textOf rowId]
  published : s.published = []
  window : s.window.WindowOk
  loaded : s.window.threadId = some threadId ∧ threadId ≠ ""
  faithful : s.Faithful rowId

/-- What holds along a run. -/
structure Sound (s : Stream) : Prop where
  consistent : s.runtime.transcript.Consistent
  texts : ∀ text ∈ s.texts, utf16 text <+: s.text rowId
  published : ∀ delta ∈ s.published,
    delta.threadId = some threadId ∧ delta.rowId = some rowId ∧
      ∀ start ∈ delta.textOffset, Continues (s.text rowId) delta.delta start
  window : s.window.WindowOk
  loaded : s.window.threadId = some threadId ∧ threadId ≠ ""

variable {c threadId generation rowId}

theorem Begun.sound {s : Stream} (begun : s.Begun threadId rowId) : s.Sound threadId rowId where
  consistent := begun.consistent
  texts text member := by
    rw [begun.texts, List.mem_singleton] at member
    rw [member]
    exact List.prefix_rfl
  published delta member := by
    rw [begun.published] at member
    cases member
  window := begun.window
  loaded := begun.loaded

theorem append_window (s : Stream) (space : IdSpace) (itemId delta turnId : String) (revision : UInt64) :
    (s.step c threadId generation rowId (.append space itemId delta turnId revision)).window = s.window := by
  simp only [Stream.step]
  split
  · rfl
  · rfl

variable (c threadId generation) in
theorem append_texts {s : Stream} (consistent : s.runtime.transcript.Consistent) {space : IdSpace}
    {itemId delta turnId : String} {revision : UInt64} (may : s.may rowId (.append space itemId delta turnId revision)) :
    let next := s.step c threadId generation rowId (.append space itemId delta turnId revision)
    next.runtime.transcript.Consistent ∧ next.runtime.textOf rowId = s.runtime.textOf rowId ++ delta ∧
      next.texts = (s.runtime.textOf rowId ++ delta) :: s.texts := by
  obtain ⟨⟨runtime, mutation, wrote, rfl⟩, -⟩ := may
  obtain ⟨now_consistent, grown, -⟩ := Transcript.appendAgentDelta_text consistent wrote
  simp only [Stream.step, wrote]
  exact ⟨now_consistent, grown, by rw [grown]⟩

theorem Sound.append {s : Stream} (sound : s.Sound threadId rowId) {space : IdSpace} {itemId delta turnId : String}
    {revision : UInt64} (may : s.may rowId (.append space itemId delta turnId revision)) :
    (s.step c threadId generation rowId (.append space itemId delta turnId revision)).Sound threadId rowId ∧
      s.text rowId <+: (s.step c threadId generation rowId (.append space itemId delta turnId revision)).text
        rowId := by
  obtain ⟨⟨runtime, mutation, wrote, rfl⟩, fits⟩ := may
  obtain ⟨consistent, grown, offset⟩ := Transcript.appendAgentDelta_text sound.consistent wrote
  have text : utf16 (runtime.textOf mutation.rowId) = s.text mutation.rowId ++ utf16 delta := by
    rw [grown, utf16_append]
    rfl
  have grows : s.text mutation.rowId <+: utf16 (runtime.textOf mutation.rowId) := by
    rw [text]
    exact List.prefix_append _ _
  simp only [Stream.step, wrote]
  refine ⟨⟨consistent, ?_, ?_, sound.window, sound.loaded⟩, grows⟩
  · intro old member
    rcases List.mem_cons.mp member with rfl | member
    · exact List.prefix_rfl
    · exact (sound.texts old member).trans grows
  · intro event member
    rcases List.mem_cons.mp member with rfl | member
    · refine ⟨rfl, rfl, fun start at_start => ?_⟩
      have is_length : start = (s.text mutation.rowId).length := by
        have number : start = (utf16Count (s.runtime.textOf mutation.rowId)).toNat := by
          unfold localTranscriptDelta safeInteger at at_start
          rw [offset] at at_start
          dsimp only [Option.bind_some] at at_start
          split at at_start
          · exact (Option.some.inj at_start).symm
          · cases at_start
        rw [number, toNat_utf16Count]
        exact Nat.mod_eq_of_lt fits
      subst is_length
      unfold Stream.text
      dsimp only
      rw [text]
      exact Continues.at_end _ _
    · obtain ⟨thread, row, places⟩ := sound.published event member
      exact ⟨thread, row, fun start at_start => (places start at_start).grown grows⟩

theorem Sound.deliver {s : Stream} (sound : s.Sound threadId rowId) {delivery : Delivery InjectionView}
    (may : s.may rowId (.deliver delivery)) :
    (s.step c threadId generation rowId (.deliver delivery)).Sound threadId rowId := by
  have ok := delivery.apply_ok (c := c) sound.window may.distinct
  have thread := delivery.apply_threadId (c := c) sound.window may.finds may.distinct
  exact ⟨sound.consistent, sound.texts, sound.published, ok, thread.trans sound.loaded.1, sound.loaded.2⟩

theorem Sound.step {s : Stream} (sound : s.Sound threadId rowId) {move : StreamMove} (may : s.may rowId move) :
    (s.step c threadId generation rowId move).Sound threadId rowId := by
  cases move with
  | append space itemId delta turnId revision => exact (sound.append may).1
  | relay runtime =>
    obtain ⟨consistent, same⟩ := may
    have text : utf16 (runtime.textOf rowId) = s.text rowId := congrArg utf16 same
    refine ⟨consistent, fun old member => ?_, fun event member => ?_, sound.window, sound.loaded⟩
    · show utf16 old <+: utf16 (runtime.textOf rowId)
      rw [text]
      exact sound.texts old member
    · show _ ∧ _ ∧ ∀ start ∈ event.textOffset, Continues (utf16 (runtime.textOf rowId)) event.delta start
      rw [text]
      exact sound.published event member
  | deliver delivery => exact sound.deliver may

/-- A copy the relay sent as full is not cut, unless its card says so. -/
theorem Sound.full_copy {s : Stream} (sound : s.Sound threadId rowId) {entry : Entry InjectionView}
    (copy : RelayCopy .agentText s.texts entry) (full : entry.contentState = .full) :
    ¬Cut (s.text rowId) entry.text ∨ ∃ mark, entry.injection = some mark ∧ mark.textClipped = true := by
  rcases copy.whole_or_clipped (by decide) drawsRow_agentText full with whole | ⟨mark, marked, -, clipped⟩
  · refine .inl ?_
    rintro ⟨t, at_text, cut⟩
    obtain ⟨text, was, rfl⟩ := whole t at_text
    exact cut (sound.texts text was)
  · exact .inr ⟨mark, marked, clipped⟩

/-- What a sent delivery does to the row is genuine. -/
theorem Sound.genuine {s : Stream} (sound : s.Sound threadId rowId) {delivery : Delivery InjectionView}
    (may : s.may rowId (.deliver delivery)) {move : BodyMove} (moves : delivery.moveAt s.window rowId = some move) :
    move.Genuine (s.text rowId) := by
  cases move with
  | copy incoming => trivial
  | append delta offset =>
    obtain ⟨event, rfl, named, rfl, rfl⟩ := delivery.append_of_moveAt moves
    have there := may.published event rfl named
    cases at_start : event.textOffset with
    | none => trivial
    | some start => exact (sound.published event there).2.2 start at_start

/-- A delivery leaves the row faithful exactly when it marks no cut text full. -/
theorem Sound.faithful_iff {s : Stream} (sound : s.Sound threadId rowId) (faithful : s.Faithful rowId)
    {delivery : Delivery InjectionView} (may : s.may rowId (.deliver delivery)) :
    (s.step c threadId generation rowId (.deliver delivery)).Faithful rowId ↔
      ¬s.marksCut rowId (.deliver delivery) := by
  have after := delivery.bodyAt_apply (c := c) sound.window may.finds rowId may.distinct
  unfold Stream.Faithful marksCut
  simp only [Stream.step]
  rw [after]
  cases moves : delivery.moveAt s.window rowId with
  | none => exact ⟨fun _ marked => (by obtain ⟨move, member, -⟩ := marked; cases member), fun _ => faithful⟩
  | some move =>
    have step := BodyMove.faithful_iff faithful (sound.genuine may moves)
    constructor
    · rintro kept ⟨other, member, cut⟩
      cases member
      exact step.mp (kept _ rfl) cut
    · intro kept body member
      cases member
      exact step.mpr fun cut => kept ⟨move, rfl, cut⟩

theorem Sound.keeps_faithful {s : Stream} (sound : s.Sound threadId rowId) (faithful : s.Faithful rowId)
    {move : StreamMove} (may : s.may rowId move) (kept : ¬s.marksCut rowId move) :
    (s.step c threadId generation rowId move).Faithful rowId := by
  cases move with
  | append space itemId delta turnId revision =>
    have grows : s.text rowId <+: (s.step c threadId generation rowId
        (.append space itemId delta turnId revision)).text rowId := (sound.append may).2
    intro body member
    rw [append_window] at member
    exact (faithful body member).grown grows
  | relay runtime =>
    intro body member
    have text : utf16 (runtime.textOf rowId) = s.text rowId := congrArg utf16 may.2
    show body.Faithful (utf16 (runtime.textOf rowId))
    rw [text]
    exact faithful body member
  | deliver delivery => exact (sound.faithful_iff faithful may).mpr kept

/-- A published delta that cannot be placed leaves the text of the row, and takes away its mark. -/
theorem Sound.unplaced {s : Stream} (sound : s.Sound threadId rowId) {delta : TranscriptDelta}
    (published : delta ∈ s.published) {body : Body} (held : bodyAt s.window rowId = some body)
    (unplaced : resolveDeltaAppend (body.text.getD []) delta.delta delta.textOffset = none) :
    bodyAt (s.step c threadId generation rowId (.deliver (.delta delta))).window rowId =
      some { body with contentState := .preview } := by
  obtain ⟨thread, row, -⟩ := sound.published delta published
  have named : rowId ≠ "" := by
    obtain ⟨entry, at_row, -⟩ := Option.map_eq_some_iff.mp held
    exact sound.window.lists.named rowId ((InsertionMap.has_iff_get _ _).mpr ⟨entry, at_row⟩)
  have key : delta.rowKey = some rowId := by simp [TranscriptDelta.rowKey, row, named, Option.filter]
  have moves : Delivery.moveAt s.window rowId (.delta delta) = some (.append delta.delta delta.textOffset) := by
    simp only [Delivery.moveAt]
    simp [key, sound.loaded, thread, truthy, Option.filter]
  have after := applyTranscriptDeltaToWindow_bodyAt s.window delta rowId
  rw [moves, held] at after
  have gap : appendBody (some body) delta.delta delta.textOffset = { body with contentState := .preview } := by
    unfold appendBody
    dsimp only
    rw [unplaced]
  show bodyAt (applyTranscriptDeltaToWindow s.window delta).1 rowId = _
  rw [after, ← gap]
  rfl

theorem Begun.reached {start s : Stream} (begun : start.Begun threadId rowId)
    (reached : Reaches (Stream.step c threadId generation rowId) (fun s move => s.may rowId move) start s) :
    s.Sound threadId rowId :=
  reached.invariant begun.sound fun _ _ sound may => sound.step may

/-- In a run where no delivery marks a cut text full, a row held full has the beginning of the relay's text. A delivery
keeps that exactly when it marks no cut text full, and a delta that cannot be placed leaves the text and takes the mark
away. -/
theorem full_text_begins_the_relays {start s : Stream} (begun : start.Begun threadId rowId)
    (reached : Reaches (Stream.step c threadId generation rowId) (fun s move => s.may rowId move) start s) :
    (Reaches (Stream.step c threadId generation rowId) (fun s move => s.may rowId move ∧ ¬s.marksCut rowId move) start
        s → s.Faithful rowId) ∧
      (s.Faithful rowId → ∀ delivery, s.may rowId (.deliver delivery) →
        ((s.step c threadId generation rowId (.deliver delivery)).Faithful rowId ↔
          ¬s.marksCut rowId (.deliver delivery))) ∧
      ∀ delta ∈ s.published, ∀ body ∈ bodyAt s.window rowId,
        resolveDeltaAppend (body.text.getD []) delta.delta delta.textOffset = none →
          bodyAt (s.step c threadId generation rowId (.deliver (.delta delta))).window rowId =
            some { body with contentState := .preview } := by
  have sound := begun.reached reached
  refine ⟨fun careful => ?_, fun faithful delivery may => sound.faithful_iff faithful may,
    fun delta published body held unplaced => sound.unplaced published held unplaced⟩
  have both := careful.invariant (P := fun s => s.Sound threadId rowId ∧ s.Faithful rowId)
    ⟨begun.sound, begun.faithful⟩ fun s move holds may =>
      ⟨holds.1.step may.1, holds.1.keeps_faithful holds.2 may.1 may.2⟩
  exact both.2

def repeated (count : Nat) : String := String.ofList (List.replicate count 'a')


theorem utf16_repeated (count : Nat) : utf16 (repeated count) = List.replicate count 97 := by
  unfold utf16 repeated
  rw [String.toList_ofList, List.flatMap_replicate]
  exact List.flatten_replicate_singleton

theorem truncate_repeated (count : Nat) {rest : String} (some_rest : rest ≠ "") (room : 3 < count) :
    Snapshot.truncateWithEllipsis (repeated count ++ rest) count = (repeated (count - 3) ++ "...", true) := by
  have length : (repeated count).length = count := by
    unfold repeated
    rw [String.length_ofList, List.length_replicate]
  have some_length : rest.length ≠ 0 := fun zero => some_rest (String.length_eq_zero_iff.mp zero)
  have long : ¬(repeated count ++ rest).length ≤ count := by
    rw [String.length_append, length]
    omega
  unfold Snapshot.truncateWithEllipsis Snapshot.ellipsisLen
  rw [if_neg long, if_neg (by omega)]
  have kept : (repeated count ++ rest).toList.take (count - 3) = List.replicate (count - 3) 'a' := by
    unfold repeated
    rw [String.toList_append, String.toList_ofList, List.take_append_of_le_length (by rw [List.length_replicate]; omega),
      List.take_replicate, Nat.min_eq_left (by omega)]
  rw [kept]
  rfl

def openStream : Stream where
  runtime := .new 0
  texts := [""]
  published := []
  window := openWindow

theorem openStream_begun : openStream.Begun "thread" "message" where
  consistent := Transcript.ThreadTranscript.new_consistent
  texts := rfl
  published := rfl
  window := openWindow_ok
  loaded := ⟨rfl, by decide⟩
  faithful := by
    intro body member
    have none_held : bodyAt openStream.window "message" = none := by rfl
    rw [none_held] at member
    cases member

theorem clipRow_plainRow {budget : Snapshot.SessionSnapshotCompactBudget} (rowId : String) {text cut : String}
    (is_cut : Snapshot.truncateWithEllipsis text budget.maxTranscriptChars = (cut, true)) :
    (Snapshot.clipRow budget (plainRow .agentText rowId text)).1 =
      { plainRow .agentText rowId cut with contentState := .preview } := by
  simp only [Snapshot.clipRow, plainRow, Snapshot.TranscriptEntryView.withCut, Snapshot.truncateField, is_cut]
  rfl

section Cutting

variable (budget : Snapshot.SessionSnapshotCompactBudget)

/-- A text as long as a snapshot keeps. -/
def keptText : String := repeated budget.maxTranscriptChars

/-- The snapshot cuts the row at the length that its last delta goes on from. -/
def cutSnapshot : SessionSnapshot InjectionView where
  activeThreadId := some "thread"
  activeTurnId := none
  transcriptRevision := some 2
  transcriptGeneration := some "run"
  transcriptTruncated := true
  transcript := [sentEntry (Snapshot.clipRow budget (plainRow .agentText "message" (keptText budget ++ "b"))).1]

def lastDelta : TranscriptDelta :=
  localTranscriptDelta "thread" "run"
    { baseRevision := 1, revision := 2, entrySeq := 1, rowId := "message", orderSeq := 0
      textOffset := some (utf16Count (keptText budget)), separatorInserted := false }
    "agent_text" (some "turn") "b"

def cutMoves : List StreamMove :=
  [.append .provider "message" (keptText budget) "turn" 1, .append .provider "message" "b" "turn" 2,
    .deliver (.overlay 0 (cutSnapshot budget)), .deliver (.delta (lastDelta budget))]

theorem keptText_length : (utf16 (keptText budget)).length = budget.maxTranscriptChars := by
  unfold keptText
  rw [utf16_repeated, List.length_replicate]

/-- The row before the snapshot. -/
def streamedTwice : Stream :=
  (openStream.step plainCards "thread" "run" "message" (.append .provider "message" (keptText budget) "turn" 1)).step
    plainCards "thread" "run" "message" (.append .provider "message" "b" "turn" 2)

theorem first_may (text : String) : openStream.may "message" (.append .provider "message" text "turn" 1) := by
  refine ⟨⟨_, _, rfl, rfl⟩, ?_⟩
  show (utf16 "").length < 2 ^ 64
  decide

theorem second_may (small : budget.maxTranscriptChars < 2 ^ 53) :
    (openStream.step plainCards "thread" "run" "message" (.append .provider "message" (keptText budget) "turn" 1)).may
      "message" (.append .provider "message" "b" "turn" 2) := by
  refine ⟨⟨_, _, rfl, rfl⟩, ?_⟩
  have text := (Stream.append_texts plainCards "thread" "run"
    Transcript.ThreadTranscript.new_consistent (first_may (keptText budget))).2.1
  unfold Stream.text
  rw [text]
  show (utf16 ("" ++ keptText budget)).length < 2 ^ 64
  rw [String.empty_append, keptText_length]
  omega

theorem streamedTwice_window : (streamedTwice budget).window = openWindow := by
  unfold streamedTwice
  rw [Stream.append_window, Stream.append_window]
  rfl

theorem streamedTwice_texts (small : budget.maxTranscriptChars < 2 ^ 53) :
    (streamedTwice budget).runtime.textOf "message" = keptText budget ++ "b" ∧
      keptText budget ++ "b" ∈ (streamedTwice budget).texts := by
  obtain ⟨consistent, first, -⟩ := Stream.append_texts plainCards "thread" "run"
    Transcript.ThreadTranscript.new_consistent (first_may (keptText budget))
  obtain ⟨-, second, texts⟩ := Stream.append_texts plainCards "thread" "run"
    consistent (second_may budget small)
  have whole : openStream.runtime.textOf "message" ++ keptText budget ++ "b" = keptText budget ++ "b" := by
    show "" ++ keptText budget ++ "b" = keptText budget ++ "b"
    rw [String.empty_append]
  rw [first, whole] at second texts
  refine ⟨second, ?_⟩
  unfold streamedTwice
  rw [texts]
  exact List.mem_cons_self

theorem streamedTwice_published : lastDelta budget ∈ (streamedTwice budget).published := List.mem_cons_self ..

def cutEntry : Entry InjectionView :=
  sentEntry { plainRow .agentText "message" (repeated (budget.maxTranscriptChars - 3) ++ "...") with contentState := .preview }

theorem cutSnapshot_transcript (room : 3 < budget.maxTranscriptChars) :
    (cutSnapshot budget).transcript = [cutEntry budget] := by
  have some_rest : "b" ≠ "" := by decide
  have cut := clipRow_plainRow "message" (truncate_repeated budget.maxTranscriptChars some_rest room)
  unfold cutSnapshot keptText
  dsimp only
  rw [cut]
  rfl

theorem snapshot_may (room : 3 < budget.maxTranscriptChars) (small : budget.maxTranscriptChars < 2 ^ 53) :
    (streamedTwice budget).may "message" (.deliver (.overlay 0 (cutSnapshot budget))) where
  finds := by
    rw [streamedTwice_window]
    exact ⟨List.cons_ne_nil _ _, rfl, rfl⟩
  distinct := by
    unfold Delivery.entries
    dsimp only
    rw [cutSnapshot_transcript budget room]
    exact List.nodup_singleton "message"
  copies entry member _ := by
    rw [List.mem_singleton.mp member]
    exact ⟨plainRow .agentText "message" (keptText budget ++ "b"), _, (streamedTwice_texts budget small).2, rfl,
      ((Snapshot.RowHonest.refl _).clip budget).1, rfl⟩
  published event same := by cases same

def previewed : Stream :=
  (streamedTwice budget).step plainCards "thread" "run" "message" (.deliver (.overlay 0 (cutSnapshot budget)))

theorem previewed_body (room : 3 < budget.maxTranscriptChars) (small : budget.maxTranscriptChars < 2 ^ 53) :
    bodyAt (previewed budget).window "message" =
      some { text := some (List.replicate (budget.maxTranscriptChars - 3) 97 ++ [46, 46, 46]), contentState := .preview } := by
  have may := snapshot_may budget room small
  have ok : (streamedTwice budget).window.WindowOk := by
    rw [streamedTwice_window]
    exact openStream_begun.window
  have after := Delivery.bodyAt_apply (c := plainCards) ok may.finds "message" may.distinct
  have moves : Delivery.moveAt openWindow "message" (.overlay 0 (cutSnapshot budget)) =
      some (.copy (cutEntry budget).body) := by
    have newer : holdsNewer openWindow "message" (some 2) = false := rfl
    have here : tailMove openWindow (cutSnapshot budget) "message" = some (.copy (cutEntry budget).body) := by
      unfold tailMove
      rw [cutSnapshot_transcript budget room]
      rfl
    simpa [Delivery.moveAt, cutSnapshot] using here
  have held : bodyAt openWindow "message" = none := rfl
  have units : utf16 (repeated (budget.maxTranscriptChars - 3) ++ "...") =
      List.replicate (budget.maxTranscriptChars - 3) 97 ++ [46, 46, 46] := by
    rw [utf16_append, utf16_repeated]
    rfl
  show bodyAt (Delivery.apply plainCards (streamedTwice budget).window _) "message" = _
  rw [after, streamedTwice_window, moves, held, ← units]
  rfl

theorem lastDelta_offset (small : budget.maxTranscriptChars < 2 ^ 53) :
    (lastDelta budget).textOffset = some budget.maxTranscriptChars := by
  have count : (utf16Count (keptText budget)).toNat = budget.maxTranscriptChars := by
    rw [toNat_utf16Count, keptText_length]
    omega
  unfold lastDelta localTranscriptDelta safeInteger
  dsimp only [Option.bind_some]
  rw [count, if_pos small]

theorem previewed_sound (room : 3 < budget.maxTranscriptChars) (small : budget.maxTranscriptChars < 2 ^ 53) :
    (previewed budget).Sound "thread" "message" :=
  (((openStream_begun.sound.step (first_may (keptText budget))).step (second_may budget small)).step
    (snapshot_may budget room small))

theorem delta_may : (previewed budget).may "message" (.deliver (.delta (lastDelta budget))) where
  finds := trivial
  distinct := List.nodup_nil
  copies entry member := by cases member
  published event same _ := by
    cases same
    exact streamedTwice_published budget

theorem dots_cut {count : Nat} (room : 3 < count) (rest : Text) :
    ¬List.replicate (count - 3) 97 ++ [46, 46, 46] <+: List.replicate count (97 : UInt16) ++ rest := by
  rintro ⟨more, same⟩
  have dot : (List.replicate (count - 3) (97 : UInt16) ++ [46, 46, 46] ++ more)[count - 3]? = some 46 := by
    rw [List.append_assoc, List.getElem?_append_right (by rw [List.length_replicate]), List.length_replicate,
      Nat.sub_self]
    rfl
  have letter : (List.replicate count (97 : UInt16) ++ rest)[count - 3]? = some 97 := by
    rw [List.getElem?_append_left (by rw [List.length_replicate]; omega), List.getElem?_replicate_of_lt (by omega)]
  rw [same, letter] at dot
  exact absurd dot (by decide)

theorem delta_marks (room : 3 < budget.maxTranscriptChars) (small : budget.maxTranscriptChars < 2 ^ 53) :
    (previewed budget).marksCut "message" (.deliver (.delta (lastDelta budget))) := by
  have loaded := (previewed_sound budget room small).loaded.1
  have moves : Delivery.moveAt (previewed budget).window "message" (.delta (lastDelta budget)) =
      some (.append (utf16 "b") (some budget.maxTranscriptChars)) := by
    simp only [Delivery.moveAt]
    rw [loaded, lastDelta_offset budget small]
    rfl
  have text : (previewed budget).text "message" = List.replicate budget.maxTranscriptChars 97 ++ utf16 "b" := by
    show utf16 ((streamedTwice budget).runtime.textOf "message") = _
    rw [(streamedTwice_texts budget small).1, utf16_append]
    unfold keptText
    rw [utf16_repeated]
  refine ⟨_, moves, ?_⟩
  rw [previewed_body budget room small, text]
  refine ⟨_, rfl, (by intro full; cases full), ⟨_, rfl, dots_cut room _⟩, utf16 "b", by decide, ?_⟩
  have length : (List.replicate (budget.maxTranscriptChars - 3) (97 : UInt16) ++ [46, 46, 46]).length =
      budget.maxTranscriptChars := by
    rw [List.length_append, List.length_replicate]
    simp only [List.length_cons, List.length_nil]
    omega
  simp only [Option.getD_some, resolveDeltaAppend, length, Nat.lt_irrefl, if_false, Nat.sub_self, Nat.zero_min,
    List.take_zero, ne_eq, not_true_eq_false, List.drop_zero]
  rw [if_neg]
  have one : (utf16 "b").length = 1 := rfl
  omega

/-- The delta goes on from the length at which the row's text was cut, and marks the cut text full. -/
theorem delta_completes_a_cut_text (room : 3 < budget.maxTranscriptChars)
    (small : budget.maxTranscriptChars < 2 ^ 53) :
    ∃ s, Reaches (Stream.step plainCards "thread" "run" "message") (fun s move => s.may "message" move) openStream s ∧
      ¬s.Faithful "message" := by
  have sound := previewed_sound budget room small
  have faithful : (previewed budget).Faithful "message" := by
    intro body held full
    rw [previewed_body budget room small] at held
    cases held
    cases full
  refine ⟨_, .next (.next (.next (.next .start (first_may (keptText budget))) (second_may budget small))
    (snapshot_may budget room small)) (delta_may budget), fun kept => ?_⟩
  exact (sound.faithful_iff faithful (delta_may budget)).mp kept (delta_marks budget room small)

end Cutting

theorem streamed_row_is_marked_full_with_a_cut_text :
    openStream.Begun "thread" "message" ∧
      ∃ s, Reaches (Stream.step plainCards "thread" "run" "message") (fun s move => s.may "message" move) openStream s ∧
        ¬s.Faithful "message" :=
  ⟨openStream_begun, delta_completes_a_cut_text Snapshot.remoteSurfaceBudget (by decide) (by decide)⟩

def helloDelta : TranscriptDelta :=
  localTranscriptDelta "thread" "run"
    { baseRevision := 0, revision := 1, entrySeq := 1, rowId := "message", orderSeq := 0, textOffset := some 0
      separatorInserted := false }
    "agent_text" (some "turn") "hello"

theorem first_delta_begins_the_relays :
    let s := (openStream.step plainCards "thread" "run" "message"
      (.append .provider "message" "hello" "turn" 1)).step plainCards "thread" "run" "message"
        (.deliver (.delta helloDelta))
    bodyAt s.window "message" = some { text := some (utf16 "hello"), contentState := .full } ∧ s.Faithful "message" := by
  have appends := first_may "hello"
  have delivers : (openStream.step plainCards "thread" "run" "message"
      (.append .provider "message" "hello" "turn" 1)).may "message" (.deliver (.delta helloDelta)) := by
    refine ⟨trivial, List.nodup_nil, fun entry member => (by cases member), fun event same _ => ?_⟩
    cases same
    exact List.mem_cons_self ..
  have unmarked : ¬(openStream.step plainCards "thread" "run" "message"
      (.append .provider "message" "hello" "turn" 1)).marksCut "message" (.deliver (.delta helloDelta)) := by
    rintro ⟨move, moves, marks⟩
    cases moves
    obtain ⟨body, held, -⟩ := marks
    cases held
  have reached := Reaches.next (Reaches.next Reaches.start appends) delivers
  exact ⟨rfl, (full_text_begins_the_relays openStream_begun reached).1
    (.next (.next .start ⟨appends, id⟩) ⟨delivers, unmarked⟩)⟩

end Stream

end Sealwire.Hydration

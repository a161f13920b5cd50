import Sealwire.Hydration.Deliveries
import Sealwire.Hydration.Wire
import Sealwire.Transcript.Commands

namespace Sealwire.Hydration

open Snapshot (InjectionView)
open Transcript (ThreadRuntime)

section LocalDelta

variable {Card : Type}

/-- Whether a delta lands in the window: it is for the active thread and run, and the window is loaded for them. -/
def localDeltaLands (state : HydrationState Card) (event : TranscriptDelta) : Bool :=
  match state.session with
  | none => false
  | some session =>
    let currentThreadId := truthy session.activeThreadId
    !((truthy event.threadId).any fun thread => currentThreadId.any fun current => decide (thread ≠ current)) &&
      sameGeneration session.transcriptGeneration event.transcriptGeneration &&
      transcriptWindowIsLoaded state currentThreadId

def acceptedEmptyEntry (existing : Entry Card) (event : TranscriptDelta) : Entry Card :=
  { existing with
    kind := if existing.kind = "" then normalizeTranscriptDeltaKind event.deltaKind else existing.kind
    status := "running"
    text := some (existing.text.getD [])
    turnId := (truthy existing.turnId).or (truthy event.turnId)
    entrySeq := existing.entrySeq.or event.entrySeq }

def applyAcceptedEmptyOffsetlessDeltaToWindow (state : HydrationState Card) (event : TranscriptDelta) :
    HydrationState Card :=
  match event.rowKey with
  | none => state
  | some itemId =>
    if event.delta ≠ [] ∨ event.textOffset.isSome then state
    else
      match state.entries.get itemId with
      | some existing => { state with entries := state.entries.set itemId (acceptedEmptyEntry existing event) }
      -- Not reached: a row the window did not hold was born by the append, which then counts as applied.
      | none => state

/-- `applyLocalTranscriptEntryDelta`, as far as it writes to the window. -/
def applyLocalTranscriptEntryDelta (state : HydrationState Card) (event : TranscriptDelta) : HydrationState Card :=
  if !localDeltaLands state event then state
  else
    let (next, applied) := applyTranscriptDeltaToWindow state event
    if applied then next else applyAcceptedEmptyOffsetlessDeltaToWindow next event

/-- What a delta makes of one row of the local window. -/
def localMove (state : HydrationState Card) (event : TranscriptDelta) (key : String) : Option BodyMove :=
  if localDeltaLands state event then Delivery.moveAt state key (.delta event) else none

theorem applyAcceptedEmpty_bodyAt (state : HydrationState Card) (event : TranscriptDelta) (key : String) :
    bodyAt (applyAcceptedEmptyOffsetlessDeltaToWindow state event) key = bodyAt state key ∨
      ∃ body, bodyAt state key = some body ∧
        bodyAt (applyAcceptedEmptyOffsetlessDeltaToWindow state event) key =
          some { body with text := some (body.text.getD []) } := by
  unfold applyAcceptedEmptyOffsetlessDeltaToWindow
  split
  · exact .inl rfl
  rename_i itemId at_item
  split
  · exact .inl rfl
  split
  · rename_i existing at_row
    by_cases own : key = itemId
    · subst own
      refine .inr ⟨existing.body, ?_, ?_⟩
      · unfold bodyAt
        rw [at_row]
        rfl
      · unfold bodyAt
        rw [InsertionMap.get_set_self]
        rfl
    · refine .inl ?_
      unfold bodyAt
      rw [InsertionMap.get_set_ne _ _ own]
  · exact .inl rfl

theorem applyAcceptedEmpty_ok {state : HydrationState Card} (ok : state.WindowOk) (event : TranscriptDelta) :
    (applyAcceptedEmptyOffsetlessDeltaToWindow state event).WindowOk := by
  unfold applyAcceptedEmptyOffsetlessDeltaToWindow
  split
  · exact ok
  split
  · exact ok
  split
  · rename_i existing at_row
    have kept : Kept existing (acceptedEmptyEntry existing event) := ⟨id, fun _ => id⟩
    exact (InWindow.set_held ok at_row kept).ok
  · exact ok

theorem Body.Faithful.emptied {text : Text} {body : Body} :
    Body.Faithful text { body with text := some (body.text.getD []) } ↔ body.Faithful text := by
  unfold Body.Faithful Cut
  cases at_text : body.text with
  | none => simp
  | some t => simp

theorem applyLocalTranscriptEntryDelta_ok {state : HydrationState Card} (ok : state.WindowOk) (event : TranscriptDelta) :
    (applyLocalTranscriptEntryDelta state event).WindowOk := by
  unfold applyLocalTranscriptEntryDelta
  split
  · exact ok
  · have step := applyTranscriptDeltaToWindow_window ok event
    dsimp only
    split
    · exact step.ok
    · exact applyAcceptedEmpty_ok step.ok event

/-- The body after the delta's move; an empty delta gives a row without a text the empty one. -/
theorem applyLocalTranscriptEntryDelta_bodyAt (state : HydrationState Card) (event : TranscriptDelta) (key : String) :
    bodyAt (applyLocalTranscriptEntryDelta state event) key =
        afterMove (bodyAt state key) (localMove state event key) ∨
      ∃ body, afterMove (bodyAt state key) (localMove state event key) = some body ∧
        bodyAt (applyLocalTranscriptEntryDelta state event) key =
          some { body with text := some (body.text.getD []) } := by
  unfold applyLocalTranscriptEntryDelta localMove
  cases localDeltaLands state event with
  | false => exact .inl rfl
  | true =>
    simp only [Bool.not_true, Bool.false_eq_true, if_false, if_true]
    rw [← applyTranscriptDeltaToWindow_bodyAt state event key]
    split
    · exact .inl rfl
    · exact applyAcceptedEmpty_bodyAt _ event key

/-- A local delta leaves the row faithful exactly when its move marks no cut text full. -/
theorem applyLocalTranscriptEntryDelta_faithful_iff {text : Text} {state : HydrationState Card} {event : TranscriptDelta}
    {key : String} (before : ∀ body ∈ bodyAt state key, body.Faithful text)
    (genuine : ∀ move ∈ localMove state event key, move.Genuine text) :
    (∀ body ∈ bodyAt (applyLocalTranscriptEntryDelta state event) key, body.Faithful text) ↔
      ∀ move ∈ localMove state event key, ¬move.promotesCut text (bodyAt state key) := by
  have moved : (∀ body ∈ afterMove (bodyAt state key) (localMove state event key), body.Faithful text) ↔
      ∀ move ∈ localMove state event key, ¬move.promotesCut text (bodyAt state key) := by
    cases moves : localMove state event key with
    | none => simpa [afterMove] using before
    | some move =>
      have step := BodyMove.faithful_iff before (genuine move moves)
      simpa [afterMove] using step
  rw [← moved]
  rcases applyLocalTranscriptEntryDelta_bodyAt state event key with same | ⟨body, held, now⟩
  · rw [same]
  · rw [held, now]
    simp only [Option.mem_some_iff, forall_eq']
    exact Body.Faithful.emptied

end LocalDelta

/-- A thread's runtime, what is under way to the local surface on its two streams, oldest first, and the local window;
with the texts one command row has had. -/
structure CommandFeed where
  runtime : ThreadRuntime
  texts : List String
  snapshots : List (SessionSnapshot InjectionView)
  deltas : List TranscriptDelta
  window : HydrationState InjectionView

/-- The command starts, puts out and ends; something else changes at the relay; a snapshot is sent; the next snapshot or
delta arrives; rows are merged into the window. -/
inductive CommandMove
  | start (itemId command status turnId : String) (revision : UInt64)
  | output (itemId delta : String) (revision : UInt64)
  | complete (itemId command : String) (output : Option String) (status turnId : String) (revision : UInt64)
  | relay (runtime : ThreadRuntime) (deltas : List TranscriptDelta)
  | publish (snapshot : SessionSnapshot InjectionView)
  | takeSnapshot
  | takeDelta
  | merge (delivery : Delivery InjectionView)

namespace CommandFeed

variable (c : CardBodies InjectionView) (threadId generation rowId : String)

/-- The row's text after a write to it. -/
def written (s : CommandFeed) (runtime : ThreadRuntime) : CommandFeed :=
  { s with runtime := runtime, texts := runtime.textOf rowId :: s.texts }

def step (s : CommandFeed) : CommandMove → CommandFeed
  | .start itemId command status turnId revision =>
    match s.runtime.startCommandExecution itemId command status turnId revision with
    | none => s
    | some (runtime, _) => s.written rowId runtime
  | .output itemId delta revision =>
    match s.runtime.appendCommandDelta itemId delta revision with
    | none => s
    | some (runtime, mutation) =>
      { s.written rowId runtime with
        deltas := s.deltas ++
          [localTranscriptDelta threadId generation mutation "command_output" none (mutation.wireDelta delta)] }
  | .complete itemId command output status turnId revision =>
    match s.runtime.addCommandResult itemId command output status turnId revision with
    | none => s
    | some (runtime, _) => s.written rowId runtime
  | .relay runtime deltas => { s with runtime := runtime, deltas := s.deltas ++ deltas }
  | .publish snapshot => { s with snapshots := s.snapshots ++ [snapshot] }
  | .takeSnapshot =>
    match s.snapshots with
    | [] => s
    | first :: rest => { s with snapshots := rest, window := { s.window with session := some first } }
  | .takeDelta =>
    match s.deltas with
    | [] => s
    | first :: rest => { s with deltas := rest, window := applyLocalTranscriptEntryDelta s.window first }
  | .merge delivery => { s with window := delivery.apply c s.window }

/-- The text of the row at the relay. -/
def text (s : CommandFeed) : Text := utf16 (s.runtime.textOf rowId)

/-- Where the rows merged come from: the session taken last, drawn over with the window's own row, or an answer with a
copy the relay sent at any time. -/
def merges (s : CommandFeed) : Delivery InjectionView → Prop
  | .tail _ snapshot | .overlay _ snapshot => ∀ entry ∈ snapshot.transcript, transcriptRowKey entry = some rowId →
      (∃ session ∈ s.window.session, entry ∈ session.transcript) ∨ s.window.entries.get rowId = some entry
  | .page _ answer _ | .rows _ answer _ _ => ∀ entry ∈ answer.entries, transcriptRowKey entry = some rowId →
      RelayCopy .command s.texts entry
  | .delta _ => False

/-- Only commands change the row's text; its deltas and snapshots go out as they are written. -/
def may (s : CommandFeed) : CommandMove → Prop
  | .start itemId command status turnId revision => ∃ runtime mutation,
      s.runtime.startCommandExecution itemId command status turnId revision = some (runtime, mutation) ∧
        mutation.rowId = rowId
  | .output itemId delta revision => ∃ runtime mutation,
      s.runtime.appendCommandDelta itemId delta revision = some (runtime, mutation) ∧ mutation.rowId = rowId
  | .complete itemId command output status turnId revision => ∃ runtime mutation,
      s.runtime.addCommandResult itemId command output status turnId revision = some (runtime, mutation) ∧
        mutation.rowId = rowId
  | .relay runtime deltas => runtime.transcript.Consistent ∧ runtime.textOf rowId = s.runtime.textOf rowId ∧
      ∀ event ∈ deltas, event.rowKey ≠ some rowId
  | .publish snapshot => (tailIds snapshot).Nodup ∧ ∀ entry ∈ snapshot.transcript, transcriptRowKey entry = some rowId →
      RelayCopy .command [s.runtime.textOf rowId] entry
  | .takeSnapshot | .takeDelta => True
  | .merge delivery => (delivery.entries.filterMap transcriptRowKey).Nodup ∧ s.merges rowId delivery

/-- The row is held full, with a text that the new one does not begin with. -/
def outlives (s : CommandFeed) (new : Text) : Prop :=
  ∃ body ∈ bodyAt s.window rowId, body.contentState = .full ∧ Cut new body.text

/-- A write takes back text that is held full, or what arrives marks a cut text full. -/
def misleads (s : CommandFeed) : CommandMove → Prop
  | .start _ command _ _ _ => s.outlives rowId (utf16 command)
  | .complete _ command output _ _ _ => s.outlives rowId (utf16 (Transcript.commandResultText command output))
  | .takeDelta => ∃ event ∈ s.deltas.head?, ∃ move ∈ localMove s.window event rowId,
      move.promotesCut (s.text rowId) (bodyAt s.window rowId)
  | .merge delivery => delivery.findsWindow s.window ∧ ∃ move ∈ delivery.moveAt s.window rowId,
      move.promotesCut (s.text rowId) (bodyAt s.window rowId)
  | _ => False

/-- A row held full has the beginning of the relay's text. -/
def Faithful (s : CommandFeed) : Prop := ∀ body ∈ bodyAt s.window rowId, body.Faithful (s.text rowId)

/-- The row is held with the whole text of the relay. -/
def Settled (s : CommandFeed) : Prop := bodyAt s.window rowId = some (Body.whole (s.text rowId))

/-- What is merged is a full copy of the row as the relay has it. -/
def mergesWhole (s : CommandFeed) (delivery : Delivery InjectionView) : Prop :=
  delivery.findsWindow s.window ∧ delivery.moveAt s.window rowId = some (.copy (Body.whole (s.text rowId)))

/-- The relay's text stays, and the window is not emptied for another thread or run. -/
def stays (s : CommandFeed) (move : CommandMove) : Prop :=
  (s.step c threadId generation rowId move).text rowId = s.text rowId ∧
    ∀ delivery, move = .merge delivery → delivery.findsWindow s.window

/-- Before any delta of the row is under way. -/
structure Begun (s : CommandFeed) : Prop where
  consistent : s.runtime.transcript.Consistent
  texts : s.texts = [s.runtime.textOf rowId]
  deltas : s.deltas = []
  snapshots : s.snapshots = []
  window : s.window.WindowOk
  faithful : s.Faithful rowId

/-- What holds along a run. -/
structure Sound (s : CommandFeed) : Prop where
  consistent : s.runtime.transcript.Consistent
  unplaced : ∀ event ∈ s.deltas, event.rowKey = some rowId → event.textOffset = none
  window : s.window.WindowOk

variable {c threadId generation rowId}

theorem Begun.sound {s : CommandFeed} (begun : s.Begun rowId) : s.Sound rowId where
  consistent := begun.consistent
  unplaced event member := by
    rw [begun.deltas] at member
    cases member
  window := begun.window

theorem Sound.step {s : CommandFeed} (sound : s.Sound rowId) {move : CommandMove} (may : s.may rowId move) :
    (s.step c threadId generation rowId move).Sound rowId := by
  cases move with
  | start itemId command status turnId revision =>
    obtain ⟨runtime, mutation, wrote, rfl⟩ := may
    have consistent := (Transcript.startCommandExecution_text sound.consistent wrote).1
    simp only [CommandFeed.step, wrote]
    exact ⟨consistent, sound.unplaced, sound.window⟩
  | output itemId delta revision =>
    obtain ⟨runtime, mutation, wrote, rfl⟩ := may
    obtain ⟨consistent, -, no_offset⟩ := Transcript.appendCommandDelta_text sound.consistent wrote
    simp only [CommandFeed.step, wrote]
    refine ⟨consistent, fun event member named => ?_, sound.window⟩
    rcases List.mem_append.mp member with old | new
    · exact sound.unplaced event old named
    · rw [List.mem_singleton.mp new]
      unfold localTranscriptDelta
      dsimp only
      rw [no_offset]
      rfl
  | complete itemId command output status turnId revision =>
    obtain ⟨runtime, mutation, wrote, rfl⟩ := may
    have consistent := (Transcript.addCommandResult_text sound.consistent wrote).1
    simp only [CommandFeed.step, wrote]
    exact ⟨consistent, sound.unplaced, sound.window⟩
  | relay runtime deltas =>
    obtain ⟨consistent, -, others⟩ := may
    refine ⟨consistent, fun event member named => ?_, sound.window⟩
    rcases List.mem_append.mp member with old | new
    · exact sound.unplaced event old named
    · exact absurd named (others event new)
  | publish snapshot => exact ⟨sound.consistent, sound.unplaced, sound.window⟩
  | takeSnapshot =>
    simp only [CommandFeed.step]
    split
    · exact sound
    · exact ⟨sound.consistent, sound.unplaced, sound.window⟩
  | takeDelta =>
    simp only [CommandFeed.step]
    split
    · exact sound
    · rename_i first rest waiting
      refine ⟨sound.consistent, fun event member => ?_, applyLocalTranscriptEntryDelta_ok sound.window first⟩
      exact sound.unplaced event (by rw [waiting]; exact List.mem_cons_of_mem _ member)
  | merge delivery => exact ⟨sound.consistent, sound.unplaced, delivery.apply_ok sound.window may.1⟩

/-- A full copy of the command has a text the command had. -/
theorem full_copy {s : CommandFeed} {entry : Entry InjectionView} (copy : RelayCopy .command s.texts entry)
    (full : entry.contentState = .full) : ∀ t ∈ entry.text, ∃ text ∈ s.texts, t = utf16 text := by
  have undrawn (mark : InjectionView) : mark.drawsRow .command ≠ some .replaced := by
    rw [drawsRow_command]
    exact nofun
  rcases copy.whole_or_clipped (by decide) undrawn full with whole | ⟨mark, -, drawn, -⟩
  · exact whole
  · rw [drawsRow_command] at drawn
    cases drawn

theorem Sound.genuine {s : CommandFeed} (sound : s.Sound rowId) {event : TranscriptDelta} (waiting : event ∈ s.deltas)
    (text : Text) : ∀ move ∈ localMove s.window event rowId, move.Genuine text := by
  intro move lands
  unfold localMove at lands
  split at lands
  · cases move with
    | copy incoming => trivial
    | append delta offset =>
      obtain ⟨_, same, named, rfl, rfl⟩ := Delivery.append_of_moveAt lands
      cases same
      rw [sound.unplaced event waiting named]
      trivial
  · cases lands

theorem merges_genuine {s : CommandFeed} {delivery : Delivery InjectionView} (merges : s.merges rowId delivery)
    {move : BodyMove} (moves : delivery.moveAt s.window rowId = some move) (text : Text) : move.Genuine text := by
  cases move with
  | copy incoming => trivial
  | append delta offset =>
    obtain ⟨event, rfl, -⟩ := Delivery.append_of_moveAt moves
    exact merges.elim

/-- The body after a merge, or no body where the window is emptied for another thread or run. -/
theorem bodyAt_merge {s : CommandFeed} (sound : s.Sound rowId) {delivery : Delivery InjectionView}
    (may : s.may rowId (.merge delivery)) :
    (delivery.findsWindow s.window ∧ bodyAt (delivery.apply c s.window) rowId =
        afterMove (bodyAt s.window rowId) (delivery.moveAt s.window rowId)) ∨
      (¬delivery.findsWindow s.window ∧ (bodyAt (delivery.apply c s.window) rowId = bodyAt s.window rowId ∨
        bodyAt (delivery.apply c s.window) rowId = none)) := by
  by_cases finds : delivery.findsWindow s.window
  · exact .inl ⟨finds, delivery.bodyAt_apply sound.window finds rowId may.1⟩
  · exact .inr ⟨finds, delivery.bodyAt_unfound finds rowId⟩

theorem Sound.merge_faithful_iff {s : CommandFeed} (sound : s.Sound rowId) (faithful : s.Faithful rowId)
    {delivery : Delivery InjectionView} (may : s.may rowId (.merge delivery)) :
    (s.step c threadId generation rowId (.merge delivery)).Faithful rowId ↔ ¬s.misleads rowId (.merge delivery) := by
  show (∀ body ∈ bodyAt (delivery.apply c s.window) rowId, body.Faithful (s.text rowId)) ↔ _
  simp only [misleads]
  rcases bodyAt_merge (c := c) sound may with ⟨finds, after⟩ | ⟨lost, after⟩
  · rw [after]
    cases moves : delivery.moveAt s.window rowId with
    | none =>
      unfold CommandFeed.Faithful at faithful
      simpa [afterMove, finds] using faithful
    | some move =>
      have step := BodyMove.faithful_iff faithful (merges_genuine may.2 moves (s.text rowId))
      simpa [afterMove, finds] using step
  · refine ⟨fun _ marks => lost marks.1, fun _ => ?_⟩
    rcases after with same | gone
    · rw [same]
      exact faithful
    · rw [gone]
      simp

/-- A move leaves the row faithful exactly when it does not mislead. -/
theorem Sound.faithful_iff {s : CommandFeed} (sound : s.Sound rowId) (faithful : s.Faithful rowId) {move : CommandMove}
    (may : s.may rowId move) :
    (s.step c threadId generation rowId move).Faithful rowId ↔ ¬s.misleads rowId move := by
  have anew {t : CommandFeed} {new : Text} (text : t.text rowId = new) (window : t.window = s.window) :
      t.Faithful rowId ↔ ¬s.outlives rowId new := by
    unfold CommandFeed.Faithful outlives Body.Faithful
    rw [text, window]
    simp
  cases move with
  | start itemId command status turnId revision =>
    obtain ⟨runtime, mutation, write, rfl⟩ := may
    have text := (Transcript.startCommandExecution_text sound.consistent write).2
    simp only [CommandFeed.step, write]
    exact anew (congrArg utf16 text) rfl
  | complete itemId command output status turnId revision =>
    obtain ⟨runtime, mutation, write, rfl⟩ := may
    have text := (Transcript.addCommandResult_text sound.consistent write).2
    simp only [CommandFeed.step, write]
    exact anew (congrArg utf16 text) rfl
  | output itemId delta revision =>
    obtain ⟨runtime, mutation, write, rfl⟩ := may
    have text := (Transcript.appendCommandDelta_text sound.consistent write).2.1
    have grows : s.text mutation.rowId <+: utf16 (runtime.textOf mutation.rowId) := by
      rw [text, utf16_append]
      exact List.prefix_append _ _
    simp only [CommandFeed.step, write]
    exact ⟨fun _ never => never, fun _ body held => (faithful body held).grown grows⟩
  | relay runtime deltas =>
    have text : utf16 (runtime.textOf rowId) = s.text rowId := congrArg utf16 may.2.1
    refine ⟨fun _ never => never, fun _ body held => ?_⟩
    show body.Faithful (utf16 (runtime.textOf rowId))
    rw [text]
    exact faithful body held
  | publish snapshot => exact ⟨fun _ never => never, fun _ => faithful⟩
  | takeSnapshot =>
    refine ⟨fun _ never => never, fun _ => ?_⟩
    simp only [CommandFeed.step]
    split
    · exact faithful
    · exact faithful
  | takeDelta =>
    simp only [CommandFeed.step, misleads]
    split
    · rename_i empty
      rw [empty]
      simpa using faithful
    · rename_i first rest waiting
      have there : first ∈ s.deltas := by
        rw [waiting]
        exact List.mem_cons_self
      rw [waiting]
      have step := applyLocalTranscriptEntryDelta_faithful_iff faithful (sound.genuine there (s.text rowId))
      refine step.trans ?_
      simp
  | merge delivery => exact sound.merge_faithful_iff faithful may

theorem Sound.settles {s : CommandFeed} (sound : s.Sound rowId) (faithful : s.Faithful rowId)
    {delivery : Delivery InjectionView} (may : s.may rowId (.merge delivery)) (whole : s.mergesWhole rowId delivery)
    (kept : ¬s.misleads rowId (.merge delivery)) :
    (s.step c threadId generation rowId (.merge delivery)).Settled rowId := by
  obtain ⟨finds, moves⟩ := whole
  have after := delivery.bodyAt_apply (c := c) sound.window finds rowId may.1
  have taken := copy_whole faithful fun marks => kept ⟨finds, _, moves, marks⟩
  show bodyAt (delivery.apply c s.window) rowId = some (Body.whole (s.text rowId))
  rw [after, moves]
  exact congrArg some taken

end CommandFeed

end Sealwire.Hydration

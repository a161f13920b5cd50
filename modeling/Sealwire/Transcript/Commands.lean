import Sealwire.Transcript.RowText

namespace Sealwire.Transcript

/-- `ToolCallView::command_execution`. -/
def ToolCallView.commandExecution (command : Option String) : ToolCallView where
  itemType := "commandExecution"
  name := "Shell"
  title := "Shell"
  kind := none
  detail := none
  query := none
  path := none
  url := none
  command := command
  inputPreview := none
  resultPreview := none
  diff := none
  fileChanges := []
  applyState := none
  fileChangesOmitted := false
  canApply := none

/-- The delta as the relay appended it. -/
def TranscriptMutationMeta.wireDelta (mutation : TranscriptMutationMeta) (delta : String) : String :=
  if mutation.separatorInserted then "\n" ++ delta else delta

def nonEmpty (value : Option String) : Option String := (value.map trim).filter (· ≠ "")

/-- The text of a finished command: the command, and its output trimmed. -/
def commandResultText (command : String) (output : Option String) : String :=
  match nonEmpty output with
  | some output => command ++ "\n" ++ output
  | none => command

namespace ThreadRuntime

def startCommandExecution (runtime : ThreadRuntime) (itemId command status turnId : String) (revision : UInt64) :
    Option (ThreadRuntime × TranscriptMutationMeta) :=
  runtime.upsertItem itemId .provider .command (some command) status (some turnId)
    (some (.commandExecution (some command))) revision

/-- `mark_transcript_row_cut_for_thread`. -/
def markTranscriptRowCut (runtime : ThreadRuntime) (itemId : String) (cut : Bool) : ThreadRuntime :=
  match runtime.liveRow .provider itemId with
  | some (_, row) => runtime.updateRow row.rowId fun entry => { entry with cut := cut }
  | none => runtime

def addCommandResult (runtime : ThreadRuntime) (itemId command : String) (output : Option String)
    (status turnId : String) (revision : UInt64) : Option (ThreadRuntime × TranscriptMutationMeta) := do
  let (runtime, mutation) ← runtime.upsertItem itemId .provider .command (some (commandResultText command output)) status
    (some turnId) (some (.commandExecution (some command))) revision
  some (runtime.markTranscriptRowCut itemId false, mutation)

end ThreadRuntime

namespace ThreadTranscript

/-- An edit that leaves the text leaves the texts of all rows. -/
theorem updateRow_texts {R : Type} {t : ThreadTranscript} (ok : t.Consistent) (rowId : String)
    {edit : TranscriptRecord → TranscriptRecord × R} (keeps : ∀ row, (edit row).1.text = row.text) :
    SameTexts t (t.updateRow rowId edit).1 := by
  unfold updateRow
  split
  · exact ⟨rfl, rfl⟩
  rename_i index at_id
  split
  · exact ⟨rfl, rfl⟩
  rename_i row at_index
  dsimp only
  obtain ⟨bound, is_row⟩ := List.getElem?_eq_some_iff.mp at_index
  have kept := RowKept.restore row (edit row).1
  have edited := setRow_consistent ok at_index kept
  have same : SameTexts t (t.setRow index ((RowIdentity.of row).restore (edit row).1)) := by
    refine ⟨rfl, ?_⟩
    have within : index < (t.rows.map (·.text)).length := by simpa using bound
    have text : (t.rows.map (·.text))[index] = (edit row).1.text := by
      rw [List.getElem_map, is_row, keeps row]
    simp only [setRow, List.map_set, RowIdentity.restore]
    rw [← text, List.set_getElem_self]
  exact same.trans (bindOwnNames_texts edited _ _ _)

end ThreadTranscript

theorem textOf_eq {runtime : ThreadRuntime} {rowId : String} {text : Option String}
    (at_row : runtime.transcript.textAt rowId = some text) : runtime.textOf rowId = text.getD "" := by
  unfold ThreadRuntime.textOf
  rw [at_row]
  rfl

theorem upsertItem_text {s t : ThreadRuntime} (ok : s.transcript.Consistent) {itemId : String} {space : IdSpace}
    {kind : TranscriptEntryKind} {text status : String} {turnId : Option String} {tool : Option ToolCallView}
    {revision : UInt64} {mutation : TranscriptMutationMeta}
    (wrote : s.upsertItem itemId space kind (some text) status turnId tool revision = some (t, mutation)) :
    t.transcript.Consistent ∧ t.textOf mutation.rowId = text := by
  obtain ⟨now_ok, held, -, at_row⟩ := writeLive_text ok wrote
  refine ⟨now_ok, ?_⟩
  rw [textOf_eq at_row]
  cases held with
  | none => rfl
  | some row => rfl

theorem startCommandExecution_text {s t : ThreadRuntime} (ok : s.transcript.Consistent)
    {itemId command status turnId : String} {revision : UInt64} {mutation : TranscriptMutationMeta}
    (wrote : s.startCommandExecution itemId command status turnId revision = some (t, mutation)) :
    t.transcript.Consistent ∧ t.textOf mutation.rowId = command := upsertItem_text ok wrote

theorem markTranscriptRowCut_text {s : ThreadRuntime} (ok : s.transcript.Consistent) (itemId : String) (cut : Bool)
    (rowId : String) :
    (s.markTranscriptRowCut itemId cut).transcript.Consistent ∧
      (s.markTranscriptRowCut itemId cut).textOf rowId = s.textOf rowId := by
  unfold ThreadRuntime.markTranscriptRowCut
  split
  · rename_i index row found
    refine ⟨(ThreadTranscript.updateRow_consistent ok row.rowId _).2, ?_⟩
    have same : ThreadTranscript.SameTexts s.transcript
        (s.transcript.updateRow row.rowId fun entry => ({ entry with cut := cut }, ())).1 :=
      ThreadTranscript.updateRow_texts ok row.rowId fun _ => rfl
    unfold ThreadRuntime.textOf ThreadRuntime.updateRow
    rw [same.textAt]
  · exact ⟨ok, rfl⟩

/-- A finished command replaces the text of its row. -/
theorem addCommandResult_text {s t : ThreadRuntime} (ok : s.transcript.Consistent) {itemId command : String}
    {output : Option String} {status turnId : String} {revision : UInt64} {mutation : TranscriptMutationMeta}
    (wrote : s.addCommandResult itemId command output status turnId revision = some (t, mutation)) :
    t.transcript.Consistent ∧ t.textOf mutation.rowId = commandResultText command output := by
  obtain ⟨⟨written, meta_⟩, write, result⟩ := Option.bind_eq_some_iff.mp wrote
  obtain ⟨rfl, rfl⟩ := Prod.mk.inj (Option.some.inj result)
  obtain ⟨written_ok, text⟩ := upsertItem_text ok write
  obtain ⟨marked_ok, same⟩ := markTranscriptRowCut_text written_ok itemId false meta_.rowId
  exact ⟨marked_ok, same.trans text⟩

/-- Command output is appended to its row as the wire delta says, without an offset. -/
theorem appendCommandDelta_text {s t : ThreadRuntime} (ok : s.transcript.Consistent) {itemId delta : String}
    {revision : UInt64} {mutation : TranscriptMutationMeta}
    (wrote : s.appendCommandDelta itemId delta revision = some (t, mutation)) :
    t.transcript.Consistent ∧ t.textOf mutation.rowId = s.textOf mutation.rowId ++ mutation.wireDelta delta ∧
      mutation.textOffset = none := by
  obtain ⟨⟨written, live⟩, write, result⟩ := Option.bind_eq_some_iff.mp wrote
  obtain ⟨rfl, rfl⟩ := Prod.mk.inj (Option.some.inj result)
  obtain ⟨written_ok, held, named, text⟩ := writeLive_text ok write
  have no_offset : live.textOffset = none := by
    obtain ⟨_, -, same⟩ := Option.bind_eq_some_iff.mp write
    rw [← (Prod.mk.inj (Option.some.inj same)).2]
  refine ⟨written_ok, ?_, no_offset⟩
  unfold TranscriptMutationMeta.wireDelta
  dsimp only
  rw [textOf_eq text]
  cases named with
  | @known index row found same at_row =>
    have before : s.transcript.textAt live.rowId = some row.text := by
      unfold ThreadTranscript.textAt
      rw [at_row]
      rfl
    rw [textOf_eq before, found]
    simp only [Option.map_some, Option.getD_some]
    split
    · rw [String.append_assoc]
    · rfl
  | born unknown absent =>
    unfold ThreadRuntime.textOf
    rw [absent, unknown]
    exact (String.empty_append).symm

end Sealwire.Transcript

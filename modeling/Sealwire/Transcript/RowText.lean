import Sealwire.Transcript.Runtime
import Sealwire.Transcript.StoreInvariant

namespace Sealwire.Transcript

namespace ThreadTranscript

/-- The text of a row, if the row is held. -/
def textAt (t : ThreadTranscript) (rowId : String) : Option (Option String) := (t.getRow rowId).map (·.text)

/-- The same rows at the same places, with the same texts. -/
structure SameTexts (t u : ThreadTranscript) : Prop where
  byRowId : u.byRowId = t.byRowId
  texts : u.rows.map (·.text) = t.rows.map (·.text)

theorem SameTexts.trans {t u v : ThreadTranscript} (first : SameTexts t u) (second : SameTexts u v) : SameTexts t v :=
  ⟨second.byRowId.trans first.byRowId, second.texts.trans first.texts⟩

theorem textAt_eq (t : ThreadTranscript) (rowId : String) :
    t.textAt rowId = (t.byRowId.get rowId).bind fun index => (t.rows.map (·.text))[index]? := by
  unfold textAt getRow indexOfRow
  cases t.byRowId.get rowId with
  | none => rfl
  | some index => simp

theorem SameTexts.textAt {t u : ThreadTranscript} (same : SameTexts t u) (rowId : String) :
    u.textAt rowId = t.textAt rowId := by
  rw [textAt_eq, textAt_eq, same.byRowId, same.texts]

theorem text_adoptName (space : SourceSpace) (row : TranscriptRecord) (itemId : String) :
    (adoptName space row itemId).text = row.text := by
  unfold adoptName
  split
  · cases space <;> rfl
  · rfl

theorem bindName_texts {t : ThreadTranscript} (ok : t.Consistent) (space : SourceSpace) (rowId itemId : String) :
    SameTexts t (t.bindName space rowId itemId).1 := by
  refine ⟨(bindName_shape ok space rowId itemId).byRowId, ?_⟩
  by_cases yes : Binds space t rowId itemId
  · obtain ⟨index, row, _, at_row, _, result⟩ := bindName_taken ok yes
    obtain ⟨bound, rfl⟩ := List.getElem?_eq_some_iff.mp at_row
    rw [result]
    simp only [setRow, rows_setNames, List.map_set, text_adoptName]
    have within : index < (t.rows.map (·.text)).length := by simpa using bound
    have same : t.rows[index].text = (t.rows.map (·.text))[index] := by simp
    rw [same, List.set_getElem_self]
  · rw [bindName_refused yes]

theorem bindCarried_texts {t : ThreadTranscript} (ok : t.Consistent) (space : SourceSpace) (rowId : String)
    (name : Option String) : SameTexts t (t.bindCarried space rowId name) := by
  cases name with
  | none => exact ⟨rfl, rfl⟩
  | some itemId => exact bindName_texts ok space rowId itemId

theorem bindOwnNames_texts {t : ThreadTranscript} (ok : t.Consistent) (rowId : String)
    (providerItemId relayItemId : Option String) : SameTexts t (t.bindOwnNames rowId providerItemId relayItemId) :=
  (bindCarried_texts ok .provider rowId providerItemId).trans
    (bindCarried_texts (bindCarried_consistent ok .provider rowId providerItemId).2 .relay rowId relayItemId)

/-- The text of an edited row is the one the edit gave it. -/
theorem updateRow_textAt {R : Type} {t : ThreadTranscript} (ok : t.Consistent) {rowId : String} {row : TranscriptRecord}
    (at_row : t.getRow rowId = some row) (edit : TranscriptRecord → TranscriptRecord × R) :
    (t.updateRow rowId edit).1.textAt rowId = some (edit row).1.text := by
  obtain ⟨index, at_id, at_index⟩ := Option.bind_eq_some_iff.mp at_row
  have found : t.byRowId.get rowId = some index := at_id
  obtain ⟨bound, is_row⟩ := List.getElem?_eq_some_iff.mp at_index
  have kept := RowKept.restore row (edit row).1
  have edited := setRow_consistent ok at_index kept
  unfold updateRow
  rw [found]
  dsimp only
  rw [at_index]
  dsimp only
  rw [(bindOwnNames_texts edited _ _ _).textAt, textAt_eq]
  simp [setRow, found, bound, RowIdentity.restore]

/-- A row pushed has the text it came with, under an id no row had. -/
theorem push_textAt {t u : ThreadTranscript} (ok : t.Consistent) {record : TranscriptRecord} {id : String}
    (pushed : t.push record = some (u, id)) : t.textAt id = none ∧ u.textAt id = some record.text := by
  obtain ⟨free, seq, rfl⟩ := push_eq pushed
  have absent : t.byRowId.get id = none := by simpa [Table.has] using free
  refine ⟨by rw [textAt_eq, absent]; rfl, ?_⟩
  have appended : (t.appended { record with rowId := id } seq).Consistent := appended_consistent ok free seq
  rw [(bindOwnNames_texts appended _ _ _).textAt, textAt_eq]
  simp [ThreadTranscript.appended]

theorem Consistent.getRow_of_mem {t : ThreadTranscript} (ok : t.Consistent) {index : Nat} {row : TranscriptRecord}
    (at_row : t.rows[index]? = some row) : t.getRow row.rowId = some row := by
  have at_id := (ok.indexed row.rowId index).mpr (by simp [at_row])
  unfold getRow indexOfRow
  rw [at_id]
  exact at_row

end ThreadTranscript

/-- The text of a row; a row that is not there has the empty one. -/
def ThreadRuntime.textOf (runtime : ThreadRuntime) (rowId : String) : String :=
  ((runtime.transcript.textAt rowId).bind id).getD ""

/-- The row a live write names: it was there and is edited, or it is born. -/
inductive LiveRow (s : ThreadRuntime) (space : IdSpace) (itemId rowId : String) : Option TranscriptRecord → Prop
  | known {index : Nat} {row : TranscriptRecord} (found : s.liveRow space itemId = some (index, row))
      (named : row.rowId = rowId) (held : s.transcript.getRow rowId = some row) : LiveRow s space itemId rowId (some row)
  | born (unknown : s.liveRow space itemId = none) (absent : s.transcript.textAt rowId = none) :
      LiveRow s space itemId rowId none

theorem writeRow_text {s t : ThreadRuntime} (ok : s.transcript.Consistent) {space : IdSpace} {itemId : String}
    {edit : TranscriptRecord → TranscriptRecord} {born : TranscriptRecord} {rowId : String} {entrySeq : Nat}
    {orderSeq : Int} (wrote : s.writeRow space itemId edit born = some (t, rowId, entrySeq, orderSeq)) :
    t.transcript.Consistent ∧ ∃ held, LiveRow s space itemId rowId held ∧
      t.transcript.textAt rowId = some ((held.map fun row => (edit row).text).getD born.text) := by
  unfold ThreadRuntime.writeRow at wrote
  cases found : s.liveRow space itemId with
  | some at_row =>
    obtain ⟨index, row⟩ := at_row
    rw [found] at wrote
    obtain ⟨rfl, same⟩ := Prod.mk.inj (Option.some.inj wrote)
    obtain ⟨rfl, -⟩ := Prod.mk.inj same
    obtain ⟨at_, -, there⟩ := Option.bind_eq_some_iff.mp found
    obtain ⟨held, at_index, same⟩ := Option.bind_eq_some_iff.mp there
    obtain ⟨rfl, rfl⟩ := Prod.mk.inj (Option.some.inj same)
    have at_row := ok.getRow_of_mem at_index
    exact ⟨(ThreadTranscript.updateRow_consistent ok held.rowId _).2, some held, .known found rfl at_row,
      ThreadTranscript.updateRow_textAt ok at_row _⟩
  | none =>
    rw [found] at wrote
    obtain ⟨⟨next, id, key⟩, birth, same⟩ := Option.map_eq_some_iff.mp wrote
    cases same
    unfold ThreadRuntime.birthRow at birth
    obtain ⟨⟨tail, seq⟩, issued, rest⟩ := Option.bind_eq_some_iff.mp birth
    obtain ⟨⟨transcript, minted⟩, pushed, result⟩ := Option.bind_eq_some_iff.mp rest
    cases result
    have untouched : tail.transcript = s.transcript := by
      obtain ⟨after, -, same⟩ := Option.bind_eq_some_iff.mp issued
      rw [← (Prod.mk.inj (Option.some.inj same)).1]
    rw [untouched] at pushed
    obtain ⟨absent, text⟩ := ThreadTranscript.push_textAt ok pushed
    exact ⟨ThreadTranscript.push_consistent ok pushed, none, .born found absent, text⟩

theorem writeLive_text {s t : ThreadRuntime} (ok : s.transcript.Consistent) {space : IdSpace} {itemId : String}
    {edit : TranscriptRecord → TranscriptRecord} {born : TranscriptRecord} {revision : UInt64}
    {mutation : TranscriptMutationMeta} (wrote : s.writeLive space itemId edit born revision = some (t, mutation)) :
    t.transcript.Consistent ∧ ∃ held, LiveRow s space itemId mutation.rowId held ∧
      t.transcript.textAt mutation.rowId = some ((held.map fun row => (edit row).text).getD born.text) := by
  obtain ⟨⟨written, rowId, entrySeq, orderSeq⟩, write, result⟩ := Option.bind_eq_some_iff.mp wrote
  obtain ⟨rfl, rfl⟩ := Prod.mk.inj (Option.some.inj result)
  obtain ⟨written_ok, held, live, text⟩ := writeRow_text ok write
  refine ⟨(ThreadTranscript.updateRow_consistent written_ok rowId _).2, held, live, ?_⟩
  obtain ⟨row, at_row, row_text⟩ := Option.map_eq_some_iff.mp text
  have stamped := ThreadTranscript.updateRow_textAt written_ok at_row fun entry =>
    ({ entry with lastLiveUpsertRevision := some revision }, ())
  rw [← row_text]
  exact stamped

/-- An agent delta appends to its row, and says how long the row was. -/
theorem appendAgentDelta_text {s t : ThreadRuntime} (ok : s.transcript.Consistent) {space : IdSpace}
    {itemId delta turnId : String} {revision : UInt64} {mutation : TranscriptMutationMeta}
    (wrote : s.appendAgentDelta space itemId delta turnId revision = some (t, mutation)) :
    t.transcript.Consistent ∧ t.textOf mutation.rowId = s.textOf mutation.rowId ++ delta ∧
      mutation.textOffset = some (utf16Count (s.textOf mutation.rowId)) := by
  obtain ⟨⟨written, live⟩, write, result⟩ := Option.bind_eq_some_iff.mp wrote
  obtain ⟨rfl, rfl⟩ := Prod.mk.inj (Option.some.inj result)
  obtain ⟨written_ok, held, named, text⟩ := writeLive_text ok write
  refine ⟨written_ok, ?_⟩
  unfold ThreadRuntime.textOf
  dsimp only
  rw [text]
  cases named with
  | @known index row found same at_row =>
    have before : s.transcript.textAt live.rowId = some row.text := by
      unfold ThreadTranscript.textAt
      rw [at_row]
      rfl
    rw [before, found]
    exact ⟨rfl, rfl⟩
  | born unknown absent =>
    rw [absent, unknown]
    exact ⟨(String.empty_append).symm, rfl⟩

end Sealwire.Transcript

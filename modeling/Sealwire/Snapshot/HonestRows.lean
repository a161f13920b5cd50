import Sealwire.Snapshot.Compact

namespace Sealwire.Snapshot

open Transcript (ToolCallView FileChangeDiffView)

theorem truncateWithEllipsis_uncut {value : String} {maxChars : Nat}
    (uncut : (truncateWithEllipsis value maxChars).2 = false) : (truncateWithEllipsis value maxChars).1 = value := by
  unfold truncateWithEllipsis at *
  split at uncut
  · rename_i short
    rw [if_pos short]
  · split at uncut <;> cases uncut

theorem length_truncateWithEllipsis (value : String) (maxChars : Nat) :
    (truncateWithEllipsis value maxChars).1.length ≤ maxChars := by
  unfold truncateWithEllipsis
  split
  · assumption
  split
  · simp
  · rename_i long room
    have dots : "...".length = 3 := by decide
    rw [String.length_append, String.length_ofList, List.length_take, dots]
    unfold ellipsisLen at *
    omega

theorem truncateField_uncut {value : Option String} {maxChars : Nat} (uncut : (truncateField value maxChars).2 = false) :
    (truncateField value maxChars).1 = value := by
  cases value with
  | none => rfl
  | some text => exact congrArg some (truncateWithEllipsis_uncut uncut)

theorem truncateField_short (value : Option String) (maxChars : Nat) :
    longerThan maxChars (truncateField value maxChars).1 = false := by
  cases value with
  | none => rfl
  | some text =>
    have short := length_truncateWithEllipsis text maxChars
    simpa [longerThan, truncateField] using short

theorem truncateFileChanges_uncut {changes : List FileChangeDiffView} {maxChanges maxChars : Nat}
    (uncut : (truncateFileChanges changes maxChanges maxChars).2 = false) :
    (truncateFileChanges changes maxChanges maxChars).1 = changes := by
  unfold truncateFileChanges at *
  simp only [Bool.or_eq_false_iff, decide_eq_false_iff_not, List.any_eq_false] at uncut
  obtain ⟨few, whole⟩ := uncut
  rw [if_neg few] at *
  have same : ∀ change ∈ changes, { change with diff := (truncateWithEllipsis change.diff maxChars).1 } = change := by
    intro change member
    rw [truncateWithEllipsis_uncut (by simpa using whole change member)]
  exact (List.map_congr_left same).trans (List.map_id changes)

theorem truncateFileChanges_short (changes : List FileChangeDiffView) (maxChanges maxChars : Nat) :
    (truncateFileChanges changes maxChanges maxChars).1.length ≤ maxChanges ∧
      ∀ change ∈ (truncateFileChanges changes maxChanges maxChars).1, change.diff.length ≤ maxChars := by
  unfold truncateFileChanges
  constructor
  · simp only [List.length_map]
    split
    · rw [List.length_take]
      omega
    · omega
  · intro change member
    obtain ⟨original, -, rfl⟩ := List.mem_map.mp member
    exact length_truncateWithEllipsis original.diff maxChars

/-- A cut tool that was not cut is the tool. -/
theorem clipTool_uncut {budget : SessionSnapshotCompactBudget} {tool : ToolCallView}
    (uncut : (clipTool budget tool).2 = false) : (clipTool budget tool).1 = tool := by
  simp only [clipTool, Bool.or_eq_false_iff] at uncut
  obtain ⟨⟨⟨⟨⟨⟨⟨⟨title, detail⟩, command⟩, query⟩, url⟩, input⟩, result⟩, diff⟩, changes⟩ := uncut
  simp only [clipTool, truncateWithEllipsis_uncut title, truncateField_uncut detail, truncateField_uncut command,
    truncateField_uncut query, truncateField_uncut url, truncateField_uncut input, truncateField_uncut result,
    truncateField_uncut diff, truncateFileChanges_uncut changes]

theorem shrinkTool_short (budget : SessionSnapshotCompactBudget) (tool : ToolCallView) :
    toolIsLong budget (shrinkTool budget tool).1 = false := by
  obtain ⟨few, short⟩ := truncateFileChanges_short tool.fileChanges budget.fallbackFileChanges
    budget.fallbackTranscriptChars
  simp only [toolIsLong, shrinkTool, truncateField_short, Bool.false_or, Bool.or_eq_false_iff, List.any_eq_false,
    decide_eq_true_eq]
  exact ⟨decide_eq_false (Nat.not_lt.mpr few), fun change member => Nat.not_lt.mpr (short change member)⟩

/-- How a client draws the row with its card, if it does. -/
def TranscriptEntryView.drawnAs (entry : TranscriptEntryView) : Option CardRow :=
  entry.injection.bind fun mark => mark.drawsRow entry.kind

def TranscriptEntryView.textIsClipped (entry : TranscriptEntryView) : Bool :=
  entry.injection.any (·.textClipped)

theorem clipCard_drawsRow (maxChars : Nat) (mark : InjectionView) (kind : Transcript.TranscriptEntryKind) :
    (clipCard maxChars mark).drawsRow kind = mark.drawsRow kind := by
  obtain ⟨_, card, clipped⟩ := mark
  cases card with
  | delegate asks =>
    cases asks with
    | nil => rfl
    | cons ask rest => rfl
  | _ => rfl

theorem clipCard_textClipped (maxChars : Nat) (mark : InjectionView) :
    (clipCard maxChars mark).textClipped = mark.textClipped := by
  unfold clipCard
  split <;> rfl

/-- No card stands for a reasoning row. -/
theorem drawsRow_reasoning (mark : InjectionView) : mark.drawsRow .reasoning = none := by
  obtain ⟨kind, card, clipped⟩ := mark
  cases kind <;> rfl

theorem contentRank_downgradeTo (current state : Transcript.TranscriptContentState) :
    contentRank (downgradeTo current state) ≤ contentRank current := by
  unfold downgradeTo
  split
  · omega
  · exact Nat.le_refl _

theorem downgradeTo_preview_ne_full (current : Transcript.TranscriptContentState) :
    downgradeTo current .preview ≠ .full := by
  cases current <;> decide

/-- What a row still marked full has kept: its text and tool; or it is a settled reasoning row whose blank body is gone;
or its card stands for the row, and says so where its body was cut. -/
def BodyKept (input row : TranscriptEntryView) : Prop :=
  row.text = input.text ∧ row.tool = input.tool ∨
    isSettledEmptyReasoning input = true ∧ row.text = none ∧ row.tool = input.tool ∨
    ∃ shown, input.drawnAs = some shown ∧ (shown = .textBody → row.text = input.text ∨ row.textIsClipped = true)

/-- A kept row is its input row, and claims no more than it has. -/
structure RowHonest (input row : TranscriptEntryView) : Prop where
  rowId : row.rowId = input.rowId
  itemId : row.itemId = input.itemId
  orderSeq : row.orderSeq = input.orderSeq
  kind : row.kind = input.kind
  status : row.status = input.status
  state : contentRank row.contentState ≤ contentRank input.contentState
  drawn : row.drawnAs = input.drawnAs
  body : row.contentState = .full → BodyKept input row

theorem RowHonest.refl (row : TranscriptEntryView) : RowHonest row row where
  rowId := rfl
  itemId := rfl
  orderSeq := rfl
  kind := rfl
  status := rfl
  state := Nat.le_refl _
  drawn := rfl
  body := fun _ => .inl ⟨rfl, rfl⟩

theorem settled_not_drawn {entry : TranscriptEntryView} (settled : isSettledEmptyReasoning entry = true) :
    entry.drawnAs = none := by
  have reasoning : entry.kind = .reasoning := by
    simp only [isSettledEmptyReasoning, Bool.and_eq_true, decide_eq_true_eq] at settled
    exact settled.1.1.1
  unfold TranscriptEntryView.drawnAs
  cases entry.injection with
  | none => rfl
  | some mark =>
    rw [Option.bind_some, reasoning]
    exact drawsRow_reasoning mark

/-- The text of a row that its card draws as the card's body. -/
theorem RowHonest.text_of_drawn {input row : TranscriptEntryView} (honest : RowHonest input row)
    (drawn : input.drawnAs = some .textBody) (full : row.contentState = .full) :
    row.text = input.text ∨ row.textIsClipped = true := by
  rcases honest.body full with ⟨text, -⟩ | ⟨settled, -⟩ | ⟨shown, shown_so, clipped⟩
  · exact .inl text
  · rw [settled_not_drawn settled] at drawn
    cases drawn
  · rw [drawn] at shown_so
    obtain rfl := Option.some.inj shown_so
    exact clipped rfl

/-- Another body under a mark on the row. -/
theorem RowHonest.marked {input row : TranscriptEntryView} (honest : RowHonest input row) (text : Option String)
    (tool : Option ToolCallView) {state : Transcript.TranscriptContentState}
    (lower : contentRank state ≤ contentRank row.contentState) (not_full : state ≠ .full) :
    RowHonest input { row with text := text, tool := tool, contentState := state } where
  rowId := honest.rowId
  itemId := honest.itemId
  orderSeq := honest.orderSeq
  kind := honest.kind
  status := honest.status
  state := Nat.le_trans lower honest.state
  drawn := honest.drawn
  body := fun full => absurd full not_full

theorem needsRepairAfterCut_plain {entry : TranscriptEntryView} (textCut : Bool) (plain : entry.drawnAs = none) :
    entry.needsRepairAfterCut textCut = (entry, true) := by
  unfold TranscriptEntryView.drawnAs at plain
  unfold TranscriptEntryView.needsRepairAfterCut
  split
  · rfl
  · rename_i mark marked
    rw [marked, Option.bind_some] at plain
    rw [plain]

theorem needsRepairAfterCut_replaced {entry : TranscriptEntryView} (textCut : Bool)
    (drawn : entry.drawnAs = some .replaced) : entry.needsRepairAfterCut textCut = (entry, false) := by
  unfold TranscriptEntryView.drawnAs at drawn
  unfold TranscriptEntryView.needsRepairAfterCut
  split
  · rename_i unmarked
    rw [unmarked] at drawn
    cases drawn
  · rename_i mark marked
    rw [marked, Option.bind_some] at drawn
    rw [drawn]

theorem needsRepairAfterCut_textBody {entry : TranscriptEntryView} (textCut : Bool)
    (drawn : entry.drawnAs = some .textBody) :
    entry.needsRepairAfterCut textCut =
      ({ entry with injection := entry.injection.map fun mark => { mark with textClipped := mark.textClipped || textCut } },
        false) := by
  unfold TranscriptEntryView.drawnAs at drawn
  unfold TranscriptEntryView.needsRepairAfterCut
  split
  · rename_i unmarked
    rw [unmarked] at drawn
    cases drawn
  · rename_i mark marked
    rw [marked, Option.bind_some] at drawn
    rw [drawn, marked]
    rfl

/-- The body of a row that is its card's body was cut, and the card says so. -/
theorem RowHonest.textBody {input row : TranscriptEntryView} (honest : RowHonest input row)
    (drawn : row.drawnAs = some .textBody) {text : Option String × Bool} (text_uncut : text.2 = false → text.1 = row.text)
    (tool : Option ToolCallView) :
    RowHonest input { row with
      text := text.1
      tool := tool
      injection := row.injection.map fun mark => { mark with textClipped := mark.textClipped || text.2 } } := by
  have drawn_by : input.drawnAs = some .textBody := honest.drawn.symm.trans drawn
  obtain ⟨mark, marked⟩ : ∃ mark, row.injection = some mark := by
    cases marked : row.injection with
    | none =>
      rw [TranscriptEntryView.drawnAs, marked] at drawn
      cases drawn
    | some mark => exact ⟨mark, rfl⟩
  refine { honest with drawn := ?_, body := fun full => .inr (.inr ⟨.textBody, drawn_by, fun _ => ?_⟩) }
  · rw [← honest.drawn, TranscriptEntryView.drawnAs, TranscriptEntryView.drawnAs, marked]
    rfl
  · cases text_cut : text.2 with
    | true => exact .inr (by simp [TranscriptEntryView.textIsClipped, marked])
    | false =>
      rw [text_uncut text_cut]
      refine (honest.text_of_drawn drawn_by full).imp_right fun clipped => ?_
      rw [TranscriptEntryView.textIsClipped, marked] at clipped
      simpa [TranscriptEntryView.textIsClipped, marked] using clipped

/-- A row with its text and tool cut: where the cut is not marked on the row, the card stands for it. -/
theorem RowHonest.withCut {input row : TranscriptEntryView} (honest : RowHonest input row) {text : Option String × Bool}
    {tool : Option (ToolCallView × Bool)} (text_uncut : text.2 = false → text.1 = row.text)
    (tool_uncut : tool.any Prod.snd = false → tool.map Prod.fst = row.tool) :
    RowHonest input (row.withCut text tool).1 ∧
      ((row.withCut text tool).2 = false → (row.withCut text tool).1.contentState = row.contentState) := by
  have drawn : { row with text := text.1, tool := tool.map Prod.fst }.drawnAs = row.drawnAs := rfl
  unfold TranscriptEntryView.withCut
  simp only
  by_cases cut : (text.2 || tool.any Prod.snd) = true
  · rw [if_pos cut]
    cases shown : row.drawnAs with
    | none =>
      rw [needsRepairAfterCut_plain text.2 (drawn.trans shown)]
      exact ⟨honest.marked _ _ (contentRank_downgradeTo _ _) (downgradeTo_preview_ne_full _), fun never => by cases never⟩
    | some how =>
      cases how with
      | textBody =>
        rw [needsRepairAfterCut_textBody text.2 (drawn.trans shown)]
        exact ⟨honest.textBody shown text_uncut _, fun _ => rfl⟩
      | replaced =>
        rw [needsRepairAfterCut_replaced text.2 (drawn.trans shown)]
        have stands : BodyKept input { row with text := text.1, tool := tool.map Prod.fst } :=
          .inr (.inr ⟨.replaced, honest.drawn.symm.trans shown, fun other => by cases other⟩)
        exact ⟨{ honest with body := fun _ => stands }, fun _ => rfl⟩
  · rw [if_neg cut]
    simp only [Bool.not_eq_true, Bool.or_eq_false_iff] at cut
    have same : { row with text := text.1, tool := tool.map Prod.fst } = row := by
      rw [text_uncut cut.1, tool_uncut cut.2]
    rw [same]
    exact ⟨honest, fun _ => rfl⟩

theorem TranscriptEntryView.withCut_body (row : TranscriptEntryView) (text : Option String × Bool)
    (tool : Option (ToolCallView × Bool)) :
    (row.withCut text tool).1.text = text.1 ∧ (row.withCut text tool).1.tool = tool.map Prod.fst := by
  have drawn : { row with text := text.1, tool := tool.map Prod.fst }.drawnAs = row.drawnAs := rfl
  unfold TranscriptEntryView.withCut
  simp only
  split
  · cases shown : row.drawnAs with
    | none =>
      rw [needsRepairAfterCut_plain text.2 (drawn.trans shown)]
      exact ⟨rfl, rfl⟩
    | some how =>
      cases how with
      | textBody =>
        rw [needsRepairAfterCut_textBody text.2 (drawn.trans shown)]
        exact ⟨rfl, rfl⟩
      | replaced =>
        rw [needsRepairAfterCut_replaced text.2 (drawn.trans shown)]
        exact ⟨rfl, rfl⟩
  · exact ⟨rfl, rfl⟩

/-- A card changed on itself only. -/
theorem RowHonest.recard {input row : TranscriptEntryView} (honest : RowHonest input row)
    {recard : InjectionView → InjectionView} (drawn : ∀ mark kind, (recard mark).drawsRow kind = mark.drawsRow kind)
    (clipped : ∀ mark, (recard mark).textClipped = mark.textClipped) :
    RowHonest input { row with injection := row.injection.map recard } := by
  have still_drawn : { row with injection := row.injection.map recard }.drawnAs = row.drawnAs := by
    unfold TranscriptEntryView.drawnAs
    cases row.injection with
    | none => rfl
    | some mark => exact drawn mark row.kind
  have still_clipped : { row with injection := row.injection.map recard }.textIsClipped = row.textIsClipped := by
    unfold TranscriptEntryView.textIsClipped
    cases row.injection with
    | none => rfl
    | some mark => exact clipped mark
  refine { honest with drawn := still_drawn.trans honest.drawn, body := fun full => ?_ }
  refine (honest.body full).imp_right (Or.imp_right ?_)
  rintro ⟨shown, shown_so, kept⟩
  exact ⟨shown, shown_so, fun body => (kept body).imp_right still_clipped.trans⟩

theorem tool_uncut_of {cut : ToolCallView → ToolCallView × Bool} (uncut : ∀ tool, (cut tool).2 = false → (cut tool).1 = tool)
    (tool : Option ToolCallView) (whole : (tool.map cut).any Prod.snd = false) : (tool.map cut).map Prod.fst = tool := by
  cases tool with
  | none => rfl
  | some tool => exact congrArg some (uncut tool whole)

/-- The first cut. -/
theorem RowHonest.clip {input row : TranscriptEntryView} (honest : RowHonest input row)
    (budget : SessionSnapshotCompactBudget) :
    RowHonest input (clipRow budget row).1 ∧
      ((clipRow budget row).2 = false → (clipRow budget row).1.contentState = row.contentState) := by
  have text_uncut (uncut : (if row.kind ≠ .userText then truncateField row.text budget.maxTranscriptChars
      else (row.text, false)).2 = false) : (if row.kind ≠ .userText then
      truncateField row.text budget.maxTranscriptChars else (row.text, false)).1 = row.text := by
    split at uncut
    · rename_i cuttable
      rw [if_pos cuttable]
      exact truncateField_uncut uncut
    · rename_i spared
      rw [if_neg spared]
  obtain ⟨cut, state⟩ := honest.withCut text_uncut
    (tool_uncut_of (fun _ whole => clipTool_uncut whole) row.tool)
  exact ⟨cut.recard (clipCard_drawsRow _) (clipCard_textClipped _), state⟩

/-- A row that is marked full and blank was so from the start. -/
theorem RowHonest.settled {input row : TranscriptEntryView} (honest : RowHonest input row)
    (full : row.contentState = .full) (settled : isSettledEmptyReasoning row = true) :
    isSettledEmptyReasoning input = true ∧ row.tool = input.tool := by
  rcases honest.body full with ⟨text, tool⟩ | ⟨settled', -, tool⟩ | ⟨shown, drawn, -⟩
  · refine ⟨?_, tool⟩
    unfold isSettledEmptyReasoning at *
    rw [honest.kind, honest.status, text, tool] at settled
    exact settled
  · exact ⟨settled', tool⟩
  · rw [← honest.drawn, settled_not_drawn settled] at drawn
    cases drawn

end Sealwire.Snapshot

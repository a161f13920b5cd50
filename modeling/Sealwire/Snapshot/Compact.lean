import Sealwire.Snapshot.Views

namespace Sealwire.Snapshot

open Transcript (ToolCallView FileChangeDiffView)

def ellipsisLen : Nat := 3

/-- The text after the cut, and whether it was cut. -/
def truncateWithEllipsis (value : String) (maxChars : Nat) : String × Bool :=
  if value.length ≤ maxChars then (value, false)
  else if maxChars ≤ ellipsisLen then (String.ofList (List.replicate maxChars '.'), true)
  else (String.ofList (value.toList.take (maxChars - ellipsisLen)) ++ "...", true)

/-- `truncateWithEllipsis` on a field that may be absent. -/
def truncateField (value : Option String) (maxChars : Nat) : Option String × Bool :=
  match value with
  | some text => (some (truncateWithEllipsis text maxChars).1, (truncateWithEllipsis text maxChars).2)
  | none => (none, false)

def truncateFileChanges (changes : List FileChangeDiffView) (maxChanges maxChars : Nat) :
    List FileChangeDiffView × Bool :=
  let kept := if maxChanges < changes.length then changes.take maxChanges else changes
  (kept.map fun change => { change with diff := (truncateWithEllipsis change.diff maxChars).1 },
    maxChanges < changes.length || kept.any fun change => (truncateWithEllipsis change.diff maxChars).2)

/-- Some of the row's fields were cut, its text among them if `textCut`; whether the row must be marked a preview. -/
def TranscriptEntryView.needsRepairAfterCut (entry : TranscriptEntryView) (textCut : Bool) :
    TranscriptEntryView × Bool :=
  match entry.injection with
  | none => (entry, true)
  | some mark =>
    match mark.drawsRow entry.kind with
    | some .textBody => ({ entry with injection := some { mark with textClipped := mark.textClipped || textCut } }, false)
    | some .replaced => (entry, false)
    | none => (entry, true)

def clipAsk (maxChars : Nat) (ask : DelegateCardView) : DelegateCardView :=
  let task := truncateWithEllipsis ask.task maxChars
  let answer := truncateField ask.answer maxChars
  { ask with
    task := task.1
    taskClipped := ask.taskClipped || task.2
    answer := answer.1
    answerClipped := ask.answerClipped || answer.2 }

/-- A card says it was cut on itself, so its row is not marked a preview. -/
def clipCard (maxChars : Nat) (mark : InjectionView) : InjectionView :=
  match mark.card with
  | .delegate asks => { mark with card := .delegate (asks.map (clipAsk maxChars)) }
  | .goalSettled settled =>
    let report := truncateWithEllipsis settled.report maxChars
    { mark with
      card := .goalSettled { settled with report := report.1, reportClipped := settled.reportClipped || report.2 } }
  | .fork fork =>
    let note := truncateWithEllipsis fork.note maxChars
    { mark with card := .fork { fork with note := note.1, noteClipped := fork.noteClipped || note.2 } }
  | .handover _ | .review _ | .goalTurn => mark

/-- The row with its text and tool cut, marked as a preview if the client has to repair it. The flag is the mark. -/
def TranscriptEntryView.withCut (entry : TranscriptEntryView) (text : Option String × Bool)
    (tool : Option (ToolCallView × Bool)) : TranscriptEntryView × Bool :=
  let cut := { entry with text := text.1, tool := tool.map Prod.fst }
  let toolCut := tool.any Prod.snd
  if text.2 || toolCut then
    let (cut, previewed) := cut.needsRepairAfterCut text.2
    if previewed then ({ cut with contentState := downgradeTo cut.contentState .preview }, true) else (cut, false)
  else (cut, false)

def clipTool (budget : SessionSnapshotCompactBudget) (tool : ToolCallView) : ToolCallView × Bool :=
  let chars := budget.maxTranscriptChars
  let title := truncateWithEllipsis tool.title chars
  let detail := truncateField tool.detail chars
  let command := truncateField tool.command chars
  let query := truncateField tool.query chars
  let url := truncateField tool.url chars
  let inputPreview := truncateField tool.inputPreview chars
  let resultPreview := truncateField tool.resultPreview chars
  let diff := truncateField tool.diff chars
  let fileChanges := truncateFileChanges tool.fileChanges budget.maxFileChanges chars
  ({ tool with
      title := title.1
      detail := detail.1
      command := command.1
      query := query.1
      url := url.1
      inputPreview := inputPreview.1
      resultPreview := resultPreview.1
      diff := diff.1
      fileChanges := fileChanges.1 },
    title.2 || detail.2 || command.2 || query.2 || url.2 || inputPreview.2 || resultPreview.2 || diff.2 ||
      fileChanges.2)

/-- The first cut of a row. The user's own text is left alone. -/
def clipRow (budget : SessionSnapshotCompactBudget) (entry : TranscriptEntryView) : TranscriptEntryView × Bool :=
  let text :=
    if entry.kind ≠ .userText then truncateField entry.text budget.maxTranscriptChars else (entry.text, false)
  let (cut, previewed) := entry.withCut text (entry.tool.map (clipTool budget))
  ({ cut with injection := cut.injection.map (clipCard budget.maxTranscriptChars) }, previewed)

def shrinkTool (budget : SessionSnapshotCompactBudget) (tool : ToolCallView) : ToolCallView × Bool :=
  let chars := budget.fallbackTranscriptChars
  let detail := truncateField tool.detail chars
  let inputPreview := truncateField tool.inputPreview chars
  let resultPreview := truncateField tool.resultPreview chars
  let diff := truncateField tool.diff chars
  let fileChanges := truncateFileChanges tool.fileChanges budget.fallbackFileChanges chars
  ({ tool with
      detail := detail.1
      inputPreview := inputPreview.1
      resultPreview := resultPreview.1
      diff := diff.1
      fileChanges := fileChanges.1 },
    detail.2 || inputPreview.2 || resultPreview.2 || diff.2 || fileChanges.2)

/-- The second cut of a row, under pressure; it spares no one's text. -/
def shrinkRow (budget : SessionSnapshotCompactBudget) (entry : TranscriptEntryView) : TranscriptEntryView × Bool :=
  entry.withCut (truncateField entry.text budget.fallbackTranscriptChars) (entry.tool.map (shrinkTool budget))

def longerThan (chars : Nat) (value : Option String) : Bool :=
  value.any fun text => chars < text.length

def toolIsLong (budget : SessionSnapshotCompactBudget) (tool : ToolCallView) : Bool :=
  let chars := budget.fallbackTranscriptChars
  longerThan chars tool.detail || longerThan chars tool.inputPreview || longerThan chars tool.resultPreview ||
    longerThan chars tool.diff || budget.fallbackFileChanges < tool.fileChanges.length ||
    tool.fileChanges.any fun change => chars < change.diff.length

def rowIsLong (budget : SessionSnapshotCompactBudget) (entry : TranscriptEntryView) : Bool :=
  longerThan budget.fallbackTranscriptChars entry.text || entry.tool.any (toolIsLong budget)

def isSettledEmptyReasoning (entry : TranscriptEntryView) : Bool :=
  entry.kind = .reasoning && entry.status = "completed" && entry.tool.isNone &&
    entry.text.all fun text => trim text = ""

def externalizeQuestions (json : SnapshotJson) (request : AskUserQuestionRequestView) : AskUserQuestionRequestView :=
  { request with
    questionCount := request.questions.length
    contentHash := some (json.questionsContentHash request.questions)
    questions := []
    questionsInlineComplete := false
    detailAvailable := true }

def questionsAreInline (request : AskUserQuestionRequestView) : Bool :=
  request.questionsInlineComplete && !request.questions.isEmpty

/-- `max_by_key` over the requests with inline questions: the last of the largest. -/
def largestInline (json : SnapshotJson) : List (AskUserQuestionRequestView × Nat) → Option Nat → Option Nat
  | [], _ => none
  | (request, index) :: rest, largest =>
    if questionsAreInline request && largest.all fun size => size ≤ json.requestLen request then
      (largestInline json rest (some (json.requestLen request))).or (some index)
    else largestInline json rest largest

def externalizeLargestPendingAskUserQuestion (json : SnapshotJson) (requests : List AskUserQuestionRequestView) :
    Option (List AskUserQuestionRequestView) :=
  (largestInline json requests.zipIdx none).map fun index => requests.modify index (externalizeQuestions json)

def clipLog (maxChars : Nat) (entry : LogEntryView) : LogEntryView :=
  { entry with message := (truncateWithEllipsis entry.message maxChars).1 }

/-- A snapshot being compacted, with the flag it will carry. -/
structure Compaction where
  snapshot : SessionSnapshot
  truncated : Bool

/-- Data that has a dedicated channel goes before the conversation does. -/
def reclaimChannels (s : SessionSnapshot) : Option SessionSnapshot :=
  if s.reviewerThreads ≠ [] then some { s with reviewerThreads := s.reviewerThreads.dropLast }
  else if s.activeWorkflowRuns ≠ [] then some { s with activeWorkflowRuns := s.activeWorkflowRuns.dropLast }
  else if s.activeReviewJobs ≠ [] then some { s with activeReviewJobs := s.activeReviewJobs.dropLast }
  else if s.deviceRecords ≠ [] then some { s with deviceRecords := s.deviceRecords.dropLast }
  else if s.pairedDevices ≠ [] then some { s with pairedDevices := s.pairedDevices.dropLast }
  else if s.pendingPairingRequests ≠ [] then
    some { s with pendingPairingRequests := s.pendingPairingRequests.dropLast }
  else none

def reclaimConversation (json : SnapshotJson) (budget : SessionSnapshotCompactBudget) (c : Compaction) :
    Option Compaction :=
  let s := c.snapshot
  if budget.minTranscriptEntriesBeforeTextShrink < s.transcript.length then
    some { snapshot := { s with transcript := s.transcript.tail }, truncated := true }
  else if budget.minLogsBeforeTextShrink < s.logs.length then
    some { c with snapshot := { s with logs := s.logs.dropLast } }
  else if s.transcript.any (rowIsLong budget) then
    let rows := s.transcript.map (shrinkRow budget)
    some { snapshot := { s with transcript := rows.map Prod.fst }, truncated := c.truncated || rows.any Prod.snd }
  else if s.logs.any fun entry => budget.fallbackLogChars < entry.message.length then
    some { c with snapshot := { s with logs := s.logs.map (clipLog budget.fallbackLogChars) } }
  else if budget.maxPendingAskUserQuestionInlineBytes.isSome then
    (externalizeLargestPendingAskUserQuestion json s.pendingAskUserQuestions).map fun requests =>
      { c with snapshot := { s with pendingAskUserQuestions := requests } }
  else none

/-- One round of the loop over a snapshot that is too long; without a result nothing is left to reclaim. -/
def reclaim (json : SnapshotJson) (budget : SessionSnapshotCompactBudget) (c : Compaction) : Option Compaction :=
  match reclaimChannels c.snapshot with
  | some s => some { c with snapshot := s }
  | none => reclaimConversation json budget c

end Sealwire.Snapshot

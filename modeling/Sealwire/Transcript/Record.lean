import Sealwire.Lib.Text

namespace Sealwire.Transcript

structure FileChangeDiffView where
  path : String
  changeType : String
  diff : String
  deriving DecidableEq

inductive FileChangeApplyState
  | applied
  | rolledBack
  deriving DecidableEq

structure ToolCallView where
  itemType : String
  name : String
  title : String
  kind : Option String
  detail : Option String
  query : Option String
  path : Option String
  url : Option String
  command : Option String
  inputPreview : Option String
  resultPreview : Option String
  diff : Option String
  fileChanges : List FileChangeDiffView
  applyState : Option FileChangeApplyState
  fileChangesOmitted : Bool
  canApply : Option Bool
  deriving DecidableEq

inductive TranscriptEntryKind
  | userText
  | agentText
  | toolCall
  | command
  | reasoning
  | error
  deriving DecidableEq

inductive TranscriptContentState
  | full
  | preview
  | omitted
  deriving DecidableEq

structure TranscriptRecord where
  rowId : String
  providerItemId : Option String
  relayItemId : Option String
  kind : TranscriptEntryKind
  text : Option String
  status : String
  turnId : Option String
  tool : Option ToolCallView
  orderSeq : Int
  withdrawn : Bool
  lastLiveUpsertRevision : Option UInt64
  cut : Bool
  deriving DecidableEq

/-- An entry of a provider read, or of a page as a client gets it. -/
structure TranscriptEntryView where
  rowId : Option String
  itemId : Option String
  orderSeq : Option Int
  withdrawn : Bool
  kind : TranscriptEntryKind
  text : Option String
  status : String
  turnId : Option String
  tool : Option ToolCallView
  contentState : TranscriptContentState
  deriving DecidableEq

def TranscriptRecord.toView (record : TranscriptRecord) : TranscriptEntryView where
  rowId := some record.rowId
  itemId := some record.rowId
  orderSeq := some record.orderSeq
  withdrawn := record.withdrawn
  kind := record.kind
  text := record.text
  status := record.status
  turnId := record.turnId
  tool := record.tool
  contentState := if record.cut then .preview else .full

structure ProviderTranscriptEntry where
  view : TranscriptEntryView
  providerItemId : Option String
  relayItemId : Option String
  deriving DecidableEq

def ProviderTranscriptEntry.providerNamed (view : TranscriptEntryView) : ProviderTranscriptEntry where
  view := view
  providerItemId := view.itemId
  relayItemId := none

def ProviderTranscriptEntry.relayNamed (view : TranscriptEntryView) : ProviderTranscriptEntry where
  view := view
  providerItemId := none
  relayItemId := view.itemId

def mergeFileChangeDiff (existing incoming : String) : String :=
  let existing := trim existing
  let incoming := trim incoming
  if existing = "" then incoming
  else if incoming = "" then existing
  else if existing = incoming then existing
  else if containsText existing incoming then existing
  else if containsText incoming existing then incoming
  else existing ++ "\n" ++ incoming

/-- The first change of the same path takes the incoming one in; without one it is appended. -/
def mergeFileChangeView (fileChanges : List FileChangeDiffView) (incoming : FileChangeDiffView) :
    List FileChangeDiffView :=
  match fileChanges with
  | [] => [incoming]
  | existing :: rest =>
    if existing.path = incoming.path then
      let mergedDiff := mergeFileChangeDiff existing.diff incoming.diff
      { existing with
        diff := if mergedDiff ≠ "" ∨ existing.diff = "" then mergedDiff else existing.diff
        changeType := if existing.changeType = "update" ∧ incoming.changeType ≠ "update"
          then incoming.changeType else existing.changeType } :: rest
    else existing :: mergeFileChangeView rest incoming

def mergeToolFileChanges (existing incoming : List FileChangeDiffView) (mergeFileChanges : Bool) :
    List FileChangeDiffView :=
  if mergeFileChanges then incoming.foldl mergeFileChangeView existing else incoming

def shouldMergeToolFileChanges (existingItemType incomingItemType : String) : Bool :=
  !eqIgnoreAsciiCase existingItemType "turnDiff" && !eqIgnoreAsciiCase incomingItemType "turnDiff"

def isGenericToolTitle (title name : String) : Bool :=
  eqIgnoreAsciiCase (trim title) name || eqIgnoreAsciiCase (trim title) (name ++ " call")

def selectToolTitle (existing incoming name : String) : String :=
  if trim incoming = "" then existing
  else if trim existing = "" then incoming
  else if isGenericToolTitle incoming name && !isGenericToolTitle existing name then existing
  else incoming

def selectToolItemType (existing incoming : String) : String :=
  if trim incoming = "" then existing
  else if trim existing = "" then incoming
  else if eqIgnoreAsciiCase incoming "toolCall" && !eqIgnoreAsciiCase existing "toolCall" then existing
  else incoming

def mergeToolCallView : Option ToolCallView → Option ToolCallView → Option ToolCallView
  | none, none => none
  | some existing, none => some existing
  | none, some incoming => some incoming
  | some existing, some incoming =>
    let name := if trim incoming.name = "" then existing.name else incoming.name
    some {
      itemType := selectToolItemType existing.itemType incoming.itemType
      name := name
      title := selectToolTitle existing.title incoming.title name
      kind := incoming.kind.or existing.kind
      detail := incoming.detail.or existing.detail
      query := incoming.query.or existing.query
      path := incoming.path.or existing.path
      url := incoming.url.or existing.url
      command := incoming.command.or existing.command
      inputPreview := incoming.inputPreview.or existing.inputPreview
      resultPreview := incoming.resultPreview.or existing.resultPreview
      diff := incoming.diff.or existing.diff
      fileChanges := mergeToolFileChanges existing.fileChanges incoming.fileChanges
        (shouldMergeToolFileChanges existing.itemType incoming.itemType)
      applyState := incoming.applyState.or existing.applyState
      fileChangesOmitted := incoming.fileChangesOmitted || existing.fileChangesOmitted
      canApply := none }

/-- The fields two tool calls are compared on; the snapshot-only markers are not among them. -/
def toolCallsEqual : Option ToolCallView → Option ToolCallView → Bool
  | none, none => true
  | some left, some right =>
    left == { right with fileChangesOmitted := left.fileChangesOmitted, canApply := left.canApply }
  | _, _ => false

def textIsLonger : Option String → Option String → Bool
  | some _, none => true
  | some candidate, some baseline => baseline.length < candidate.length
  | _, _ => false

def isCompletedStatus (status : String) : Bool :=
  eqIgnoreAsciiCase status "completed"

def mergeToolCallInto (existing incoming : Option ToolCallView) : Option ToolCallView × Bool :=
  let merged := mergeToolCallView existing incoming
  (merged, !toolCallsEqual existing merged)

def runtimeRecordsDiffer (left right : TranscriptRecord) : Bool :=
  left.providerItemId ≠ right.providerItemId || left.relayItemId ≠ right.relayItemId || left.kind ≠ right.kind ||
    left.text ≠ right.text || left.status ≠ right.status || left.turnId ≠ right.turnId ||
    left.orderSeq ≠ right.orderSeq || left.withdrawn ≠ right.withdrawn ||
    left.lastLiveUpsertRevision ≠ right.lastLiveUpsertRevision || !toolCallsEqual left.tool right.tool

def mergeRuntimeEntryBody (existing incoming : TranscriptRecord) : TranscriptRecord × Bool :=
  if existing.kind = incoming.kind ∧ textIsLonger existing.text incoming.text then
    let merged := { existing with
      status := if isCompletedStatus incoming.status ∧ existing.status ≠ incoming.status
        then incoming.status else existing.status
      turnId := if existing.turnId.isNone ∧ incoming.turnId.isSome then incoming.turnId else existing.turnId
      tool := (mergeToolCallInto existing.tool incoming.tool).1 }
    (merged, runtimeRecordsDiffer existing merged)
  else if isCompletedStatus existing.status ∧ !isCompletedStatus incoming.status then
    let merged := { existing with
      text := if existing.kind = incoming.kind ∧ textIsLonger incoming.text existing.text
        then incoming.text else existing.text
      tool := (mergeToolCallInto existing.tool incoming.tool).1 }
    (merged, runtimeRecordsDiffer existing merged)
  else
    let mergedTool := mergeToolCallView existing.tool incoming.tool
    let mergedTurnId := if existing.lastLiveUpsertRevision.isSome
      then existing.turnId.or incoming.turnId else incoming.turnId.or existing.turnId
    let changed := existing.kind ≠ incoming.kind || existing.text ≠ incoming.text ||
      existing.status ≠ incoming.status || existing.turnId ≠ mergedTurnId || !toolCallsEqual existing.tool mergedTool
    if changed then
      ({ incoming with
          tool := mergedTool
          rowId := existing.rowId
          providerItemId := incoming.providerItemId.or existing.providerItemId
          relayItemId := incoming.relayItemId.or existing.relayItemId
          lastLiveUpsertRevision := incoming.lastLiveUpsertRevision.or existing.lastLiveUpsertRevision
          turnId := mergedTurnId
          orderSeq := existing.orderSeq
          withdrawn := existing.withdrawn || incoming.withdrawn }, true)
    else (existing, false)

/-- Merge a history copy of a row into the row. Either copy being cut leaves it cut. -/
def mergeRuntimeEntry (existing incoming : TranscriptRecord) : TranscriptRecord × Bool :=
  let cut := existing.cut || incoming.cut
  let (merged, changed) := mergeRuntimeEntryBody existing incoming
  ({ merged with cut := cut }, changed || merged.cut ≠ cut)

end Sealwire.Transcript

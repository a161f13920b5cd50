import Sealwire.Transcript.Cursor
import Sealwire.Transcript.RuntimeRuns

namespace Sealwire.Transcript

def threadTranscriptResponseTargetBytes : Nat := 20000

def threadTranscriptEnvelopeUpperBoundBytes : Nat := 384

def saturatingAddUsize (a b : Nat) : Nat :=
  min (a + b) (2 ^ 64 - 1)

/-- How long a row is as it is sent, and whether the patch of a tool call would apply. -/
structure PageEncoding where
  serializedLen : TranscriptEntryView → Nat
  patchIsAppliable : ToolCallView → Bool

/-- The marks of a thread as one reader sees them: a mark cuts or relabels what a row shows, and leaves its name and
its key. -/
structure ThreadInjections where
  apply : ThreadTranscript → TranscriptRecord → TranscriptEntryView → TranscriptEntryView
  rowId_apply : ∀ transcript record view, (apply transcript record view).rowId = view.rowId
  orderSeq_apply : ∀ transcript record view, (apply transcript record view).orderSeq = view.orderSeq

def overlayApplyState (record : TranscriptRecord) (view : TranscriptEntryView)
    (applyStates : Table String FileChangeApplyState) : TranscriptEntryView :=
  match view.tool with
  | none => view
  | some tool =>
    match applyStates.get record.rowId with
    | some state => { view with tool := some { tool with applyState := some state } }
    | none => view

def stripFileChangeDiffsForTransport (encoding : PageEncoding) (entry : TranscriptEntryView) : TranscriptEntryView :=
  match entry.tool with
  | none => entry
  | some tool =>
    if tool.diff.isSome ∨ tool.fileChanges.any (fun change => change.diff ≠ "") then
      { entry with
        tool := some
          { tool with
            canApply := some (encoding.patchIsAppliable tool)
            diff := none
            fileChanges := tool.fileChanges.map fun change => { change with diff := "" }
            fileChangesOmitted := true } }
    else entry

/-- The loop of `build_reverse_thread_transcript_window` over the rows below the upper bound, the newest first: pack rows
while they fit, and at least one. The result are the rows taken and how many are left below them. -/
def reverseWindow (encoding : PageEncoding) (envelope : Nat) (entryAt : TranscriptRecord → TranscriptEntryView) :
    List TranscriptRecord → Nat → List TranscriptEntryView → List TranscriptEntryView × Nat
  | [], _, selected => (selected, 0)
  | record :: older, entryBytesSum, selected =>
    let entry := stripFileChangeDiffsForTransport encoding (entryAt record)
    let entryLen := encoding.serializedLen entry
    let estimated := saturatingAddUsize (saturatingAddUsize (saturatingAddUsize envelope entryBytesSum) entryLen)
      selected.length
    if threadTranscriptResponseTargetBytes < estimated ∧ selected ≠ [] then (selected, older.length + 1)
    else reverseWindow encoding envelope entryAt older (saturatingAddUsize entryBytesSum entryLen) (entry :: selected)

/-- A page of rows, as it is sent. -/
structure ThreadTranscriptResponse where
  threadId : String
  revision : UInt64
  entries : List TranscriptEntryView
  prevCursor : Option String

/-- A runtime with what the relay knows of its unread history, and the space its cursors are minted in. -/
structure LoadedRuntime where
  runtime : ThreadRuntime
  providerHistoryPaged : Bool
  transcriptKeySpace : TranscriptKeySpace
  applyStates : Table String FileChangeApplyState

namespace LoadedRuntime

/-- The provider continuation below the oldest row held, while history remains unread. -/
def unreadProviderHistory (loaded : LoadedRuntime) : Option Nat :=
  loaded.runtime.providerHistoryCursor.filter fun _ => loaded.providerHistoryPaged

def holdsRowsOlderThan (loaded : LoadedRuntime) (cursor : TranscriptCursor) : Bool :=
  match loaded.runtime.transcript.rows.head? with
  | some row => row.orderSeq < cursor.orderKey
  | none => false

def pageView (loaded : LoadedRuntime) (record : TranscriptRecord) (marks : ThreadInjections) : TranscriptEntryView :=
  marks.apply loaded.runtime.transcript record (overlayApplyState record record.toView loaded.applyStates)

/-- `partition_point` of the rows older than the cursor: the keys increase, so these are the first ones. -/
def upperBound (loaded : LoadedRuntime) (before : Option TranscriptCursor) : Nat :=
  match before with
  | none => loaded.runtime.transcript.rows.length
  | some cursor => (loaded.runtime.transcript.rows.takeWhile fun row => row.orderSeq < cursor.orderKey).length

def window (encoding : PageEncoding) (loaded : LoadedRuntime) (threadId : String) (before : Option TranscriptCursor)
    (marks : ThreadInjections) : List TranscriptEntryView × Nat :=
  let envelope := threadTranscriptEnvelopeUpperBoundBytes + threadId.utf8ByteSize
  reverseWindow encoding envelope (fun record => loaded.pageView record marks)
    (loaded.runtime.transcript.rows.take (loaded.upperBound before)).reverse 0 []

def i64Max : Int := 2 ^ 63 - 1

/-- Where the next older page ends: at the first row served, or, where memory is exhausted and the provider is not, at
the oldest key there is. -/
def nextOlderKey (loaded : LoadedRuntime) (before : Option TranscriptCursor) (start : Nat) : Option Int :=
  match loaded.runtime.transcript.rows[start]?, decide (0 < start) with
  | some first, true => some first.orderSeq
  | _, _ =>
    if loaded.unreadProviderHistory.isSome then
      match before, loaded.runtime.transcript.rows.head? with
      | some cursor, some row => some (min cursor.orderKey row.orderSeq)
      | some cursor, none => some cursor.orderKey
      | none, some row => some row.orderSeq
      | none, none => some i64Max
    else none

def transcriptPage (encoding : PageEncoding) (loaded : LoadedRuntime) (threadId : String)
    (before : Option TranscriptCursor) (marks : ThreadInjections) : ThreadTranscriptResponse :=
  let (entries, start) := loaded.window encoding threadId before marks
  { threadId := threadId
    revision := loaded.runtime.transcriptRevision
    entries := entries
    prevCursor := (loaded.nextOlderKey before start).map loaded.transcriptKeySpace.cursorOlderThan }

end LoadedRuntime

end Sealwire.Transcript

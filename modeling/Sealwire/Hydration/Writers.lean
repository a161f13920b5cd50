import Mathlib.Algebra.Group.Nat.Defs
import Sealwire.Hydration.Store

namespace Sealwire.Hydration

open Transcript (TranscriptContentState)

variable {Card : Type} (cards : CardBodies Card)

/-- The merge of a page's rows: a row with a newer copy keeps it. -/
def mergeFreshRow (state : HydrationState Card) (revision : Option Nat) : MergeRow Card := fun existing incoming =>
  match existing.filter fun _ => (transcriptRowKey incoming).any fun key => isStaleCopy state key revision with
  | some held => held
  | none => mergeTranscriptEntry cards existing incoming

def preparedPageRows (page : TranscriptPage Card) : List (Entry Card) :=
  (page.entries.filter fun entry => (transcriptRowKey entry).isSome).map toTranscriptEntry

/-- What the reads of a page settle, judged against the window before the merge. -/
def noteFreshRows (now : Nat) (state : HydrationState Card) (page : TranscriptPage Card) : HydrationState Card :=
  let freshRows := (preparedPageRows page).filter fun row => !isStaleHeldRow state row page.revision
  noteTranscriptRowsSeen (resolveRowsCarriedBy state freshRows page.revision now) freshRows page.revision

/-- `createMergedTranscriptHydrationPagePatch` of an older page, applied. -/
def prependTranscriptPage (now : Nat) (state : HydrationState Card) (page : TranscriptPage Card) :
    HydrationState Card :=
  let rows := preparedPageRows page
  let merge := mergeFreshRow cards state page.revision
  let window : WindowDraft Card := { order := state.order, entries := state.entries }
  let keyed := rowsAreOrderKeyed rows && windowIsOrderKeyed state.order state.entries
  let merged :=
    if keyed then mergeWindowRowsInPlace merge window rows
    else
      { order := uniqueItemIds (rows.filterMap transcriptRowKey ++ state.order)
        entries := mergeIntoEntries merge state.entries rows }
  { noteFreshRows now state page with
    entries := merged.entries
    order := merged.order
    olderCursor := page.prevCursor
    status := if page.prevCursor.isNone then .complete else if state.tailReady then .idle else .loading
    tailReady := decide (merged.order ≠ [])
    keyed := keyed }

/-- `createMergedTailPagePatch`, applied. -/
def mergeTailPage (now : Nat) (state : HydrationState Card) (page : TranscriptPage Card) : HydrationState Card :=
  let window : WindowDraft Card := { order := state.order, entries := state.entries }
  let (merged, keyed) :=
    reconcileAuthoritativeTail (mergeFreshRow cards state page.revision) window (preparedPageRows page)
  { noteFreshRows now state page with
    entries := merged.entries
    order := merged.order
    olderCursor := page.prevCursor
    status := if page.prevCursor.isNone then .complete else .idle
    tailReady := decide (merged.order ≠ [])
    keyed := keyed }

def mergeTranscriptHydrationPage (now : Nat) (state : HydrationState Card) (page : TranscriptPage Card)
    (prepend : Bool) : HydrationState Card :=
  if prepend then prependTranscriptPage cards now state page else mergeTailPage cards now state page

def rowRecoveryRetryBaseMs : Nat := 1000

def rowRecoveryRetryMaxMs : Nat := 30000

def noteTranscriptRowsFailed (state : HydrationState Card) (rowIds : List String) (now : Nat) : HydrationState Card :=
  rowIds.foldl (fun state rowId =>
    match state.unresolvedRows.get rowId with
    | none => state
    | some record =>
      { state with
        unresolvedRows := state.unresolvedRows.set rowId
          { attempts := record.attempts + 1
            inFlight := false
            retryAt := now + min rowRecoveryRetryMaxMs (rowRecoveryRetryBaseMs * 2 ^ record.attempts) } }) state

/-- The owed rows whose time has come, marked in flight, and the earliest retry of the others. -/
def takeDueTranscriptRows (state : HydrationState Card) (now max : Nat) :
    HydrationState Card × List String × Option Nat :=
  state.unresolvedRows.pairs.foldl (fun (taken : HydrationState Card × List String × Option Nat) pair =>
    let (state, due, nextRetryAt) := taken
    if pair.2.inFlight then taken
    else if now < pair.2.retryAt then
      (state, due, some ((nextRetryAt.map (min pair.2.retryAt)).getD pair.2.retryAt))
    else if due.length < max then
      ({ state with unresolvedRows := state.unresolvedRows.set pair.1 { pair.2 with inFlight := true } },
        due ++ [pair.1], nextRetryAt)
    else taken) (state, [], none)

/-- The held body came from a read newer than the answer. -/
def heldReadIsNewer (state : HydrationState Card) (rowId : String) (answerRevision : Option Nat) : Bool :=
  match state.rowBodyRevisions.get rowId, answerRevision with
  | some read, some revision => decide (revision < read.revision)
  | _, _ => false

/-- A newer copy was seen, or the answer was read before the row finished. -/
def refusesRecovered (state : HydrationState Card) (rowId : String) (answerRevision : Option Nat)
    (existing entry : Entry Card) : Bool :=
  isStaleCopy state rowId answerRevision || heldReadIsNewer state rowId answerRevision ||
    (isTerminalEntryStatus existing.status && !isTerminalEntryStatus entry.status)

/-- One recovered row, merged into the row the window holds. -/
def mergeRecoveredRow (now : Nat) (answerRevision : Option Nat) (state : HydrationState Card) (entry : Entry Card) :
    HydrationState Card :=
  match transcriptRowKey entry with
  | none => state
  | some rowId =>
    match state.entries.get rowId with
    | none => state
    | some existing =>
      if refusesRecovered state rowId answerRevision existing entry then state
      else
        let settled := noteRowSeen
          { state with
            entries := state.entries.set rowId (mergeTranscriptEntry cards (some existing) (toTranscriptEntry entry))
            unresolvedRows := state.unresolvedRows.delete rowId } rowId answerRevision
        match answerRevision with
        | none => settled
        | some revision =>
          { settled with
            rowBodyRevisions := settled.rowBodyRevisions.set rowId
              { revision := revision, at_ := now, terminal := isTerminalEntryStatus entry.status } }

/-- A deferred row is asked for again at once. -/
def retryDeferredRow (state : HydrationState Card) (rowId : String) : HydrationState Card :=
  match state.unresolvedRows.get rowId with
  | none => state
  | some record =>
    { state with unresolvedRows := state.unresolvedRows.set rowId { record with inFlight := false, retryAt := 0 } }

/-- `createRecoveredTranscriptRowsPatch`, applied; `bodyRevision` is the snapshot revision of the request. -/
def mergeRecoveredTranscriptRows (now : Nat) (state : HydrationState Card) (page : TranscriptPage Card)
    (requestedIds : List String) (bodyRevision : Option Nat) : HydrationState Card :=
  let merged := page.entries.foldl (mergeRecoveredRow cards now (page.revision.or bodyRevision)) state
  let told := { merged with unresolvedRows := page.missingRows.foldl (·.delete ·) merged.unresolvedRows }
  let owed := requestedIds.filter told.unresolvedRows.has
  let (deferred, retry) := owed.partition fun rowId => decide (rowId ∈ page.deferredRows)
  noteTranscriptRowsFailed (deferred.foldl retryDeferredRow told) retry now

/-- The held row with a placed delta appended; the body is then full. -/
def appendedEntry (existing : Entry Card) (delta : TranscriptDelta) (appendText : Text) : Entry Card :=
  { existing with
    kind := if existing.kind = "" then normalizeTranscriptDeltaKind delta.deltaKind else existing.kind
    status := "running"
    text := some (existing.text.getD [] ++ appendText)
    turnId := (truthy existing.turnId).or (truthy delta.turnId)
    entrySeq := existing.entrySeq.or delta.entrySeq
    orderSeq := existing.orderSeq.or delta.orderSeq
    contentState := .full }

/-- A delta has to start its row, or its text is the middle of a body whose opening is missing. -/
def startsAtZero (delta : TranscriptDelta) : Bool := delta.textOffset.all (· = 0)

/-- The row a delta gives birth to. -/
def bornEntry (delta : TranscriptDelta) (itemId : String) : Entry Card where
  rowId := truthy delta.rowId
  itemId := some itemId
  kind := normalizeTranscriptDeltaKind delta.deltaKind
  text := some (if startsAtZero delta then delta.delta else [])
  status := "running"
  turnId := truthy delta.turnId
  tool := none
  contentState := if startsAtZero delta then .full else .preview
  entrySeq := delta.entrySeq
  orderSeq := delta.orderSeq
  withdrawn := false
  injection := none

/-- The window after a delta, and whether the delta changed what it shows. -/
def applyTranscriptDeltaToWindow (state : HydrationState Card) (delta : TranscriptDelta) :
    HydrationState Card × Bool :=
  match delta.rowKey with
  | none => (state, false)
  | some itemId =>
    if (truthy state.threadId).isNone || (truthy delta.threadId).any fun thread => decide (some thread ≠ state.threadId) then
      (state, false)
    else
      match state.entries.get itemId with
      | some existing =>
        match resolveDeltaAppend (existing.text.getD []) delta.delta delta.textOffset with
        -- Refused: the copy at hand is no longer trusted, so that the body is read again.
        | none => ({ state with entries := state.entries.set itemId { existing with contentState := .preview } }, false)
        | some [] => (state, false)
        | some appendText =>
          ({ state with entries := state.entries.set itemId (appendedEntry existing delta appendText) }, true)
      | none =>
        let placed := upsertWindowRowInPlace { order := state.order, entries := state.entries } (bornEntry delta itemId)
        ({ state with
            entries := placed.entries
            order := placed.order
            keyed := state.keyed && delta.orderSeq.isSome }, startsAtZero delta)

/-- The window may be written to for this thread: it is the thread's, of the session's run, and holds rows. -/
def transcriptWindowIsLoaded (state : HydrationState Card) (threadId : Option String) : Bool :=
  (truthy threadId).isSome && decide (state.threadId = threadId) &&
    sameGeneration state.generation (state.session.bind (·.transcriptGeneration)) && decide (state.order ≠ [])

/-- A patch of a row blanks the copy at hand. -/
def invalidateTranscriptWindowEntryForPatch (state : HydrationState Card) (threadId : Option String)
    (patchedEntry : Entry Card) : HydrationState Card :=
  match transcriptRowKey patchedEntry with
  | none => state
  | some itemId =>
    if !transcriptWindowIsLoaded state threadId then state
    else
      match state.entries.get itemId with
      | none => state
      | some existing =>
        if existing.text.getD [] = [] ∧ existing.contentState ≠ .full then state
        else
          { state with
            entries := state.entries.set itemId { existing with text := some [], contentState := .preview } }

def untrusted (entry : Entry Card) : Entry Card :=
  if entry.contentState = .full then { entry with contentState := .preview } else entry

def markTranscriptWindowNeedsRepair (state : HydrationState Card) : HydrationState Card :=
  if state.entries.size = 0 then state
  else { state with entries := state.entries.mapValues untrusted, needsTailRepair := true }

def maxRetainedHydrationThreads : Nat := 10

def HydrationState.stash (state : HydrationState Card) : Stash Card where
  entries := state.entries
  order := state.order
  olderCursor := state.olderCursor
  signature := state.signature
  tailReady := state.tailReady
  generation := state.generation
  keyed := state.keyed
  unresolved := state.unresolvedRows.keys
  bodyRevisions := state.rowBodyRevisions
  seenRevisions := state.rowSeenRevisions
  bridgeTarget := state.bridgeTarget

/-- The newest `maxRetainedHydrationThreads` of the windows kept. -/
def retained (cache : InsertionMap String (Stash Card)) : InsertionMap String (Stash Card) :=
  (cache.keys.take (cache.size - maxRetainedHydrationThreads)).foldl (·.delete ·) cache

def stashTranscriptHydrationForThread (state : HydrationState Card) : HydrationState Card :=
  match truthy state.threadId with
  | none => state
  | some threadId =>
    if state.order = [] then state
    else { state with threadCache := retained ((state.threadCache.delete threadId).set threadId state.stash) }

/-- `restoreTranscriptHydrationForThread`, applied. -/
def restoreTranscriptHydrationForThread (state : HydrationState Card) (threadId : Option String) :
    HydrationState Card :=
  match (truthy threadId).bind fun threadId => (state.threadCache.get threadId).map (threadId, ·) with
  | none => { state.cleared with threadId := threadId }
  | some (threadId, stash) =>
    { state.cleared with
      entries := stash.entries
      order := stash.order
      olderCursor := stash.olderCursor
      signature := stash.signature
      tailReady := stash.tailReady
      threadId := some threadId
      generation := stash.generation
      keyed := stash.keyed
      unresolvedRows := stash.unresolved.foldl (fun owed rowId => owed.set rowId freshUnresolvedRow) .empty
      rowBodyRevisions := stash.bodyRevisions
      rowSeenRevisions := stash.seenRevisions
      bridgeTarget := stash.bridgeTarget
      needsTailRepair := stash.bridgeTarget.isSome
      threadCache := (state.threadCache.delete threadId).set threadId stash }

def switchTranscriptHydrationThread (state : HydrationState Card) (nextThreadId : Option String) :
    HydrationState Card :=
  restoreTranscriptHydrationForThread (stashTranscriptHydrationForThread state) nextThreadId

/-- The retained window reaches back at least as far as the pin, and holds the pin's first row. -/
def canRetainOlderCursor (state : HydrationState Card) (firstViewedRow : Entry Card) : Bool :=
  match state.order.head?.bind state.entries.get with
  | none => false
  | some firstRetainedRow =>
    (match firstRetainedRow.orderSeq, firstViewedRow.orderSeq with
      | some retained, some viewed => decide (retained ≤ viewed)
      | _, _ => false) && (transcriptRowKey firstViewedRow).any state.entries.has

def adoptViewOnlyTranscript (now : Nat) (state : HydrationState Card) (snapshot : SessionSnapshot Card) :
    HydrationState Card :=
  match state.viewOnlyThread with
  | none => state
  | some pin =>
    match pin.entries with
    | [] => state
    | firstViewedRow :: _ =>
      if some pin.threadId ≠ snapshot.activeThreadId ∨
        sameGeneration pin.relayGeneration snapshot.transcriptGeneration = false then state
      else
        let window := if sameGeneration state.generation snapshot.transcriptGeneration then state
          else { state.cleared with threadId := snapshot.activeThreadId }
        let olderCursor := if canRetainOlderCursor window firstViewedRow then window.olderCursor else pin.olderCursor
        -- The pin holds deltas newer than its last read, so no revision speaks for its rows.
        let merged := mergeTranscriptHydrationPage cards now window
          { threadId := some pin.threadId, entries := pin.entries, prevCursor := olderCursor, revision := none,
            transcriptGeneration := none, missingRows := [], deferredRows := [] } true
        { merged with
          generation := snapshot.transcriptGeneration
          baseSnapshot := some snapshot
          status := if merged.olderCursor.isNone then .complete else .idle
          needsTailRepair := true
          bridgeTarget := pin.lastReadOrderSeq.map fun orderSeq =>
            { orderSeq := orderSeq, olderCursor := merged.olderCursor } }

end Sealwire.Hydration

import Sealwire.Transcript.Store

namespace Sealwire.Transcript

/-- Spacing between consecutively issued order keys. -/
def orderSeqStep : Int := 1048576

/-- The row of a Codex `turn/start` whose turn is not yet represented. -/
structure CodexStartReservation where
  rowId : String
  turnId : Option String
  deriving DecidableEq

/-- What the transcript operations use of a thread's runtime. -/
structure ThreadRuntime where
  activeTurnId : Option String
  transcriptRevision : UInt64
  nextTailOrderSeq : Int
  nextHeadOrderSeq : Int
  transcript : ThreadTranscript
  providerHistoryCursor : Option Nat
  codexUserReservationSeq : UInt64
  codexStartReservation : Option CodexStartReservation

structure TranscriptMutationMeta where
  baseRevision : UInt64
  revision : UInt64
  entrySeq : UInt64
  rowId : String
  orderSeq : Int
  textOffset : Option UInt64
  separatorInserted : Bool
  deriving DecidableEq

inductive PageIdentity
  | provider (providerItemId : String)
  | relay (relayItemId : String)
  | row (rowId : String)
  deriving DecidableEq

def PageIdentity.of (record : TranscriptRecord) : PageIdentity :=
  match record.providerItemId with
  | some providerItemId => .provider providerItemId
  | none =>
    match record.relayItemId with
    | some relayItemId => .relay relayItemId
    | none => .row record.rowId

inductive PageLanding
  | existing (rowId : String)
  | fresh (index : Nat)

/-- The record an entry of a provider read starts as; `rowId` is for an entry without an item id. -/
def recordOfEntry (entry : ProviderTranscriptEntry) (rowId : String) : TranscriptRecord where
  rowId := entry.view.itemId.getD rowId
  providerItemId := entry.providerItemId
  relayItemId := entry.relayItemId
  kind := entry.view.kind
  text := entry.view.text
  status := entry.view.status
  turnId := entry.view.turnId
  tool := entry.view.tool
  orderSeq := 0
  withdrawn := false
  lastLiveUpsertRevision := none
  cut := entry.view.contentState ≠ .full

/-- One round of folding a list of records by a key: a record whose key was seen is merged
into the first one, the others are kept. -/
def mergeByKey {K : Type} [DecidableEq K] (key : TranscriptRecord → Option K)
    (seen : Table K Nat × List TranscriptRecord) (record : TranscriptRecord) : Table K Nat × List TranscriptRecord :=
  match (key record).bind seen.1.get with
  | some kept => (seen.1, seen.2.modify kept fun existing => (mergeRuntimeEntry existing record).1)
  | none =>
    ((match key record with
      | some k => seen.1.put k seen.2.length
      | none => seen.1), seen.2 ++ [record])

def mergeDuplicateProviderRows (records : List TranscriptRecord) : List TranscriptRecord :=
  (records.foldl (mergeByKey fun record => record.providerItemId) (∅, [])).2

/-- The merge of a page's own duplicates, in all three name spaces. -/
def dedupePage (records : List TranscriptRecord) : List TranscriptRecord :=
  (records.foldl (mergeByKey fun record => some (PageIdentity.of record)) (∅, [])).2

/-- The records of a page, its own duplicates merged. -/
def pageRecords (entries : List ProviderTranscriptEntry) (requestedCursor : Option Nat) : List TranscriptRecord :=
  let fallbackPage := match requestedCursor with
    | some cursor => cursor.repr
    | none => "tail"
  dedupePage (entries.zipIdx.map fun entry =>
    recordOfEntry entry.1 ("provider-history-" ++ fallbackPage ++ "-" ++ entry.2.repr))

/-- The records of a whole read, its own duplicates merged. -/
def readRecords (entries : List ProviderTranscriptEntry) : List TranscriptRecord :=
  mergeDuplicateProviderRows (entries.zipIdx.map fun entry => recordOfEntry entry.1 ("history-" ++ entry.2.repr))

def liveUpsertedAfterReadStart (record : TranscriptRecord) (readStartedAtRevision : Option UInt64) : Bool :=
  match readStartedAtRevision, record.lastLiveUpsertRevision with
  | some readStarted, some live => readStarted < live
  | _, _ => false

/-- The keys `base`, `base + step`, … -/
def numberFrom (base step : Int) (records : List TranscriptRecord) : List TranscriptRecord :=
  records.zipIdx.map fun entry => { entry.1 with orderSeq := base + step * (entry.2 : Int) }

namespace ThreadRuntime

/-- The transcript state of a runtime built by `ThreadRuntime::new` or `placeholder`. -/
def new (transcriptRevision : UInt64) : ThreadRuntime where
  activeTurnId := none
  transcriptRevision := transcriptRevision
  nextTailOrderSeq := 0
  nextHeadOrderSeq := -orderSeqStep
  transcript := .new
  providerHistoryCursor := none
  codexUserReservationSeq := 0
  codexStartReservation := none

def fromSyncData (entries : List ProviderTranscriptEntry) (transcriptRevision : UInt64) : Option ThreadRuntime := do
  let numbered ← (readRecords entries).zipIdx.mapM fun entry => do
    let orderSeq ← checkedInt (entry.2 * orderSeqStep)
    some { entry.1 with orderSeq := orderSeq }
  let nextTailOrderSeq ← checkedInt (numbered.length * orderSeqStep)
  let transcript ← ThreadTranscript.fromRows numbered
  some { new transcriptRevision with nextTailOrderSeq := nextTailOrderSeq, transcript := transcript }

def allocTailOrderSeq (runtime : ThreadRuntime) : Option (ThreadRuntime × Int) := do
  let seq := runtime.nextTailOrderSeq
  let next ← checkedInt (seq + orderSeqStep)
  some ({ runtime with nextTailOrderSeq := next }, seq)

/-- Issues `count` ascending keys below everything issued so far and returns the smallest. -/
def allocHeadOrderSeqBlock (runtime : ThreadRuntime) (count : Nat) : Option (ThreadRuntime × Int) :=
  if count = 0 then some (runtime, runtime.nextHeadOrderSeq)
  else do
    let span ← checkedInt (((count : Int) - 1) * orderSeqStep)
    let base ← checkedInt (runtime.nextHeadOrderSeq - span)
    let next ← checkedInt (base - orderSeqStep)
    some ({ runtime with nextHeadOrderSeq := next }, base)

/-- Split a page's records into those of rows already held and the fresh ones, with the
place each record of the page lands at. -/
def landPage (transcript : ThreadTranscript) : List TranscriptRecord → Nat →
    List PageLanding × List (String × TranscriptRecord) × List TranscriptRecord
  | [], _ => ([], [], [])
  | record :: rest, fresh =>
    match transcript.resolveIncoming record with
    | some rowId =>
      let (landed, absorbed, later) := landPage transcript rest fresh
      (.existing rowId :: landed, (rowId, record) :: absorbed, later)
    | none =>
      let (landed, absorbed, later) := landPage transcript rest (fresh + 1)
      (.fresh fresh :: landed, absorbed, record :: later)

/-- An older page supplies a held row's tool, and may withdraw it or mark it cut. -/
def absorbRecord (transcript : ThreadTranscript) (absorbed : String × TranscriptRecord) : ThreadTranscript :=
  (transcript.updateRow absorbed.1 fun existing =>
    ({ existing with
        tool := (mergeToolCallInto existing.tool absorbed.2.tool).1
        withdrawn := existing.withdrawn || absorbed.2.withdrawn
        cut := existing.cut || absorbed.2.cut }, ())).1

def prependProviderHistory (runtime : ThreadRuntime) (entries : List ProviderTranscriptEntry)
    (requestedCursor prevCursor : Option Nat) : Option (ThreadRuntime × List TranscriptEntryView) := do
  let (landed, absorbed, fresh) := landPage runtime.transcript (pageRecords entries requestedCursor) 0
  let runtime := { runtime with transcript := absorbed.foldl absorbRecord runtime.transcript }
  let (runtime, base) ← runtime.allocHeadOrderSeqBlock fresh.length
  let (transcript, minted) ← runtime.transcript.insertBefore 0 (numberFrom base orderSeqStep fresh)
  let views := landed.filterMap fun slot => do
    let rowId ← match slot with
      | .existing rowId => some rowId
      | .fresh index => minted[index]?
    (transcript.getRow rowId).map TranscriptRecord.toView
  some ({ runtime with transcript := transcript, providerHistoryCursor := prevCursor }, views)

/-- A row born at the tail under the next key. -/
def birthRow (runtime : ThreadRuntime) (record : TranscriptRecord) : Option (ThreadRuntime × String × Int) := do
  let (runtime, orderSeq) ← runtime.allocTailOrderSeq
  let (transcript, rowId) ← runtime.transcript.push { record with orderSeq := orderSeq }
  some ({ runtime with transcript := transcript }, rowId, orderSeq)

/-- Append records one by one, each under the next tail key. -/
def appendRecords (runtime : ThreadRuntime) (records : List TranscriptRecord) : Option ThreadRuntime :=
  records.foldlM (fun runtime record => (runtime.birthRow record).map Prod.fst) runtime

/-- Insert a run of rows directly before `index`, keyed strictly between its neighbours. -/
def insertRecordsBefore (runtime : ThreadRuntime) (index : Nat) (records : List TranscriptRecord) :
    Option ThreadRuntime :=
  if index = runtime.transcript.rows.length then runtime.appendRecords records
  else if index = 0 then do
    let (runtime, base) ← runtime.allocHeadOrderSeqBlock records.length
    let (transcript, _) ← runtime.transcript.insertBefore index (numberFrom base orderSeqStep records)
    some { runtime with transcript := transcript }
  else do
    let prev ← runtime.transcript.rows[index - 1]?
    let next ← runtime.transcript.rows[index]?
    let count : Int := records.length
    let gap ← checkedInt (next.orderSeq - prev.orderSeq)
    if count < gap then do
      let spacing := gap / (count + 1)
      let (transcript, _) ← runtime.transcript.insertBefore index
        (numberFrom (prev.orderSeq + spacing) spacing records)
      some { runtime with transcript := transcript }
    else none

def hasEquivalentUserMessage (runtime : ThreadRuntime) (entry : TranscriptRecord) : Bool :=
  if entry.kind ≠ .userText ∨ entry.text.isNone then false
  else runtime.transcript.rows.any fun candidate =>
    candidate.kind = .userText && candidate.text = entry.text && candidate.providerItemId.isNone

/-- The merge of a history read, between two of its records. -/
structure HistoryMerge where
  runtime : ThreadRuntime
  changed : Bool
  pending : List TranscriptRecord
  tailPendingFloor : Nat

/-- Records held back are put in before the row of the next known record. -/
def flushBefore (merge : HistoryMerge) (rowId : String) : Option HistoryMerge :=
  if merge.pending = [] then some merge
  else do
    let anchor ← merge.runtime.transcript.indexOfRow rowId
    let runtime ← merge.runtime.insertRecordsBefore anchor merge.pending
    some { merge with runtime := runtime, changed := true, pending := [] }

def mergeRecord (merge : HistoryMerge) (record : TranscriptRecord) : Option HistoryMerge :=
  match merge.runtime.transcript.resolveIncoming record with
  | some rowId => do
    let merge ← flushBefore merge rowId
    let index ← merge.runtime.transcript.indexOfRow rowId
    let (transcript, merged) := merge.runtime.transcript.updateRow rowId fun existing => mergeRuntimeEntry existing record
    let transcript := match record.providerItemId with
      | some providerItemId => (transcript.bindProviderItemId rowId providerItemId).1
      | none => transcript
    some { merge with
      runtime := { merge.runtime with transcript := transcript }
      changed := merge.changed || merged.getD false
      tailPendingFloor := index + 1 }
  | none =>
    if merge.runtime.hasEquivalentUserMessage record then some merge
    else some { merge with pending := merge.pending ++ [record] }

/-- Step back over the rows at the tail that were born live during the read and are not in it. -/
def tailBoundary (rows : List TranscriptRecord) (readStartedAtRevision : Option UInt64) (incomingIds : List String)
    (floor : Nat) : Nat → Nat
  | 0 => 0
  | boundary + 1 =>
    if floor < boundary + 1 then
      match rows[boundary]? with
      | some candidate =>
        if liveUpsertedAfterReadStart candidate readStartedAtRevision && !incomingIds.contains candidate.rowId then
          tailBoundary rows readStartedAtRevision incomingIds floor boundary
        else boundary + 1
      | none => boundary + 1
    else boundary + 1

def mergeTranscriptRecordsAfterReadStart (runtime : ThreadRuntime) (records : List TranscriptRecord)
    (readStartedAtRevision : Option UInt64) : Option (ThreadRuntime × Bool) := do
  let incomingIds := records.filterMap runtime.transcript.resolveIncoming
  let merge ← records.foldlM mergeRecord
    { runtime := runtime, changed := false, pending := [], tailPendingFloor := 0 }
  if merge.pending = [] then some (merge.runtime, merge.changed)
  else do
    let boundary := tailBoundary merge.runtime.transcript.rows readStartedAtRevision incomingIds
      merge.tailPendingFloor merge.runtime.transcript.rows.length
    let runtime ← merge.runtime.insertRecordsBefore boundary merge.pending
    some (runtime, true)

/-- `bump_thread_transcript_revision`, with the revision the relay's clock gave. -/
def bumpRevision (runtime : ThreadRuntime) (revision : UInt64) : ThreadRuntime :=
  { runtime with transcriptRevision := revision }

def updateRow (runtime : ThreadRuntime) (rowId : String) (edit : TranscriptRecord → TranscriptRecord) :
    ThreadRuntime :=
  { runtime with transcript := (runtime.transcript.updateRow rowId fun entry => (edit entry, ())).1 }

def stampTranscriptItemSeq (runtime : ThreadRuntime) (rowId : String) (revision : UInt64) : ThreadRuntime :=
  runtime.updateRow rowId fun entry => { entry with lastLiveUpsertRevision := some revision }

/-- The row a name resolves to, with its place. -/
def liveRow (runtime : ThreadRuntime) (space : IdSpace) (itemId : String) : Option (Nat × TranscriptRecord) := do
  let index ← runtime.transcript.resolveIndexIn space itemId
  let row ← runtime.transcript.rows[index]?
  some (index, row)

/-- Edit the row the name resolves to, or give birth to one. The result names the row, its
place counted from one, and its key. -/
def writeRow (runtime : ThreadRuntime) (space : IdSpace) (itemId : String)
    (edit : TranscriptRecord → TranscriptRecord) (born : TranscriptRecord) :
    Option (ThreadRuntime × String × Nat × Int) :=
  match runtime.liveRow space itemId with
  | some (index, row) => some (runtime.updateRow row.rowId edit, row.rowId, index + 1, row.orderSeq)
  | none => (runtime.birthRow born).map fun (next, rowId, orderSeq) =>
      (next, rowId, runtime.transcript.rows.length + 1, orderSeq)

/-- The write all live upserts and deltas make: write the row, bump the revision and stamp
the row with it. -/
def writeLive (runtime : ThreadRuntime) (space : IdSpace) (itemId : String)
    (edit : TranscriptRecord → TranscriptRecord) (born : TranscriptRecord) (revision : UInt64) :
    Option (ThreadRuntime × TranscriptMutationMeta) := do
  let (written, rowId, entrySeq, orderSeq) ← runtime.writeRow space itemId edit born
  some ((written.bumpRevision revision).stampTranscriptItemSeq rowId revision,
    { baseRevision := runtime.transcriptRevision, revision := revision, entrySeq := UInt64.ofNat entrySeq,
      rowId := rowId, orderSeq := orderSeq, textOffset := none, separatorInserted := false })

/-- A row as it is born under `itemId`, before its key is issued. -/
def bornRecord (space : IdSpace) (itemId : String) (kind : TranscriptEntryKind) (text : Option String)
    (status : String) (turnId : Option String) (tool : Option ToolCallView) : TranscriptRecord where
  rowId := itemId
  providerItemId := space.providerNameOf itemId
  relayItemId := space.relayNameOf itemId
  kind := kind
  text := text
  status := status
  turnId := turnId
  tool := tool
  orderSeq := 0
  withdrawn := false
  lastLiveUpsertRevision := none
  cut := false

def upsertItem (runtime : ThreadRuntime) (itemId : String) (space : IdSpace) (kind : TranscriptEntryKind)
    (text : Option String) (status : String) (turnId : Option String) (tool : Option ToolCallView)
    (revision : UInt64) : Option (ThreadRuntime × TranscriptMutationMeta) :=
  runtime.writeLive space itemId
    (fun entry => { entry with
      kind := kind
      text := text.or entry.text
      status := status
      turnId := turnId
      tool := if kind = .toolCall then mergeToolCallView entry.tool tool else tool })
    (bornRecord space itemId kind text status turnId tool) revision

def appendAgentDelta (runtime : ThreadRuntime) (space : IdSpace) (itemId delta turnId : String)
    (revision : UInt64) : Option (ThreadRuntime × TranscriptMutationMeta) := do
  let textOffset := match runtime.liveRow space itemId with
    | some (_, row) => utf16Count (row.text.getD "")
    | none => 0
  let (runtime, mutation) ← runtime.writeLive space itemId
    (fun entry => { entry with
      kind := .agentText
      text := some (entry.text.getD "" ++ delta)
      status := "streaming"
      turnId := entry.turnId.or (some turnId)
      tool := none })
    (bornRecord space itemId .agentText (some delta) "streaming" (some turnId) none) revision
  some (runtime, { mutation with textOffset := some textOffset })

def needsSeparator (text delta : String) : Bool :=
  text ≠ "" && text.toList.getLast? ≠ some '\n' && delta.toList.head? ≠ some '\n'

def keepOnlyCommandTool (tool : Option ToolCallView) : Option ToolCallView :=
  tool.filter fun tool => tool.itemType = "commandExecution"

def appendCommandDelta (runtime : ThreadRuntime) (itemId delta : String) (revision : UInt64) :
    Option (ThreadRuntime × TranscriptMutationMeta) := do
  let separatorInserted := match runtime.liveRow .provider itemId with
    | some (_, row) => needsSeparator (row.text.getD "") delta
    | none => false
  let (runtime, mutation) ← runtime.writeLive .provider itemId
    (fun entry => { entry with
      kind := .command
      text := some (let text := entry.text.getD ""
        if needsSeparator text delta then text ++ "\n" ++ delta else text ++ delta)
      status := if trim entry.status = "" ∨ entry.status = "completed" then "running" else entry.status
      tool := keepOnlyCommandTool entry.tool })
    (bornRecord .provider itemId .command (some delta) "running" none none) revision
  some (runtime, { mutation with separatorInserted := separatorInserted })

def canClaimTurn (reservation : CodexStartReservation) (transcript : ThreadTranscript) (turnId : String) : Bool :=
  match reservation.turnId with
  | some bound => bound = turnId
  | none =>
    let reservationIndex := (transcript.indexOfRow reservation.rowId).getD transcript.rows.length
    !transcript.rows.zipIdx.any fun entry =>
      entry.1.turnId = some turnId && (entry.1.kind = .userText || entry.2 < reservationIndex)

/-- The row of the user message an echo is about: the turn's user row, else the reservation's. -/
def reconciledRow (runtime : ThreadRuntime) (turnId : String) : Option String :=
  match runtime.transcript.rows.find? fun entry => entry.kind = .userText && entry.turnId = some turnId with
  | some entry => some entry.rowId
  | none =>
    (runtime.codexStartReservation.filter fun reservation =>
      canClaimTurn reservation runtime.transcript turnId).map (·.rowId)

def reconciledEntry (text turnId : String) (entry : TranscriptRecord) : TranscriptRecord :=
  { entry with
    kind := .userText
    text := if text = "" then entry.text else some text
    status := "completed"
    turnId := some turnId
    tool := none }

/-- The reservation of the reconciled row learns its turn, if it has none yet. -/
def claimReservation (runtime : ThreadRuntime) (localId turnId : String) : ThreadRuntime :=
  { runtime with codexStartReservation := runtime.codexStartReservation.map fun reservation =>
      if reservation.rowId = localId ∧ reservation.turnId.isNone then { reservation with turnId := some turnId }
      else reservation }

def reconcileCodexUserReservation (runtime : ThreadRuntime) (providerItemId text turnId : String)
    (revision : UInt64) : ThreadRuntime × Bool :=
  match runtime.reconciledRow turnId with
  | none => (runtime, false)
  | some localId =>
    let runtime := runtime.claimReservation localId turnId
    match runtime.transcript.updateRow localId fun entry => (reconciledEntry text turnId entry, ()) with
    | (transcript, none) => ({ runtime with transcript := transcript }, false)
    | (transcript, some _) =>
      let bound := (transcript.bindProviderItemId localId providerItemId).1
      (({ runtime with transcript := bound }).bumpRevision revision, true)

/-- `threadId` and the relay's `generation` make the reserved row's name. -/
def beginCodexUserTurn (runtime : ThreadRuntime) (generation threadId text : String) (revision : UInt64) :
    Option (ThreadRuntime × Except String String) :=
  if runtime.activeTurnId.isSome then
    some (runtime, .error "Codex already has an active turn for this thread")
  else if runtime.codexStartReservation.isSome then
    some (runtime, .error "the previous Codex turn/start is still unresolved for this thread")
  else do
    let seq := saturatingAdd runtime.codexUserReservationSeq 1
    let itemId := "codex:user-reserve:" ++ generation ++ ":" ++ threadId ++ ":" ++ seq.toNat.repr
    let reserving := { runtime with codexUserReservationSeq := seq }
    let (runtime, _) ← reserving.upsertItem itemId .row .userText (some text) "completed" none none revision
    some ({ runtime with codexStartReservation := some { rowId := itemId, turnId := none } }, .ok itemId)

def bindCodexUserReservation (runtime : ThreadRuntime) (reservationId turnId : String) (revision : UInt64) :
    ThreadRuntime :=
  match runtime.codexStartReservation with
  | none => runtime
  | some reservation =>
    if reservation.rowId ≠ reservationId ∨ reservation.turnId.isSome then runtime
    else
      let runtime := { runtime with codexStartReservation := some { reservation with turnId := some turnId } }
      (runtime.updateRow reservationId fun entry => { entry with turnId := some turnId }).bumpRevision revision

def isWithdrawableReservationRow (entry : TranscriptRecord) (reservationId : String) : Bool :=
  entry.rowId = reservationId && entry.kind = .userText && entry.turnId.isNone

def markReservationRowWithdrawn (transcript : ThreadTranscript) (reservationId : String) : ThreadTranscript :=
  transcript.updateAll (fun () entry =>
    (if isWithdrawableReservationRow entry reservationId then { entry with withdrawn := true } else entry, ())) ()

def failCodexUserTurnDefinitive (runtime : ThreadRuntime) (reservationId : String) (revision : UInt64) :
    ThreadRuntime :=
  match runtime.codexStartReservation with
  | none => runtime
  | some reservation =>
    if reservation.rowId ≠ reservationId ∨ reservation.turnId.isSome then runtime
    else
      ({ runtime with
        codexStartReservation := none
        transcript := markReservationRowWithdrawn runtime.transcript reservationId }).bumpRevision revision

def finishCodexStartReservation (runtime : ThreadRuntime) (turnId : String) : ThreadRuntime :=
  if runtime.codexStartReservation.any fun reservation => reservation.turnId = some turnId then
    { runtime with codexStartReservation := none }
  else runtime

end ThreadRuntime

end Sealwire.Transcript

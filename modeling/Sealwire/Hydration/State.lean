import Sealwire.Hydration.Placement

namespace Sealwire.Hydration

variable {Card : Type}

/-- What the window reads of a session snapshot. -/
structure SessionSnapshot (Card : Type) where
  activeThreadId : Option String
  activeTurnId : Option String
  transcriptRevision : Option Nat
  transcriptGeneration : Option String
  transcriptTruncated : Bool
  transcript : List (Entry Card)

/-- A page of a thread, or an answer to a request for rows by id. -/
structure TranscriptPage (Card : Type) where
  threadId : Option String
  entries : List (Entry Card)
  prevCursor : Option String
  revision : Option Nat
  transcriptGeneration : Option String
  missingRows : List String
  deferredRows : List String

structure TranscriptDelta where
  rowId : Option String
  itemId : Option String
  threadId : Option String
  delta : Text
  deltaKind : Option String
  textOffset : Option Nat
  turnId : Option String
  entrySeq : Option Int
  orderSeq : Option Int
  revision : Option Nat
  baseRevision : Option Nat
  transcriptGeneration : Option String

def TranscriptDelta.rowKey (delta : TranscriptDelta) : Option String :=
  (delta.rowId.or delta.itemId).filter (· ≠ "")

/-- A row whose body is still owed to the screen. -/
structure UnresolvedRow where
  attempts : Nat
  retryAt : Nat
  inFlight : Bool

def freshUnresolvedRow : UnresolvedRow where
  attempts := 0
  retryAt := 0
  inFlight := false

/-- The read a held body came from. -/
structure BodyRead where
  revision : Nat
  at_ : Nat
  terminal : Bool

structure BridgeTarget where
  orderSeq : Int
  olderCursor : Option String

inductive HydrationStatus
  | idle
  | loading
  | complete
  deriving DecidableEq

/-- A window kept for a thread the reader left. -/
structure Stash (Card : Type) where
  entries : Entries Card
  order : List String
  olderCursor : Option String
  signature : Option String
  tailReady : Bool
  generation : Option String
  keyed : Bool
  unresolved : List String
  bodyRevisions : InsertionMap String BodyRead
  seenRevisions : InsertionMap String Nat
  bridgeTarget : Option BridgeTarget

/-- A thread drawn without being the active one. -/
structure ViewOnlyThread (Card : Type) where
  threadId : String
  entries : List (Entry Card)
  olderCursor : Option String
  relayGeneration : Option String
  lastReadOrderSeq : Option Int

structure HydrationState (Card : Type) where
  session : Option (SessionSnapshot Card)
  viewOnlyThread : Option (ViewOnlyThread Card)
  baseSnapshot : Option (SessionSnapshot Card)
  entries : Entries Card
  fetchedRevision : Option Nat
  bodyRevision : Option Nat
  order : List String
  olderCursor : Option String
  promise : Option Nat
  signature : Option String
  status : HydrationStatus
  tailReady : Bool
  threadId : Option String
  generation : Option String
  keyed : Bool
  unresolvedRows : InsertionMap String UnresolvedRow
  rowBodyRevisions : InsertionMap String BodyRead
  rowSeenRevisions : InsertionMap String Nat
  tailSawShells : Bool
  needsTailRepair : Bool
  bridgeTarget : Option BridgeTarget
  threadCache : InsertionMap String (Stash Card)

/-- `createClearedTranscriptHydrationPatch`, applied. -/
def HydrationState.cleared (state : HydrationState Card) : HydrationState Card :=
  { state with
    baseSnapshot := none
    entries := .empty
    fetchedRevision := none
    bodyRevision := none
    order := []
    olderCursor := none
    promise := none
    signature := none
    status := .idle
    tailReady := false
    threadId := none
    generation := none
    keyed := true
    unresolvedRows := .empty
    rowBodyRevisions := .empty
    rowSeenRevisions := .empty
    tailSawShells := false
    needsTailRepair := false
    bridgeTarget := none }

/-- Nothing has been loaded yet. -/
def HydrationState.fresh : HydrationState Card where
  session := none
  viewOnlyThread := none
  baseSnapshot := none
  entries := .empty
  fetchedRevision := none
  bodyRevision := none
  order := []
  olderCursor := none
  promise := none
  signature := none
  status := .idle
  tailReady := false
  threadId := none
  generation := none
  keyed := true
  unresolvedRows := .empty
  rowBodyRevisions := .empty
  rowSeenRevisions := .empty
  tailSawShells := false
  needsTailRepair := false
  bridgeTarget := none
  threadCache := .empty

/-- Whether two sides name the same run of the relay; one without a name has the empty one. -/
def sameGeneration (a b : Option String) : Bool := a.getD "" = b.getD ""

def transcriptHydrationSignature (snapshot : SessionSnapshot Card) : String :=
  let ofEntry (entry : Entry Card) : List String :=
    let ofTool (field : Transcript.ToolCallView → Option String) := (entry.tool.bind field).getD ""
    [(transcriptRowKey entry).getD "", entry.kind, entry.turnId.getD "", ofTool (some ·.itemType), ofTool (some ·.name),
      ofTool (·.path), ofTool (·.url), ofTool (·.command)]
  "|".intercalate ([snapshot.activeThreadId.getD "", snapshot.activeTurnId.getD "", snapshot.transcript.length.repr] ++
    snapshot.transcript.flatMap ofEntry)

/-- The transcript moved on since the last read, and no turn is running. -/
def turnSettledSinceHydration (state : HydrationState Card) (snapshot : SessionSnapshot Card) : Bool :=
  (truthy snapshot.activeTurnId).isNone && snapshot.transcriptRevision.isSome && state.bodyRevision.isSome &&
    decide (snapshot.transcriptRevision ≠ state.bodyRevision)

def noteRowSeen (state : HydrationState Card) (rowId : String) (revision : Option Nat) : HydrationState Card :=
  match revision with
  | none => state
  | some revision =>
    if (state.rowSeenRevisions.get rowId).all fun prior => decide (prior < revision) then
      { state with rowSeenRevisions := state.rowSeenRevisions.set rowId revision }
    else state

def isStaleCopy (state : HydrationState Card) (rowId : String) (revision : Option Nat) : Bool :=
  match revision, state.rowSeenRevisions.get rowId with
  | some revision, some seen => decide (revision < seen)
  | _, _ => false

/-- A page row that the window already holds a newer copy of. -/
def isStaleHeldRow (state : HydrationState Card) (row : Entry Card) (revision : Option Nat) : Bool :=
  (transcriptRowKey row).any fun rowId => state.entries.has rowId && isStaleCopy state rowId revision

def noteTranscriptRowsSeen (state : HydrationState Card) (rows : List (Entry Card)) (revision : Option Nat) :
    HydrationState Card :=
  rows.foldl (fun state row =>
    match transcriptRowKey row with
    | none => state
    | some rowId => noteRowSeen state rowId revision) state

/-- What a read settles of the rows it carries. -/
def resolveRowsCarriedBy (state : HydrationState Card) (rows : List (Entry Card)) (bodyRevision : Option Nat)
    (now : Nat) : HydrationState Card :=
  rows.foldl (fun state row =>
    match transcriptRowKey row with
    | none => state
    | some rowId =>
      { state with
        unresolvedRows := state.unresolvedRows.delete rowId
        rowBodyRevisions := match bodyRevision with
          | none => state.rowBodyRevisions
          | some revision => state.rowBodyRevisions.set rowId
              { revision := revision, at_ := now, terminal := isTerminalEntryStatus row.status } }) state

/-- A status or withdrawal change, an apply state or a card that moved, or a full copy that differs. -/
def snapshotRowTellsSomethingNew (cards : CardBodies Card) (existing : Option (Entry Card)) (incoming : Entry Card) :
    Bool :=
  match existing with
  | none => true
  | some held =>
    decide (held.status ≠ incoming.status) || decide (held.withdrawn ≠ incoming.withdrawn) ||
      decide (held.tool.bind (·.applyState) ≠ incoming.tool.bind (·.applyState)) ||
      decide (held.tool.bind (·.canApply) ≠ incoming.tool.bind (·.canApply)) ||
      decide (cards.stringifyInjection held.injection ≠ cards.stringifyInjection incoming.injection) ||
      (isFullContent incoming && (decide (held.text ≠ incoming.text) ||
        decide (cards.stringifyTool held.tool ≠ cards.stringifyTool incoming.tool)))

def runningRowRefreshMs : Nat := 1500

/-- Whether the row's body is owed, given the copy held before this snapshot. -/
def rowNeedsRecovery (existing : Option (Entry Card)) (incoming : Entry Card) (snapshot : SessionSnapshot Card)
    (bodyRevisions : InsertionMap String BodyRead) (now : Nat) : Bool :=
  let read := (transcriptRowKey incoming).bind bodyRevisions.get
  if incoming.withdrawn || existing.any (·.withdrawn) then false
  else if incoming.contentState = .full then false
  else if !isTerminalEntryStatus incoming.status then
    match existing with
    | none => true
    | some held =>
      held.contentState = .omitted ||
        (incoming.contentState = .omitted && read.any fun read =>
          (snapshot.transcriptRevision.any fun revision => decide (read.revision < revision)) &&
            decide (runningRowRefreshMs ≤ now - read.at_))
  else if !(existing.any fun held => isFullContent held && isTerminalEntryStatus held.status) then true
  else if read.any (!·.terminal) then true
  else if incoming.contentState ≠ .preview then false
  else
    let heldLen := ((existing.bind (·.text)).getD []).length
    let previewLen := (incoming.text.getD []).length
    if heldLen < previewLen then true
    else
      match truthy snapshot.activeTurnId, snapshot.transcriptRevision with
      | none, some revision => read.all fun read => decide (read.revision < revision)
      | _, _ => false

def maxOwedRows : Nat := 128

/-- Forget the oldest rows owed, none in flight and not this one, until the bound holds. -/
def forgetOldest (rowId : String) (unresolved : InsertionMap String UnresolvedRow) :
    List (String × UnresolvedRow) → InsertionMap String UnresolvedRow
  | [] => unresolved
  | (oldestId, record) :: rest =>
    if unresolved.size ≤ maxOwedRows then unresolved
    else forgetOldest rowId
      (if !record.inFlight && decide (oldestId ≠ rowId) then unresolved.delete oldestId else unresolved) rest

def oweRow (unresolved : InsertionMap String UnresolvedRow) (rowId : String) : InsertionMap String UnresolvedRow :=
  if unresolved.has rowId then unresolved
  else
    let owed := unresolved.set rowId freshUnresolvedRow
    forgetOldest rowId owed owed.pairs

end Sealwire.Hydration

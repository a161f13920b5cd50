import Sealwire.Hydration.State

namespace Sealwire.Hydration

variable {Card : Type} (cards : CardBodies Card)

/-- Merge one row of a snapshot's tail into the copy at hand, and keep the owed set in step. -/
def mergeSnapshotTailRow (now : Nat) (snapshot : SessionSnapshot Card) (state : HydrationState Card)
    (existing : Option (Entry Card)) (itemId : String) (entry : Entry Card) : HydrationState Card × Entry Card :=
  let revision := snapshot.transcriptRevision
  match existing.filter fun _ => isStaleCopy state itemId revision with
  | some held => (state, held)
  | none =>
    let incoming := prepareSnapshotOverlayEntry entry
    let seen := if snapshotRowTellsSomethingNew cards existing incoming then noteRowSeen state itemId revision else state
    let unresolved :=
      if rowNeedsRecovery existing incoming snapshot seen.rowBodyRevisions now then oweRow seen.unresolvedRows itemId
      else if incoming.contentState = .full || incoming.withdrawn then seen.unresolvedRows.delete itemId
      else seen.unresolvedRows
    ({ seen with
        unresolvedRows := unresolved
        tailSawShells := seen.tailSawShells || decide (incoming.contentState ≠ .full) },
      mergeTranscriptEntry cards existing incoming)

/-- One row of the tail, written into the window's map. -/
def mergeTailRow (now : Nat) (snapshot : SessionSnapshot Card) (state : HydrationState Card) (entry : Entry Card) :
    HydrationState Card :=
  match transcriptRowKey entry with
  | none => state
  | some itemId =>
    let (state, row) := mergeSnapshotTailRow cards now snapshot state (state.entries.get itemId) itemId entry
    { state with entries := state.entries.set itemId row }

def tailIds (snapshot : SessionSnapshot Card) : List String := snapshot.transcript.filterMap transcriptRowKey

/-- The tail's ids the window holds no row for. -/
def unorderedIds (entries : Entries Card) (snapshot : SessionSnapshot Card) : List String :=
  (tailIds snapshot).filter fun itemId => !entries.has itemId

/-- `createMergedSnapshotTailPatch`, applied. -/
def mergeSnapshotTail (now : Nat) (state : HydrationState Card) (snapshot : SessionSnapshot Card) (signature : String) :
    HydrationState Card :=
  let unordered := unorderedIds state.entries snapshot
  let merged := snapshot.transcript.foldl (mergeTailRow cards now snapshot) state
  let keyed := state.keyed && newTailIdsAreNumbered (tailIds snapshot) unordered merged.entries.get
  { merged with
    baseSnapshot := some snapshot
    order := placeTailIds state.order (tailIds snapshot) unordered merged.entries.get keyed
    signature := some signature
    threadId := snapshot.activeThreadId
    keyed := keyed }

structure PreparedHydration where
  signature : Option String
  shouldHydrate : Bool
  alreadyComplete : Bool
  existingPromise : Option Nat

/-- The window as the snapshot leaves it: merged into, rebuilt, or only told of the snapshot. -/
def takeSnapshot (now : Nat) (state : HydrationState Card) (snapshot : SessionSnapshot Card) (signature : String) :
    HydrationState Card :=
  let sameThread := sameGeneration state.generation snapshot.transcriptGeneration &&
    decide (state.threadId = snapshot.activeThreadId)
  if sameThread && decide (state.order ≠ []) then mergeSnapshotTail cards now state snapshot signature
  else if !sameThread || decide (state.signature ≠ some signature) then
    { state.cleared with
      baseSnapshot := some snapshot
      signature := some signature
      threadId := snapshot.activeThreadId
      generation := some (snapshot.transcriptGeneration.getD "") }
  else { state with baseSnapshot := some snapshot }

/-- Whether the tail page has to be read once more. -/
def reHydrateTail (state : HydrationState Card) (snapshot : SessionSnapshot Card) : Bool :=
  sameGeneration state.generation snapshot.transcriptGeneration && decide (state.threadId = snapshot.activeThreadId) &&
    decide (state.order ≠ []) && decide (state.status ≠ .loading) &&
    (state.needsTailRepair ||
      (!(snapshot.transcriptRevision.isSome && decide (snapshot.transcriptRevision = state.fetchedRevision)) &&
        state.tailSawShells && turnSettledSinceHydration state snapshot))

def prepareTranscriptHydration (now : Nat) (state : HydrationState Card) (snapshot : SessionSnapshot Card) :
    HydrationState Card × PreparedHydration :=
  if snapshot.activeThreadId.isNone || !snapshot.transcriptTruncated then
    (state, { signature := none, shouldHydrate := false, alreadyComplete := false, existingPromise := none })
  else
    let signature := transcriptHydrationSignature snapshot
    let again := reHydrateTail state snapshot
    let taken := takeSnapshot cards now state snapshot signature
    let prepared := if again then
        { taken with
          tailReady := false
          status := .idle
          promise := none
          fetchedRevision := snapshot.transcriptRevision }
      else taken
    (prepared,
      { signature := some signature
        shouldHydrate := again || !state.tailReady
        alreadyComplete := !again && state.tailReady && state.olderCursor.isNone
        existingPromise := if again then none else state.promise })

/-- The state and the rows laid over the window, after one more row of the tail. -/
def overlayTailRow (now : Nat) (snapshot : SessionSnapshot Card) (base : Entries Card)
    (laid : HydrationState Card × Entries Card) (entry : Entry Card) : HydrationState Card × Entries Card :=
  match transcriptRowKey entry with
  | none => laid
  | some itemId =>
    let (state, row) := mergeSnapshotTailRow cards now snapshot laid.1 (base.get itemId) itemId entry
    (state, laid.2.set itemId row)

/-- Whether the tail owes a row, judged as the merge will, without recording anything. -/
def snapshotTailOwesRows (now : Nat) (state : HydrationState Card) (snapshot : SessionSnapshot Card) : Bool :=
  snapshot.transcript.any fun entry =>
    rowNeedsRecovery ((transcriptRowKey entry).bind state.entries.get) (prepareSnapshotOverlayEntry entry) snapshot
      state.rowBodyRevisions now

/-- `buildHydratedTranscriptSnapshot`: the snapshot drawn over the window, which takes the overlay in. -/
def buildHydratedTranscriptSnapshot (now : Nat) (state : HydrationState Card) (snapshot : SessionSnapshot Card) :
    HydrationState Card × SessionSnapshot Card :=
  let (laid, overlay) := snapshot.transcript.foldl (overlayTailRow cards now snapshot state.entries) (state, .empty)
  let unordered := unorderedIds state.entries snapshot
  let overlayRowFor (itemId : String) := (overlay.get itemId).or (state.entries.get itemId)
  let placeKeyed := state.keyed && newTailIdsAreNumbered (tailIds snapshot) unordered overlayRowFor
  let order := placeTailIds state.order (tailIds snapshot) unordered overlayRowFor placeKeyed
  let transcript := order.filterMap overlayRowFor
  if transcript = [] then (laid, snapshot)
  else
    let written := overlay.pairs.foldl (fun entries pair => entries.set pair.1 pair.2) state.entries
    ({ laid with
        entries := written
        order := order
        keyed := if order = state.order then state.keyed else placeKeyed },
      { snapshot with
        transcript := transcript
        transcriptTruncated := laid.olderCursor.isSome || decide (laid.unresolvedRows.size ≠ 0) ||
          snapshotTailOwesRows now laid snapshot })

def restoreHydratedTranscriptSnapshot (now : Nat) (state : HydrationState Card) (snapshot : SessionSnapshot Card) :
    HydrationState Card × SessionSnapshot Card :=
  if snapshot.activeThreadId.isNone || decide (state.threadId ≠ snapshot.activeThreadId) || decide (state.order = []) ||
    !sameGeneration state.generation snapshot.transcriptGeneration then (state, snapshot)
  else buildHydratedTranscriptSnapshot cards now state snapshot

end Sealwire.Hydration

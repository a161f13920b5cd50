import Sealwire.Hydration.Invariant

namespace Sealwire.Hydration

variable {Card : Type} {c : CardBodies Card} (now : Nat)

theorem buildHydratedTranscriptSnapshot_window {state : HydrationState Card} {snapshot : SessionSnapshot Card}
    (ok : state.WindowOk) (once : (tailIds snapshot).Nodup) :
    InWindow state (buildHydratedTranscriptSnapshot c now state snapshot).1 := by
  have start : Overlaid state (state, InsertionMap.empty) [] :=
    ⟨.refl _, fun key row at_row => (by cases at_row), fun key => by simp [InsertionMap.has]⟩
  have overlaid := overlayTailRows_overlaid (c := c) now snapshot snapshot.transcript state start
  rw [List.nil_append] at overlaid
  unfold buildHydratedTranscriptSnapshot
  generalize snapshot.transcript.foldl (overlayTailRow c now snapshot state.entries) (state, .empty) = result
    at overlaid ⊢
  obtain ⟨laid, overlay⟩ := result
  dsimp only
  split
  · exact .of_same overlaid.same ok
  · generalize is_written : overlay.pairs.foldl (fun entries pair => entries.set pair.1 pair.2) state.entries = written
    have at_written (key : String) : written.get key = (overlay.get key).or (state.entries.get key) := by
      rw [← is_written]
      exact InsertionMap.get_foldl_set state.entries overlay.nodup key
    have rowFor : (fun key => (overlay.get key).or (state.entries.get key)) = written.get :=
      funext fun key => (at_written key).symm
    have keeps : Keeps state.entries written := by
      intro key held at_held
      rw [at_written]
      cases at_overlay : overlay.get key with
      | none => exact ⟨held, at_held, .refl held⟩
      | some row => exact ⟨row, rfl, overlaid.kept key row at_overlay held at_held⟩
    have has (key : String) : written.has key = true ↔ state.entries.has key = true ∨ key ∈ tailIds snapshot := by
      have from_tail : overlay.has key = true ↔ key ∈ tailIds snapshot := overlaid.has key
      rw [← from_tail, InsertionMap.has, InsertionMap.has, InsertionMap.has, at_written, Option.isSome_or]
      simp [or_comm]
    rw [rowFor]
    have placed := placed_windowOk ok once keeps has (state.keyed &&
      newTailIdsAreNumbered (tailIds snapshot) (unorderedIds state.entries snapshot) written.get)
      fun proven => by simpa using proven
    refine ⟨overlaid.same.session, overlaid.same.threadId, overlaid.same.generation, overlaid.same.threadCache, ?_, keeps⟩
    unfold HydrationState.WindowOk
    dsimp only
    split
    · rename_i untouched
      refine ⟨placed.lists, fun was_keyed => ?_⟩
      rw [untouched]
      exact (ok.keyed was_keyed).keeps keeps
    · exact placed

theorem restoreHydratedTranscriptSnapshot_window {state : HydrationState Card} {snapshot : SessionSnapshot Card}
    (ok : state.WindowOk) (once : (tailIds snapshot).Nodup) :
    InWindow state (restoreHydratedTranscriptSnapshot c now state snapshot).1 := by
  unfold restoreHydratedTranscriptSnapshot
  split
  · exact .of_same (.refl _) ok
  · exact buildHydratedTranscriptSnapshot_window now ok once

/-- A window with no rows, whoever it is for. -/
structure Emptied (s t : HydrationState Card) : Prop where
  session : t.session = s.session
  threadCache : t.threadCache = s.threadCache
  entries : t.entries = .empty
  order : t.order = []

theorem Emptied.ok {s t : HydrationState Card} (emptied : Emptied s t) : t.WindowOk := by
  unfold HydrationState.WindowOk
  rw [emptied.entries, emptied.order]
  exact .empty _

/-- What a snapshot makes of the window: a step inside it, or an empty one for the snapshot's thread and run. -/
inductive Took (state : HydrationState Card) (snapshot : SessionSnapshot Card) (next : HydrationState Card) : Prop
  | inside (step : InWindow state next)
  | rebuilt (emptied : Emptied state next) (threadId : next.threadId = snapshot.activeThreadId)
      (generation : sameGeneration next.generation snapshot.transcriptGeneration = true)

theorem takeSnapshot_took {state : HydrationState Card} {snapshot : SessionSnapshot Card} (ok : state.WindowOk)
    (once : (tailIds snapshot).Nodup) (signature : String) :
    Took state snapshot (takeSnapshot c now state snapshot signature) := by
  unfold takeSnapshot
  dsimp only
  split
  · rename_i merges
    simp only [Bool.and_eq_true, decide_eq_true_eq] at merges
    exact .inside (mergeSnapshotTail_window now ok once merges.1.2 signature)
  split
  · exact .rebuilt ⟨rfl, rfl, rfl, rfl⟩ rfl (by simp [sameGeneration])
  · exact .inside ⟨rfl, rfl, rfl, rfl, ok, .refl _⟩

theorem Took.schedule {state : HydrationState Card} {snapshot : SessionSnapshot Card} {next : HydrationState Card}
    (took : Took state snapshot next) (status : HydrationStatus) (fetchedRevision : Option Nat) :
    Took state snapshot
      { next with tailReady := false, status := status, promise := none, fetchedRevision := fetchedRevision } := by
  cases took with
  | inside step =>
    exact .inside ⟨step.session, step.threadId, step.generation, step.threadCache, step.ok, step.keeps⟩
  | rebuilt emptied threadId generation =>
    exact .rebuilt ⟨emptied.session, emptied.threadCache, emptied.entries, emptied.order⟩ threadId generation

theorem prepareTranscriptHydration_took {state : HydrationState Card} {snapshot : SessionSnapshot Card}
    (ok : state.WindowOk) (once : (tailIds snapshot).Nodup) :
    Took state snapshot (prepareTranscriptHydration c now state snapshot).1 := by
  unfold prepareTranscriptHydration
  split
  · exact .inside (.of_same (.refl _) ok)
  · dsimp only
    have took := takeSnapshot_took (c := c) now ok once (transcriptHydrationSignature snapshot)
    split
    · exact took.schedule .idle snapshot.transcriptRevision
    · exact took

theorem mem_preparedPageRows {page : TranscriptPage Card} {row : Entry Card} (member : row ∈ preparedPageRows page) :
    ∃ key, transcriptRowKey row = some key := by
  obtain ⟨entry, there, rfl⟩ := List.mem_map.mp member
  obtain ⟨key, at_key⟩ := Option.isSome_iff_exists.mp (List.mem_filter.mp there).2
  exact ⟨key, transcriptRowKey_toTranscriptEntry at_key⟩

theorem prependTranscriptPage_window {state : HydrationState Card} (ok : state.WindowOk) (page : TranscriptPage Card) :
    InWindow state (prependTranscriptPage c now state page) := by
  have noted := noteFreshRows_window now state page
  have keepsRows := keepsRows_mergeFreshRow (c := c) state page.revision
  have lists : Lists (WindowDraft.mk state.order state.entries).order (WindowDraft.mk state.order state.entries).entries :=
    ok.lists
  have merged : Merges (preparedPageRows page) { order := state.order, entries := state.entries }
      { order := (prependTranscriptPage c now state page).order
        entries := (prependTranscriptPage c now state page).entries } ∧
      ((prependTranscriptPage c now state page).keyed = true →
        OrderKeyed (prependTranscriptPage c now state page).entries.get
          (prependTranscriptPage c now state page).order) := by
    unfold prependTranscriptPage
    dsimp only
    split
    · rename_i numbered
      have each := numbered
      rw [Bool.and_eq_true] at each
      exact ⟨mergeWindowRowsInPlace_merges lists _, fun _ =>
        mergeWindowRowsInPlace_keyed keepsRows.fresh lists (windowIsOrderKeyed_iff.mp each.2) each.1⟩
    · rename_i positional
      refine ⟨merges_into_order keepsRows.kept lists (uniqueItemIds_nodup _) fun key => ?_, fun claimed => ?_⟩
      · rw [mem_uniqueItemIds, List.mem_append, or_comm]
      · exact absurd claimed positional
  exact ⟨noted.session, noted.threadId, noted.generation, noted.threadCache, ⟨merged.1.lists, merged.2⟩, merged.1.keeps⟩

theorem mergeTailPage_window {state : HydrationState Card} (ok : state.WindowOk) (page : TranscriptPage Card) :
    InWindow state (mergeTailPage c now state page) := by
  have noted := noteFreshRows_window now state page
  have merged := reconcileAuthoritativeTail_merges (keepsRows_mergeFreshRow (c := c) state page.revision)
    (w := { order := state.order, entries := state.entries }) ok.lists (preparedPageRows page)
  exact ⟨noted.session, noted.threadId, noted.generation, noted.threadCache, ⟨merged.1.lists, merged.2⟩, merged.1.keeps⟩

theorem mergeTranscriptHydrationPage_window {state : HydrationState Card} (ok : state.WindowOk)
    (page : TranscriptPage Card) (prepend : Bool) :
    InWindow state (mergeTranscriptHydrationPage c now state page prepend) := by
  unfold mergeTranscriptHydrationPage
  split
  · exact prependTranscriptPage_window now ok page
  · exact mergeTailPage_window now ok page

theorem InWindow.trans {s t u : HydrationState Card} (first : InWindow s t) (second : InWindow t u) : InWindow s u where
  session := second.session.trans first.session
  threadId := second.threadId.trans first.threadId
  generation := second.generation.trans first.generation
  threadCache := second.threadCache.trans first.threadCache
  ok := second.ok
  keeps := first.keeps.trans second.keeps

theorem InWindow.set_held {state : HydrationState Card} (ok : state.WindowOk) {key : String} {held row : Entry Card}
    (at_key : state.entries.get key = some held) (kept : Kept held row) :
    InWindow state { state with entries := state.entries.set key row } where
  session := rfl
  threadId := rfl
  generation := rfl
  threadCache := rfl
  ok := (ok.set_held at_key kept).1
  keeps := (ok.set_held at_key kept).2

theorem mergeRecoveredRow_window {state : HydrationState Card} (ok : state.WindowOk) (revision : Option Nat)
    (entry : Entry Card) : InWindow state (mergeRecoveredRow c now revision state entry) := by
  unfold mergeRecoveredRow
  split
  · exact .of_same (.refl _) ok
  rename_i rowId at_key
  split
  · exact .of_same (.refl _) ok
  rename_i existing at_row
  split
  · exact .of_same (.refl _) ok
  · dsimp only
    have merged := InWindow.set_held ok at_row (kept_mergeHeldEntry (c := c) existing (toTranscriptEntry entry))
    have resolved : InWindow state
        { state with
          entries := state.entries.set rowId (mergeTranscriptEntry c (some existing) (toTranscriptEntry entry))
          unresolvedRows := state.unresolvedRows.delete rowId } :=
      ⟨merged.session, merged.threadId, merged.generation, merged.threadCache, merged.ok, merged.keeps⟩
    have settled := resolved.trans (.of_same (noteRowSeen_window _ rowId revision) resolved.ok)
    split
    · exact settled
    · exact ⟨settled.session, settled.threadId, settled.generation, settled.threadCache, settled.ok, settled.keeps⟩

theorem foldl_inWindow {α : Type} {f : HydrationState Card → α → HydrationState Card}
    (step : ∀ s a, s.WindowOk → InWindow s (f s a)) (list : List α) {state : HydrationState Card} (ok : state.WindowOk) :
    InWindow state (list.foldl f state) := by
  induction list generalizing state with
  | nil => exact .of_same (.refl _) ok
  | cons a rest ih => exact (step state a ok).trans (ih (step state a ok).ok)

theorem noteTranscriptRowsFailed_window (state : HydrationState Card) (rowIds : List String) :
    SameWindow state (noteTranscriptRowsFailed state rowIds now) := by
  refine foldl_window (fun s rowId => ?_) rowIds state
  split
  · exact .refl _
  · exact ⟨rfl, rfl, rfl, rfl, rfl, rfl, rfl⟩

theorem retryDeferredRow_window (state : HydrationState Card) (rowId : String) :
    SameWindow state (retryDeferredRow state rowId) := by
  unfold retryDeferredRow
  split
  · exact .refl _
  · exact ⟨rfl, rfl, rfl, rfl, rfl, rfl, rfl⟩

/-- Past its rows an answer only settles what is owed. -/
theorem recoveredRows_window (state : HydrationState Card) (page : TranscriptPage Card) (requestedIds : List String)
    (bodyRevision : Option Nat) :
    SameWindow (page.entries.foldl (mergeRecoveredRow c now (page.revision.or bodyRevision)) state)
      (mergeRecoveredTranscriptRows c now state page requestedIds bodyRevision) := by
  have told (s : HydrationState Card) (owed : InsertionMap String UnresolvedRow) :
      SameWindow s { s with unresolvedRows := owed } := ⟨rfl, rfl, rfl, rfl, rfl, rfl, rfl⟩
  exact (told _ _).trans ((foldl_window retryDeferredRow_window _ _).trans (noteTranscriptRowsFailed_window now _ _))

theorem mergeRecoveredTranscriptRows_window {state : HydrationState Card} (ok : state.WindowOk)
    (page : TranscriptPage Card) (requestedIds : List String) (bodyRevision : Option Nat) :
    InWindow state (mergeRecoveredTranscriptRows c now state page requestedIds bodyRevision) := by
  have merged := foldl_inWindow (fun s entry (s_ok : s.WindowOk) =>
    mergeRecoveredRow_window (c := c) now s_ok (page.revision.or bodyRevision) entry) page.entries ok
  exact merged.trans (.of_same (recoveredRows_window now state page requestedIds bodyRevision) merged.ok)

theorem applyTranscriptDeltaToWindow_window {state : HydrationState Card} (ok : state.WindowOk)
    (delta : TranscriptDelta) : InWindow state (applyTranscriptDeltaToWindow state delta).1 := by
  unfold applyTranscriptDeltaToWindow
  split
  · exact .of_same (.refl _) ok
  rename_i itemId at_item
  split
  · exact .of_same (.refl _) ok
  split
  · rename_i existing at_row
    split
    · exact .set_held ok at_row ⟨id, fun _ => id⟩
    · exact .of_same (.refl _) ok
    · exact .set_held ok at_row ⟨id, fun seq at_seq => by simp [appendedEntry, at_seq]⟩
  · dsimp only
    have lists : Lists (WindowDraft.mk state.order state.entries).order (WindowDraft.mk state.order state.entries).entries :=
      ok.lists
    have merges := upsertRowAt_merges defaultMergeRow lists (bornEntry delta itemId) none
    refine ⟨rfl, rfl, rfl, rfl, ⟨merges.lists, fun proven => ?_⟩, merges.keeps⟩
    rw [Bool.and_eq_true] at proven
    obtain ⟨seq, numbered⟩ := Option.isSome_iff_exists.mp proven.2
    have is_number : (bornEntry delta itemId : Entry Card).orderSeq = some seq := numbered
    exact upsertRowAt_keyed lists (fun _ => rfl) (ok.keyed proven.1) is_number none

theorem invalidateTranscriptWindowEntryForPatch_window {state : HydrationState Card} (ok : state.WindowOk)
    (threadId : Option String) (patchedEntry : Entry Card) :
    InWindow state (invalidateTranscriptWindowEntryForPatch state threadId patchedEntry) := by
  unfold invalidateTranscriptWindowEntryForPatch
  split
  · exact .of_same (.refl _) ok
  split
  · exact .of_same (.refl _) ok
  split
  · exact .of_same (.refl _) ok
  · rename_i existing at_row
    split
    · exact .of_same (.refl _) ok
    · exact .set_held ok at_row ⟨id, fun _ => id⟩

theorem kept_untrusted (entry : Entry Card) : Kept entry (untrusted entry) := by
  unfold untrusted
  split
  · exact ⟨id, fun _ => id⟩
  · exact .refl _

theorem markTranscriptWindowNeedsRepair_window {state : HydrationState Card} (ok : state.WindowOk) :
    InWindow state (markTranscriptWindowNeedsRepair state) := by
  unfold markTranscriptWindowNeedsRepair
  split
  · exact .of_same (.refl _) ok
  · have keeps : Keeps state.entries (state.entries.mapValues untrusted) := by
      intro key held at_held
      exact ⟨untrusted held, by rw [InsertionMap.get_mapValues, at_held]; rfl, kept_untrusted held⟩
    exact ⟨rfl, rfl, rfl, rfl, ok.keeps keeps fun key => by rw [InsertionMap.has_mapValues]; exact id, keeps⟩

end Sealwire.Hydration

import Mathlib.Data.List.Nodup
import Sealwire.Hydration.Bodies
import Sealwire.Hydration.WindowRuns

namespace Sealwire.Hydration

variable {Card : Type} (c : CardBodies Card)

/-- What reaches a window: a snapshot taken in or drawn over it, a page, recovered rows, or a delta. -/
inductive Delivery (Card : Type)
  | tail (now : Nat) (snapshot : SessionSnapshot Card)
  | overlay (now : Nat) (snapshot : SessionSnapshot Card)
  | page (now : Nat) (page : TranscriptPage Card) (prepend : Bool)
  | rows (now : Nat) (page : TranscriptPage Card) (requestedIds : List String) (bodyRevision : Option Nat)
  | delta (delta : TranscriptDelta)

def Delivery.apply (state : HydrationState Card) : Delivery Card → HydrationState Card
  | .tail now snapshot => (prepareTranscriptHydration c now state snapshot).1
  | .overlay now snapshot => (restoreHydratedTranscriptSnapshot c now state snapshot).1
  | .page now read prepend => mergeTranscriptHydrationPage c now state read prepend
  | .rows now answer requestedIds bodyRevision =>
    mergeRecoveredTranscriptRows c now state answer requestedIds bodyRevision
  | .delta event => (applyTranscriptDeltaToWindow state event).1

/-- The rows of a delivery. -/
def Delivery.entries : Delivery Card → List (Entry Card)
  | .tail _ snapshot => snapshot.transcript
  | .overlay _ snapshot => snapshot.transcript
  | .page _ read _ => read.entries
  | .rows _ answer _ _ => answer.entries
  | .delta _ => []

/-- The window has rows and is recorded for the thread and run of the snapshot. -/
def Delivery.findsWindow (state : HydrationState Card) : Delivery Card → Prop
  | .tail _ snapshot => state.order ≠ [] ∧ state.isFor snapshot.source
  | .overlay _ snapshot => state.order ≠ [] ∧ state.isFor snapshot.source
  | _ => True

/-- The window holds the row, and has seen a newer copy of it. -/
def holdsNewer (state : HydrationState Card) (key : String) (revision : Option Nat) : Bool :=
  state.entries.has key && isStaleCopy state key revision

def tailMove (state : HydrationState Card) (snapshot : SessionSnapshot Card) (key : String) : Option BodyMove :=
  if holdsNewer state key snapshot.transcriptRevision then none
  else (copyIn snapshot.transcript key).map fun entry => .copy (prepareSnapshotOverlayEntry entry).body

/-- What a delivery makes of one row. -/
def Delivery.moveAt (state : HydrationState Card) (key : String) : Delivery Card → Option BodyMove
  | .tail _ snapshot =>
    if snapshot.activeThreadId.isNone || !snapshot.transcriptTruncated then none else tailMove state snapshot key
  | .overlay _ snapshot => if snapshot.activeThreadId.isNone then none else tailMove state snapshot key
  | .page _ read _ =>
    if holdsNewer state key read.revision then none
    else (copyIn read.entries key).map fun entry => .copy (toTranscriptEntry entry).body
  | .rows _ answer _ bodyRevision =>
    (state.entries.get key).bind fun existing =>
      (copyIn answer.entries key).bind fun entry =>
        if refusesRecovered state key (answer.revision.or bodyRevision) existing entry then none
        else some (.copy (toTranscriptEntry entry).body)
  | .delta event =>
    if event.rowKey ≠ some key then none
    else if (truthy state.threadId).isNone || (truthy event.threadId).any fun thread => decide (some thread ≠ state.threadId) then
      none
    else some (.append event.delta event.textOffset)

variable {c}

/-- Nothing that decides what a copy makes of the row has changed. -/
structure Untouched (key : String) (s t : HydrationState Card) : Prop where
  row : t.entries.get key = s.entries.get key
  seen : t.rowSeenRevisions.get key = s.rowSeenRevisions.get key
  read : t.rowBodyRevisions.get key = s.rowBodyRevisions.get key

theorem Untouched.refl (key : String) (s : HydrationState Card) : Untouched key s s := ⟨rfl, rfl, rfl⟩

theorem Untouched.trans {key : String} {s t u : HydrationState Card} (first : Untouched key s t)
    (second : Untouched key t u) : Untouched key s u where
  row := second.row.trans first.row
  seen := second.seen.trans first.seen
  read := second.read.trans first.read

theorem Untouched.isStaleCopy {key : String} {s t : HydrationState Card} (same : Untouched key s t)
    (revision : Option Nat) : isStaleCopy t key revision = isStaleCopy s key revision := by
  unfold Hydration.isStaleCopy
  rw [same.seen]

theorem Untouched.holdsNewer {key : String} {s t : HydrationState Card} (same : Untouched key s t)
    (revision : Option Nat) : holdsNewer t key revision = holdsNewer s key revision := by
  unfold Hydration.holdsNewer InsertionMap.has
  rw [same.row, same.isStaleCopy]

theorem noteRowSeen_untouched {key rowId : String} (other : key ≠ rowId) (state : HydrationState Card)
    (revision : Option Nat) : Untouched key state (noteRowSeen state rowId revision) := by
  unfold noteRowSeen
  split
  · exact .refl _ _
  · split
    · exact ⟨rfl, InsertionMap.get_set_ne _ _ other, rfl⟩
    · exact .refl _ _

section Tail

variable (now : Nat) (snapshot : SessionSnapshot Card)

theorem mergeSnapshotTailRow_untouched {key itemId : String} (other : key ≠ itemId) (state : HydrationState Card)
    (existing : Option (Entry Card)) (entry : Entry Card) :
    Untouched key state (mergeSnapshotTailRow c now snapshot state existing itemId entry).1 := by
  unfold mergeSnapshotTailRow
  dsimp only
  split
  · exact .refl _ _
  · dsimp only
    have seen : Untouched key state (if snapshotRowTellsSomethingNew c existing (prepareSnapshotOverlayEntry entry) = true
        then noteRowSeen state itemId snapshot.transcriptRevision else state) := by
      split
      · exact noteRowSeen_untouched other state _
      · exact .refl _ _
    exact ⟨seen.row, seen.seen, seen.read⟩

/-- What a snapshot's copy makes of the row at hand. -/
theorem mergeSnapshotTailRow_body (state : HydrationState Card) (key : String) (entry : Entry Card) :
    some (mergeSnapshotTailRow c now snapshot state (state.entries.get key) key entry).2.body =
      if holdsNewer state key snapshot.transcriptRevision then bodyAt state key
      else some ((BodyMove.copy (prepareSnapshotOverlayEntry entry).body).apply (bodyAt state key)) := by
  unfold mergeSnapshotTailRow holdsNewer bodyAt InsertionMap.has
  cases at_key : state.entries.get key with
  | none => simp [body_mergeTranscriptEntry]
  | some held =>
    by_cases stale : isStaleCopy state key snapshot.transcriptRevision = true
    · simp [stale, Option.filter]
    · simp [stale, Option.filter, body_mergeTranscriptEntry]

theorem mergeTailRow_other {key : String} {entry : Entry Card} (other : transcriptRowKey entry ≠ some key)
    (state : HydrationState Card) : Untouched key state (mergeTailRow c now snapshot state entry) := by
  unfold mergeTailRow
  split
  · exact .refl _ _
  · rename_i itemId at_key
    have ne : key ≠ itemId := fun same => other (by rw [at_key, same])
    have kept := mergeSnapshotTailRow_untouched (c := c) now snapshot ne state (state.entries.get itemId) entry
    exact ⟨(InsertionMap.get_set_ne _ _ ne).trans kept.row, kept.seen, kept.read⟩

theorem mergeTailRow_own {key : String} {entry : Entry Card} (own : transcriptRowKey entry = some key)
    (state : HydrationState Card) :
    bodyAt (mergeTailRow c now snapshot state entry) key =
      if holdsNewer state key snapshot.transcriptRevision then bodyAt state key
      else some ((BodyMove.copy (prepareSnapshotOverlayEntry entry).body).apply (bodyAt state key)) := by
  rw [← mergeSnapshotTailRow_body (c := c) now snapshot state key entry]
  unfold mergeTailRow
  rw [own]
  simp [bodyAt]

theorem mergeTailRows_none {key : String} {rows : List (Entry Card)} (absent : copyIn rows key = none)
    (state : HydrationState Card) : Untouched key state (rows.foldl (mergeTailRow c now snapshot) state) := by
  induction rows generalizing state with
  | nil => exact .refl _ _
  | cons entry rest ih =>
    by_cases own : transcriptRowKey entry = some key
    · rw [copyIn_cons_of_eq own] at absent
      cases absent
    · rw [copyIn_cons_of_ne own] at absent
      exact (mergeTailRow_other now snapshot own state).trans (ih absent _)

theorem mergeTailRows_bodyAt {key : String} {rows : List (Entry Card)} (once : NamedOnce rows key)
    (state : HydrationState Card) :
    bodyAt (rows.foldl (mergeTailRow c now snapshot) state) key =
      match copyIn rows key with
      | none => bodyAt state key
      | some entry =>
        if holdsNewer state key snapshot.transcriptRevision then bodyAt state key
        else some ((BodyMove.copy (prepareSnapshotOverlayEntry entry).body).apply (bodyAt state key)) := by
  induction rows generalizing state with
  | nil => rfl
  | cons entry rest ih =>
    rw [List.foldl_cons]
    by_cases own : transcriptRowKey entry = some key
    · have later := mergeTailRows_none (c := c) now snapshot (once.rest own)
        (mergeTailRow c now snapshot state entry)
      rw [copyIn_cons_of_eq own]
      dsimp only
      rw [← mergeTailRow_own (c := c) now snapshot own state]
      unfold bodyAt
      rw [later.row]
    · have same := mergeTailRow_other (c := c) now snapshot own state
      have body : bodyAt (mergeTailRow c now snapshot state entry) key = bodyAt state key := by
        unfold bodyAt
        rw [same.row]
      rw [copyIn_cons_of_ne own, ih once.of_cons, same.holdsNewer, body]

theorem overlayTailRow_other {key : String} {entry : Entry Card} (other : transcriptRowKey entry ≠ some key)
    (base : Entries Card) (laid : HydrationState Card × Entries Card) :
    (overlayTailRow c now snapshot base laid entry).2.get key = laid.2.get key ∧
      Untouched key laid.1 (overlayTailRow c now snapshot base laid entry).1 := by
  unfold overlayTailRow
  split
  · exact ⟨rfl, .refl _ _⟩
  · rename_i itemId at_key
    have ne : key ≠ itemId := fun same => other (by rw [at_key, same])
    exact ⟨InsertionMap.get_set_ne _ _ ne, mergeSnapshotTailRow_untouched now snapshot ne laid.1 _ entry⟩

theorem overlayTailRows_none {key : String} {rows : List (Entry Card)} (absent : copyIn rows key = none)
    (base : Entries Card) (laid : HydrationState Card × Entries Card) :
    (rows.foldl (overlayTailRow c now snapshot base) laid).2.get key = laid.2.get key := by
  induction rows generalizing laid with
  | nil => rfl
  | cons entry rest ih =>
    by_cases own : transcriptRowKey entry = some key
    · rw [copyIn_cons_of_eq own] at absent
      cases absent
    · rw [copyIn_cons_of_ne own] at absent
      rw [List.foldl_cons, ih absent, (overlayTailRow_other now snapshot own base laid).1]

/-- The row as it is laid over the window: the merge of its copy with the row at hand. -/
theorem overlayTailRows_bodyAt {key : String} {rows : List (Entry Card)} (once : NamedOnce rows key)
    (state : HydrationState Card) (laid : HydrationState Card × Entries Card) (entries : laid.1.entries = state.entries)
    (same : Untouched key state laid.1) (unlaid : laid.2.get key = none) :
    ((rows.foldl (overlayTailRow c now snapshot state.entries) laid).2.get key).map Entry.body =
      match copyIn rows key with
      | none => none
      | some entry =>
        if holdsNewer state key snapshot.transcriptRevision then bodyAt state key
        else some ((BodyMove.copy (prepareSnapshotOverlayEntry entry).body).apply (bodyAt state key)) := by
  induction rows generalizing laid with
  | nil => simp [copyIn, unlaid]
  | cons entry rest ih =>
    rw [List.foldl_cons]
    by_cases own : transcriptRowKey entry = some key
    · rw [overlayTailRows_none now snapshot (once.rest own), copyIn_cons_of_eq own]
      have merged := mergeSnapshotTailRow_body (c := c) now snapshot laid.1 key entry
      have body : bodyAt laid.1 key = bodyAt state key := by
        unfold bodyAt
        rw [same.row]
      rw [same.holdsNewer, body, entries] at merged
      dsimp only
      rw [← merged]
      unfold overlayTailRow
      rw [own]
      simp
    · have kept := overlayTailRow_other (c := c) now snapshot own state.entries laid
      have window : (overlayTailRow c now snapshot state.entries laid entry).1.entries = state.entries := by
        unfold overlayTailRow
        split
        · exact entries
        · exact (mergeSnapshotTailRow_row now snapshot laid.1 _ _ entry).1.entries.trans entries
      rw [copyIn_cons_of_ne own]
      exact ih once.of_cons _ window (same.trans kept.2) (kept.1.trans unlaid)

end Tail

/-- The body after a move, or the body at hand. -/
def afterMove (held : Option Body) : Option BodyMove → Option Body
  | none => held
  | some move => some (move.apply held)

theorem tailMove_after (state : HydrationState Card) (snapshot : SessionSnapshot Card) (key : String) :
    afterMove (bodyAt state key) (tailMove state snapshot key) =
      match copyIn snapshot.transcript key with
      | none => bodyAt state key
      | some entry =>
        if holdsNewer state key snapshot.transcriptRevision then bodyAt state key
        else some ((BodyMove.copy (prepareSnapshotOverlayEntry entry).body).apply (bodyAt state key)) := by
  unfold tailMove
  cases copyIn snapshot.transcript key with
  | none =>
    split
    · rfl
    · rfl
  | some entry =>
    dsimp only
    split
    · rfl
    · rfl

theorem prepareTranscriptHydration_bodyAt (now : Nat) {state : HydrationState Card} {snapshot : SessionSnapshot Card}
    (some_rows : state.order ≠ []) (is_for : state.isFor snapshot.source) {key : String}
    (once : NamedOnce snapshot.transcript key) :
    bodyAt (prepareTranscriptHydration c now state snapshot).1 key =
      afterMove (bodyAt state key) (Delivery.moveAt state key (.tail now snapshot)) := by
  simp only [Delivery.moveAt]
  unfold prepareTranscriptHydration
  split
  · rfl
  · rw [tailMove_after, ← mergeTailRows_bodyAt (c := c) now snapshot once state]
    have merges : takeSnapshot c now state snapshot (transcriptHydrationSignature snapshot) =
        mergeSnapshotTail c now state snapshot (transcriptHydrationSignature snapshot) := by
      have same_run : sameGeneration state.generation snapshot.transcriptGeneration = true := is_for.2
      have same_thread : state.threadId = snapshot.activeThreadId := is_for.1
      unfold takeSnapshot
      simp [same_run, same_thread, some_rows]
    dsimp only
    rw [merges]
    split
    · rfl
    · rfl

theorem restoreHydratedTranscriptSnapshot_bodyAt (now : Nat) {state : HydrationState Card}
    {snapshot : SessionSnapshot Card} (ok : state.WindowOk) (some_rows : state.order ≠ [])
    (is_for : state.isFor snapshot.source) {key : String} (distinct : (tailIds snapshot).Nodup)
    (once : NamedOnce snapshot.transcript key) :
    bodyAt (restoreHydratedTranscriptSnapshot c now state snapshot).1 key =
      afterMove (bodyAt state key) (Delivery.moveAt state key (.overlay now snapshot)) := by
  have same_run : sameGeneration state.generation snapshot.transcriptGeneration = true := is_for.2
  have same_thread : state.threadId = snapshot.activeThreadId := is_for.1
  simp only [Delivery.moveAt]
  unfold restoreHydratedTranscriptSnapshot
  by_cases unnamed : snapshot.activeThreadId.isNone = true
  · simp [unnamed, afterMove]
  rw [if_neg (by simp [unnamed, same_thread, same_run, some_rows]), if_neg unnamed, tailMove_after]
  have start : Overlaid state (state, InsertionMap.empty) [] :=
    ⟨.refl _, fun key row at_row => (by cases at_row), fun key => by simp [InsertionMap.has]⟩
  have overlaid := overlayTailRows_overlaid (c := c) now snapshot snapshot.transcript state start
  have laid_body := overlayTailRows_bodyAt (c := c) now snapshot once state (state, .empty) rfl (.refl _ _) rfl
  unfold buildHydratedTranscriptSnapshot
  generalize snapshot.transcript.foldl (overlayTailRow c now snapshot state.entries) (state, .empty) = result
    at overlaid laid_body ⊢
  obtain ⟨laid, overlay⟩ := result
  dsimp only at laid_body ⊢
  rw [if_neg]
  · unfold bodyAt at *
    dsimp only
    rw [InsertionMap.get_foldl_set state.entries overlay.nodup key]
    show Option.map Entry.body ((overlay.get key).or (state.entries.get key)) = _
    cases at_key : overlay.get key with
    | some row =>
      rw [at_key] at laid_body
      rw [Option.some_or, laid_body]
      cases came : copyIn snapshot.transcript key with
      | none =>
        rw [came] at laid_body
        cases laid_body
      | some entry => rfl
    | none =>
      rw [at_key] at laid_body
      rw [Option.none_or]
      cases came : copyIn snapshot.transcript key with
      | none => rfl
      | some entry =>
        rw [came] at laid_body
        dsimp only at laid_body ⊢
        split at laid_body
        · rename_i newer
          rw [if_pos newer]
        · cases laid_body
  · -- the rows of the window are drawn, so the picture is not empty
    obtain ⟨first, rest, is_order⟩ := List.exists_cons_of_ne_nil some_rows
    have ordered : first ∈ state.order := by rw [is_order]; exact List.mem_cons_self
    obtain ⟨row, at_first⟩ := (InsertionMap.has_iff_get _ _).mp ((ok.lists.lists first).mp ordered)
    intro nothing
    obtain ⟨-, whole⟩ := placeTailIds_lists (fun key => (overlay.get key).or (state.entries.get key))
      (tailFits ok.lists distinct) (state.keyed && newTailIdsAreNumbered (tailIds snapshot)
        (unorderedIds state.entries snapshot) fun key => (overlay.get key).or (state.entries.get key))
    have placed := (whole first).mpr (.inl ordered)
    have drawn := List.filterMap_eq_nil_iff.mp nothing first placed
    rw [at_first, Option.or_eq_none_iff] at drawn
    exact absurd drawn.2 (by simp)

theorem copyIn_preparedPageRows (page : TranscriptPage Card) (key : String) :
    copyIn (preparedPageRows page) key = (copyIn page.entries key).map toTranscriptEntry := by
  unfold preparedPageRows copyIn
  rw [List.find?_map, List.find?_filter]
  congr 2
  funext entry
  cases named : transcriptRowKey entry with
  | none => simp
  | some other => simp [transcriptRowKey_toTranscriptEntry named]

theorem preparedPageRows_namedOnce {page : TranscriptPage Card} {key : String} (once : NamedOnce page.entries key) :
    NamedOnce (preparedPageRows page) key := by
  unfold NamedOnce preparedPageRows at *
  rw [List.filter_map, List.length_map, List.filter_filter]
  refine Nat.le_trans (List.Sublist.length_le (List.monotone_filter_right page.entries fun entry both => ?_)) once
  rw [Bool.and_eq_true] at both
  obtain ⟨other, named⟩ := Option.isSome_iff_exists.mp both.2
  have same := both.1
  simp only [Function.comp_apply, transcriptRowKey_toTranscriptEntry named, decide_eq_true_eq] at same
  simp [named, same]

/-- A page's copy of a row is left aside if the row at hand is newer, and merged otherwise. -/
theorem TouchesByCopy.page {state : HydrationState Card} {page : TranscriptPage Card} {key : String}
    {after : Entries Card}
    (touches : TouchesByCopy (mergeFreshRow c state page.revision) key (preparedPageRows page) state.entries after)
    (now : Nat) (prepend : Bool) :
    (after.get key).map Entry.body =
      afterMove (bodyAt state key) (Delivery.moveAt state key (.page now page prepend)) := by
  simp only [Delivery.moveAt]
  unfold TouchesByCopy at touches
  rw [touches, copyIn_preparedPageRows]
  cases came : copyIn page.entries key with
  | none =>
    dsimp only [Option.map_none]
    rw [ite_self]
    rfl
  | some entry =>
    have named : transcriptRowKey entry = some key := by simpa using List.find?_some came
    have prepared := transcriptRowKey_toTranscriptEntry named
    simp only [Option.map_some]
    unfold mergeFreshRow holdsNewer bodyAt InsertionMap.has
    cases at_key : state.entries.get key with
    | none => simp [prepared, afterMove, body_mergeTranscriptEntry]
    | some held =>
      by_cases stale : isStaleCopy state key page.revision = true
      · simp [prepared, stale, Option.filter, afterMove]
      · simp [prepared, stale, Option.filter, afterMove, body_mergeTranscriptEntry]

theorem mergeTranscriptHydrationPage_bodyAt (now : Nat) (state : HydrationState Card) {page : TranscriptPage Card}
    (prepend : Bool) {key : String} (once : NamedOnce page.entries key) :
    bodyAt (mergeTranscriptHydrationPage c now state page prepend) key =
      afterMove (bodyAt state key) (Delivery.moveAt state key (.page now page prepend)) := by
  have rows_once := preparedPageRows_namedOnce once
  cases prepend with
  | true =>
    refine TouchesByCopy.page (c := c) ?_ now true
    unfold mergeTranscriptHydrationPage prependTranscriptPage
    dsimp only
    rw [if_pos rfl]
    split
    · exact mergeWindowRowsInPlace_touches rows_once { order := state.order, entries := state.entries }
    · exact mergeIntoEntries_touches rows_once state.entries
  | false =>
    refine TouchesByCopy.page (c := c) ?_ now false
    have touched := reconcileAuthoritativeTail_touches (mergeFreshRow c state page.revision) rows_once
      { order := state.order, entries := state.entries }
    have whole : (preparedPageRows page).filter (fun entry => (transcriptRowKey entry).isSome) = preparedPageRows page := by
      refine List.filter_eq_self.mpr fun row member => ?_
      obtain ⟨key, at_key⟩ := mem_preparedPageRows member
      rw [at_key]
      rfl
    rw [whole] at touched
    exact touched

theorem mergeRecoveredRow_other (now : Nat) (revision : Option Nat) {key : String} {entry : Entry Card}
    (other : transcriptRowKey entry ≠ some key) (state : HydrationState Card) :
    Untouched key state (mergeRecoveredRow c now revision state entry) := by
  unfold mergeRecoveredRow
  split
  · exact .refl _ _
  rename_i rowId at_row
  have ne : key ≠ rowId := fun same => other (by rw [at_row, same])
  split
  · exact .refl _ _
  split
  · exact .refl _ _
  · rename_i existing _ _
    have written : Untouched key state
        { state with
          entries := state.entries.set rowId (mergeTranscriptEntry c (some existing) (toTranscriptEntry entry))
          unresolvedRows := state.unresolvedRows.delete rowId } :=
      ⟨InsertionMap.get_set_ne _ _ ne, rfl, rfl⟩
    have noted := written.trans (noteRowSeen_untouched ne _ revision)
    dsimp only
    split
    · exact noted
    · exact ⟨noted.row, noted.seen, (InsertionMap.get_set_ne _ _ ne).trans noted.read⟩

theorem mergeRecoveredRow_own (now : Nat) (revision : Option Nat) {key : String} {entry : Entry Card}
    (own : transcriptRowKey entry = some key) (state : HydrationState Card) :
    bodyAt (mergeRecoveredRow c now revision state entry) key =
      afterMove (bodyAt state key) ((state.entries.get key).bind fun existing =>
        if refusesRecovered state key revision existing entry then none
        else some (.copy (toTranscriptEntry entry).body)) := by
  unfold mergeRecoveredRow
  rw [own]
  dsimp only
  cases at_key : state.entries.get key with
  | none => rfl
  | some existing =>
    simp only [Option.bind_some]
    split
    · rfl
    · have seen := noteRowSeen_window
        { state with
          entries := state.entries.set key (mergeTranscriptEntry c (some existing) (toTranscriptEntry entry))
          unresolvedRows := state.unresolvedRows.delete key } key revision
      have merged : (InsertionMap.get (noteRowSeen
          { state with
            entries := state.entries.set key (mergeTranscriptEntry c (some existing) (toTranscriptEntry entry))
            unresolvedRows := state.unresolvedRows.delete key } key revision).entries key).map Entry.body =
          afterMove (bodyAt state key) (some (.copy (toTranscriptEntry entry).body)) := by
        rw [seen.entries, InsertionMap.get_set_self]
        simp [body_mergeTranscriptEntry, afterMove, bodyAt, at_key]
      split
      · exact merged
      · exact merged

theorem recoveredRows_none (now : Nat) (revision : Option Nat) {key : String} {rows : List (Entry Card)}
    (absent : copyIn rows key = none) (state : HydrationState Card) :
    Untouched key state (rows.foldl (mergeRecoveredRow c now revision) state) := by
  induction rows generalizing state with
  | nil => exact .refl _ _
  | cons entry rest ih =>
    by_cases own : transcriptRowKey entry = some key
    · rw [copyIn_cons_of_eq own] at absent
      cases absent
    · rw [copyIn_cons_of_ne own] at absent
      exact (mergeRecoveredRow_other now revision own state).trans (ih absent _)

theorem Untouched.refusesRecovered {key : String} {s t : HydrationState Card} (same : Untouched key s t)
    (revision : Option Nat) (existing entry : Entry Card) :
    refusesRecovered t key revision existing entry = refusesRecovered s key revision existing entry := by
  unfold Hydration.refusesRecovered heldReadIsNewer
  rw [same.isStaleCopy, same.read]

theorem recoveredRows_bodyAt (now : Nat) (revision : Option Nat) {key : String} {rows : List (Entry Card)}
    (once : NamedOnce rows key) (state : HydrationState Card) :
    bodyAt (rows.foldl (mergeRecoveredRow c now revision) state) key =
      afterMove (bodyAt state key) ((state.entries.get key).bind fun existing =>
        (copyIn rows key).bind fun entry =>
          if refusesRecovered state key revision existing entry then none
          else some (.copy (toTranscriptEntry entry).body)) := by
  induction rows generalizing state with
  | nil =>
    cases at_key : state.entries.get key with
    | none => rfl
    | some existing => rfl
  | cons entry rest ih =>
    rw [List.foldl_cons]
    by_cases own : transcriptRowKey entry = some key
    · have later := recoveredRows_none (c := c) now revision (once.rest own)
        (mergeRecoveredRow c now revision state entry)
      rw [copyIn_cons_of_eq own]
      simp only [Option.bind_some]
      rw [← mergeRecoveredRow_own (c := c) now revision own state]
      unfold bodyAt
      rw [later.row]
    · have same := mergeRecoveredRow_other (c := c) now revision own state
      have body : bodyAt (mergeRecoveredRow c now revision state entry) key = bodyAt state key := by
        unfold bodyAt
        rw [same.row]
      rw [copyIn_cons_of_ne own, ih once.of_cons, body, same.row]
      simp only [same.refusesRecovered]

theorem mergeRecoveredTranscriptRows_bodyAt (now : Nat) (state : HydrationState Card) {page : TranscriptPage Card}
    (requestedIds : List String) (bodyRevision : Option Nat) {key : String} (once : NamedOnce page.entries key) :
    bodyAt (mergeRecoveredTranscriptRows c now state page requestedIds bodyRevision) key =
      afterMove (bodyAt state key) (Delivery.moveAt state key (.rows now page requestedIds bodyRevision)) := by
  have notes := recoveredRows_window (c := c) now state page requestedIds bodyRevision
  simp only [Delivery.moveAt]
  rw [← recoveredRows_bodyAt (c := c) now (page.revision.or bodyRevision) once state]
  unfold bodyAt
  rw [notes.entries]

theorem transcriptRowKey_bornEntry {delta : TranscriptDelta} {itemId : String} (named : delta.rowKey = some itemId) :
    transcriptRowKey (bornEntry delta itemId : Entry Card) = some itemId := by
  obtain ⟨same, some_name⟩ := Option.filter_eq_some_iff.mp named
  unfold transcriptRowKey bornEntry
  dsimp only
  cases at_row : delta.rowId with
  | none => simpa [truthy, Option.filter] using some_name
  | some rowId =>
    rw [at_row] at same
    cases same
    rw [decide_eq_true_eq] at some_name
    simp [truthy, Option.filter, some_name]

theorem body_bornEntry (delta : TranscriptDelta) (itemId : String) :
    (bornEntry delta itemId : Entry Card).body = appendBody none delta.delta delta.textOffset := by
  unfold bornEntry appendBody Entry.body startsAtZero
  dsimp only
  split
  · rfl
  · rfl

theorem upsertWindowRowInPlace_fresh (window : WindowDraft Card) {row : Entry Card} {key : String}
    (named : transcriptRowKey row = some key) (fresh : window.entries.get key = none) :
    (upsertWindowRowInPlace window row).entries = window.entries.set key row := by
  unfold upsertWindowRowInPlace upsertRowAt
  rw [named]
  dsimp only
  rw [fresh]
  rfl

theorem applyTranscriptDeltaToWindow_bodyAt (state : HydrationState Card) (delta : TranscriptDelta) (key : String) :
    bodyAt (applyTranscriptDeltaToWindow state delta).1 key =
      afterMove (bodyAt state key) (Delivery.moveAt state key (.delta delta)) := by
  simp only [Delivery.moveAt]
  unfold applyTranscriptDeltaToWindow
  cases at_item : delta.rowKey with
  | none => simp [afterMove]
  | some itemId =>
    dsimp only
    generalize ((truthy state.threadId).isNone ||
      (truthy delta.threadId).any fun thread => decide (some thread ≠ state.threadId)) = elsewhere
    cases elsewhere with
    | true => simp [afterMove]
    | false =>
      simp only [Bool.false_eq_true, if_false]
      by_cases own : itemId = key
      · subst own
        rw [if_neg (fun other => other rfl)]
        cases at_key : state.entries.get itemId with
        | none =>
          have placed := upsertWindowRowInPlace_fresh ({ order := state.order, entries := state.entries })
            (transcriptRowKey_bornEntry at_item) at_key
          dsimp only
          unfold bodyAt
          rw [placed, InsertionMap.get_set_self, at_key, Option.map_some, body_bornEntry]
          rfl
        | some existing =>
          have body : bodyAt state itemId = some existing.body := by
            unfold bodyAt
            rw [at_key]
            rfl
          rw [body]
          simp only [afterMove, BodyMove.apply, appendBody, Entry.body]
          cases resolveDeltaAppend (existing.text.getD []) delta.delta delta.textOffset with
          | none => simp [bodyAt, Entry.body]
          | some added =>
            cases added with
            | nil => simp [bodyAt, at_key, Entry.body]
            | cons unit rest => simp [bodyAt, appendedEntry, Entry.body]
      · rw [if_pos (fun same => own (Option.some.inj same))]
        have ne : key ≠ itemId := fun same => own same.symm
        cases at_item_row : state.entries.get itemId with
        | none =>
          have placed := upsertWindowRowInPlace_fresh ({ order := state.order, entries := state.entries })
            (transcriptRowKey_bornEntry at_item) at_item_row
          dsimp only
          unfold bodyAt
          rw [placed, InsertionMap.get_set_ne _ _ ne]
          rfl
        | some existing =>
          dsimp only
          split
          · simp [bodyAt, InsertionMap.get_set_ne _ _ ne, afterMove]
          · rfl
          · simp [bodyAt, InsertionMap.get_set_ne _ _ ne, afterMove]

theorem namedOnce_of_nodup {rows : List (Entry Card)} (distinct : (rows.filterMap transcriptRowKey).Nodup)
    (key : String) : NamedOnce rows key := by
  unfold NamedOnce
  have count : (rows.filter fun row => transcriptRowKey row = some key).length =
      (rows.filterMap transcriptRowKey).count key := by
    clear distinct
    induction rows with
    | nil => rfl
    | cons row rest ih =>
      cases at_row : transcriptRowKey row with
      | none => simpa [at_row] using ih
      | some other =>
        by_cases same : other = key
        · simp [at_row, same, ih]
        · simp [at_row, same, ih]
  rw [count]
  exact List.nodup_iff_count_le_one.mp distinct key

/-- A delivery makes of a row's body what its move makes of it. -/
theorem Delivery.bodyAt_apply {state : HydrationState Card} (ok : state.WindowOk) {delivery : Delivery Card}
    (finds : delivery.findsWindow state) (key : String) (distinct : (delivery.entries.filterMap transcriptRowKey).Nodup) :
    bodyAt (delivery.apply c state) key = afterMove (bodyAt state key) (delivery.moveAt state key) := by
  have once := namedOnce_of_nodup distinct key
  cases delivery with
  | tail now snapshot => exact prepareTranscriptHydration_bodyAt now finds.1 finds.2 once
  | overlay now snapshot => exact restoreHydratedTranscriptSnapshot_bodyAt now ok finds.1 finds.2 distinct once
  | page now read prepend => exact mergeTranscriptHydrationPage_bodyAt now state prepend once
  | rows now answer requestedIds bodyRevision =>
    exact mergeRecoveredTranscriptRows_bodyAt now state requestedIds bodyRevision once
  | delta event => exact applyTranscriptDeltaToWindow_bodyAt state event key

theorem tailMove_ne_append {state : HydrationState Card} {snapshot : SessionSnapshot Card} {key : String}
    {delta : Text} {offset : Option Nat} : tailMove state snapshot key ≠ some (.append delta offset) := by
  unfold tailMove
  split
  · simp
  · simp

/-- Only a delta for the row is appended to it. -/
theorem Delivery.append_of_moveAt {state : HydrationState Card} {delivery : Delivery Card} {rowId : String}
    {delta : Text} {offset : Option Nat} (moves : delivery.moveAt state rowId = some (.append delta offset)) :
    ∃ event, delivery = .delta event ∧ event.rowKey = some rowId ∧ event.delta = delta ∧ event.textOffset = offset := by
  cases delivery with
  | delta event =>
    simp only [Delivery.moveAt] at moves
    split at moves
    · cases moves
    rename_i named
    split at moves
    · cases moves
    · cases moves
      exact ⟨event, rfl, Decidable.of_not_not named, rfl, rfl⟩
  | tail now snapshot =>
    simp only [Delivery.moveAt] at moves
    split at moves
    · cases moves
    · exact absurd moves tailMove_ne_append
  | overlay now snapshot =>
    simp only [Delivery.moveAt] at moves
    split at moves
    · cases moves
    · exact absurd moves tailMove_ne_append
  | page now read prepend =>
    simp only [Delivery.moveAt] at moves
    split at moves
    · cases moves
    · obtain ⟨entry, -, same⟩ := Option.map_eq_some_iff.mp moves
      cases same
  | rows now answer requestedIds bodyRevision =>
    obtain ⟨existing, -, there⟩ := Option.bind_eq_some_iff.mp moves
    obtain ⟨entry, -, taken⟩ := Option.bind_eq_some_iff.mp there
    split at taken
    · cases taken
    · cases taken

theorem Delivery.apply_ok {state : HydrationState Card} (ok : state.WindowOk) {delivery : Delivery Card}
    (distinct : (delivery.entries.filterMap transcriptRowKey).Nodup) : (delivery.apply c state).WindowOk := by
  cases delivery with
  | tail now snapshot =>
    have once : (tailIds snapshot).Nodup := distinct
    cases prepareTranscriptHydration_took (c := c) now ok once with
    | inside step => exact step.ok
    | rebuilt emptied _ _ => exact emptied.ok
  | overlay now snapshot =>
    have once : (tailIds snapshot).Nodup := distinct
    exact (restoreHydratedTranscriptSnapshot_window (c := c) now ok once).ok
  | page now read prepend => exact (mergeTranscriptHydrationPage_window (c := c) now ok read prepend).ok
  | rows now answer requestedIds bodyRevision =>
    exact (mergeRecoveredTranscriptRows_window (c := c) now ok answer requestedIds bodyRevision).ok
  | delta event => exact (applyTranscriptDeltaToWindow_window ok event).ok

theorem Delivery.apply_threadId {state : HydrationState Card} (ok : state.WindowOk) {delivery : Delivery Card}
    (finds : delivery.findsWindow state) (distinct : (delivery.entries.filterMap transcriptRowKey).Nodup) :
    (delivery.apply c state).threadId = state.threadId := by
  cases delivery with
  | tail now snapshot =>
    have once : (tailIds snapshot).Nodup := distinct
    cases prepareTranscriptHydration_took (c := c) now ok once with
    | inside step => exact step.threadId
    | rebuilt _ threadId _ => exact threadId.trans finds.2.1.symm
  | overlay now snapshot =>
    have once : (tailIds snapshot).Nodup := distinct
    exact (restoreHydratedTranscriptSnapshot_window (c := c) now ok once).threadId
  | page now read prepend => exact (mergeTranscriptHydrationPage_window (c := c) now ok read prepend).threadId
  | rows now answer requestedIds bodyRevision =>
    exact (mergeRecoveredTranscriptRows_window (c := c) now ok answer requestedIds bodyRevision).threadId
  | delta event => exact (applyTranscriptDeltaToWindow_window ok event).threadId

/-- A snapshot of another thread or run leaves the window alone, or empties it. -/
theorem Delivery.bodyAt_unfound {state : HydrationState Card} {delivery : Delivery Card}
    (lost : ¬delivery.findsWindow state) (key : String) :
    bodyAt (delivery.apply c state) key = bodyAt state key ∨ bodyAt (delivery.apply c state) key = none := by
  cases delivery with
  | tail now snapshot =>
    have unmerged : (sameGeneration state.generation snapshot.transcriptGeneration &&
        decide (state.threadId = snapshot.activeThreadId) && decide (state.order ≠ [])) = false := by
      by_contra merges
      simp only [Bool.not_eq_false, Bool.and_eq_true, decide_eq_true_eq] at merges
      exact lost ⟨merges.2, merges.1.2, merges.1.1⟩
    have taken : (takeSnapshot c now state snapshot (transcriptHydrationSignature snapshot)).entries = state.entries ∨
        (takeSnapshot c now state snapshot (transcriptHydrationSignature snapshot)).entries = .empty := by
      unfold takeSnapshot
      dsimp only
      rw [unmerged]
      simp only [Bool.false_eq_true, if_false]
      split
      · exact .inr rfl
      · exact .inl rfl
    unfold Delivery.apply prepareTranscriptHydration bodyAt
    dsimp only
    split
    · exact .inl rfl
    · rcases taken with same | emptied
      · refine .inl ?_
        split
        · rw [same]
        · rw [same]
      · refine .inr ?_
        split
        · rw [emptied]
          rfl
        · rw [emptied]
          rfl
  | overlay now snapshot =>
    have guarded : (snapshot.activeThreadId.isNone || decide (state.threadId ≠ snapshot.activeThreadId) ||
        decide (state.order = []) || !sameGeneration state.generation snapshot.transcriptGeneration) = true := by
      by_contra finds
      simp only [Bool.not_eq_true, Bool.or_eq_false_iff, decide_eq_false_iff_not, not_not, Bool.not_eq_false'] at finds
      exact lost ⟨finds.1.2, finds.1.1.2, finds.2⟩
    refine .inl ?_
    unfold Delivery.apply restoreHydratedTranscriptSnapshot
    dsimp only
    rw [if_pos guarded]
  | _ => exact absurd trivial lost

end Sealwire.Hydration

import Sealwire.Hydration.TailPlaces
import Sealwire.Hydration.Writers

namespace Sealwire.Hydration

variable {Card : Type} {c : CardBodies Card}

/-- The order lists exactly the rows held, and a window that claims to be in number order is. -/
structure WindowOk (order : List String) (entries : Entries Card) (keyed : Bool) : Prop where
  lists : Lists order entries
  keyed : keyed = true → OrderKeyed entries.get order

theorem WindowOk.empty (keyed : Bool) : WindowOk [] (.empty : Entries Card) keyed where
  lists := ⟨List.nodup_nil, by simp [InsertionMap.has], by simp [InsertionMap.has]⟩
  keyed _ := .nil _

/-- Rows changed in place, each kept, and none added. -/
theorem WindowOk.keeps {order : List String} {before after : Entries Card} {keyed : Bool}
    (ok : WindowOk order before keyed) (keeps : Keeps before after)
    (same : ∀ key, after.has key = true → before.has key = true) : WindowOk order after keyed where
  lists :=
    { distinct := ok.lists.distinct
      lists := fun key => (ok.lists.lists key).trans ⟨keeps.has, same key⟩
      named := fun key there => ok.lists.named key (same key there) }
  keyed proven := (ok.keyed proven).keeps keeps

theorem WindowOk.set_held {order : List String} {entries : Entries Card} {keyed : Bool}
    (ok : WindowOk order entries keyed) {key : String} {held row : Entry Card} (at_key : entries.get key = some held)
    (kept : Kept held row) : WindowOk order (entries.set key row) keyed ∧ Keeps entries (entries.set key row) := by
  have keeps : Keeps entries (entries.set key row) := .set fun other at_other => by
    rw [at_key] at at_other
    cases at_other
    exact kept
  refine ⟨ok.keeps keeps fun other there => ?_, keeps⟩
  rcases (InsertionMap.has_set ..).mp there with rfl | there
  · exact (InsertionMap.has_iff_get entries other).mpr ⟨held, at_key⟩
  · exact there

def HydrationState.WindowOk (state : HydrationState Card) : Prop :=
  Hydration.WindowOk state.order state.entries state.keyed

def Stash.WindowOk (stash : Stash Card) : Prop := Hydration.WindowOk stash.order stash.entries stash.keyed

/-- The live window and every window kept for another thread. -/
structure StateOk (state : HydrationState Card) : Prop where
  window : state.WindowOk
  kept : ∀ threadId stash, state.threadCache.get threadId = some stash → stash.WindowOk

/-- What the notes about rows leave alone: the window, whose it is, and the windows kept. -/
structure SameWindow (s t : HydrationState Card) : Prop where
  session : t.session = s.session
  entries : t.entries = s.entries
  order : t.order = s.order
  keyed : t.keyed = s.keyed
  threadId : t.threadId = s.threadId
  generation : t.generation = s.generation
  threadCache : t.threadCache = s.threadCache

theorem SameWindow.refl (s : HydrationState Card) : SameWindow s s := ⟨rfl, rfl, rfl, rfl, rfl, rfl, rfl⟩

theorem SameWindow.trans {s t u : HydrationState Card} (first : SameWindow s t) (second : SameWindow t u) :
    SameWindow s u where
  session := second.session.trans first.session
  entries := second.entries.trans first.entries
  order := second.order.trans first.order
  keyed := second.keyed.trans first.keyed
  threadId := second.threadId.trans first.threadId
  generation := second.generation.trans first.generation
  threadCache := second.threadCache.trans first.threadCache

theorem noteRowSeen_window (state : HydrationState Card) (rowId : String) (revision : Option Nat) :
    SameWindow state (noteRowSeen state rowId revision) := by
  unfold noteRowSeen
  split
  · exact .refl _
  · split
    · exact ⟨rfl, rfl, rfl, rfl, rfl, rfl, rfl⟩
    · exact .refl _

theorem foldl_window {α : Type} {f : HydrationState Card → α → HydrationState Card}
    (step : ∀ s a, SameWindow s (f s a)) (list : List α) (state : HydrationState Card) :
    SameWindow state (list.foldl f state) := by
  induction list generalizing state with
  | nil => exact .refl _
  | cons a rest ih => exact (step state a).trans (ih _)

theorem noteTranscriptRowsSeen_window (state : HydrationState Card) (rows : List (Entry Card)) (revision : Option Nat) :
    SameWindow state (noteTranscriptRowsSeen state rows revision) := by
  refine foldl_window (fun s row => ?_) rows state
  split
  · exact .refl _
  · exact noteRowSeen_window s _ revision

theorem resolveRowsCarriedBy_window (state : HydrationState Card) (rows : List (Entry Card)) (revision : Option Nat)
    (now : Nat) : SameWindow state (resolveRowsCarriedBy state rows revision now) := by
  refine foldl_window (fun s row => ?_) rows state
  split
  · exact .refl _
  · exact ⟨rfl, rfl, rfl, rfl, rfl, rfl, rfl⟩

theorem noteFreshRows_window (now : Nat) (state : HydrationState Card) (page : TranscriptPage Card) :
    SameWindow state (noteFreshRows now state page) :=
  (resolveRowsCarriedBy_window ..).trans (noteTranscriptRowsSeen_window ..)

theorem kept_mergeHeldEntry (held incoming : Entry Card) : Kept held (mergeHeldEntry c held incoming) where
  withdrawn gone := by simp [mergeHeldEntry, gone]
  numbered seq at_ := by simp [mergeHeldEntry, at_]

theorem keepsRows_mergeFreshRow (state : HydrationState Card) (revision : Option Nat) :
    KeepsRows (mergeFreshRow c state revision) where
  fresh row := rfl
  kept held row := by
    unfold mergeFreshRow
    split
    · rename_i same taken
      cases (Option.filter_eq_some_iff.mp taken).1
      exact .refl _
    · exact kept_mergeHeldEntry held row

/-- What a snapshot makes of one row: a held row is kept, and a new one is the copy. -/
structure TailRow (existing : Option (Entry Card)) (entry row : Entry Card) : Prop where
  kept : ∀ held, existing = some held → Kept held row
  fresh : existing = none → row = prepareSnapshotOverlayEntry entry

theorem mergeSnapshotTailRow_row (now : Nat) (snapshot : SessionSnapshot Card) (state : HydrationState Card)
    (existing : Option (Entry Card)) (itemId : String) (entry : Entry Card) :
    SameWindow state (mergeSnapshotTailRow c now snapshot state existing itemId entry).1 ∧
      TailRow existing entry (mergeSnapshotTailRow c now snapshot state existing itemId entry).2 := by
  unfold mergeSnapshotTailRow
  dsimp only
  split
  · rename_i held stale
    obtain ⟨same, -⟩ := Option.filter_eq_some_iff.mp stale
    refine ⟨.refl _, ⟨fun other at_other => ?_, fun gone => ?_⟩⟩
    · rw [same] at at_other
      cases at_other
      exact .refl _
    · rw [same] at gone
      cases gone
  · have seen : SameWindow state (if snapshotRowTellsSomethingNew c existing (prepareSnapshotOverlayEntry entry) = true
        then noteRowSeen state itemId snapshot.transcriptRevision else state) := by
      split
      · exact noteRowSeen_window ..
      · exact .refl _
    refine ⟨seen.trans ⟨rfl, rfl, rfl, rfl, rfl, rfl, rfl⟩, ⟨fun held at_held => ?_, fun gone => ?_⟩⟩
    · rw [at_held]
      exact kept_mergeHeldEntry held _
    · rw [gone]
      rfl

/-- A step inside a window: whose it is stays, the rows held are kept, and the window is still sound. -/
structure InWindow (s t : HydrationState Card) : Prop where
  session : t.session = s.session
  threadId : t.threadId = s.threadId
  generation : t.generation = s.generation
  threadCache : t.threadCache = s.threadCache
  ok : t.WindowOk
  keeps : Keeps s.entries t.entries

theorem InWindow.of_same {s t : HydrationState Card} (same : SameWindow s t) (ok : s.WindowOk) : InWindow s t where
  session := same.session
  threadId := same.threadId
  generation := same.generation
  threadCache := same.threadCache
  ok := by
    unfold HydrationState.WindowOk at *
    rwa [same.order, same.entries, same.keyed]
  keeps := by
    rw [same.entries]
    exact .refl _

section Tail

variable (now : Nat) (snapshot : SessionSnapshot Card)

/-- The rows of a tail, written into the map one by one. -/
structure TailMerged (before after : HydrationState Card) (ids : List String) : Prop where
  session : after.session = before.session
  order : after.order = before.order
  keyed : after.keyed = before.keyed
  generation : after.generation = before.generation
  threadCache : after.threadCache = before.threadCache
  keeps : Keeps before.entries after.entries
  has : ∀ key, after.entries.has key = true ↔ before.entries.has key = true ∨ key ∈ ids

theorem mergeTailRow_merged (state : HydrationState Card) (entry : Entry Card) :
    TailMerged state (mergeTailRow c now snapshot state entry) ([entry].filterMap transcriptRowKey) := by
  unfold mergeTailRow
  split
  · rename_i unnamed
    exact ⟨rfl, rfl, rfl, rfl, rfl, .refl _, fun key => by simp [unnamed]⟩
  · rename_i itemId at_key
    obtain ⟨same, row⟩ := mergeSnapshotTailRow_row (c := c) now snapshot state (state.entries.get itemId) itemId
      entry
    refine ⟨same.session, same.order, same.keyed, same.generation, same.threadCache, ?_, fun key => ?_⟩
    · dsimp only
      rw [same.entries]
      exact .set row.kept
    · dsimp only
      rw [same.entries, InsertionMap.has_set]
      simp [at_key]
      tauto

theorem mergeTailRows_merged (rows : List (Entry Card)) (state : HydrationState Card) :
    TailMerged state (rows.foldl (mergeTailRow c now snapshot) state) (rows.filterMap transcriptRowKey) := by
  induction rows generalizing state with
  | nil => exact ⟨rfl, rfl, rfl, rfl, rfl, .refl _, fun key => by simp⟩
  | cons entry rest ih =>
    have first := mergeTailRow_merged (c := c) now snapshot state entry
    have later := ih (mergeTailRow c now snapshot state entry)
    refine ⟨later.session.trans first.session, later.order.trans first.order, later.keyed.trans first.keyed,
      later.generation.trans first.generation, later.threadCache.trans first.threadCache,
      first.keeps.trans later.keeps, fun key => ?_⟩
    have one : (entry :: rest).filterMap transcriptRowKey =
        [entry].filterMap transcriptRowKey ++ rest.filterMap transcriptRowKey := by
      rw [← List.filterMap_append, List.singleton_append]
    rw [List.foldl_cons, later.has, first.has, one, List.mem_append]
    tauto

variable {snapshot}

theorem tailFits {order : List String} {entries : Entries Card} (lists : Lists order entries)
    (once : (tailIds snapshot).Nodup) : TailFits (unorderedIds entries snapshot) order (tailIds snapshot) where
  distinct := lists.distinct
  once := once
  ordered id member known := by
    rw [lists.lists]
    by_contra new
    exact known (List.mem_filter.mpr ⟨member, by simpa using new⟩)
  fresh id _ new member := by
    have absent := (List.mem_filter.mp new).2
    rw [(lists.lists id).mp member] at absent
    cases absent

/-- A tail placed in the order, over a map that holds what the window held and what the tail names. -/
theorem placed_windowOk {state : HydrationState Card} (ok : state.WindowOk) (once : (tailIds snapshot).Nodup)
    {entries : Entries Card} (keeps : Keeps state.entries entries)
    (has : ∀ key, entries.has key = true ↔ state.entries.has key = true ∨ key ∈ tailIds snapshot) (keyed : Bool)
    (proven : keyed = true → state.keyed = true ∧
      newTailIdsAreNumbered (tailIds snapshot) (unorderedIds state.entries snapshot) entries.get = true) :
    Hydration.WindowOk
      (placeTailIds state.order (tailIds snapshot) (unorderedIds state.entries snapshot) entries.get keyed) entries
      keyed where
  lists := by
    obtain ⟨distinct, whole⟩ := placeTailIds_lists entries.get (tailFits ok.lists once) keyed
    refine ⟨distinct, fun key => ?_, fun key there => ?_⟩
    · rw [whole, has, ok.lists.lists]
    · rcases (has key).mp there with held | came
      · exact ok.lists.named key held
      · exact mem_keys_named came
  keyed := by
    rintro rfl
    obtain ⟨was_keyed, numbered⟩ := proven rfl
    exact placeTailIds_keyed ((ok.keyed was_keyed).keeps keeps) numbered

theorem mergeSnapshotTail_window {state : HydrationState Card} (ok : state.WindowOk)
    (once : (tailIds snapshot).Nodup) (same_thread : state.threadId = snapshot.activeThreadId) (signature : String) :
    InWindow state (mergeSnapshotTail c now state snapshot signature) := by
  have merged := mergeTailRows_merged (c := c) now snapshot snapshot.transcript state
  refine ⟨merged.session, same_thread.symm, merged.generation, merged.threadCache, ?_, merged.keeps⟩
  exact placed_windowOk ok once merged.keeps merged.has _ fun keyed => by simpa using keyed

/-- The rows laid over the window are kept rows of the base, or copies. -/
structure Overlaid (before : HydrationState Card) (laid : HydrationState Card × Entries Card) (ids : List String) :
    Prop where
  same : SameWindow before laid.1
  kept : ∀ key row, laid.2.get key = some row → ∀ held, before.entries.get key = some held → Kept held row
  has : ∀ key, laid.2.has key = true ↔ key ∈ ids

theorem overlayTailRows_overlaid (snapshot : SessionSnapshot Card) (rows : List (Entry Card))
    (state : HydrationState Card) {laid : HydrationState Card × Entries Card} {ids : List String}
    (overlaid : Overlaid state laid ids) :
    Overlaid state (rows.foldl (overlayTailRow c now snapshot state.entries) laid)
      (ids ++ rows.filterMap transcriptRowKey) := by
  induction rows generalizing laid ids with
  | nil => simpa using overlaid
  | cons entry rest ih =>
    have step : Overlaid state (overlayTailRow c now snapshot state.entries laid entry)
        (ids ++ [entry].filterMap transcriptRowKey) := by
      unfold overlayTailRow
      split
      · rename_i unnamed
        simpa [unnamed] using overlaid
      · rename_i itemId at_key
        obtain ⟨same, row⟩ := mergeSnapshotTailRow_row (c := c) now snapshot laid.1 (state.entries.get itemId)
          itemId entry
        refine ⟨overlaid.same.trans same, fun key merged at_merged held at_held => ?_, fun key => ?_⟩
        · rw [InsertionMap.get_set] at at_merged
          split at at_merged
          · rename_i here
            subst here
            cases at_merged
            exact row.kept held at_held
          · exact overlaid.kept key merged at_merged held at_held
        · dsimp only
          rw [InsertionMap.has_set, overlaid.has, List.mem_append]
          simp [at_key]
          tauto
    have rest_laid := ih step
    have one : (entry :: rest).filterMap transcriptRowKey =
        [entry].filterMap transcriptRowKey ++ rest.filterMap transcriptRowKey := by
      rw [← List.filterMap_append, List.singleton_append]
    rw [one, ← List.append_assoc]
    exact rest_laid

end Tail

end Sealwire.Hydration

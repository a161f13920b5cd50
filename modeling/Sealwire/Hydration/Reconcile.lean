import Sealwire.Hydration.Windows

namespace Sealwire.Hydration

variable {Card : Type}

theorem isAscendingByOrderSeq_pairwise {rows : List (Entry Card)} (ascends : isAscendingByOrderSeq rows = true) :
    rows.Pairwise fun a b => a.orderSeq.getD 0 ≤ b.orderSeq.getD 0 := by
  induction rows with
  | nil => exact .nil
  | cons first rest ih =>
    cases rest with
    | nil => simp
    | cons second rest =>
      simp only [isAscendingByOrderSeq, Bool.and_eq_true, decide_eq_true_eq] at ascends
      have later := ih ascends.2
      refine List.pairwise_cons.mpr ⟨fun other member => ?_, later⟩
      rcases List.mem_cons.mp member with rfl | beyond
      · exact ascends.1
      · exact Int.le_trans ascends.1 ((List.pairwise_cons.mp later).1 other beyond)

theorem sorted_pairwise (rows : List (Entry Card)) :
    (rows.mergeSort fun left right => decide (left.orderSeq.getD 0 ≤ right.orderSeq.getD 0)).Pairwise
      fun a b => a.orderSeq.getD 0 ≤ b.orderSeq.getD 0 := by
  have sorted := @List.pairwise_mergeSort _
    (fun left right : Entry Card => decide (left.orderSeq.getD 0 ≤ right.orderSeq.getD 0))
    (fun a b c left right => by
      simp only [decide_eq_true_eq] at *
      exact Int.le_trans left right)
    (fun a b => by
      simp only [Bool.or_eq_true, decide_eq_true_eq]
      exact Int.le_total _ _) rows
  exact sorted.imp fun le => by simpa using le

theorem Merges.of_mem {rows others : List (Entry Card)} {before after : WindowDraft Card}
    (merges : Merges others before after) (same : ∀ row, row ∈ others ↔ row ∈ rows) : Merges rows before after where
  lists := merges.lists
  keeps := merges.keeps
  has key := by
    rw [merges.has]
    simp only [List.mem_filterMap, same]

theorem mergeKeyedRowsLinearly_merges {mergeRow : MergeRow Card} {window : WindowDraft Card}
    (lists : Lists window.order window.entries) (rows : List (Entry Card)) :
    Merges rows window (mergeKeyedRowsLinearly mergeRow window rows) := by
  unfold mergeKeyedRowsLinearly
  split
  · exact mergeAscending_merges mergeRow rows [] lists
  · have sorted := mergeAscending_merges mergeRow
      (rows.mergeSort fun left right => decide (left.orderSeq.getD 0 ≤ right.orderSeq.getD 0)) [] lists
    exact Merges.of_mem sorted fun row => List.mem_mergeSort

theorem mergeKeyedRowsLinearly_keyed {mergeRow : MergeRow Card} (fresh_row : ∀ row, mergeRow none row = row)
    {window : WindowDraft Card} (lists : Lists window.order window.entries)
    (keyed : OrderKeyed window.entries.get window.order) {rows : List (Entry Card)}
    (numbered : ∀ row ∈ rows, ∃ seq, row.orderSeq = some seq) :
    OrderKeyed (mergeKeyedRowsLinearly mergeRow window rows).entries.get
      (mergeKeyedRowsLinearly mergeRow window rows).order := by
  unfold mergeKeyedRowsLinearly
  split
  · rename_i ascends
    exact mergeAscending_keyed fresh_row rows [] lists keyed numbered
      (isAscendingByOrderSeq_pairwise ascends) (by simp)
  · exact mergeAscending_keyed fresh_row _ [] lists keyed
      (fun row member => numbered row (List.mem_mergeSort.mp member)) (sorted_pairwise rows) (by simp)

theorem mergeWindowRowsInPlace_merges {mergeRow : MergeRow Card} {window : WindowDraft Card}
    (lists : Lists window.order window.entries) (rows : List (Entry Card)) :
    Merges rows window (mergeWindowRowsInPlace mergeRow window rows) := by
  unfold mergeWindowRowsInPlace
  split
  · exact mergeKeyedRowsLinearly_merges lists rows
  · exact mergeRowByRow_merges rows lists none

theorem mergeWindowRowsInPlace_keyed {mergeRow : MergeRow Card} (fresh_row : ∀ row, mergeRow none row = row)
    {window : WindowDraft Card} (lists : Lists window.order window.entries)
    (keyed : OrderKeyed window.entries.get window.order) {rows : List (Entry Card)}
    (numbered : rowsAreOrderKeyed rows = true) :
    OrderKeyed (mergeWindowRowsInPlace mergeRow window rows).entries.get
      (mergeWindowRowsInPlace mergeRow window rows).order := by
  have each : ∀ row ∈ rows, ∃ seq, row.orderSeq = some seq := by
    intro row member
    simp only [rowsAreOrderKeyed, Bool.and_eq_true, List.all_eq_true] at numbered
    exact Option.isSome_iff_exists.mp (numbered.2 row member).2
  unfold mergeWindowRowsInPlace
  split
  · exact mergeKeyedRowsLinearly_keyed fresh_row lists keyed each
  · exact mergeRowByRow_keyed fresh_row rows lists keyed each none

theorem mem_uniqueItemIds {ids : List String} {key : String} : key ∈ uniqueItemIds ids ↔ key ≠ "" ∧ key ∈ ids := by
  have general (seen : List String) : key ∈ ids.foldl
      (fun unique itemId => if itemId = "" ∨ itemId ∈ unique then unique else unique ++ [itemId]) seen ↔
        key ∈ seen ∨ key ≠ "" ∧ key ∈ ids := by
    induction ids generalizing seen with
    | nil => simp
    | cons id rest ih =>
      rw [List.foldl_cons, ih]
      split
      · rename_i skipped
        rcases skipped with rfl | there
        · grind
        · grind
      · grind
  simpa [uniqueItemIds] using general []

theorem uniqueItemIds_nodup (ids : List String) : (uniqueItemIds ids).Nodup := by
  have general (seen : List String) (distinct : seen.Nodup) : (ids.foldl
      (fun unique itemId => if itemId = "" ∨ itemId ∈ unique then unique else unique ++ [itemId]) seen).Nodup := by
    induction ids generalizing seen with
    | nil => exact distinct
    | cons id rest ih =>
      rw [List.foldl_cons]
      split
      · exact ih seen distinct
      · rename_i fresh
        refine ih _ (List.nodup_append.mpr ⟨distinct, by simp, ?_⟩)
        grind
  exact general [] List.nodup_nil

theorem mem_mergeTailPageOrder {existingOrder pageItemIds : List String} {key : String} :
    key ∈ mergeTailPageOrder existingOrder pageItemIds ↔ key ≠ "" ∧ (key ∈ existingOrder ∨ key ∈ pageItemIds) := by
  have parts := List.takeWhile_append_dropWhile (p := fun itemId => decide (itemId ∉ pageItemIds)) (l := existingOrder)
  have split_mem : key ∈ existingOrder ↔ key ∈ existingOrder.takeWhile (fun itemId => decide (itemId ∉ pageItemIds)) ∨
      key ∈ existingOrder.dropWhile fun itemId => decide (itemId ∉ pageItemIds) := by
    rw [← List.mem_append, parts]
  unfold mergeTailPageOrder
  split
  · rename_i empty
    simp [mem_uniqueItemIds, empty]
  dsimp only
  split
  · rename_i unreached
    rw [unreached] at split_mem
    simp only [mem_uniqueItemIds, List.mem_append, split_mem, List.not_mem_nil, or_false]
    tauto
  · simp only [mem_uniqueItemIds, List.mem_append, List.mem_filter, split_mem, decide_eq_true_eq]
    tauto

theorem mergeTailPageOrder_nodup (existingOrder pageItemIds : List String) :
    (mergeTailPageOrder existingOrder pageItemIds).Nodup := by
  unfold mergeTailPageOrder
  dsimp only
  split
  · exact uniqueItemIds_nodup _
  split <;> exact uniqueItemIds_nodup _

section Entries

variable {mergeRow : MergeRow Card}

theorem has_mergeIntoEntries (rows : List (Entry Card)) (entries : Entries Card) (key : String) :
    (mergeIntoEntries mergeRow entries rows).has key = true ↔
      entries.has key = true ∨ key ∈ rows.filterMap transcriptRowKey := by
  induction rows generalizing entries with
  | nil => simp [mergeIntoEntries]
  | cons row rows ih =>
    refine (ih _).trans ?_
    cases at_key : transcriptRowKey row with
    | none => simp [at_key]
    | some named =>
      simp only [at_key]
      rw [InsertionMap.has_set]
      simp only [List.filterMap_cons, at_key, List.mem_cons]
      tauto

theorem mergeIntoEntries_keeps (kept : ∀ held row, Kept held (mergeRow (some held) row)) (rows : List (Entry Card))
    (entries : Entries Card) : Keeps entries (mergeIntoEntries mergeRow entries rows) := by
  induction rows generalizing entries with
  | nil => exact .refl entries
  | cons row rows ih =>
    refine Keeps.trans ?_ (ih _)
    dsimp only
    split
    · exact .refl entries
    · rename_i named at_key
      refine .set fun held at_held => ?_
      rw [at_held]
      exact kept held row

end Entries

theorem mem_keys_named {rows : List (Entry Card)} {key : String} (member : key ∈ rows.filterMap transcriptRowKey) :
    key ≠ "" := by
  obtain ⟨row, -, at_key⟩ := List.mem_filterMap.mp member
  exact transcriptRowKey_ne_empty at_key

/-- Rows merged into the map, with an order that lists what the window held and what came. -/
theorem merges_into_order {mergeRow : MergeRow Card} (kept : ∀ held row, Kept held (mergeRow (some held) row))
    {window : WindowDraft Card} (lists : Lists window.order window.entries) {rows : List (Entry Card)}
    {order : List String} (distinct : order.Nodup)
    (whole : ∀ key, key ∈ order ↔ key ≠ "" ∧ (key ∈ window.order ∨ key ∈ rows.filterMap transcriptRowKey)) :
    Merges rows window { order := order, entries := mergeIntoEntries mergeRow window.entries rows } where
  lists := by
    have named : ∀ key, (mergeIntoEntries mergeRow window.entries rows).has key = true → key ≠ "" := by
      intro key there
      rcases (has_mergeIntoEntries rows window.entries key).mp there with held | came
      · exact lists.named key held
      · exact mem_keys_named came
    refine ⟨distinct, fun key => ?_, named⟩
    constructor
    · intro member
      rw [has_mergeIntoEntries, ← lists.lists]
      exact ((whole key).mp member).2
    · intro there
      refine (whole key).mpr ⟨named key there, ?_⟩
      rw [lists.lists]
      exact (has_mergeIntoEntries rows window.entries key).mp there
  keeps := mergeIntoEntries_keeps kept rows window.entries
  has := has_mergeIntoEntries rows window.entries

theorem reconcileAuthoritativeTail_merges {merge : MergeRow Card} (keeps : KeepsRows merge) {w : WindowDraft Card}
    (lists : Lists w.order w.entries) (pageEntries : List (Entry Card)) :
    Merges (pageEntries.filter fun entry => (transcriptRowKey entry).isSome) w
        (reconcileAuthoritativeTail merge w pageEntries).1 ∧
      ((reconcileAuthoritativeTail merge w pageEntries).2 = true →
        OrderKeyed (reconcileAuthoritativeTail merge w pageEntries).1.entries.get
          (reconcileAuthoritativeTail merge w pageEntries).1.order) := by
  unfold reconcileAuthoritativeTail
  dsimp only
  split
  · rename_i numbered
    rw [Bool.and_eq_true] at numbered
    exact ⟨mergeWindowRowsInPlace_merges lists _, fun _ =>
      mergeWindowRowsInPlace_keyed keeps.fresh lists (windowIsOrderKeyed_iff.mp numbered.2) numbered.1⟩
  · exact ⟨merges_into_order keeps.kept lists (mergeTailPageOrder_nodup _ _) fun key => mem_mergeTailPageOrder,
      by simp⟩

end Sealwire.Hydration

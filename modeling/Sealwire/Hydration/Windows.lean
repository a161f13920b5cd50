import Mathlib.Data.List.TakeWhile
import Sealwire.Hydration.Slots

namespace Sealwire.Hydration

variable {Card : Type}

/-- The order lists exactly the keys of the map, each once, and no key is the empty name. -/
structure Lists (order : List String) (entries : Entries Card) : Prop where
  distinct : order.Nodup
  lists : ∀ key, key ∈ order ↔ entries.has key = true
  named : ∀ key, entries.has key = true → key ≠ ""

/-- A row after merges keeps its withdrawal and its first number. -/
structure Kept (held row : Entry Card) : Prop where
  withdrawn : held.withdrawn = true → row.withdrawn = true
  numbered : ∀ seq, held.orderSeq = some seq → row.orderSeq = some seq

theorem Kept.refl (row : Entry Card) : Kept row row := ⟨id, fun _ => id⟩

theorem Kept.trans {a b c : Entry Card} (first : Kept a b) (second : Kept b c) : Kept a c where
  withdrawn gone := second.withdrawn (first.withdrawn gone)
  numbered seq at_ := second.numbered seq (first.numbered seq at_)

/-- Every row of the first map is kept in the second. -/
def Keeps (before after : Entries Card) : Prop :=
  ∀ key held, before.get key = some held → ∃ row, after.get key = some row ∧ Kept held row

theorem Keeps.refl (entries : Entries Card) : Keeps entries entries :=
  fun _ held at_key => ⟨held, at_key, .refl held⟩

theorem Keeps.trans {a b c : Entries Card} (first : Keeps a b) (second : Keeps b c) : Keeps a c := by
  intro key held at_key
  obtain ⟨middle, at_middle, kept⟩ := first key held at_key
  obtain ⟨row, at_row, later⟩ := second key middle at_middle
  exact ⟨row, at_row, kept.trans later⟩

theorem Keeps.set {entries : Entries Card} {key : String} {row : Entry Card}
    (kept : ∀ held, entries.get key = some held → Kept held row) : Keeps entries (entries.set key row) := by
  intro other held at_other
  by_cases same : other = key
  · subst same
    exact ⟨row, by simp, kept held at_other⟩
  · exact ⟨held, by rw [InsertionMap.get_set_ne _ _ same, at_other], .refl held⟩

theorem Keeps.has {before after : Entries Card} (keeps : Keeps before after) {key : String}
    (held : before.has key = true) : after.has key = true := by
  obtain ⟨row, at_key⟩ := (InsertionMap.has_iff_get before key).mp held
  obtain ⟨next, at_next, -⟩ := keeps key row at_key
  exact (InsertionMap.has_iff_get after key).mpr ⟨next, at_next⟩

theorem Keeps.orderKey {before after : Entries Card} (keeps : Keeps before after) {key : String} {seq : Int}
    (at_key : orderKey (before.get key) = some seq) : orderKey (after.get key) = some seq := by
  obtain ⟨held, at_held, number⟩ := Option.bind_eq_some_iff.mp at_key
  obtain ⟨row, at_row, kept⟩ := keeps key held at_held
  rw [at_row]
  exact kept.numbered seq number

/-- Kept rows keep the window in number order. -/
theorem OrderKeyed.keeps {order : List String} {before after : Entries Card} (keyed : OrderKeyed before.get order)
    (keeps : Keeps before after) : OrderKeyed after.get order := by
  refine keyed.congr fun key member => ?_
  obtain ⟨seq, at_key⟩ := keyed.numbered key member
  rw [at_key, keeps.orderKey at_key]

/-- What bounds the numbers of ordered rows still bounds them. -/
theorem OrderKeyed.bound {order : List String} {before after : Entries Card} (keyed : OrderKeyed before.get order)
    (keeps : Keeps before after) {holds : Int → Prop}
    (bound : ∀ key ∈ order, ∀ n, orderKey (before.get key) = some n → holds n) :
    ∀ key ∈ order, ∀ n, orderKey (after.get key) = some n → holds n := by
  intro key member n at_n
  obtain ⟨seq, at_key⟩ := keyed.numbered key member
  rw [keeps.orderKey at_key] at at_n
  cases at_n
  exact bound key member _ at_key

/-- A merge that keeps what a row's identity owns, and takes a row that is new as it comes. -/
structure KeepsRows (mergeRow : MergeRow Card) : Prop where
  fresh : ∀ row, mergeRow none row = row
  kept : ∀ held row, Kept held (mergeRow (some held) row)

theorem kept_applyRowIdentityInvariants (held merged : Entry Card) :
    Kept held (applyRowIdentityInvariants (some held) merged) where
  withdrawn gone := by simp [applyRowIdentityInvariants, gone]
  numbered seq at_ := by simp [applyRowIdentityInvariants, at_]

theorem lists_set {order : List String} {entries : Entries Card} (lists : Lists order entries) {key : String}
    (held : entries.has key = true) (row : Entry Card) : Lists order (entries.set key row) where
  distinct := lists.distinct
  lists other := by
    rw [lists.lists other, InsertionMap.has_set]
    constructor
    · exact .inr
    · rintro (rfl | there)
      · exact held
      · exact there
  named other there := by
    rcases (InsertionMap.has_set ..).mp there with rfl | there
    · exact lists.named _ held
    · exact lists.named other there

theorem lists_insert {a b : List String} {entries : Entries Card} (lists : Lists (a ++ b) entries) {key : String}
    (fresh : entries.has key = false) (named : key ≠ "") (row : Entry Card) :
    Lists (a ++ key :: b) (entries.set key row) where
  distinct := by
    refine List.perm_middle.nodup_iff.mpr (List.nodup_cons.mpr ⟨fun member => ?_, lists.distinct⟩)
    rw [(lists.lists key).mp member] at fresh
    cases fresh
  lists other := by
    rw [InsertionMap.has_set, ← lists.lists other]
    simp only [List.mem_append, List.mem_cons]
    tauto
  named other there := by
    rcases (InsertionMap.has_set ..).mp there with rfl | there
    · exact named
    · exact lists.named other there

theorem lists_splice {order : List String} {entries : Entries Card} (lists : Lists order entries) {key : String}
    (fresh : entries.has key = false) (named : key ≠ "") (at_ : Nat) (row : Entry Card) :
    Lists (splice order at_ key) (entries.set key row) :=
  lists_insert (by rwa [List.take_append_drop]) fresh named row

theorem transcriptRowKey_ne_empty {row : Entry Card} {key : String} (at_key : transcriptRowKey row = some key) :
    key ≠ "" := by
  simpa using (Option.filter_eq_some_iff.mp at_key).2

/-- What a batch of rows makes of a window. -/
structure Merges (rows : List (Entry Card)) (before after : WindowDraft Card) : Prop where
  lists : Lists after.order after.entries
  keeps : Keeps before.entries after.entries
  has : ∀ key, after.entries.has key = true ↔ before.entries.has key = true ∨ key ∈ rows.filterMap transcriptRowKey

theorem Merges.refl {window : WindowDraft Card} (lists : Lists window.order window.entries) : Merges [] window window where
  lists := lists
  keeps := .refl _
  has key := by simp

theorem Merges.cons {row : Entry Card} {rows : List (Entry Card)} {a b c : WindowDraft Card} (first : Merges [row] a b)
    (rest : Merges rows b c) : Merges (row :: rows) a c where
  lists := rest.lists
  keeps := first.keeps.trans rest.keeps
  has key := by
    rw [rest.has, first.has]
    have one : (row :: rows).filterMap transcriptRowKey =
        [row].filterMap transcriptRowKey ++ rows.filterMap transcriptRowKey := by
      rw [← List.filterMap_append, List.singleton_append]
    rw [one, List.mem_append]
    tauto

section Upsert

variable {mergeRow : MergeRow Card} {window : WindowDraft Card} (lists : Lists window.order window.entries)
include lists

variable (mergeRow) in
theorem upsertRowAt_merges (row : Entry Card) (hint : Option Nat) :
    Merges [row] window (upsertRowAt mergeRow window row hint).1 := by
  unfold upsertRowAt
  split
  · rename_i unnamed
    exact ⟨lists, .refl _, fun key => by simp [unnamed]⟩
  · rename_i key at_key
    dsimp only
    have keeps : Keeps window.entries (window.entries.set key
        (applyRowIdentityInvariants (window.entries.get key) (mergeRow (window.entries.get key) row))) := by
      refine .set fun held at_held => ?_
      rw [at_held]
      exact kept_applyRowIdentityInvariants held _
    have has (other : String) : (window.entries.set key (applyRowIdentityInvariants (window.entries.get key)
        (mergeRow (window.entries.get key) row))).has other = true ↔
          window.entries.has other = true ∨ other ∈ [row].filterMap transcriptRowKey := by
      rw [InsertionMap.has_set]
      simp [at_key]
      tauto
    split
    · rename_i held
      exact ⟨lists_set lists held _, keeps, has⟩
    · rename_i fresh
      exact ⟨lists_splice lists (by simpa [InsertionMap.has] using fresh) (transcriptRowKey_ne_empty at_key) _ _, keeps,
        has⟩

theorem upsertRowAt_keyed (fresh_row : ∀ row, mergeRow none row = row) (keyed : OrderKeyed window.entries.get window.order)
    {row : Entry Card} {seq : Int} (numbered : row.orderSeq = some seq) (hint : Option Nat) :
    OrderKeyed (upsertRowAt mergeRow window row hint).1.entries.get (upsertRowAt mergeRow window row hint).1.order := by
  have merges := upsertRowAt_merges mergeRow lists row hint
  have still := keyed.keeps merges.keeps
  unfold upsertRowAt at *
  split
  · exact keyed
  · rename_i key at_key
    dsimp only
    split
    · rename_i held
      simpa [at_key, held] using still
    · rename_i fresh
      have gone : window.entries.get key = none := by simpa using fresh
      simp only [at_key, gone, Option.isSome_none, Bool.false_eq_true, if_false] at still ⊢
      have at_row : orderKey ((window.entries.set key (applyRowIdentityInvariants none (mergeRow none row))).get key) =
          some seq := by
        simp [applyRowIdentityInvariants, fresh_row, orderKey, numbered]
      exact still.splice at_row (windowInsertionIndex_slot still (by simpa [orderKey] using numbered) hint)

end Upsert

theorem mergeRowByRow_merges {mergeRow : MergeRow Card} (rows : List (Entry Card)) {window : WindowDraft Card}
    (lists : Lists window.order window.entries) (hint : Option Nat) :
    Merges rows window (mergeRowByRow mergeRow window hint rows) := by
  induction rows generalizing window hint with
  | nil => exact .refl lists
  | cons row rows ih =>
    have first := upsertRowAt_merges mergeRow lists row hint
    exact first.cons (ih first.lists _)

theorem mergeRowByRow_keyed {mergeRow : MergeRow Card} (fresh_row : ∀ row, mergeRow none row = row)
    (rows : List (Entry Card)) {window : WindowDraft Card} (lists : Lists window.order window.entries)
    (keyed : OrderKeyed window.entries.get window.order) (numbered : ∀ row ∈ rows, ∃ seq, row.orderSeq = some seq)
    (hint : Option Nat) :
    OrderKeyed (mergeRowByRow mergeRow window hint rows).entries.get (mergeRowByRow mergeRow window hint rows).order := by
  induction rows generalizing window hint with
  | nil => exact keyed
  | cons row rows ih =>
    obtain ⟨seq, at_row⟩ := numbered row List.mem_cons_self
    have first := upsertRowAt_merges mergeRow lists row hint
    exact ih first.lists (upsertRowAt_keyed lists fresh_row keyed at_row hint)
      (fun other member => numbered other (List.mem_cons_of_mem _ member)) _

section Linear

variable {mergeRow : MergeRow Card}

variable (mergeRow) in
/-- A row the window holds changes in place. -/
theorem held_merges {order : List String} {entries : Entries Card} (lists : Lists order entries) {row : Entry Card}
    {key : String} (at_key : transcriptRowKey row = some key) (held : entries.has key = true) :
    Merges [row] { order := order, entries := entries }
      { order := order
        entries := entries.set key (applyRowIdentityInvariants (entries.get key) (mergeRow (entries.get key) row)) } where
  lists := lists_set lists held _
  keeps := .set fun held at_held => by
    rw [at_held]
    exact kept_applyRowIdentityInvariants held _
  has other := by
    rw [InsertionMap.has_set]
    simp [at_key]
    tauto

variable (mergeRow) in
theorem fresh_merges {a b : List String} {entries : Entries Card} (lists : Lists (a ++ b) entries) {row : Entry Card}
    {key : String} (at_key : transcriptRowKey row = some key) (fresh : entries.has key = false) :
    Merges [row] { order := a ++ b, entries := entries }
      { order := a ++ key :: b
        entries := entries.set key (applyRowIdentityInvariants (entries.get key) (mergeRow (entries.get key) row)) } where
  lists := lists_insert lists fresh (transcriptRowKey_ne_empty at_key) _
  keeps := .set fun held at_held => by
    rw [at_held]
    exact kept_applyRowIdentityInvariants held _
  has other := by
    rw [InsertionMap.has_set]
    simp [at_key]
    tauto

variable (mergeRow) in
/-- The rows of the run, as they are met: `done` is what has been written of the order. -/
theorem mergeAscending_merges (rows : List (Entry Card)) {entries : Entries Card} (done : List String)
    {order : List String} (lists : Lists (done ++ order) entries) :
    Merges rows { order := done ++ order, entries := entries }
      { order := done ++ (mergeAscending mergeRow entries order rows).order
        entries := (mergeAscending mergeRow entries order rows).entries } := by
  induction rows generalizing entries done order with
  | nil => exact .refl lists
  | cons row rows ih =>
    unfold mergeAscending
    split
    · rename_i unnamed
      have first : Merges [row] { order := done ++ order, entries := entries }
          { order := done ++ order, entries := entries } := ⟨lists, .refl _, fun key => by simp [unnamed]⟩
      exact first.cons (ih _ lists)
    · rename_i key at_key
      dsimp only
      split
      · rename_i held
        have first := held_merges mergeRow lists at_key held
        exact first.cons (ih _ first.lists)
      · rename_i fresh
        generalize written : entries.set key
          (applyRowIdentityInvariants (entries.get key) (mergeRow (entries.get key) row)) = next
        generalize (fun id => !(orderKey (next.get id)).any fun number => decide (row.orderSeq.getD 0 < number)) = notAbove
        have whole : done ++ order = (done ++ order.takeWhile notAbove) ++ order.dropWhile notAbove := by
          rw [List.append_assoc, List.takeWhile_append_dropWhile]
        have first := fresh_merges mergeRow (whole ▸ lists) at_key
          (by simpa [InsertionMap.has] using fresh)
        rw [written, ← whole] at first
        have moved : (done ++ order.takeWhile notAbove) ++ key :: order.dropWhile notAbove =
            (done ++ order.takeWhile notAbove ++ [key]) ++ order.dropWhile notAbove := by simp
        rw [moved] at first
        have rest := ih _ first.lists
        have same : done ++ (order.takeWhile notAbove ++ key ::
            (mergeAscending mergeRow next (order.dropWhile notAbove) rows).order) =
            (done ++ order.takeWhile notAbove ++ [key]) ++
              (mergeAscending mergeRow next (order.dropWhile notAbove) rows).order := by simp
        rw [same]
        exact first.cons rest

/-- In a window in number order an ascending run is put in by number. -/
theorem mergeAscending_keyed (fresh_row : ∀ row, mergeRow none row = row) (rows : List (Entry Card))
    {entries : Entries Card} (done : List String) {order : List String} (lists : Lists (done ++ order) entries)
    (keyed : OrderKeyed entries.get (done ++ order)) (numbered : ∀ row ∈ rows, ∃ seq, row.orderSeq = some seq)
    (ascending : rows.Pairwise fun a b => a.orderSeq.getD 0 ≤ b.orderSeq.getD 0)
    (below : ∀ key ∈ done, ∀ n, orderKey (entries.get key) = some n → ∀ row ∈ rows, n ≤ row.orderSeq.getD 0) :
    OrderKeyed (mergeAscending mergeRow entries order rows).entries.get
      (done ++ (mergeAscending mergeRow entries order rows).order) := by
  induction rows generalizing entries done order with
  | nil => exact keyed
  | cons row rows ih =>
    obtain ⟨first_low, rest_ascending⟩ := List.pairwise_cons.mp ascending
    have rest_numbered : ∀ other ∈ rows, ∃ seq, other.orderSeq = some seq :=
      fun other member => numbered other (List.mem_cons_of_mem _ member)
    obtain ⟨seq, at_row⟩ := numbered row List.mem_cons_self
    unfold mergeAscending
    split
    · exact ih _ lists keyed rest_numbered rest_ascending fun key member n at_n other there =>
        below key member n at_n other (List.mem_cons_of_mem _ there)
    · rename_i key at_key
      dsimp only
      split
      · rename_i held
        have first := held_merges mergeRow lists at_key held
        refine ih _ first.lists (keyed.keeps first.keeps) rest_numbered rest_ascending ?_
        exact (keyed.left).bound first.keeps fun id member n at_n other there =>
          below id member n at_n other (List.mem_cons_of_mem _ there)
      · rename_i fresh
        have gone : entries.get key = none := by simpa using fresh
        have keeps : Keeps entries (entries.set key
            (applyRowIdentityInvariants (entries.get key) (mergeRow (entries.get key) row))) :=
          .set fun held at_held => by
            rw [gone] at at_held
            cases at_held
        have at_new : orderKey ((entries.set key
            (applyRowIdentityInvariants (entries.get key) (mergeRow (entries.get key) row))).get key) = some seq := by
          simp [gone, applyRowIdentityInvariants, fresh_row, orderKey, at_row]
        have first := fun (a b : List String) (whole : done ++ order = a ++ b) =>
          fresh_merges mergeRow (whole ▸ lists) at_key (by simp [InsertionMap.has, gone])
        generalize entries.set key
          (applyRowIdentityInvariants (entries.get key) (mergeRow (entries.get key) row)) = next at *
        generalize is_notAbove :
          (fun id => !(orderKey (next.get id)).any fun number => decide (row.orderSeq.getD 0 < number)) = notAbove
        have whole : done ++ order = (done ++ order.takeWhile notAbove) ++ order.dropWhile notAbove := by
          rw [List.append_assoc, List.takeWhile_append_dropWhile]
        have still_whole := keyed.keeps keeps
        have still := whole ▸ still_whole
        have low_done : ∀ id ∈ done, ∀ n, orderKey (next.get id) = some n → n ≤ seq :=
          keyed.left.bound keeps fun id member n at_n => by
            simpa [at_row] using below id member n at_n row List.mem_cons_self
        have low : ∀ id ∈ done ++ order.takeWhile notAbove, ∀ n, orderKey (next.get id) = some n → n ≤ seq := by
          intro id member n at_n
          rcases List.mem_append.mp member with in_done | taken
          · exact low_done id in_done n at_n
          · have not_above := List.mem_takeWhile_imp taken
            subst is_notAbove
            simpa [at_n, at_row] using not_above
        have high : ∀ id ∈ order.dropWhile notAbove, ∀ n, orderKey (next.get id) = some n → seq ≤ n := by
          refine (OrderKeyed.right still_whole).above_dropWhile fun id member stops n at_n => ?_
          subst is_notAbove
          exact Int.le_of_lt (by simpa [at_n, at_row] using stops)
        have inserted := still.insert at_new low high
        have moved : (done ++ order.takeWhile notAbove) ++ key :: order.dropWhile notAbove =
            (done ++ order.takeWhile notAbove ++ [key]) ++ order.dropWhile notAbove := by simp
        rw [moved] at inserted
        have rest := ih _ (moved ▸ (first _ _ whole).lists) inserted rest_numbered rest_ascending ?_
        · have same : done ++ (order.takeWhile notAbove ++ key ::
              (mergeAscending mergeRow next (order.dropWhile notAbove) rows).order) =
              (done ++ order.takeWhile notAbove ++ [key]) ++
                (mergeAscending mergeRow next (order.dropWhile notAbove) rows).order := by simp
          rw [same]
          exact rest
        · intro id member n at_n other there
          have next_low : seq ≤ other.orderSeq.getD 0 := by simpa [at_row] using first_low other there
          rcases List.mem_append.mp member with before | here
          · exact Int.le_trans (low id before n at_n) next_low
          · rw [List.mem_singleton] at here
            subst here
            rw [at_new] at at_n
            cases at_n
            exact next_low

end Linear

end Sealwire.Hydration

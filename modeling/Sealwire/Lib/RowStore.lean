import Mathlib.Data.List.Nodup
import Sealwire.Lib.Table

namespace Sealwire

universe u v w

namespace Table

variable {K : Type u} {V : Type v} [DecidableEq K]

theorem mem_pairs_iff {t : Table K V} {k : K} {v : V} : (k, v) ∈ t.pairs ↔ t.get k = some v := by
  rw [get_eq_some_iff]
  unfold pairs
  constructor
  · intro member
    obtain ⟨entry, inside, same⟩ := List.mem_map.mp member
    cases same
    exact inside
  · intro member
    exact List.mem_map.mpr ⟨⟨k, v⟩, member, rfl⟩

omit [DecidableEq K] in
theorem pairs_nodup (t : Table K V) : (t.pairs.map Prod.fst).Nodup := by
  have keys : t.pairs.map Prod.fst = t.keys := by
    unfold pairs AList.keys List.keys
    rw [List.map_map]
    rfl
  rw [keys]
  exact t.keys_nodup

/-- Two maps with the same value under every key. -/
def Same (s t : Table K V) : Prop :=
  ∀ k, s.get k = t.get k

theorem same_iff_pairs {s t : Table K V} :
    s.Same t ↔ (∀ e ∈ s.pairs, t.get e.1 = some e.2) ∧ ∀ e ∈ t.pairs, s.get e.1 = some e.2 := by
  constructor
  · intro same
    exact ⟨fun e member => (same e.1).symm.trans (mem_pairs_iff.mp member),
      fun e member => (same e.1).trans (mem_pairs_iff.mp member)⟩
  · rintro ⟨left, right⟩ k
    cases found : s.get k with
    | some v => exact (left (k, v) (mem_pairs_iff.mpr found)).symm
    | none =>
      cases other : t.get k with
      | none => rfl
      | some v =>
        have held := right (k, v) (mem_pairs_iff.mpr other)
        rw [found] at held
        cases held

instance decidableSame [DecidableEq V] (s t : Table K V) : Decidable (s.Same t) :=
  decidable_of_iff _ same_iff_pairs.symm

theorem Same.symm {s t : Table K V} (same : s.Same t) : t.Same s :=
  fun k => (same k).symm

theorem Same.trans {s t r : Table K V} (first : s.Same t) (second : t.Same r) : s.Same r :=
  fun k => (first k).trans (second k)

theorem lookup_eq_some_iff_mem {l : List (K × V)} (once : (l.map Prod.fst).Nodup) {k : K} {v : V} :
    l.lookup k = some v ↔ (k, v) ∈ l := by
  induction l with
  | nil => simp
  | cons e l ih =>
    obtain ⟨key, value⟩ := e
    rw [List.map_cons, List.nodup_cons] at once
    rw [List.lookup_cons]
    by_cases same : k = key
    · subst same
      have fresh : (k, v) ∉ l := fun member => once.1 (List.mem_map.mpr ⟨_, member, rfl⟩)
      simp [fresh, eq_comm]
    · simp [same, beq_eq_false_iff_ne.mpr same, ih once.2]

/-- The pairs that are not already held under the same value. -/
def changed [DecidableEq V] (before after : Table K V) : List (K × V) :=
  after.pairs.filter fun e => before.get e.1 ≠ some e.2

/-- The keys that are no longer held. -/
def removed (before after : Table K V) : List K :=
  (before.pairs.map Prod.fst).filter fun k => !after.has k

end Table

/-- A store seen as a map: what one row's write and one row's delete do to the view. -/
structure RowStore (S : Type w) (K : Type u) (V : Type v) [DecidableEq K] where
  view : S → K → Option V
  put : S → K × V → S
  drop : S → K → S
  view_put : ∀ s e k, view (put s e) k = if k = e.1 then some e.2 else view s k
  view_drop : ∀ s j k, view (drop s j) k = if k = j then none else view s k

namespace RowStore

variable {S : Type w} {K : Type u} {V : Type v} [DecidableEq K] (store : RowStore S K V)

theorem view_foldl_put {l : List (K × V)} (once : (l.map Prod.fst).Nodup) (s : S) (k : K) :
    store.view (l.foldl store.put s) k = (l.lookup k).or (store.view s k) := by
  induction l generalizing s with
  | nil => simp
  | cons e l ih =>
    obtain ⟨key, value⟩ := e
    rw [List.map_cons, List.nodup_cons] at once
    rw [List.foldl_cons, ih once.2, store.view_put, List.lookup_cons]
    by_cases same : k = key
    · subst same
      have fresh : l.lookup k = none := by
        rw [List.lookup_eq_none_iff]
        intro p member
        exact bne_iff_ne.mpr fun equal => once.1 (List.mem_map.mpr ⟨p, member, equal.symm⟩)
      simp [fresh]
    · simp [same, beq_eq_false_iff_ne.mpr same]

theorem view_foldl_drop (l : List K) (s : S) (k : K) :
    store.view (l.foldl store.drop s) k = if k ∈ l then none else store.view s k := by
  induction l generalizing s with
  | nil => simp
  | cons j l ih =>
    rw [List.foldl_cons, ih, store.view_drop]
    by_cases later : k ∈ l <;> by_cases same : k = j <;> simp [later, same]

/-- Writing the changed rows and then deleting the removed ones turns a store that holds
`before` into one that holds `after`. -/
theorem view_diff [DecidableEq V] {before after : Table K V} {s : S} (holds : ∀ k, store.view s k = before.get k)
    (k : K) :
    store.view ((Table.removed before after).foldl store.drop ((Table.changed before after).foldl store.put s)) k =
      after.get k := by
  have once : ((Table.changed before after).map Prod.fst).Nodup :=
    (List.filter_sublist.map _).nodup after.pairs_nodup
  rw [store.view_foldl_drop, store.view_foldl_put once, holds]
  have gone : k ∈ Table.removed before after ↔ (∃ v, before.get k = some v) ∧ after.get k = none := by
    simp [Table.removed, Table.has, Table.mem_pairs_iff]
  have written (v : V) : (Table.changed before after).lookup k = some v ↔ after.get k = some v ∧ before.get k ≠ some v := by
    rw [Table.lookup_eq_some_iff_mem once]
    simp [Table.changed, Table.mem_pairs_iff]
  split
  · rename_i dropped
    exact (gone.mp dropped).2.symm
  · rename_i kept
    cases row : (Table.changed before after).lookup k with
    | some v => exact ((written v).mp row).1.symm
    | none =>
      rw [Option.none_or]
      cases new : after.get k with
      | none =>
        cases old : before.get k with
        | none => rfl
        | some v => exact absurd (gone.mpr ⟨⟨v, old⟩, new⟩) kept
      | some v =>
        by_contra different
        rw [(written v).mpr ⟨new, different⟩] at row
        cases row

end RowStore

namespace Table

variable {K : Type u} {V : Type v} [DecidableEq K]

/-- A map as a store of its own. -/
def rowStore : RowStore (Table K V) K V where
  view := get
  put := fun t e => t.put e.1 e.2
  drop := drop
  view_put := fun t e k => get_put t e.1 k e.2
  view_drop := fun t j k => get_drop t j k

/-- Collect pairs into a map; a later pair replaces an earlier one of its key. -/
def ofPairs (l : List (K × V)) : Table K V :=
  l.foldl (fun t e => t.put e.1 e.2) ∅

theorem get_ofPairs {l : List (K × V)} (once : (l.map Prod.fst).Nodup) (k : K) : (ofPairs l).get k = l.lookup k := by
  have held := rowStore.view_foldl_put once (∅ : Table K V) k
  unfold ofPairs
  simpa [rowStore] using held

theorem get_ofPairs_iff {l : List (K × V)} (once : (l.map Prod.fst).Nodup) {k : K} {v : V} :
    (ofPairs l).get k = some v ↔ (k, v) ∈ l := by
  rw [get_ofPairs once, lookup_eq_some_iff_mem once]

end Table

end Sealwire

import Mathlib.Data.List.Perm.Subperm
import Sealwire.Lib.Table

namespace Sealwire

universe u v

namespace Table

variable {K : Type u} {V : Type v} [DecidableEq K] {t : Table K V} {k : K} {value : V} {counted : V → Bool}

/-- How many of the values are counted. -/
def count (t : Table K V) (counted : V → Bool) : Nat :=
  (t.pairs.filter fun pair => counted pair.2).length

omit [DecidableEq K] in
theorem count_eq_entries (t : Table K V) (counted : V → Bool) :
    t.count counted = (t.entries.filter fun entry => counted entry.2).length := by
  unfold count pairs
  rw [List.filter_map, List.length_map]
  rfl

/-- A table whose rows are rows of another has no more to count. -/
theorem count_le_of_sub {fewer : Table K V} (kept : ∀ k value, fewer.get k = some value → t.get k = some value) :
    fewer.count counted ≤ t.count counted := by
  have nodup : fewer.entries.Nodup := fewer.nodupKeys.nodup
  have sub : fewer.entries ⊆ t.entries := fun entry member =>
    Table.get_eq_some_iff.mp (kept entry.1 entry.2 (Table.get_eq_some_iff.mpr member))
  rw [count_eq_entries, count_eq_entries]
  exact ((List.subperm_of_subset nodup sub).filter _).length_le

theorem count_put (t : Table K V) (k : K) (value : V) :
    (t.put k value).count counted = (t.drop k).count counted + if counted value then 1 else 0 := by
  have entries : (t.put k value).entries = ⟨k, value⟩ :: (t.drop k).entries := AList.entries_insert
  rw [count_eq_entries, count_eq_entries, entries, List.filter_cons]
  cases counted value with
  | true =>
    simp only [if_true, List.length_cons]
  | false => simp only [Bool.false_eq_true, if_false, Nat.add_zero]

/-- Dropping a row takes it out of the count. -/
theorem count_drop_of_get (found : t.get k = some value) :
    (t.drop k).count counted + (if counted value then 1 else 0) = t.count counted := by
  have member := Table.get_eq_some_iff.mp found
  obtain ⟨other, before, after, apart, split, erased⟩ := List.exists_of_kerase (List.mem_keys_of_mem member)
  have same : other = value := by
    have first : t.entries.dlookup k = some other := by
      rw [split, List.dlookup_append, List.dlookup_eq_none.mpr apart, Option.none_or, List.dlookup_cons_eq]
    have found_there : t.entries.dlookup k = some value := found
    rw [first] at found_there
    exact Option.some.inj found_there
  subst same
  have dropped : (t.drop k).entries = before ++ after := erased
  rw [count_eq_entries, count_eq_entries, dropped, split, List.filter_append, List.filter_append, List.length_append,
    List.length_append, List.filter_cons]
  cases counted other with
  | true =>
    simp only [if_true, List.length_cons]
    omega
  | false =>
    simp only [Bool.false_eq_true, if_false, Nat.add_zero]

theorem count_drop_le (t : Table K V) (k : K) : (t.drop k).count counted ≤ t.count counted :=
  count_le_of_sub fun _ _ found => Table.get_of_get_drop found

theorem count_put_le (t : Table K V) (k : K) (value : V) : (t.put k value).count counted ≤ t.count counted + 1 := by
  have dropped : (t.drop k).count counted ≤ t.count counted := t.count_drop_le k
  rw [count_put]
  split <;> omega

/-- A row that takes the place of one that was counted counts no more than that. -/
theorem count_put_of_get (found : t.get k = some value) (was : counted value = true) (now : V) :
    (t.put k now).count counted ≤ t.count counted := by
  have dropped : (t.drop k).count counted + (if counted value then 1 else 0) = t.count counted := count_drop_of_get found
  rw [was, if_pos rfl] at dropped
  rw [count_put]
  split <;> omega

theorem count_modify_le (t : Table K V) (k : K) (change : V → V) (same : ∀ value, counted (change value) = counted value) :
    (t.modify k change).count counted ≤ t.count counted := by
  unfold modify
  split
  · rename_i value found
    have dropped : (t.drop k).count counted + (if counted value then 1 else 0) = t.count counted := count_drop_of_get found
    rw [count_put, same]
    exact Nat.le_of_eq dropped
  · exact Nat.le_refl _

end Table

end Sealwire

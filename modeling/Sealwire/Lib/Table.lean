import Mathlib.Data.List.AList

namespace Sealwire

universe u v

/-- A finite map with one value for each key. The order of the entries stands for
the iteration order of a hash map. -/
abbrev Table (K : Type u) (V : Type v) := AList (fun _ : K => V)

namespace Table

variable {K : Type u} {V : Type v} [DecidableEq K]

def get (t : Table K V) (k : K) : Option V := t.lookup k

def put (t : Table K V) (k : K) (v : V) : Table K V := t.insert k v

def drop (t : Table K V) (k : K) : Table K V := t.erase k

def has (t : Table K V) (k : K) : Bool := (t.get k).isSome

def len (t : Table K V) : Nat := t.entries.length

/-- The entries, in iteration order. -/
def pairs (t : Table K V) : List (K × V) := t.entries.map fun e => (e.1, e.2)

omit [DecidableEq K] in
theorem filter_nodupKeys {l : List (Sigma fun _ : K => V)} (h : l.NodupKeys) (p : (Sigma fun _ : K => V) → Bool) :
    (l.filter p).NodupKeys :=
  h.sublist List.filter_sublist

/-- `HashMap::retain`. -/
def retain (t : Table K V) (p : K → V → Bool) : Table K V :=
  ⟨t.entries.filter fun e => p e.1 e.2, filter_nodupKeys t.nodupKeys _⟩

/-- Replace the value under a key that is present. -/
def modify (t : Table K V) (k : K) (f : V → V) : Table K V :=
  match t.get k with
  | some v => t.put k (f v)
  | none => t

@[simp] theorem get_empty (k : K) : get (∅ : Table K V) k = none :=
  AList.lookup_empty k

theorem get_put (t : Table K V) (k j : K) (v : V) : (t.put k v).get j = if j = k then some v else t.get j := by
  unfold get put
  split
  · rename_i same
    subst same
    exact AList.lookup_insert t
  · rename_i other
    exact AList.lookup_insert_ne other

@[simp] theorem get_put_self (t : Table K V) (k : K) (v : V) : (t.put k v).get k = some v := by
  simp [get_put]

theorem get_put_ne (t : Table K V) {k j : K} (v : V) (other : j ≠ k) : (t.put k v).get j = t.get j := by
  simp [get_put, other]

theorem get_drop (t : Table K V) (k j : K) : (t.drop k).get j = if j = k then none else t.get j := by
  unfold get drop
  split
  · rename_i same
    subst same
    exact AList.lookup_erase j t
  · rename_i other
    exact AList.lookup_erase_ne other

theorem drop_drop (t : Table K V) (k : K) : (t.drop k).drop k = t.drop k :=
  AList.ext (List.kerase_of_notMem_keys (List.notMem_keys_kerase k t.nodupKeys))

theorem get_eq_some_iff {t : Table K V} {k : K} {v : V} : t.get k = some v ↔ ⟨k, v⟩ ∈ t.entries :=
  AList.mem_lookup_iff

theorem get_retain (t : Table K V) (p : K → V → Bool) (k : K) :
    (t.retain p).get k = (t.get k).filter (p k) := by
  apply Option.ext
  intro v
  rw [get_eq_some_iff, Option.filter_eq_some_iff, get_eq_some_iff]
  simp [retain]

theorem get_of_get_retain {t : Table K V} {p : K → V → Bool} {k : K} {v : V}
    (found : (t.retain p).get k = some v) : t.get k = some v := by
  rw [get_retain, Option.filter_eq_some_iff] at found
  exact found.1

theorem get_of_get_drop {t : Table K V} {j k : K} {v : V} (found : (t.drop j).get k = some v) :
    t.get k = some v := by
  rw [get_drop] at found
  split at found
  · cases found
  · exact found

theorem get_modify (t : Table K V) (k j : K) (f : V → V) :
    (t.modify k f).get j = if j = k then (t.get k).map f else t.get j := by
  unfold modify
  split
  · rename_i v at_k
    simp [get_put, at_k]
  · rename_i at_k
    split
    · rename_i same
      simp [same, at_k]
    · rfl

theorem has_iff {t : Table K V} {k : K} : t.has k = true ↔ ∃ v, t.get k = some v := by
  simp [has, Option.isSome_iff_exists]

theorem has_put {t : Table K V} {k j : K} {v : V} : (t.put k v).has j = true ↔ j = k ∨ t.has j = true := by
  unfold has
  rw [get_put]
  by_cases same : j = k <;> simp [same]

theorem has_drop {t : Table K V} {k j : K} : (t.drop k).has j = true ↔ j ≠ k ∧ t.has j = true := by
  unfold has
  rw [get_drop]
  by_cases same : j = k <;> simp [same]

/-- The values do not depend on the order of the entries. -/
theorem get_perm {s t : Table K V} (h : s.entries.Perm t.entries) (k : K) : s.get k = t.get k :=
  AList.perm_lookup h

end Table

end Sealwire

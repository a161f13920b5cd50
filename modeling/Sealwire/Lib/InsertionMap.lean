import Mathlib.Data.List.Basic

namespace Sealwire

universe u v

variable {K : Type u} {V : Type v} [DecidableEq K]

/-- The value under a key of a list of pairs. -/
def pairGet : List (K × V) → K → Option V
  | [], _ => none
  | (j, value) :: rest, k => if j = k then some value else pairGet rest k

/-- A key that is there keeps its place, and a new one goes last. -/
def pairSet : List (K × V) → K → V → List (K × V)
  | [], k, value => [(k, value)]
  | (j, old) :: rest, k, value => if j = k then (k, value) :: rest else (j, old) :: pairSet rest k value

theorem mem_keys_pairSet (pairs : List (K × V)) (k j : K) (value : V) :
    j ∈ (pairSet pairs k value).map Prod.fst ↔ j = k ∨ j ∈ pairs.map Prod.fst := by
  induction pairs with
  | nil => simp [pairSet]
  | cons pair rest ih =>
    obtain ⟨i, old⟩ := pair
    unfold pairSet
    split
    · rename_i same
      simp [same]
    · simp only [List.map_cons, List.mem_cons, ih]
      tauto

theorem nodup_pairSet {pairs : List (K × V)} (nodup : (pairs.map Prod.fst).Nodup) (k : K) (value : V) :
    ((pairSet pairs k value).map Prod.fst).Nodup := by
  induction pairs with
  | nil => simp [pairSet]
  | cons pair rest ih =>
    obtain ⟨i, old⟩ := pair
    obtain ⟨fresh, rest_nodup⟩ := List.nodup_cons.mp nodup
    unfold pairSet
    split
    · rename_i same
      exact List.nodup_cons.mpr ⟨same ▸ fresh, rest_nodup⟩
    · rename_i other
      refine List.nodup_cons.mpr ⟨fun member => ?_, ih rest_nodup⟩
      rcases (mem_keys_pairSet rest k i value).mp member with rfl | there
      · exact other rfl
      · exact fresh there

theorem pairGet_pairSet (pairs : List (K × V)) (k j : K) (value : V) :
    pairGet (pairSet pairs k value) j = if j = k then some value else pairGet pairs j := by
  induction pairs with
  | nil =>
    by_cases same : j = k
    · simp [pairSet, pairGet, same]
    · simp [pairSet, pairGet, same, Ne.symm same]
  | cons pair rest ih =>
    obtain ⟨i, old⟩ := pair
    unfold pairSet
    split
    · rename_i same
      subst same
      by_cases here : j = i
      · simp [pairGet, here]
      · simp [pairGet, here, Ne.symm here]
    · rename_i other
      by_cases here : i = j
      · subst here
        simp [pairGet, other]
      · simp [pairGet, here, ih]

theorem isSome_pairGet (pairs : List (K × V)) (k : K) :
    (pairGet pairs k).isSome = true ↔ k ∈ pairs.map Prod.fst := by
  induction pairs with
  | nil => simp [pairGet]
  | cons pair rest ih =>
    obtain ⟨i, old⟩ := pair
    unfold pairGet
    split
    · rename_i same
      simp [same]
    · rename_i other
      simp [ih, Ne.symm other]

theorem pairGet_filter (pairs : List (K × V)) (k j : K) :
    pairGet (pairs.filter fun pair => pair.1 ≠ k) j = if j = k then none else pairGet pairs j := by
  induction pairs with
  | nil => simp [pairGet]
  | cons pair rest ih =>
    obtain ⟨i, old⟩ := pair
    by_cases dropped : i = k
    · subst dropped
      rw [List.filter_cons_of_neg (by simp), ih]
      by_cases here : j = i
      · simp [here]
      · simp [pairGet, here, Ne.symm here]
    · rw [List.filter_cons_of_pos (by simpa using dropped)]
      by_cases here : i = j
      · subst here
        simp [pairGet, dropped]
      · simpa [pairGet, here] using ih

theorem pairGet_map (pairs : List (K × V)) (f : V → V) (k : K) :
    pairGet (pairs.map fun pair => (pair.1, f pair.2)) k = (pairGet pairs k).map f := by
  induction pairs with
  | nil => rfl
  | cons pair rest ih =>
    obtain ⟨i, old⟩ := pair
    simp only [List.map_cons, pairGet]
    split
    · rfl
    · exact ih

theorem pairGet_none {pairs : List (K × V)} {k : K} (absent : k ∉ pairs.map Prod.fst) : pairGet pairs k = none := by
  rw [← isSome_pairGet] at absent
  simpa using absent

theorem pairGet_of_mem {pairs : List (K × V)} (nodup : (pairs.map Prod.fst).Nodup) {k : K} {value : V}
    (member : (k, value) ∈ pairs) : pairGet pairs k = some value := by
  induction pairs with
  | nil => cases member
  | cons pair rest ih =>
    obtain ⟨fresh, rest_nodup⟩ := List.nodup_cons.mp nodup
    rcases List.mem_cons.mp member with rfl | there
    · exact if_pos rfl
    · have other : pair.1 ≠ k := fun same => fresh (same ▸ List.mem_map_of_mem there)
      exact (if_neg other).trans (ih rest_nodup there)

/-- A map that is iterated in the order its keys were first set. -/
structure InsertionMap (K : Type u) (V : Type v) where
  pairs : List (K × V)
  nodup : (pairs.map Prod.fst).Nodup

namespace InsertionMap

omit [DecidableEq K] in
@[ext] theorem ext {m n : InsertionMap K V} (same : m.pairs = n.pairs) : m = n := by
  cases m
  cases n
  simpa using same

instance [DecidableEq V] : DecidableEq (InsertionMap K V) := fun _ _ => decidable_of_iff _ InsertionMap.ext_iff.symm

def empty : InsertionMap K V := ⟨[], List.nodup_nil⟩

def get (m : InsertionMap K V) (k : K) : Option V := pairGet m.pairs k

def has (m : InsertionMap K V) (k : K) : Bool := (m.get k).isSome

def keys (m : InsertionMap K V) : List K := m.pairs.map Prod.fst

def size (m : InsertionMap K V) : Nat := m.pairs.length

def set (m : InsertionMap K V) (k : K) (value : V) : InsertionMap K V :=
  ⟨pairSet m.pairs k value, nodup_pairSet m.nodup k value⟩

def delete (m : InsertionMap K V) (k : K) : InsertionMap K V :=
  ⟨m.pairs.filter fun pair => pair.1 ≠ k, m.nodup.sublist (List.filter_sublist.map Prod.fst)⟩

/-- Set every key that is there to a value made of the one it has. -/
def mapValues (m : InsertionMap K V) (f : V → V) : InsertionMap K V :=
  ⟨m.pairs.map fun pair => (pair.1, f pair.2), by simpa [Function.comp_def] using m.nodup⟩

variable (m : InsertionMap K V)

@[simp] theorem get_empty (k : K) : (empty : InsertionMap K V).get k = none := rfl

theorem get_set (k j : K) (value : V) : (m.set k value).get j = if j = k then some value else m.get j :=
  pairGet_pairSet m.pairs k j value

@[simp] theorem get_set_self (k : K) (value : V) : (m.set k value).get k = some value := by
  simp [get_set]

theorem get_set_ne {k j : K} (value : V) (other : j ≠ k) : (m.set k value).get j = m.get j := by
  simp [get_set, other]

theorem get_delete (k j : K) : (m.delete k).get j = if j = k then none else m.get j :=
  pairGet_filter m.pairs k j

theorem get_mapValues (f : V → V) (k : K) : (m.mapValues f).get k = (m.get k).map f :=
  pairGet_map m.pairs f k

theorem get_of_mem {k : K} {value : V} (member : (k, value) ∈ m.pairs) : m.get k = some value :=
  pairGet_of_mem m.nodup member

theorem has_iff_mem (k : K) : m.has k = true ↔ k ∈ m.keys :=
  isSome_pairGet m.pairs k

theorem has_iff_get (k : K) : m.has k = true ↔ ∃ value, m.get k = some value :=
  Option.isSome_iff_exists

theorem has_set (k j : K) (value : V) : (m.set k value).has j = true ↔ j = k ∨ m.has j = true := by
  rw [has_iff_mem, has_iff_mem]
  exact mem_keys_pairSet m.pairs k j value

/-- Setting pairs of different keys, one after the other. -/
theorem get_foldl_set {pairs : List (K × V)} (nodup : (pairs.map Prod.fst).Nodup) (k : K) :
    (pairs.foldl (fun n pair => n.set pair.1 pair.2) m).get k = (pairGet pairs k).or (m.get k) := by
  induction pairs generalizing m with
  | nil => simp [pairGet]
  | cons pair rest ih =>
    obtain ⟨fresh, distinct⟩ := List.nodup_cons.mp nodup
    rw [List.foldl_cons, ih _ distinct, get_set]
    by_cases same : k = pair.1
    · subst same
      simp [pairGet, pairGet_none fresh]
    · simp [pairGet, same, Ne.symm same]

theorem has_mapValues (f : V → V) (k : K) : (m.mapValues f).has k = m.has k := by
  simp [has, get_mapValues]

end InsertionMap

end Sealwire

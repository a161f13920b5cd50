import Mathlib.Order.Defs.LinearOrder
import Mathlib.Order.Lattice
import Mathlib.Data.List.Basic

namespace Sealwire

section KeyRange

variable {α κ : Type} [LinearOrder κ] {key : α → κ}

/-- The elements whose keys are in `[low, high)`. -/
def keyRange (key : α → κ) (low high : κ) (l : List α) : List α :=
  l.filter fun x => low ≤ key x ∧ key x < high

theorem mem_keyRange {low high : κ} {l : List α} {x : α} :
    x ∈ keyRange key low high l ↔ x ∈ l ∧ low ≤ key x ∧ key x < high := by
  simp [keyRange]

theorem keyRange_empty {low high : κ} (none_between : high ≤ low) (l : List α) : keyRange key low high l = [] := by
  refine List.filter_eq_nil_iff.mpr fun x _ => ?_
  have outside : ¬(low ≤ key x ∧ key x < high) := fun inside =>
    absurd (lt_of_le_of_lt inside.1 inside.2) (not_lt.mpr none_between)
  simpa using outside

theorem keyRange_append (low high : κ) (a b : List α) :
    keyRange key low high (a ++ b) = keyRange key low high a ++ keyRange key low high b :=
  List.filter_append ..

theorem keyRange_outside {low high : κ} {l : List α} (outside : ∀ x ∈ l, key x < low ∨ high ≤ key x) :
    keyRange key low high l = [] := by
  refine List.filter_eq_nil_iff.mpr fun x member => ?_
  rcases outside x member with below | above
  · simp [not_le.mpr below]
  · simp [not_lt.mpr above]

/-- In a sorted list what is below a key comes first. -/
theorem takeWhile_lt_eq_filter {l : List α} (sorted : (l.map key).Pairwise (· < ·)) (bound : κ) :
    l.takeWhile (fun x => key x < bound) = l.filter fun x => key x < bound := by
  induction l with
  | nil => rfl
  | cons x rest ih =>
    rw [List.map_cons, List.pairwise_cons] at sorted
    by_cases below : key x < bound
    · rw [List.takeWhile_cons_of_pos (by simpa using below), List.filter_cons_of_pos (by simpa using below),
        ih sorted.2]
    · have above (y : α) (member : y ∈ rest) : ¬key y < bound :=
        not_lt.mpr (le_of_lt (lt_of_le_of_lt (not_lt.mp below) (sorted.1 _ (List.mem_map_of_mem member))))
      rw [List.takeWhile_cons_of_neg (by simpa using below), List.filter_cons_of_neg (by simpa using below)]
      refine (List.filter_eq_nil_iff.mpr fun y member => ?_).symm
      simpa using above y member

/-- From an element on, a sorted list is what is not below the element's key. -/
theorem drop_eq_filter_le {l : List α} (sorted : (l.map key).Pairwise (· < ·)) {i : Nat} {x : α}
    (at_i : l[i]? = some x) : l.drop i = l.filter fun y => key x ≤ key y := by
  induction l generalizing i with
  | nil => simp at at_i
  | cons y rest ih =>
    rw [List.map_cons, List.pairwise_cons] at sorted
    cases i with
    | zero =>
      obtain rfl := Option.some.inj at_i
      refine (List.filter_eq_self.mpr fun z member => ?_).symm
      rcases List.mem_cons.mp member with rfl | later
      · simp
      · simpa using le_of_lt (sorted.1 _ (List.mem_map_of_mem later))
    | succ i =>
      rw [List.getElem?_cons_succ] at at_i
      have before : key y < key x := sorted.1 _ (List.mem_map_of_mem (List.mem_of_getElem? at_i))
      rw [List.drop_succ_cons, ih sorted.2 at_i, List.filter_cons_of_neg (by simpa using before)]

theorem keyRange_cons_of_mem {low high : κ} {x : α} (inside : low ≤ key x ∧ key x < high) (rest : List α) :
    keyRange key low high (x :: rest) = x :: keyRange key low high rest :=
  List.filter_cons_of_pos (by simpa using inside)

theorem keyRange_cons_of_not_mem {low high : κ} {x : α} (outside : ¬(low ≤ key x ∧ key x < high)) (rest : List α) :
    keyRange key low high (x :: rest) = keyRange key low high rest :=
  List.filter_cons_of_neg (by simpa using outside)

/-- Two ranges that meet are one. -/
theorem keyRange_join {l : List α} (sorted : (l.map key).Pairwise (· < ·)) {low mid high : κ} (below : low ≤ mid)
    (above : mid ≤ high) : keyRange key low mid l ++ keyRange key mid high l = keyRange key low high l := by
  induction l with
  | nil => rfl
  | cons x rest ih =>
    rw [List.map_cons, List.pairwise_cons] at sorted
    have joined := ih sorted.2
    by_cases early : key x < mid
    · have out : ¬(mid ≤ key x ∧ key x < high) := fun inside => absurd early (not_lt.mpr inside.1)
      rw [keyRange_cons_of_not_mem out]
      by_cases there : low ≤ key x
      · rw [keyRange_cons_of_mem ⟨there, early⟩, keyRange_cons_of_mem ⟨there, lt_of_lt_of_le early above⟩,
          List.cons_append, joined]
      · rw [keyRange_cons_of_not_mem fun inside => there inside.1,
          keyRange_cons_of_not_mem fun inside => there inside.1, joined]
    · have reached : mid ≤ key x := not_lt.mp early
      have none_before : keyRange key low mid rest = [] := keyRange_outside fun y member =>
        .inr (le_of_lt (lt_of_le_of_lt reached (sorted.1 _ (List.mem_map_of_mem member))))
      rw [none_before, List.nil_append] at joined
      rw [keyRange_cons_of_not_mem fun inside => early inside.2, none_before, List.nil_append]
      by_cases inside : key x < high
      · rw [keyRange_cons_of_mem ⟨reached, inside⟩, keyRange_cons_of_mem ⟨le_trans below reached, inside⟩, joined]
      · rw [keyRange_cons_of_not_mem fun within => inside within.2,
          keyRange_cons_of_not_mem fun within => inside within.2, joined]

end KeyRange

end Sealwire

import Mathlib.Data.List.Chain
import Mathlib.Data.List.Range

namespace Sealwire

/-- `count` keys put between two neighbours of an increasing list. -/
structure KeySplit where
  prev : Int
  next : Int
  count : Nat
  deriving DecidableEq

/-- The number of parts that the splits around a gap have cut its part of the list into. -/
def partsOf (splits : List KeySplit) (low high : Int) : Nat :=
  match splits with
  | [] => 1
  | split :: rest =>
    if split.prev ≤ low ∧ high ≤ split.next then (split.count + 1) * partsOf rest low high else partsOf rest low high

/-- The room two neighbours keep of a first spacing of `total`. -/
def roomOf (total : Nat) (splits : List KeySplit) (low high : Int) : Nat :=
  total / partsOf splits low high

/-- Neighbours are as far apart as the splits around them leave them. -/
def Spread (total : Nat) (splits : List KeySplit) (keys : List Int) : Prop :=
  keys.IsChain fun low high => (roomOf total splits low high : Int) ≤ high - low

/-- `count` keys behind `base`, each `step` after the one before. -/
def evenKeys (base step : Int) (count : Nat) : List Int :=
  (List.range count).map fun i : Nat => base + step * (i : Int)

section Spacing

variable {total : Nat} {splits : List KeySplit} {low high : Int}

theorem partsOf_pos (splits : List KeySplit) (low high : Int) : 0 < partsOf splits low high := by
  induction splits with
  | nil => exact Nat.one_pos
  | cons split rest ih =>
    unfold partsOf
    split
    · exact Nat.mul_pos (by omega) ih
    · exact ih

theorem partsOf_cons_le (split : KeySplit) (splits : List KeySplit) (low high : Int) :
    partsOf splits low high ≤ partsOf (split :: splits) low high := by
  conv => rhs; unfold partsOf
  split
  · exact Nat.le_mul_of_pos_left _ (by omega)
  · exact Nat.le_refl _

/-- A gap inside another has been cut at least as often. -/
theorem partsOf_inside {inner outer : Int} (splits : List KeySplit) (left : low ≤ inner) (right : outer ≤ high) :
    partsOf splits low high ≤ partsOf splits inner outer := by
  induction splits with
  | nil => exact Nat.le_refl _
  | cons split rest ih =>
    unfold partsOf
    by_cases around : split.prev ≤ low ∧ high ≤ split.next
    · have still : split.prev ≤ inner ∧ outer ≤ split.next := by omega
      rw [if_pos around, if_pos still]
      exact Nat.mul_le_mul_left _ ih
    · rw [if_neg around]
      exact Nat.le_trans ih (partsOf_cons_le split rest inner outer)

theorem roomOf_le_total (total : Nat) (splits : List KeySplit) (low high : Int) : roomOf total splits low high ≤ total :=
  Nat.div_le_self ..

theorem roomOf_cons_le (total : Nat) (split : KeySplit) (splits : List KeySplit) (low high : Int) :
    roomOf total (split :: splits) low high ≤ roomOf total splits low high :=
  Nat.div_le_div_left (partsOf_cons_le split splits low high) (partsOf_pos splits low high)

/-- What a split of a gap leaves of the room is at most an equal part of it. -/
theorem roomOf_split {inner outer : Int} (total : Nat) (splits : List KeySplit) (count : Nat) (left : low ≤ inner)
    (right : outer ≤ high) :
    roomOf total (⟨low, high, count⟩ :: splits) inner outer ≤ roomOf total splits low high / (count + 1) := by
  have cut : partsOf (⟨low, high, count⟩ :: splits) inner outer = (count + 1) * partsOf splits inner outer := by
    conv => lhs; unfold partsOf
    exact if_pos ⟨left, right⟩
  have more : partsOf splits low high * (count + 1) ≤ (count + 1) * partsOf splits inner outer := by
    rw [Nat.mul_comm]
    exact Nat.mul_le_mul_left _ (partsOf_inside splits left right)
  unfold roomOf
  rw [cut, Nat.div_div_eq_div_mul]
  exact Nat.div_le_div_left more (Nat.mul_pos (partsOf_pos splits low high) (by omega))

/-- A gap that has its room holds as many keys as fit the product of all cuts into the spacing. -/
theorem fits_of_room {count : Nat} (room : (roomOf total splits low high : Int) ≤ high - low)
    (light : partsOf splits low high * (count + 1) ≤ total) : (count : Int) < high - low := by
  have enough : count + 1 ≤ roomOf total splits low high :=
    (Nat.le_div_iff_mul_le (partsOf_pos splits low high)).mpr (by rw [Nat.mul_comm]; exact light)
  omega

theorem Spread.more {keys : List Int} (spread : Spread total splits keys) (split : KeySplit) :
    Spread total (split :: splits) keys :=
  List.IsChain.imp (fun low high room =>
    Int.le_trans (Int.ofNat_le.mpr (roomOf_cons_le total split splits low high)) room) spread

/-- Keys of one spacing, when every gap between them owes no more than that. -/
theorem spread_evenKeys {base step : Int} {count : Nat}
    (room : ∀ i : Nat, i + 1 < count → (roomOf total splits (base + step * i) (base + step * (i + 1)) : Int) ≤ step) :
    Spread total splits (evenKeys base step count) := by
  refine List.isChain_iff_getElem.mpr fun i within => ?_
  simp only [evenKeys, List.length_map, List.length_range] at within
  simp only [evenKeys, List.getElem_map, List.getElem_range]
  have bound := room i within
  rw [Int.mul_add, Int.mul_one] at bound
  push_cast
  rw [Int.mul_add, Int.mul_one]
  omega

theorem evenKeys_head {base step : Int} {count : Nat} {key : Int}
    (head : key ∈ (evenKeys base step count).head?) : 0 < count ∧ key = base := by
  simp only [evenKeys, List.head?_map, List.head?_range] at head
  split at head
  · cases head
  · obtain rfl := Option.mem_some.mp head
    exact ⟨by omega, by simp⟩

theorem evenKeys_last {base step : Int} {count : Nat} {key : Int}
    (last : key ∈ (evenKeys base step count).getLast?) : 0 < count ∧ key = base + step * ((count : Int) - 1) := by
  simp only [evenKeys, List.getLast?_map, List.getLast?_range] at last
  split at last
  · cases last
  · rename_i some_given
    obtain rfl := Option.mem_some.mp last
    have place : ((count - 1 : Nat) : Int) = (count : Int) - 1 := by omega
    exact ⟨by omega, congrArg (fun i : Int => base + step * i) place⟩

/-- An equal part of a gap, taken `i` times, with one more to follow, stays inside it. -/
theorem equal_parts (gap : Int) (count i : Nat) (nonneg : 0 ≤ gap) (within : i ≤ count) :
    0 ≤ gap / ((count : Int) + 1) ∧ 0 ≤ gap / ((count : Int) + 1) * i ∧
      gap / ((count : Int) + 1) * i + gap / ((count : Int) + 1) ≤ gap := by
  have part : 0 ≤ gap / ((count : Int) + 1) := Int.ediv_nonneg nonneg (by omega)
  have whole : gap / ((count : Int) + 1) * ((count : Int) + 1) ≤ gap := Int.ediv_mul_le gap (by omega)
  have some_parts : gap / ((count : Int) + 1) * ((i : Int) + 1) ≤ gap / ((count : Int) + 1) * ((count : Int) + 1) :=
    Int.mul_le_mul_of_nonneg_left (by omega) part
  rw [Int.mul_add, Int.mul_one] at some_parts
  exact ⟨part, Int.mul_nonneg part (by omega), by omega⟩

/-- Cutting a gap into equal parts leaves every neighbour the room the cuts allow. -/
theorem Spread.split {before after : List Int} {count : Nat} (spread : Spread total splits (before ++ after))
    (last : low ∈ before.getLast?) (first : high ∈ after.head?) (nonneg : low ≤ high) :
    Spread total (⟨low, high, count⟩ :: splits) (before ++
      evenKeys (low + (high - low) / ((count : Int) + 1)) ((high - low) / ((count : Int) + 1)) count ++ after) := by
  obtain ⟨left, right, across⟩ := List.isChain_append.mp spread
  have room := across low last high first
  have part : (roomOf total splits low high / (count + 1) : Nat) ≤ (high - low) / ((count : Int) + 1) := by
    push_cast
    exact Int.ediv_le_ediv (by omega) room
  have owed (inner outer : Int) (from_low : low ≤ inner) (to_high : outer ≤ high) :
      (roomOf total (⟨low, high, count⟩ :: splits) inner outer : Int) ≤ (high - low) / ((count : Int) + 1) :=
    Int.le_trans (Int.ofNat_le.mpr (roomOf_split total splits count from_low to_high)) part
  have block : Spread total (⟨low, high, count⟩ :: splits)
      (evenKeys (low + (high - low) / ((count : Int) + 1)) ((high - low) / ((count : Int) + 1)) count) := by
    refine spread_evenKeys fun i within => owed _ _ ?_ ?_
    · obtain ⟨-, taken, -⟩ := equal_parts (high - low) count (i + 1) (by omega) (by omega)
      push_cast at taken
      rw [Int.mul_add, Int.mul_one] at taken
      omega
    · obtain ⟨-, -, fits⟩ := equal_parts (high - low) count (i + 1) (by omega) (by omega)
      push_cast at fits
      omega
  refine List.isChain_append.mpr ⟨List.isChain_append.mpr ⟨(Spread.more left _), block, ?_⟩, Spread.more right _, ?_⟩
  · intro key at_end new at_start
    obtain rfl := Option.mem_unique at_end last
    obtain ⟨some_given, rfl⟩ := evenKeys_head at_start
    obtain ⟨-, -, fits⟩ := equal_parts (high - key) count 0 (by omega) (by omega)
    have bound := owed key (key + (high - key) / ((count : Int) + 1)) (Int.le_refl key) (by simp at fits; omega)
    omega
  · intro new at_end key at_start
    obtain rfl := Option.mem_unique at_start first
    rcases Nat.eq_zero_or_pos count with none_given | some_given
    · subst none_given
      have ends : new ∈ before.getLast? := by simpa [evenKeys] using at_end
      obtain rfl := Option.mem_unique ends last
      have bound := owed new key (Int.le_refl new) (Int.le_refl key)
      simpa using bound
    · have ends : new ∈ (evenKeys (low + (key - low) / ((count : Int) + 1)) ((key - low) / ((count : Int) + 1))
          count).getLast? := by
        rw [List.getLast?_append_of_ne_nil] at at_end
        · exact at_end
        · simp [evenKeys]; omega
      obtain ⟨-, rfl⟩ := evenKeys_last ends
      obtain ⟨-, taken, fits⟩ := equal_parts (key - low) count count (by omega) (by omega)
      rw [Int.mul_sub, Int.mul_one]
      have bound := owed (low + (key - low) / ((count : Int) + 1) * count) key (by omega) (Int.le_refl key)
      have same : low + (key - low) / ((count : Int) + 1) + ((key - low) / ((count : Int) + 1) * count -
          (key - low) / ((count : Int) + 1)) = low + (key - low) / ((count : Int) + 1) * count := by omega
      rw [same]
      omega

end Spacing

end Sealwire

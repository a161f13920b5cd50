import Mathlib.Algebra.Ring.Int.Defs
import Mathlib.Algebra.Ring.Nat
import Mathlib.Order.Basic
import Mathlib.Tactic.Common

namespace Sealwire

/-- `u64::saturating_add`: the sum, or the largest word when it does not fit. -/
def saturatingAdd (a b : UInt64) : UInt64 :=
  UInt64.ofNat (min (a.toNat + b.toNat) (2 ^ 64 - 1))

/-- `u64::saturating_sub`: the difference, or zero when it would be negative. -/
def saturatingSub (a b : UInt64) : UInt64 :=
  if b ≤ a then a - b else 0

/-- `u64::checked_add`. -/
def checkedAdd (a b : UInt64) : Option UInt64 :=
  if a.toNat + b.toNat < 2 ^ 64 then some (a + b) else none

@[simp] theorem toNat_saturatingAdd (a b : UInt64) :
    (saturatingAdd a b).toNat = min (a.toNat + b.toNat) (2 ^ 64 - 1) := by
  have room : min (a.toNat + b.toNat) (2 ^ 64 - 1) < UInt64.size :=
    Nat.lt_of_le_of_lt (Nat.min_le_right _ _) (by decide)
  exact UInt64.toNat_ofNat_of_lt' room

@[simp] theorem toNat_saturatingSub (a b : UInt64) :
    (saturatingSub a b).toNat = a.toNat - b.toNat := by
  unfold saturatingSub
  split
  · rename_i le
    exact UInt64.toNat_sub_of_le _ _ le
  · rename_i gt
    have lt : a.toNat < b.toNat := by simpa [UInt64.le_iff_toNat_le] using gt
    simp only [UInt64.toNat_zero]
    omega

theorem toNat_max (a b : UInt64) : (max a b).toNat = max a.toNat b.toNat := by
  have unfolded : max a b = if a ≤ b then b else a := rfl
  rw [unfolded]
  split
  · rename_i le
    exact (Nat.max_eq_right (UInt64.le_iff_toNat_le.mp le)).symm
  · rename_i gt
    have lt : b.toNat < a.toNat := by simpa [UInt64.le_iff_toNat_le] using gt
    exact (Nat.max_eq_left (Nat.le_of_lt lt)).symm

instance lawfulOrderMax : Std.LawfulOrderMax UInt64 where
  max_le_iff := by
    intro a b c
    simp only [UInt64.le_iff_toNat_le, toNat_max]
    omega
  max_eq_or := by
    intro a b
    rcases Nat.le_total a.toNat b.toNat with le | le
    · refine .inr (UInt64.toNat_inj.mp ?_)
      rw [toNat_max]
      omega
    · refine .inl (UInt64.toNat_inj.mp ?_)
      rw [toNat_max]
      omega

theorem word_max_eq_left {a b : UInt64} (le : b ≤ a) : max a b = a := by
  rw [UInt64.le_iff_toNat_le] at le
  rw [← UInt64.toNat_inj, toNat_max]
  exact Nat.max_eq_left le

theorem word_max_eq_right {a b : UInt64} (le : a ≤ b) : max a b = b := by
  rw [UInt64.le_iff_toNat_le] at le
  rw [← UInt64.toNat_inj, toNat_max]
  exact Nat.max_eq_right le

theorem saturatingAdd_lt {a b c : UInt64} :
    saturatingAdd a b < c ↔ a.toNat + b.toNat < c.toNat := by
  have bound := c.toNat_lt
  rw [UInt64.lt_iff_toNat_lt, toNat_saturatingAdd]
  omega

theorem le_saturatingAdd {a b c : UInt64} :
    c ≤ saturatingAdd a b ↔ c.toNat ≤ a.toNat + b.toNat := by
  have bound := c.toNat_lt
  rw [UInt64.le_iff_toNat_le, toNat_saturatingAdd]
  omega

theorem lt_saturatingSub {a b c : UInt64} :
    c < saturatingSub a b ↔ c.toNat + b.toNat < a.toNat := by
  rw [UInt64.lt_iff_toNat_lt, toNat_saturatingSub]
  omega

theorem le_saturatingAdd_self (a b : UInt64) : a ≤ saturatingAdd a b :=
  le_saturatingAdd.mpr (Nat.le_add_right _ _)

/-- Below the largest word a saturating successor is a real successor. -/
theorem lt_saturatingAdd_one {a : UInt64} (room : a.toNat < 2 ^ 64 - 1) : a < saturatingAdd a 1 := by
  rw [UInt64.lt_iff_toNat_lt, toNat_saturatingAdd, UInt64.toNat_one]
  omega

theorem toNat_saturatingAdd_one {a : UInt64} (room : a.toNat < 2 ^ 64 - 1) :
    (saturatingAdd a 1).toNat = a.toNat + 1 := by
  rw [toNat_saturatingAdd, UInt64.toNat_one]
  omega

theorem checkedAdd_isSome {a b : UInt64} :
    (checkedAdd a b).isSome ↔ a.toNat + b.toNat < 2 ^ 64 := by
  unfold checkedAdd
  split <;> simp_all

/-- A release build wraps an unchecked `+= 1`; below the largest word it is the successor. -/
theorem toNat_add_one {a : UInt64} (room : a.toNat < 2 ^ 64 - 1) : (a + 1).toNat = a.toNat + 1 := by
  rw [UInt64.toNat_add, UInt64.toNat_one]
  omega

/-- `u32::saturating_add(1)`. -/
def saturatingSucc (a : UInt32) : UInt32 :=
  UInt32.ofNat (min (a.toNat + 1) (2 ^ 32 - 1))

/-- `i64` arithmetic that aborts instead of overflowing. -/
def checkedInt (n : Int) : Option Int :=
  if -2 ^ 63 ≤ n ∧ n < 2 ^ 63 then some n else none

theorem checkedInt_eq_some {n m : Int} : checkedInt n = some m ↔ (-2 ^ 63 ≤ n ∧ n < 2 ^ 63) ∧ n = m := by
  unfold checkedInt
  split
  · rename_i fits
    simp only [Option.some.injEq, fits, true_and, and_self]
  · rename_i outside
    simp only [outside, false_and, reduceCtorEq]

/-- `u32::try_from` of a `u64`. -/
def u32OfU64 (n : UInt64) : Option UInt32 :=
  if n.toNat < 2 ^ 32 then some n.toUInt32 else none

/-- `u64::try_from` of an `i64`. -/
def u64OfI64 (n : Int64) : Option UInt64 :=
  if 0 ≤ n then some n.toUInt64 else none

/-- A `u32` written as a number reads back. -/
@[simp] theorem u32OfU64_toUInt64 (n : UInt32) : u32OfU64 n.toUInt64 = some n := by
  have small := n.toNat_lt
  simp [u32OfU64, small]

end Sealwire

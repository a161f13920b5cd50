import Mathlib.Tactic.IntervalCases

namespace Sealwire

/-- `/^[1-9][0-9]{0,most}$/`. -/
def isNumeral (most : Nat) : List Char → Bool
  | [] => false
  | first :: rest => decide ('1' ≤ first) && decide (first ≤ '9') && rest.all Char.isDigit && decide (rest.length ≤ most)

def maxSafeInteger : Nat := 2 ^ 53 - 1

/-- `Number` of a decimal numeral below `2 ^ 54`: the nearest double, of two the one with the
even significand. -/
def numberOf (digits : List Char) : Nat :=
  let n := Nat.ofDigitChars 10 digits 0
  if n ≤ 2 ^ 53 then n else if n % 4 = 1 then n - 1 else if n % 4 = 3 then n + 1 else n

theorem digitChar_first {d : Nat} (positive : 0 < d) (digit : d < 10) :
    '1' ≤ d.digitChar ∧ d.digitChar ≤ '9' := by
  interval_cases d <;> decide

/-- A numeral without leading zeros begins with a digit other than zero. -/
theorem toDigits_first {n : Nat} (positive : 0 < n) :
    ∃ first rest, Nat.toDigits 10 n = first :: rest ∧ '1' ≤ first ∧ first ≤ '9' := by
  induction n using Nat.strongRecOn with
  | ind n ih =>
    by_cases small : n < 10
    · obtain ⟨low, high⟩ := digitChar_first positive small
      exact ⟨n.digitChar, [], Nat.toDigits_of_lt_base small, low, high⟩
    · have shorter : n / 10 < n := by omega
      have still : 0 < n / 10 := by omega
      obtain ⟨first, rest, front, low, high⟩ := ih (n / 10) shorter still
      refine ⟨first, rest ++ [(n % 10).digitChar], ?_, low, high⟩
      rw [Nat.toDigits_of_base_le (by decide) (by omega), front]
      rfl

theorem isNumeral_repr {n most : Nat} (positive : 0 < n) (bound : n < 10 ^ (most + 1)) :
    isNumeral most n.repr.toList = true := by
  obtain ⟨first, rest, digits, low, high⟩ := toDigits_first positive
  have length : (first :: rest).length ≤ most + 1 := by
    rw [← digits, Nat.length_toDigits_le_iff (by decide) (by omega)]
    exact bound
  have all_digits : rest.all Char.isDigit = true := by
    refine List.all_eq_true.mpr fun c member => ?_
    have among : c ∈ Nat.toDigits 10 n := by
      rw [digits]
      exact List.mem_cons_of_mem _ member
    exact Nat.isDigit_of_mem_toDigits (by decide) (by decide) among
  have short : rest.length ≤ most := by simpa using length
  rw [Nat.toList_repr, digits]
  simp [isNumeral, low, high, all_digits, short]

theorem numberOf_repr {n : Nat} (small : n ≤ 2 ^ 53) : numberOf n.repr.toList = n := by
  rw [numberOf, Nat.toList_repr, Nat.ofDigitChars_ten_toDigits]
  exact if_pos small

theorem pos_of_isNumeral {n most : Nat} (numeral : isNumeral most n.repr.toList = true) : 0 < n := by
  rcases Nat.eq_zero_or_pos n with rfl | positive
  · simp [isNumeral] at numeral
  · exact positive

end Sealwire

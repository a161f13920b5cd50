import Mathlib.Data.Finset.Insert
import Mathlib.Data.Finset.Filter
import Mathlib.Data.Set.Insert

namespace Sealwire

/-- What a receiver keeps of the numbers it has taken: the highest one, and
those still within the window below it. -/
structure ReplayWindow where
  high : Nat
  used : Finset Nat

namespace ReplayWindow

/-- The number may still be taken. Zero never may. -/
def Fresh (width : Nat) (w : ReplayWindow) (n : Nat) : Prop :=
  n ≠ 0 ∧ (w.high < n ∨ w.high - n < width ∧ n ∉ w.used)

def take (width : Nat) (w : ReplayWindow) (n : Nat) : ReplayWindow where
  high := max w.high n
  used := (insert n w.used).filter fun m => max w.high n < m + width

/-- The rule with nothing forgotten: zero, a number taken before, or one
`width` or more below a taken number is refused. -/
def Refused (width : Nat) (taken : Set Nat) (n : Nat) : Prop :=
  n = 0 ∨ n ∈ taken ∨ ∃ m ∈ taken, n + width ≤ m

structure Tracks (width : Nat) (w : ReplayWindow) (taken : Set Nat) : Prop where
  below : ∀ n ∈ taken, n ≤ w.high
  attained : w.high = 0 ∨ w.high ∈ taken
  held : ∀ n, n ∈ w.used ↔ n ∈ taken ∧ w.high < n + width

theorem tracks_empty (width : Nat) : Tracks width { high := 0, used := ∅ } ∅ where
  below := by simp
  attained := .inl rfl
  held := by simp

theorem Tracks.take {width : Nat} {w : ReplayWindow} {taken : Set Nat} (tracks : Tracks width w taken) (n : Nat) :
    Tracks width (w.take width n) (insert n taken) where
  below := by
    intro m member
    rcases Set.mem_insert_iff.mp member with rfl | earlier
    · exact Nat.le_max_right _ _
    · exact (tracks.below m earlier).trans (Nat.le_max_left _ _)
  attained := by
    rcases Nat.le_total w.high n with low | high
    · exact .inr (by simp [ReplayWindow.take, Nat.max_eq_right low])
    · simp only [ReplayWindow.take, Nat.max_eq_left high]
      exact tracks.attained.imp_right (Set.mem_insert_of_mem n)
  held := by
    intro m
    simp only [ReplayWindow.take, Finset.mem_filter, Finset.mem_insert, tracks.held, Set.mem_insert_iff]
    have grows : w.high ≤ max w.high n := Nat.le_max_left _ _
    constructor
    · rintro ⟨rfl | ⟨earlier, _⟩, inside⟩
      · exact ⟨.inl rfl, inside⟩
      · exact ⟨.inr earlier, inside⟩
    · rintro ⟨rfl | earlier, inside⟩
      · exact ⟨.inl rfl, inside⟩
      · exact ⟨.inr ⟨earlier, by omega⟩, inside⟩

/-- The pruned memory refuses exactly what the full history refuses. -/
theorem Tracks.not_fresh_iff {width : Nat} {w : ReplayWindow} {taken : Set Nat} (tracks : Tracks width w taken)
    (n : Nat) : ¬w.Fresh width n ↔ Refused width taken n := by
  constructor
  · intro stale
    by_cases zero : n = 0
    · exact .inl zero
    have low : ¬w.high < n := fun above => stale ⟨zero, .inl above⟩
    by_cases member : n ∈ w.used
    · exact .inr (.inl ((tracks.held n).mp member).1)
    have far : ¬w.high - n < width := fun near => stale ⟨zero, .inr ⟨near, member⟩⟩
    rcases tracks.attained with none_taken | top
    · omega
    · exact .inr (.inr ⟨w.high, top, by omega⟩)
  · rintro (zero | member | ⟨m, member, far⟩) ⟨nonzero, fresh⟩
    · exact nonzero zero
    · have below := tracks.below n member
      rcases fresh with above | ⟨near, unused⟩
      · omega
      · exact unused ((tracks.held n).mpr ⟨member, by omega⟩)
    · have below := tracks.below m member
      omega

end ReplayWindow

end Sealwire

import Mathlib.Data.List.Perm.Subperm
import Std.Data.String.ToNat
import Sealwire.Transcript.Store

namespace Sealwire.Transcript

namespace ThreadTranscript

theorem mintedName_injective (candidate : String) : Function.Injective (mintedName candidate) := by
  intro m n same
  unfold mintedName at same
  split at same
  · exact Nat.repr_injective ((String.append_right_inj _).mp same)
  · exact Nat.repr_injective ((String.append_right_inj _).mp same)

/-- The number tried after `k` rounds of the loop. -/
def triedSeq (seq : UInt64) (k : Nat) : Nat :=
  min (seq.toNat + k + 1) (2 ^ 64 - 1)

theorem triedSeq_succ (seq : UInt64) (k : Nat) : triedSeq (saturatingAdd seq 1) k = triedSeq seq (k + 1) := by
  unfold triedSeq
  rw [toNat_saturatingAdd, UInt64.toNat_one]
  omega

/-- The loop comes back empty exactly when every name it tries is taken. -/
theorem mintLoop_eq_none {rounds : Nat} {candidate : String} {byRowId : Table String Nat} {seq : UInt64} :
    mintLoop rounds candidate byRowId seq = none ↔
      ∀ k < rounds, byRowId.has (mintedName candidate (triedSeq seq k)) = true := by
  induction rounds generalizing seq with
  | zero => simp [mintLoop]
  | succ rounds ih =>
    have head : (saturatingAdd seq 1).toNat = triedSeq seq 0 := by
      rw [toNat_saturatingAdd, UInt64.toNat_one]
      rfl
    unfold mintLoop
    simp only [head]
    split
    · rename_i taken
      rw [ih]
      constructor
      · intro all k bound
        cases k with
        | zero => exact taken
        | succ k =>
          rw [← triedSeq_succ]
          exact all k (by omega)
      · intro all k bound
        rw [triedSeq_succ]
        exact all (k + 1) (by omega)
    · rename_i free
      simp only [reduceCtorEq, false_iff]
      intro all
      exact free (all 0 (Nat.succ_pos _))

/-- The table cannot hold more different names than it has entries. -/
theorem exists_free_name (candidate : String) {byRowId : Table String Nat} {rounds : Nat}
    (more : byRowId.len < rounds) {number : Nat → Nat} (apart : ∀ i < rounds, ∀ j < rounds, number i = number j → i = j) :
    ∃ k < rounds, byRowId.has (mintedName candidate (number k)) = false := by
  by_contra none_free
  push Not at none_free
  have taken : ∀ k < rounds, byRowId.has (mintedName candidate (number k)) = true := by
    intro k bound
    simpa using none_free k bound
  have distinct : ((List.range rounds).map fun k => mintedName candidate (number k)).Nodup := by
    refine List.Nodup.map_on ?_ List.nodup_range
    intro i hi j hj same
    exact apart i (List.mem_range.mp hi) j (List.mem_range.mp hj) (mintedName_injective candidate same)
  have held : ((List.range rounds).map fun k => mintedName candidate (number k)) ⊆ byRowId.keys := by
    intro name member
    obtain ⟨k, bound, rfl⟩ := List.mem_map.mp member
    have present := taken k (List.mem_range.mp bound)
    rw [Table.has, Table.get, AList.lookup_isSome] at present
    exact AList.mem_keys.mp present
  have size := (distinct.subperm held).length_le
  rw [List.length_map, List.length_range, AList.keys, List.keys, List.length_map] at size
  exact absurd more (Nat.not_lt.mpr size)

/-- Below the ceiling of the counter a row id is always minted. -/
theorem mintRowId_isSome {candidate : String} {byRowId : Table String Nat} {seq : UInt64}
    (room : seq.toNat + byRowId.len + 1 < 2 ^ 64) : (mintRowId candidate byRowId seq).isSome = true := by
  unfold mintRowId
  split
  · rfl
  have apart : ∀ i < byRowId.len + 1, ∀ j < byRowId.len + 1, triedSeq seq i = triedSeq seq j → i = j := by
    unfold triedSeq
    omega
  obtain ⟨k, bound, free⟩ := exists_free_name candidate (Nat.lt_succ_self byRowId.len) apart
  rw [Option.isSome_iff_ne_none]
  intro stuck
  have taken := mintLoop_eq_none.mp stuck k bound
  rw [free] at taken
  cases taken

/-- When the rounds of `mintRowId` find nothing, no number of rounds would. -/
theorem mintLoop_stuck {candidate : String} {byRowId : Table String Nat} {seq : UInt64}
    (stuck : mintLoop (byRowId.len + 1) candidate byRowId seq = none) (rounds : Nat) :
    mintLoop rounds candidate byRowId seq = none := by
  have taken := mintLoop_eq_none.mp stuck
  have at_ceiling : 2 ^ 64 - 1 < seq.toNat + byRowId.len + 1 := by
    by_contra below
    have apart : ∀ i < byRowId.len + 1, ∀ j < byRowId.len + 1, triedSeq seq i = triedSeq seq j → i = j := by
      unfold triedSeq
      omega
    obtain ⟨k, bound, free⟩ := exists_free_name candidate (Nat.lt_succ_self byRowId.len) apart
    rw [taken k bound] at free
    cases free
  refine mintLoop_eq_none.mpr fun k _ => ?_
  by_cases early : k < byRowId.len + 1
  · exact taken k early
  · have same : triedSeq seq k = triedSeq seq byRowId.len := by
      unfold triedSeq
      omega
    rw [same]
    exact taken byRowId.len (Nat.lt_succ_self _)

/-- `push` always lands while its counter has room for one round per row. -/
theorem push_isSome {t : ThreadTranscript} (room : t.syntheticSeq.toNat + t.byRowId.len + 1 < 2 ^ 64)
    (record : TranscriptRecord) : (t.push record).isSome = true := by
  have mints : (mintRowId record.rowId t.byRowId t.syntheticSeq).isSome = true := mintRowId_isSome room
  obtain ⟨minted, found⟩ := Option.isSome_iff_exists.mp mints
  unfold push
  rw [found]
  rfl

end ThreadTranscript

end Sealwire.Transcript

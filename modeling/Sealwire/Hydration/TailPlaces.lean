import Sealwire.Hydration.Reconcile

namespace Sealwire.Hydration

variable {Card : Type}

theorem lastIndexOf_isSome {order : List String} {itemId : String} (member : itemId ∈ order) :
    ∃ at_, lastIndexOf order itemId = some at_ := by
  unfold lastIndexOf
  cases found : order.reverse.findIdx? (· = itemId) with
  | none =>
    rw [List.findIdx?_eq_none_iff] at found
    have other := found itemId (List.mem_reverse.mpr member)
    simp at other
  | some back => exact ⟨_, rfl⟩

/-- The tail's ids stand in the order or are new to it, each once. -/
structure TailFits (unorderedIds working ids : List String) : Prop where
  distinct : working.Nodup
  once : ids.Nodup
  ordered : ∀ id ∈ ids, id ∉ unorderedIds → id ∈ working
  fresh : ∀ id ∈ ids, id ∈ unorderedIds → id ∉ working

theorem TailFits.placed {unorderedIds working later : List String} {itemId : String}
    (fits : TailFits unorderedIds working (itemId :: later)) (unordered : itemId ∈ unorderedIds) (at_ : Nat) :
    TailFits unorderedIds (splice working at_ itemId) later where
  distinct := nodup_splice fits.distinct (fits.fresh itemId List.mem_cons_self unordered)
  once := (List.nodup_cons.mp fits.once).2
  ordered id member other := mem_splice.mpr (.inr (fits.ordered id (List.mem_cons_of_mem _ member) other))
  fresh id member new there := by
    rcases mem_splice.mp there with rfl | there
    · exact (List.nodup_cons.mp fits.once).1 member
    · exact fits.fresh id (List.mem_cons_of_mem _ member) new there

theorem TailFits.passed {unorderedIds working later : List String} {itemId : String}
    (fits : TailFits unorderedIds working (itemId :: later)) : TailFits unorderedIds working later where
  distinct := fits.distinct
  once := (List.nodup_cons.mp fits.once).2
  ordered id member := fits.ordered id (List.mem_cons_of_mem _ member)
  fresh id member := fits.fresh id (List.mem_cons_of_mem _ member)

theorem placeOrderedTailIds_lists {unorderedIds ids working : List String} (fits : TailFits unorderedIds working ids)
    (anchorIndex : Option Nat) :
    (placeOrderedTailIds unorderedIds working anchorIndex ids).Nodup ∧
      ∀ key, key ∈ placeOrderedTailIds unorderedIds working anchorIndex ids ↔ key ∈ working ∨ key ∈ ids := by
  induction ids generalizing working anchorIndex with
  | nil => exact ⟨fits.distinct, fun key => by simp [placeOrderedTailIds]⟩
  | cons itemId later ih =>
    unfold placeOrderedTailIds
    by_cases unordered : itemId ∈ unorderedIds
    · simp only [unordered, if_true]
      have placed (at_ : Nat) (anchor : Option Nat) := ih (fits.placed unordered at_) anchor
      refine ⟨(placed _ _).1, fun key => ?_⟩
      rw [(placed _ _).2, mem_splice, List.mem_cons]
      tauto
    · have there := fits.ordered itemId List.mem_cons_self unordered
      obtain ⟨at_, found⟩ := lastIndexOf_isSome there
      simp only [unordered, if_false, found]
      refine ⟨(ih fits.passed (some at_)).1, fun key => ?_⟩
      rw [(ih fits.passed (some at_)).2, List.mem_cons]
      constructor
      · tauto
      · rintro (held | rfl | member)
        · exact .inl held
        · exact .inl there
        · exact .inr member

theorem placeKeyedTailIds_lists {rowFor : String → Option (Entry Card)} {unorderedIds ids working : List String}
    (fits : TailFits unorderedIds working ids) :
    (placeKeyedTailIds unorderedIds rowFor working ids).Nodup ∧
      ∀ key, key ∈ placeKeyedTailIds unorderedIds rowFor working ids ↔ key ∈ working ∨ key ∈ ids := by
  induction ids generalizing working with
  | nil => exact ⟨fits.distinct, fun key => by simp [placeKeyedTailIds]⟩
  | cons itemId later ih =>
    unfold placeKeyedTailIds
    split
    · rename_i unordered
      have placed := ih (fits.placed unordered (keyedInsertionIndex working rowFor (rowFor itemId)))
      refine ⟨placed.1, fun key => ?_⟩
      rw [placed.2, mem_splice, List.mem_cons]
      tauto
    · rename_i ordered
      have there := fits.ordered itemId List.mem_cons_self ordered
      refine ⟨(ih fits.passed).1, fun key => ?_⟩
      rw [(ih fits.passed).2, List.mem_cons]
      constructor
      · tauto
      · rintro (held | rfl | member)
        · exact .inl held
        · exact .inl there
        · exact .inr member

theorem placeKeyedTailIds_keyed {rowFor : String → Option (Entry Card)} {unorderedIds ids working : List String}
    (keyed : OrderKeyed rowFor working)
    (numbered : ∀ id ∈ ids, id ∈ unorderedIds → ∃ seq, orderKey (rowFor id) = some seq) :
    OrderKeyed rowFor (placeKeyedTailIds unorderedIds rowFor working ids) := by
  induction ids generalizing working with
  | nil => exact keyed
  | cons itemId later ih =>
    have rest := fun id member => numbered id (List.mem_cons_of_mem _ member)
    unfold placeKeyedTailIds
    split
    · rename_i unordered
      obtain ⟨seq, at_row⟩ := numbered itemId List.mem_cons_self unordered
      exact ih (keyed.splice at_row (windowInsertionIndex_slot keyed at_row none)) rest
    · exact ih keyed rest

theorem placeTailIds_lists (rowFor : String → Option (Entry Card)) {unorderedIds ids order : List String}
    (fits : TailFits unorderedIds order ids) (keyed : Bool) :
    (placeTailIds order ids unorderedIds rowFor keyed).Nodup ∧
      ∀ key, key ∈ placeTailIds order ids unorderedIds rowFor keyed ↔ key ∈ order ∨ key ∈ ids := by
  unfold placeTailIds
  split
  · exact placeKeyedTailIds_lists fits
  · exact placeOrderedTailIds_lists fits none

theorem placeTailIds_keyed {rowFor : String → Option (Entry Card)} {unorderedIds ids order : List String}
    (keyed : OrderKeyed rowFor order) (numbered : newTailIdsAreNumbered ids unorderedIds rowFor = true) :
    OrderKeyed rowFor (placeTailIds order ids unorderedIds rowFor true) := by
  refine placeKeyedTailIds_keyed keyed fun id member unordered => ?_
  simp only [newTailIdsAreNumbered, List.all_eq_true, Bool.or_eq_true, decide_eq_true_eq] at numbered
  rcases numbered id member with ordered | number
  · exact absurd unordered ordered
  · exact Option.isSome_iff_exists.mp number

end Sealwire.Hydration

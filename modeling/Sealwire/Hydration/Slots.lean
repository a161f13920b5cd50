import Sealwire.Hydration.Placement

namespace Sealwire.Hydration

variable {Card : Type}

/-- Where both have a number, the first one's is not above the other's. -/
def SeqLe (rowFor : String → Option (Entry Card)) (a b : String) : Prop :=
  ∀ m n, orderKey (rowFor a) = some m → orderKey (rowFor b) = some n → m ≤ n

structure OrderKeyed (rowFor : String → Option (Entry Card)) (order : List String) : Prop where
  numbered : ∀ key ∈ order, ∃ seq, orderKey (rowFor key) = some seq
  ascending : order.Pairwise (SeqLe rowFor)

/-- A place in the order where a row of this number may stand. -/
structure Slot (rowFor : String → Option (Entry Card)) (order : List String) (seq : Int) (at_ : Nat) : Prop where
  below : ∀ key ∈ order.take at_, ∀ n, orderKey (rowFor key) = some n → n ≤ seq
  above : ∀ key ∈ order.drop at_, ∀ n, orderKey (rowFor key) = some n → seq ≤ n

theorem OrderKeyed.nil (rowFor : String → Option (Entry Card)) : OrderKeyed rowFor [] where
  numbered := by simp
  ascending := .nil

theorem OrderKeyed.left {rowFor : String → Option (Entry Card)} {a b : List String}
    (keyed : OrderKeyed rowFor (a ++ b)) : OrderKeyed rowFor a where
  numbered key member := keyed.numbered key (List.mem_append_left _ member)
  ascending := (List.pairwise_append.mp keyed.ascending).1

theorem OrderKeyed.right {rowFor : String → Option (Entry Card)} {a b : List String}
    (keyed : OrderKeyed rowFor (a ++ b)) : OrderKeyed rowFor b where
  numbered key member := keyed.numbered key (List.mem_append_right _ member)
  ascending := (List.pairwise_append.mp keyed.ascending).2.1

theorem orderKeyed_cons {rowFor : String → Option (Entry Card)} {key : String} {rest : List String} :
    OrderKeyed rowFor (key :: rest) ↔ ∃ seq, orderKey (rowFor key) = some seq ∧ OrderKeyed rowFor rest ∧
      ∀ other ∈ rest, ∀ n, orderKey (rowFor other) = some n → seq ≤ n := by
  constructor
  · intro keyed
    obtain ⟨seq, at_key⟩ := keyed.numbered key List.mem_cons_self
    obtain ⟨first, rest_ascends⟩ := List.pairwise_cons.mp keyed.ascending
    refine ⟨seq, at_key, ⟨fun other member => keyed.numbered other (List.mem_cons_of_mem _ member), rest_ascends⟩, ?_⟩
    intro other member n at_other
    exact first other member seq n at_key at_other
  · rintro ⟨seq, at_key, rest_keyed, bound⟩
    refine ⟨fun other member => ?_, List.pairwise_cons.mpr ⟨fun other member m n at_m at_n => ?_, rest_keyed.ascending⟩⟩
    · rcases List.mem_cons.mp member with rfl | member
      · exact ⟨seq, at_key⟩
      · exact rest_keyed.numbered other member
    · rw [at_key] at at_m
      cases at_m
      exact bound other member n at_n

/-- Where a scan stops at a row that is not below `seq`, nothing after it is. -/
theorem OrderKeyed.above_dropWhile {rowFor : String → Option (Entry Card)} {order : List String}
    (keyed : OrderKeyed rowFor order) {passes : String → Bool} {seq : Int}
    (stops : ∀ key ∈ order, passes key = false → ∀ n, orderKey (rowFor key) = some n → seq ≤ n) :
    ∀ key ∈ order.dropWhile passes, ∀ n, orderKey (rowFor key) = some n → seq ≤ n := by
  induction order with
  | nil => simp
  | cons key rest ih =>
    obtain ⟨number, at_key, rest_keyed, bound⟩ := orderKeyed_cons.mp keyed
    rw [List.dropWhile_cons]
    split
    · exact ih rest_keyed fun other member => stops other (List.mem_cons_of_mem _ member)
    · rename_i stop
      have high := stops key List.mem_cons_self (by simpa using stop) number at_key
      intro other member n at_n
      rcases List.mem_cons.mp member with rfl | later
      · rw [at_key] at at_n
        cases at_n
        exact high
      · exact Int.le_trans high (bound other later n at_n)

theorem orderKeyedAfter_iff {rowFor : String → Option (Entry Card)} (order : List String) (previous : Option Int) :
    orderKeyedAfter rowFor previous order = true ↔
      OrderKeyed rowFor order ∧ ∀ last ∈ previous, ∀ key ∈ order, ∀ n, orderKey (rowFor key) = some n → last ≤ n := by
  induction order generalizing previous with
  | nil => simp [orderKeyedAfter, OrderKeyed.nil]
  | cons key rest ih =>
    rw [orderKeyed_cons]
    cases at_key : orderKey (rowFor key) with
    | none => simp [orderKeyedAfter, at_key]
    | some seq =>
      simp only [orderKeyedAfter, at_key, Bool.and_eq_true, ih, Bool.not_eq_true', Option.any_eq_false,
        decide_eq_false_iff_not]
      constructor
      · rintro ⟨first, keyed, bound⟩
        refine ⟨⟨seq, rfl, keyed, bound seq rfl⟩, ?_⟩
        intro last at_last other member n at_other
        have low : last ≤ seq := Int.not_lt.mp (first last at_last)
        rcases List.mem_cons.mp member with rfl | member
        · rw [at_key] at at_other
          cases at_other
          exact low
        · exact Int.le_trans low (bound seq rfl other member n at_other)
      · rintro ⟨⟨number, same, keyed, bound⟩, low⟩
        cases same
        refine ⟨fun last at_last => Int.not_lt.mpr (low last at_last key List.mem_cons_self seq at_key), keyed, ?_⟩
        intro last at_last other member n at_other
        cases at_last
        exact bound other member n at_other

theorem windowIsOrderKeyed_iff {order : List String} {entries : Entries Card} :
    windowIsOrderKeyed order entries = true ↔ OrderKeyed entries.get order := by
  simp [windowIsOrderKeyed, orderKeyedAfter_iff]

/-- The numbers of the ordered rows are all that counts. -/
theorem OrderKeyed.congr {rowFor other : String → Option (Entry Card)} {order : List String}
    (keyed : OrderKeyed rowFor order) (same : ∀ key ∈ order, orderKey (other key) = orderKey (rowFor key)) :
    OrderKeyed other order where
  numbered key member := by
    rw [same key member]
    exact keyed.numbered key member
  ascending := by
    refine keyed.ascending.imp_of_mem ?_
    intro a b left right ascends m n at_a at_b
    rw [same a left] at at_a
    rw [same b right] at at_b
    exact ascends m n at_a at_b

theorem mem_splice {order : List String} {at_ : Nat} {key other : String} :
    other ∈ splice order at_ key ↔ other = key ∨ other ∈ order := by
  have parts : other ∈ order ↔ other ∈ order.take at_ ∨ other ∈ order.drop at_ := by
    rw [← List.mem_append, List.take_append_drop]
  simp only [splice, List.mem_append, List.mem_cons, parts]
  tauto

theorem nodup_splice {order : List String} {at_ : Nat} {key : String} (distinct : order.Nodup) (fresh : key ∉ order) :
    (splice order at_ key).Nodup := by
  have perm : (splice order at_ key).Perm (key :: order) := by
    rw [splice]
    exact List.perm_middle.trans (by rw [List.take_append_drop])
  exact perm.nodup_iff.mpr (List.nodup_cons.mpr ⟨fresh, distinct⟩)

/-- A row put between rows not above it and rows not below it. -/
theorem OrderKeyed.insert {rowFor : String → Option (Entry Card)} {before after : List String}
    (keyed : OrderKeyed rowFor (before ++ after)) {key : String} {seq : Int} (at_key : orderKey (rowFor key) = some seq)
    (below : ∀ other ∈ before, ∀ n, orderKey (rowFor other) = some n → n ≤ seq)
    (above : ∀ other ∈ after, ∀ n, orderKey (rowFor other) = some n → seq ≤ n) :
    OrderKeyed rowFor (before ++ key :: after) where
  numbered other member := by
    rcases List.mem_append.mp member with left | right
    · exact keyed.numbered other (List.mem_append_left _ left)
    · rcases List.mem_cons.mp right with rfl | right
      · exact ⟨seq, at_key⟩
      · exact keyed.numbered other (List.mem_append_right _ right)
  ascending := by
    obtain ⟨left, right, across⟩ := List.pairwise_append.mp keyed.ascending
    refine List.pairwise_append.mpr ⟨left, List.pairwise_cons.mpr ⟨fun other member m n at_m at_n => ?_, right⟩, ?_⟩
    · rw [at_key] at at_m
      cases at_m
      exact above other member n at_n
    · intro a in_before b in_after
      rcases List.mem_cons.mp in_after with rfl | in_after
      · intro m n at_m at_n
        rw [at_key] at at_n
        cases at_n
        exact below a in_before m at_m
      · exact across a in_before b in_after

theorem OrderKeyed.splice {rowFor : String → Option (Entry Card)} {order : List String}
    (keyed : OrderKeyed rowFor order) {key : String} {seq : Int} (at_key : orderKey (rowFor key) = some seq) {at_ : Nat}
    (slot : Slot rowFor order seq at_) : OrderKeyed rowFor (splice order at_ key) :=
  OrderKeyed.insert (by rwa [List.take_append_drop]) at_key slot.below slot.above

theorem mem_take_succ {order : List String} {index : Nat} {key : String} (inside : order[index]? = some key)
    {other : String} (member : other ∈ order.take (index + 1)) : other = key ∨ other ∈ order.take index := by
  rw [List.take_add_one, inside] at member
  rcases List.mem_append.mp member with before | here
  · exact .inr before
  · exact .inl (by simpa using here)

/-- In a window in number order, a row whose number is not above `seq` bounds all rows before it. -/
theorem OrderKeyed.take_le {rowFor : String → Option (Entry Card)} {order : List String}
    (keyed : OrderKeyed rowFor order) {index : Nat} {key : String} (inside : order[index]? = some key) {number seq : Int}
    (at_key : orderKey (rowFor key) = some number) (low : number ≤ seq) :
    ∀ other ∈ order.take (index + 1), ∀ n, orderKey (rowFor other) = some n → n ≤ seq := by
  intro other member n at_other
  rcases mem_take_succ inside member with rfl | before
  · rw [at_key] at at_other
    cases at_other
    exact low
  · have split := keyed.ascending
    rw [← List.take_append_drop index order, List.pairwise_append] at split
    have here : key ∈ order.drop index := List.mem_of_getElem? (i := 0) (by simpa using inside)
    exact Int.le_trans (split.2.2 other before key here n number at_other at_key) low

theorem OrderKeyed.le_drop {rowFor : String → Option (Entry Card)} {order : List String}
    (keyed : OrderKeyed rowFor order) {index : Nat} {key : String} (inside : order[index]? = some key) {number seq : Int}
    (at_key : orderKey (rowFor key) = some number) (high : seq ≤ number) :
    ∀ other ∈ order.drop index, ∀ n, orderKey (rowFor other) = some n → seq ≤ n := by
  intro other member n at_other
  obtain ⟨length, value⟩ := List.getElem?_eq_some_iff.mp inside
  rw [List.drop_eq_getElem_cons length, value] at member
  rcases List.mem_cons.mp member with rfl | after
  · rw [at_key] at at_other
    cases at_other
    exact high
  · have split := keyed.ascending
    rw [← List.take_append_drop (index + 1) order, List.pairwise_append] at split
    have here : key ∈ order.take (index + 1) := List.mem_of_getElem? (i := index) (by simpa using inside)
    exact Int.le_trans high (split.2.2 key here other after number n at_key at_other)

/-- Walking back, every row passed is above; the walk stops at the first one that is not. -/
theorem walkToSlot_slot {rowFor : String → Option (Entry Card)} {order : List String} (keyed : OrderKeyed rowFor order)
    (seq : Int) (index : Nat) (inside : index ≤ order.length) (saw : Bool) (seen : index < order.length → saw = true)
    (passed : ∀ key ∈ order.drop index, ∀ n, orderKey (rowFor key) = some n → seq ≤ n) :
    Slot rowFor order seq (walkToSlot order rowFor seq index saw) := by
  induction index generalizing saw with
  | zero =>
    unfold walkToSlot
    split
    · exact ⟨by simp, passed⟩
    · rename_i unseen
      have empty : order = [] := by
        cases order with
        | nil => rfl
        | cons key rest => exact absurd (seen (by simp)) unseen
      subst empty
      exact ⟨by simp, by simp⟩
  | succ index ih =>
    have at_index := List.getElem?_eq_getElem (by omega : index < order.length)
    obtain ⟨number, at_key⟩ := keyed.numbered _ (List.getElem_mem (by omega : index < order.length))
    have neighbour : orderKey (order[index]?.bind rowFor) = some number := by
      rw [at_index]
      exact at_key
    simp only [walkToSlot, neighbour]
    split
    · rename_i low
      exact ⟨keyed.take_le at_index at_key low, passed⟩
    · rename_i high
      refine ih (by omega) true (fun _ => rfl) ?_
      exact keyed.le_drop at_index at_key (Int.le_of_lt (Int.not_le.mp high))

theorem slotFits_slot {rowFor : String → Option (Entry Card)} {order : List String} (keyed : OrderKeyed rowFor order)
    {seq : Int} {at_ : Nat} (fits : slotFits order rowFor seq at_ = true) : Slot rowFor order seq at_ := by
  simp only [slotFits, Bool.and_eq_true, Bool.or_eq_true, decide_eq_true_eq, Option.any_eq_true] at fits
  obtain ⟨⟨inside, left⟩, right⟩ := fits
  constructor
  · rcases left with rfl | ⟨number, at_left, low⟩
    · simp
    · cases at_ with
      | zero => simp
      | succ index =>
        rw [Nat.add_sub_cancel] at at_left
        have at_index := List.getElem?_eq_getElem (by omega : index < order.length)
        rw [at_index] at at_left
        exact keyed.take_le at_index at_left low
  · rcases right with rfl | ⟨number, at_right, high⟩
    · simp
    · by_cases last : at_ < order.length
      · have at_index := List.getElem?_eq_getElem last
        rw [at_index] at at_right
        exact keyed.le_drop at_index at_right high
      · rw [List.drop_eq_nil_of_le (by omega)]
        simp

theorem windowInsertionIndex_slot {rowFor : String → Option (Entry Card)} {order : List String}
    (keyed : OrderKeyed rowFor order) {row : Option (Entry Card)} {seq : Int} (at_row : orderKey row = some seq)
    (hint : Option Nat) : Slot rowFor order seq (windowInsertionIndex order rowFor row hint) := by
  simp only [windowInsertionIndex, at_row]
  split
  · rename_i slot taken
    exact slotFits_slot keyed (Option.filter_eq_some_iff.mp taken).2
  · exact walkToSlot_slot keyed seq order.length (Nat.le_refl _) false (by simp) (by simp)

end Sealwire.Hydration

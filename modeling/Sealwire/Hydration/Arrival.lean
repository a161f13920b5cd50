import Mathlib.Data.List.Perm.Basic
import Sealwire.Hydration.Reconcile

namespace Sealwire.Hydration

variable {Card : Type}

/-- Every row of the map has the number of its key. -/
def Carries (birth : String → Int) (entries : Entries Card) : Prop :=
  ∀ key row, entries.get key = some row → row.orderSeq = some (birth key)

def Born (birth : String → Int) (rows : List (Entry Card)) : Prop :=
  ∀ row ∈ rows, ∃ key, transcriptRowKey row = some key ∧ row.orderSeq = some (birth key)

section Carried

variable {birth : String → Int} {mergeRow : MergeRow Card}

theorem Carries.set {entries : Entries Card} (carries : Carries birth entries)
    (fresh_row : ∀ row, mergeRow none row = row) {row : Entry Card} {key : String} (number : row.orderSeq = some (birth key)) :
    Carries birth
      (entries.set key (applyRowIdentityInvariants (entries.get key) (mergeRow (entries.get key) row))) := by
  intro other now at_other
  by_cases same : other = key
  · subst same
    rw [InsertionMap.get_set_self] at at_other
    obtain rfl := Option.some.inj at_other
    cases held : entries.get other with
    | none => simpa [applyRowIdentityInvariants, fresh_row] using number
    | some old =>
      have before := carries other old held
      simp [applyRowIdentityInvariants, before]
  · rw [InsertionMap.get_set_ne _ _ same] at at_other
    exact carries other now at_other

theorem Carries.upsert {window : WindowDraft Card} (carries : Carries birth window.entries)
    (fresh_row : ∀ row, mergeRow none row = row) {row : Entry Card} {key : String} (at_key : transcriptRowKey row = some key)
    (number : row.orderSeq = some (birth key)) (hint : Option Nat) :
    Carries birth (upsertRowAt mergeRow window row hint).1.entries := by
  have next := carries.set fresh_row number
  simp only [upsertRowAt, at_key]
  split <;> exact next

theorem Carries.rowByRow (fresh_row : ∀ row, mergeRow none row = row) {rows : List (Entry Card)} (born : Born birth rows)
    {window : WindowDraft Card} (carries : Carries birth window.entries) (hint : Option Nat) :
    Carries birth (mergeRowByRow mergeRow window hint rows).entries := by
  induction rows generalizing window hint with
  | nil => exact carries
  | cons row rows ih =>
    obtain ⟨key, at_key, number⟩ := born row List.mem_cons_self
    exact ih (fun other member => born other (List.mem_cons_of_mem _ member))
      (carries.upsert fresh_row at_key number hint) _

theorem Carries.ascending (fresh_row : ∀ row, mergeRow none row = row) {rows : List (Entry Card)} (born : Born birth rows)
    {entries : Entries Card} (carries : Carries birth entries) (order : List String) :
    Carries birth (mergeAscending mergeRow entries order rows).entries := by
  induction rows generalizing entries order with
  | nil => exact carries
  | cons row rows ih =>
    obtain ⟨key, at_key, number⟩ := born row List.mem_cons_self
    have rest : Born birth rows := fun other member => born other (List.mem_cons_of_mem _ member)
    have next := carries.set fresh_row number
    simp only [mergeAscending, at_key]
    split
    · exact ih rest next order
    · exact ih rest next _

theorem Carries.linearly (fresh_row : ∀ row, mergeRow none row = row) {rows : List (Entry Card)} (born : Born birth rows)
    {window : WindowDraft Card} (carries : Carries birth window.entries) :
    Carries birth (mergeKeyedRowsLinearly mergeRow window rows).entries := by
  unfold mergeKeyedRowsLinearly
  split
  · exact carries.ascending fresh_row born _
  · exact carries.ascending fresh_row (fun row member => born row (List.mem_mergeSort.mp member)) _

end Carried

/-- The order holds the keys of the window and of these rows, each once and in the order of their numbers. -/
structure Placed (birth : String → Int) (window : WindowDraft Card) (rows : List (Entry Card)) (order : List String) :
    Prop where
  mem : ∀ key, key ∈ order ↔ key ∈ window.order ∨ key ∈ rows.filterMap transcriptRowKey
  ascending : order.Pairwise fun a b => birth a < birth b

/-- There is one such order, whatever rows the keys came with. -/
theorem Placed.unique {birth : String → Int} {window : WindowDraft Card} {rows others : List (Entry Card)}
    {order other : List String} (placed : Placed birth window rows order) (also : Placed birth window others other)
    (same : ∀ key, key ∈ rows.filterMap transcriptRowKey ↔ key ∈ others.filterMap transcriptRowKey) : order = other := by
  have distinct {keys : List String} (ascending : keys.Pairwise fun a b => birth a < birth b) : keys.Nodup :=
    ascending.imp fun lt is => by
      subst is
      exact absurd lt (Int.lt_irrefl _)
  have perm : order.Perm other := by
    refine (List.perm_ext_iff_of_nodup (distinct placed.ascending) (distinct also.ascending)).mpr fun key => ?_
    rw [placed.mem, also.mem, same]
  refine perm.eq_of_pairwise (fun a b _ _ lt gt => ?_) placed.ascending also.ascending
  exact absurd (Int.lt_trans lt gt) (Int.lt_irrefl _)

/-- The rows of a window and those that arrive: a key has its own number, in whatever row. -/
structure Numbered (birth : String → Int) (window : WindowDraft Card) (rows : List (Entry Card)) : Prop where
  held : Carries birth window.entries
  born : Born birth rows
  distinct : ∀ a b, (a ∈ window.order ∨ a ∈ rows.filterMap transcriptRowKey) →
    (b ∈ window.order ∨ b ∈ rows.filterMap transcriptRowKey) → birth a = birth b → a = b

/-- A window in number order whose rows have the numbers of their keys. -/
structure Stands (birth : String → Int) (window : WindowDraft Card) : Prop where
  lists : Lists window.order window.entries
  carries : Carries birth window.entries
  keyed : OrderKeyed window.entries.get window.order

/-- What keeps the keys, the numbers and their order places them. -/
theorem Stands.placed {birth : String → Int} {window after : WindowDraft Card} {rows : List (Entry Card)}
    (stands : Stands birth after) (merges : Merges rows window after) (lists : Lists window.order window.entries)
    (numbered : Numbered birth window rows) : Placed birth window rows after.order := by
  have mem : ∀ key, key ∈ after.order ↔ key ∈ window.order ∨ key ∈ rows.filterMap transcriptRowKey := by
    intro key
    rw [merges.lists.lists, merges.has, lists.lists]
  have at_birth : ∀ key ∈ after.order, orderKey (after.entries.get key) = some (birth key) := by
    intro key member
    obtain ⟨row, at_key⟩ := (InsertionMap.has_iff_get _ key).mp ((merges.lists.lists key).mp member)
    rw [at_key]
    exact stands.carries key row at_key
  refine ⟨mem, (stands.keyed.ascending.and stands.lists.distinct).imp_of_mem ?_⟩
  rintro a b in_a in_b ⟨le, apart⟩
  have below : birth a ≤ birth b := le _ _ (at_birth a in_a) (at_birth b in_b)
  have other : birth a ≠ birth b := fun same => apart (numbered.distinct a b ((mem a).mp in_a) ((mem b).mp in_b) same)
  omega

theorem Merges.append {rows later : List (Entry Card)} {a b c : WindowDraft Card} (first : Merges rows a b)
    (rest : Merges later b c) : Merges (rows ++ later) a c where
  lists := rest.lists
  keeps := first.keeps.trans rest.keeps
  has key := by
    rw [rest.has, first.has, List.filterMap_append, List.mem_append]
    tauto

section Arrivals

variable {birth : String → Int} {mergeRow : MergeRow Card} {window : WindowDraft Card} {rows : List (Entry Card)}

theorem Born.numbered (born : Born birth rows) : ∀ row ∈ rows, ∃ seq, row.orderSeq = some seq := by
  intro row member
  obtain ⟨key, _, number⟩ := born row member
  exact ⟨birth key, number⟩

variable (stands : Stands birth window) (fresh_row : ∀ row, mergeRow none row = row) (born : Born birth rows)
include stands fresh_row born

theorem Stands.rowByRow (hint : Option Nat) : Stands birth (mergeRowByRow mergeRow window hint rows) ∧
    Merges rows window (mergeRowByRow mergeRow window hint rows) := by
  have merges : Merges rows window (mergeRowByRow mergeRow window hint rows) :=
    mergeRowByRow_merges rows stands.lists hint
  have keyed := mergeRowByRow_keyed fresh_row rows stands.lists stands.keyed born.numbered hint
  exact ⟨⟨merges.lists, stands.carries.rowByRow fresh_row born hint, keyed⟩, merges⟩

theorem Stands.linearly : Stands birth (mergeKeyedRowsLinearly mergeRow window rows) ∧
    Merges rows window (mergeKeyedRowsLinearly mergeRow window rows) := by
  have merges : Merges rows window (mergeKeyedRowsLinearly mergeRow window rows) :=
    mergeKeyedRowsLinearly_merges stands.lists rows
  have keyed := mergeKeyedRowsLinearly_keyed fresh_row stands.lists stands.keyed born.numbered
  exact ⟨⟨merges.lists, stands.carries.linearly fresh_row born, keyed⟩, merges⟩

theorem Stands.batch : Stands birth (mergeWindowRowsInPlace mergeRow window rows) ∧
    Merges rows window (mergeWindowRowsInPlace mergeRow window rows) := by
  unfold mergeWindowRowsInPlace
  split
  · exact stands.linearly fresh_row born
  · exact stands.rowByRow fresh_row born none

end Arrivals

section Families

variable {birth : String → Int} {mergeRow : MergeRow Card} (fresh_row : ∀ row, mergeRow none row = row)
include fresh_row

theorem Stands.batches {batches : List (List (Entry Card))} (born : Born birth batches.flatten) {window : WindowDraft Card}
    (stands : Stands birth window) : Stands birth (batches.foldl (mergeWindowRowsInPlace mergeRow) window) ∧
      Merges batches.flatten window (batches.foldl (mergeWindowRowsInPlace mergeRow) window) := by
  induction batches generalizing window with
  | nil => exact ⟨stands, .refl stands.lists⟩
  | cons batch batches ih =>
    have here : Born birth batch := fun row member => born row (by simp [member])
    have later : Born birth batches.flatten := fun row member => born row (by
      rw [List.flatten_cons]
      exact List.mem_append_right _ member)
    obtain ⟨next, first⟩ := stands.batch fresh_row here
    obtain ⟨last, rest⟩ := ih later next
    exact ⟨last, first.append rest⟩

end Families

theorem Stands.upserts {birth : String → Int} {rows : List (Entry Card)} (born : Born birth rows)
    {window : WindowDraft Card} (stands : Stands birth window) :
    Stands birth (rows.foldl upsertWindowRowInPlace window) ∧ Merges rows window (rows.foldl upsertWindowRowInPlace window) := by
  induction rows generalizing window with
  | nil => exact ⟨stands, .refl stands.lists⟩
  | cons row rows ih =>
    have one : Born birth [row] := fun other member => born other (by
      rw [List.mem_singleton.mp member]
      exact List.mem_cons_self)
    have later : Born birth rows := fun other member => born other (List.mem_cons_of_mem _ member)
    obtain ⟨next, first⟩ := @Stands.rowByRow _ _ defaultMergeRow _ _ stands (fun _ => rfl) one none
    obtain ⟨last, rest⟩ := ih later next
    exact ⟨last, first.cons rest⟩

/-- Wherever the same numbered rows come from, they stand in the order of their numbers: in whatever batches and order
they come, one by one, in one linear merge, or row by row from any hint. -/
theorem placement_of_arrivals {birth : String → Int} {mergeRow : MergeRow Card} (fresh_row : ∀ row, mergeRow none row = row)
    {window : WindowDraft Card} (lists : Lists window.order window.entries)
    (keyed : windowIsOrderKeyed window.order window.entries = true) {batches : List (List (Entry Card))}
    (numbered : Numbered birth window batches.flatten) :
    Placed birth window batches.flatten (batches.foldl (mergeWindowRowsInPlace mergeRow) window).order ∧
    (∀ others : List (List (Entry Card)), Born birth others.flatten →
      (∀ key, key ∈ batches.flatten.filterMap transcriptRowKey ↔ key ∈ others.flatten.filterMap transcriptRowKey) →
      (others.foldl (mergeWindowRowsInPlace mergeRow) window).order =
        (batches.foldl (mergeWindowRowsInPlace mergeRow) window).order) ∧
    ∀ rows : List (Entry Card), Born birth rows →
      (∀ key, key ∈ batches.flatten.filterMap transcriptRowKey ↔ key ∈ rows.filterMap transcriptRowKey) →
      (rows.foldl upsertWindowRowInPlace window).order =
        (batches.foldl (mergeWindowRowsInPlace mergeRow) window).order ∧
      (mergeKeyedRowsLinearly mergeRow window rows).order =
        (batches.foldl (mergeWindowRowsInPlace mergeRow) window).order ∧
      ∀ hint, (mergeRowByRow mergeRow window hint rows).order =
        (batches.foldl (mergeWindowRowsInPlace mergeRow) window).order := by
  have stands : Stands birth window := ⟨lists, numbered.held, windowIsOrderKeyed_iff.mp keyed⟩
  obtain ⟨after, merges⟩ := stands.batches fresh_row numbered.born
  have placed := after.placed merges lists numbered
  -- Rows with the same keys have the same numbers, so what they make is the same order.
  have agrees {rows : List (Entry Card)} (born : Born birth rows)
      (same : ∀ key, key ∈ batches.flatten.filterMap transcriptRowKey ↔ key ∈ rows.filterMap transcriptRowKey)
      {other : WindowDraft Card} (made : Stands birth other ∧ Merges rows window other) :
      other.order = (batches.foldl (mergeWindowRowsInPlace mergeRow) window).order := by
    have also : Numbered birth window rows := by
      refine ⟨numbered.held, born, fun a b in_a in_b => ?_⟩
      rw [← same] at in_a in_b
      exact numbered.distinct a b in_a in_b
    exact (placed.unique (made.1.placed made.2 lists also) same).symm
  refine ⟨placed, fun others born same => agrees born same (stands.batches fresh_row born), fun rows born same => ?_⟩
  exact ⟨agrees born same (stands.upserts born), agrees born same (stands.linearly fresh_row born),
    fun hint => agrees born same (stands.rowByRow fresh_row born hint)⟩

def bornRow (key : String) (birth : Int) : Entry Unit where
  rowId := some key
  itemId := none
  kind := "agent_text"
  text := none
  status := "completed"
  turnId := none
  tool := none
  contentState := .full
  entrySeq := none
  orderSeq := some birth
  withdrawn := false
  injection := none

def birthOf (key : String) : Int :=
  if key = "r-1" then 10 else if key = "r-2" then 20 else 30

def heldWindow : WindowDraft Unit where
  order := ["r-2"]
  entries := InsertionMap.empty.set "r-2" (bornRow "r-2" 20)

theorem placement_of_three_arrivals :
    ([bornRow "r-1" 10, bornRow "r-2" 20, bornRow "r-3" 30].foldl upsertWindowRowInPlace heldWindow).order =
      ([[bornRow "r-3" 30, bornRow "r-1" 10, bornRow "r-3" 30], [bornRow "r-2" 20]].foldl
        (mergeWindowRowsInPlace defaultMergeRow) heldWindow).order := by
  have at_held (key : String) : heldWindow.entries.get key = if key = "r-2" then some (bornRow "r-2" 20) else none := by
    rw [heldWindow, InsertionMap.get_set, InsertionMap.get_empty]
  have carries : Carries birthOf heldWindow.entries := by
    intro key row at_key
    rw [at_held] at at_key
    split at at_key
    · rename_i same
      subst same
      cases at_key
      rfl
    · cases at_key
  have lists : Lists heldWindow.order heldWindow.entries := by
    refine ⟨by decide, fun key => ?_, fun key there => ?_⟩
    · rw [InsertionMap.has_iff_get, at_held]
      simp [heldWindow]
    · obtain ⟨row, at_key⟩ := (InsertionMap.has_iff_get _ _).mp there
      rw [at_held] at at_key
      rintro rfl
      cases at_key
  have keys : [[bornRow "r-3" 30, bornRow "r-1" 10, bornRow "r-3" 30], [bornRow "r-2" 20]].flatten.filterMap
      transcriptRowKey = ["r-3", "r-1", "r-3", "r-2"] := by decide
  have numbered : Numbered birthOf heldWindow
      [[bornRow "r-3" 30, bornRow "r-1" 10, bornRow "r-3" 30], [bornRow "r-2" 20]].flatten := by
    refine ⟨carries, ?_, ?_⟩
    · intro row member
      simp only [List.flatten_cons, List.flatten_nil, List.cons_append, List.nil_append, List.mem_cons,
        List.not_mem_nil, or_false] at member
      rcases member with rfl | rfl | rfl | rfl
      · exact ⟨"r-3", by decide, by decide⟩
      · exact ⟨"r-1", by decide, by decide⟩
      · exact ⟨"r-3", by decide, by decide⟩
      · exact ⟨"r-2", by decide, by decide⟩
    · intro a b in_a in_b same
      rw [keys] at in_a in_b
      simp only [heldWindow, List.mem_cons, List.not_mem_nil, or_false] at in_a in_b
      rcases in_a with rfl | rfl | rfl | rfl | rfl <;> rcases in_b with rfl | rfl | rfl | rfl | rfl <;>
        first | rfl | exact absurd same (by decide)
  have same_keys (key : String) :
      key ∈ [[bornRow "r-3" 30, bornRow "r-1" 10, bornRow "r-3" 30], [bornRow "r-2" 20]].flatten.filterMap
        transcriptRowKey ↔
      key ∈ [bornRow "r-1" 10, bornRow "r-2" 20, bornRow "r-3" 30].filterMap transcriptRowKey := by
    have second : [bornRow "r-1" 10, bornRow "r-2" 20, bornRow "r-3" 30].filterMap transcriptRowKey =
        ["r-1", "r-2", "r-3"] := by decide
    rw [keys, second]
    simp only [List.mem_cons, List.not_mem_nil, or_false]
    tauto
  have born : Born birthOf [bornRow "r-1" 10, bornRow "r-2" 20, bornRow "r-3" 30] := by
    intro row member
    simp only [List.mem_cons, List.not_mem_nil, or_false] at member
    rcases member with rfl | rfl | rfl
    · exact ⟨"r-1", by decide, by decide⟩
    · exact ⟨"r-2", by decide, by decide⟩
    · exact ⟨"r-3", by decide, by decide⟩
  exact ((@placement_of_arrivals _ birthOf defaultMergeRow (fun _ => rfl) _ lists (by decide) _ numbered).2.2 _ born
    same_keys).1

end Sealwire.Hydration

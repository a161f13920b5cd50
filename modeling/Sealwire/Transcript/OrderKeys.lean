import Sealwire.Transcript.RuntimeRuns

namespace Sealwire.Transcript

open ThreadTranscript (RowKept SameShape)

/-- Keys increase in row order, and both cursors lie outside everything issued. -/
structure Ordered (runtime : ThreadRuntime) : Prop where
  consistent : runtime.transcript.Consistent
  increasing : (runtime.transcript.rows.map (·.orderSeq)).Pairwise (· < ·)
  above : ∀ row ∈ runtime.transcript.rows, row.orderSeq < runtime.nextTailOrderSeq
  below : ∀ row ∈ runtime.transcript.rows, runtime.nextHeadOrderSeq < row.orderSeq
  apart : runtime.nextHeadOrderSeq < runtime.nextTailOrderSeq

/-- `t` still has every row of `s`, under the same id and key, and withdrawals stay. -/
def KeepsRows (s t : ThreadTranscript) : Prop :=
  ∀ row ∈ s.rows, ∃ next ∈ t.rows, RowKept row next

theorem KeepsRows.refl (t : ThreadTranscript) : KeepsRows t t :=
  fun row member => ⟨row, member, .refl row⟩

theorem KeepsRows.trans {s t u : ThreadTranscript} (first : KeepsRows s t) (second : KeepsRows t u) : KeepsRows s u := by
  intro row member
  obtain ⟨middle, at_t, kept⟩ := first row member
  obtain ⟨last, at_u, kept'⟩ := second middle at_t
  exact ⟨last, at_u, kept.trans kept'⟩

theorem KeepsRows.of_forall₂ {s t : ThreadTranscript} (kept : List.Forall₂ RowKept s.rows t.rows) : KeepsRows s t :=
  fun _ member => ThreadTranscript.forall₂_member kept member

/-- One step keeps the order of the keys and the rows. -/
structure Advances (s t : ThreadRuntime) : Prop where
  ordered : Ordered t
  keeps : KeepsRows s.transcript t.transcript

theorem Advances.refl {s : ThreadRuntime} (ordered : Ordered s) : Advances s s :=
  ⟨ordered, .refl s.transcript⟩

theorem Advances.trans {s t u : ThreadRuntime} (first : Advances s t) (second : Advances t u) : Advances s u :=
  ⟨second.ordered, first.keeps.trans second.keeps⟩

theorem mem_of_same_keys {a b : List TranscriptRecord} (keys : a.map (·.orderSeq) = b.map (·.orderSeq))
    {row : TranscriptRecord} (member : row ∈ a) : ∃ other ∈ b, other.orderSeq = row.orderSeq := by
  have key : row.orderSeq ∈ b.map (·.orderSeq) := by
    rw [← keys]
    exact List.mem_map_of_mem member
  exact List.mem_map.mp key

/-- Editing rows in place, with both cursors left alone. -/
theorem Ordered.edited {s t : ThreadRuntime} (ordered : Ordered s) (consistent : t.transcript.Consistent)
    (rows : List.Forall₂ RowKept s.transcript.rows t.transcript.rows)
    (tail : t.nextTailOrderSeq = s.nextTailOrderSeq) (head : t.nextHeadOrderSeq = s.nextHeadOrderSeq) :
    Advances s t := by
  have keys := ThreadTranscript.forall₂_orderSeqs rows
  refine ⟨⟨consistent, by rw [keys]; exact ordered.increasing, ?_, ?_, ?_⟩, .of_forall₂ rows⟩
  · intro row member
    obtain ⟨old, there, same⟩ := mem_of_same_keys keys member
    rw [← same, tail]
    exact ordered.above old there
  · intro row member
    obtain ⟨old, there, same⟩ := mem_of_same_keys keys member
    rw [← same, head]
    exact ordered.below old there
  · rw [head, tail]
    exact ordered.apart

theorem Ordered.updateRow {s : ThreadRuntime} (ordered : Ordered s) (rowId : String)
    (edit : TranscriptRecord → TranscriptRecord) : Advances s (s.updateRow rowId edit) := by
  obtain ⟨shape, consistent⟩ := ThreadTranscript.updateRow_consistent ordered.consistent rowId fun entry => (edit entry, ())
  exact ordered.edited consistent shape.rows rfl rfl

theorem renamed_orderSeqs {block placed : List TranscriptRecord}
    (renamed : List.Forall₂ ThreadTranscript.Renamed block placed) :
    placed.map (·.orderSeq) = block.map (·.orderSeq) := by
  induction renamed with
  | nil => rfl
  | cons head _ ih =>
    rw [List.map_cons, List.map_cons, ih, head]

/-- A block put into the rows at `index`, with keys between those on both sides. -/
theorem Ordered.splice {s t : ThreadRuntime} (ordered : Ordered s) {index : Nat} {block : List TranscriptRecord}
    {ids : List String} (inserted : s.transcript.insertBefore index block = some (t.transcript, ids))
    (increasing : (block.map (·.orderSeq)).Pairwise (· < ·))
    (left : ∀ row ∈ s.transcript.rows.take index, ∀ new ∈ block, row.orderSeq < new.orderSeq)
    (right : ∀ row ∈ s.transcript.rows.drop index, ∀ new ∈ block, new.orderSeq < row.orderSeq)
    (tail : t.nextTailOrderSeq = s.nextTailOrderSeq) (head : t.nextHeadOrderSeq ≤ s.nextHeadOrderSeq)
    (above : ∀ new ∈ block, new.orderSeq < s.nextTailOrderSeq)
    (below : ∀ new ∈ block, t.nextHeadOrderSeq < new.orderSeq) : Advances s t := by
  obtain ⟨consistent, placed, renamed, -, rows⟩ := ThreadTranscript.insertBefore_placed ordered.consistent inserted
  have keys := renamed_orderSeqs renamed
  have origin (row : TranscriptRecord) (member : row ∈ t.transcript.rows) :
      row ∈ s.transcript.rows ∨ ∃ new ∈ block, new.orderSeq = row.orderSeq := by
    rw [rows, List.mem_append, List.mem_append] at member
    rcases member with (before | here) | after
    · exact .inl (List.mem_of_mem_take before)
    · exact .inr (mem_of_same_keys keys here)
    · exact .inl (List.mem_of_mem_drop after)
  have split := List.pairwise_append.mp (by
    have all := ordered.increasing
    rw [← List.take_append_drop index s.transcript.rows, List.map_append] at all
    exact all)
  obtain ⟨first, second, across⟩ := split
  refine ⟨⟨consistent, ?_, ?_, ?_, ?_⟩, ?_⟩
  · rw [rows, List.map_append, List.map_append, keys, List.pairwise_append, List.pairwise_append]
    refine ⟨⟨first, increasing, ?_⟩, second, ?_⟩
    · intro a old b new
      obtain ⟨row, member, rfl⟩ := List.mem_map.mp old
      obtain ⟨record, there, rfl⟩ := List.mem_map.mp new
      exact left row member record there
    · intro a early b late
      rcases List.mem_append.mp early with old | new
      · exact across a old b late
      · obtain ⟨record, there, rfl⟩ := List.mem_map.mp new
        obtain ⟨row, member, rfl⟩ := List.mem_map.mp late
        exact right row member record there
  · intro row member
    rw [tail]
    rcases origin row member with old | ⟨new, there, same⟩
    · exact ordered.above row old
    · rw [← same]
      exact above new there
  · intro row member
    rcases origin row member with old | ⟨new, there, same⟩
    · exact Int.lt_of_le_of_lt head (ordered.below row old)
    · rw [← same]
      exact below new there
  · rw [tail]
    exact Int.lt_of_le_of_lt head ordered.apart
  · intro row member
    refine ⟨row, ?_, .refl row⟩
    rw [← List.take_append_drop index s.transcript.rows, List.mem_append] at member
    rw [rows, List.mem_append, List.mem_append]
    exact member.elim (fun before => .inl (.inl before)) .inr

/-- The keys of a numbered block. -/
theorem numberFrom_keys (base step : Int) (records : List TranscriptRecord) :
    (numberFrom base step records).map (·.orderSeq) =
      (List.range records.length).map fun i : Nat => base + step * (i : Int) := by
  unfold numberFrom
  rw [List.map_map]
  apply List.ext_getElem
  · simp
  · intro i at_left at_right
    simp

theorem numberFrom_increasing {base step : Int} (positive : 0 < step) (records : List TranscriptRecord) :
    ((numberFrom base step records).map (·.orderSeq)).Pairwise (· < ·) := by
  rw [numberFrom_keys, List.pairwise_map]
  refine List.pairwise_lt_range.imp fun {i j} before => ?_
  have apart : step * (i : Int) < step * (j : Int) := Int.mul_lt_mul_of_pos_left (by omega) positive
  omega

theorem numberFrom_key {base step : Int} {records : List TranscriptRecord} {row : TranscriptRecord}
    (member : row ∈ numberFrom base step records) :
    ∃ i : Nat, i < records.length ∧ row.orderSeq = base + step * (i : Int) := by
  have key : row.orderSeq ∈ (numberFrom base step records).map (·.orderSeq) := List.mem_map_of_mem member
  rw [numberFrom_keys] at key
  obtain ⟨i, bound, same⟩ := List.mem_map.mp key
  exact ⟨i, List.mem_range.mp bound, same.symm⟩

theorem birthRow_eq {s t : ThreadRuntime} {record : TranscriptRecord} {rowId : String} {orderSeq : Int}
    (born : s.birthRow record = some (t, rowId, orderSeq)) :
    orderSeq = s.nextTailOrderSeq ∧
      s.transcript.push { record with orderSeq := s.nextTailOrderSeq } = some (t.transcript, rowId) ∧
      t = { s with transcript := t.transcript, nextTailOrderSeq := s.nextTailOrderSeq + orderSeqStep } := by
  unfold ThreadRuntime.birthRow at born
  obtain ⟨⟨r, seq⟩, alloc, rest⟩ := Option.bind_eq_some_iff.mp born
  obtain ⟨⟨transcript, id⟩, pushed, result⟩ := Option.bind_eq_some_iff.mp rest
  simp only [Option.some.injEq, Prod.mk.injEq] at result
  obtain ⟨rfl, rfl, rfl⟩ := result
  unfold ThreadRuntime.allocTailOrderSeq at alloc
  obtain ⟨next, checked, same⟩ := Option.bind_eq_some_iff.mp alloc
  simp only [Option.some.injEq, Prod.mk.injEq] at same
  obtain ⟨rfl, rfl⟩ := same
  obtain ⟨-, rfl⟩ := checkedInt_eq_some.mp checked
  exact ⟨rfl, pushed, rfl⟩

theorem Ordered.birthRow {s t : ThreadRuntime} (ordered : Ordered s) {record : TranscriptRecord} {rowId : String}
    {orderSeq : Int} (born : s.birthRow record = some (t, rowId, orderSeq)) : Advances s t := by
  obtain ⟨-, pushed, same⟩ := birthRow_eq born
  have rows := ThreadTranscript.push_rows ordered.consistent pushed
  have consistent := ThreadTranscript.push_consistent ordered.consistent pushed
  have step : (0 : Int) < orderSeqStep := by decide
  have tail : t.nextTailOrderSeq = s.nextTailOrderSeq + orderSeqStep := by rw [same]
  have head : t.nextHeadOrderSeq = s.nextHeadOrderSeq := by rw [same]
  refine ⟨⟨consistent, ?_, ?_, ?_, ?_⟩, ?_⟩
  · rw [rows, List.map_append, List.pairwise_append]
    refine ⟨ordered.increasing, by simp, ?_⟩
    intro a old b new
    obtain ⟨row, member, rfl⟩ := List.mem_map.mp old
    obtain rfl : b = s.nextTailOrderSeq := by simpa using new
    exact ordered.above row member
  · intro row member
    rw [rows, List.mem_append] at member
    rw [tail]
    rcases member with old | new
    · have bound := ordered.above row old
      omega
    · obtain rfl := List.mem_singleton.mp new
      change s.nextTailOrderSeq < s.nextTailOrderSeq + orderSeqStep
      omega
  · intro row member
    rw [rows, List.mem_append] at member
    rw [head]
    rcases member with old | new
    · exact ordered.below row old
    · obtain rfl := List.mem_singleton.mp new
      exact ordered.apart
  · have apart := ordered.apart
    rw [head, tail]
    omega
  · intro row member
    exact ⟨row, by simp [rows, member], .refl row⟩

theorem Ordered.appendRecords {s t : ThreadRuntime} (ordered : Ordered s) {records : List TranscriptRecord}
    (appended : s.appendRecords records = some t) : Advances s t := by
  induction records generalizing s with
  | nil =>
    obtain rfl := Option.some.inj appended
    exact .refl ordered
  | cons record rest ih =>
    obtain ⟨middle, first, remaining⟩ := Option.bind_eq_some_iff.mp appended
    obtain ⟨⟨r, rowId, orderSeq⟩, born, rfl⟩ := Option.map_eq_some_iff.mp first
    have step := ordered.birthRow born
    exact step.trans (ih step.ordered remaining)

theorem allocHeadOrderSeqBlock_eq {s t : ThreadRuntime} {count : Nat} {base : Int}
    (alloc : s.allocHeadOrderSeqBlock count = some (t, base)) :
    t.transcript = s.transcript ∧ t.nextTailOrderSeq = s.nextTailOrderSeq ∧
      t.nextHeadOrderSeq ≤ s.nextHeadOrderSeq ∧
      ∀ i : Nat, i < count → t.nextHeadOrderSeq < base + orderSeqStep * i ∧
        base + orderSeqStep * i ≤ s.nextHeadOrderSeq := by
  unfold ThreadRuntime.allocHeadOrderSeqBlock at alloc
  split at alloc
  · obtain ⟨rfl, rfl⟩ := Prod.mk.inj (Option.some.inj alloc)
    exact ⟨rfl, rfl, Int.le_refl _, by omega⟩
  · obtain ⟨span, spans, rest⟩ := Option.bind_eq_some_iff.mp alloc
    obtain ⟨low, lows, rest'⟩ := Option.bind_eq_some_iff.mp rest
    obtain ⟨next, nexts, result⟩ := Option.bind_eq_some_iff.mp rest'
    obtain ⟨-, rfl⟩ := checkedInt_eq_some.mp spans
    obtain ⟨-, rfl⟩ := checkedInt_eq_some.mp lows
    obtain ⟨-, rfl⟩ := checkedInt_eq_some.mp nexts
    obtain ⟨rfl, rfl⟩ := Prod.mk.inj (Option.some.inj result)
    unfold orderSeqStep
    refine ⟨rfl, rfl, ?_, ?_⟩
    · change s.nextHeadOrderSeq - ((count : Int) - 1) * 1048576 - 1048576 ≤ s.nextHeadOrderSeq
      omega
    · intro i within
      change s.nextHeadOrderSeq - ((count : Int) - 1) * 1048576 - 1048576 < _ ∧ _
      omega

/-- A block of records put in at the head, under a block of head keys. -/
theorem Ordered.prependBlock {s t u : ThreadRuntime} (ordered : Ordered s) {block : List TranscriptRecord}
    {base : Int} {ids : List String} (alloc : s.allocHeadOrderSeqBlock block.length = some (t, base))
    (inserted : t.transcript.insertBefore 0 (numberFrom base orderSeqStep block) = some (u.transcript, ids))
    (tail : u.nextTailOrderSeq = t.nextTailOrderSeq) (head : u.nextHeadOrderSeq = t.nextHeadOrderSeq) :
    Advances s u := by
  obtain ⟨same, tail', head', keys⟩ := allocHeadOrderSeqBlock_eq alloc
  rw [same] at inserted
  have bounds (new : TranscriptRecord) (member : new ∈ numberFrom base orderSeqStep block) :
      u.nextHeadOrderSeq < new.orderSeq ∧ new.orderSeq ≤ s.nextHeadOrderSeq := by
    obtain ⟨i, within, key⟩ := numberFrom_key member
    rw [key, head]
    exact keys i within
  refine ordered.splice inserted (numberFrom_increasing (by decide) block) ?_ ?_ (tail.trans tail') (head ▸ head') ?_ ?_
  · intro row member
    simp at member
  · intro row member new there
    exact Int.lt_of_le_of_lt (bounds new there).2 (ordered.below row (List.mem_of_mem_drop member))
  · intro new there
    exact Int.lt_of_le_of_lt (bounds new there).2 ordered.apart
  · intro new there
    exact (bounds new there).1

theorem Ordered.lt_of_lt {s : ThreadRuntime} (ordered : Ordered s) {i j : Nat} {a b : TranscriptRecord}
    (at_i : s.transcript.rows[i]? = some a) (at_j : s.transcript.rows[j]? = some b) (before : i < j) :
    a.orderSeq < b.orderSeq := by
  obtain ⟨bound_i, rfl⟩ := List.getElem?_eq_some_iff.mp at_i
  obtain ⟨bound_j, rfl⟩ := List.getElem?_eq_some_iff.mp at_j
  have pairs := List.pairwise_iff_getElem.mp ordered.increasing i j (by simpa using bound_i) (by simpa using bound_j) before
  simpa using pairs

/-- Everything before an index is at most the row directly before it. -/
theorem Ordered.take_le {s : ThreadRuntime} (ordered : Ordered s) {index : Nat} {prev : TranscriptRecord}
    (at_prev : s.transcript.rows[index - 1]? = some prev) {row : TranscriptRecord}
    (member : row ∈ s.transcript.rows.take index) : row.orderSeq ≤ prev.orderSeq := by
  obtain ⟨i, at_row⟩ := List.mem_iff_getElem?.mp member
  have within : i < index := by
    have bound := (List.getElem?_eq_some_iff.mp at_row).1
    rw [List.length_take] at bound
    omega
  rw [List.getElem?_take_of_lt within] at at_row
  by_cases last : i = index - 1
  · rw [last, at_prev] at at_row
    exact Int.le_of_eq (congrArg _ (Option.some.inj at_row).symm)
  · exact Int.le_of_lt (ordered.lt_of_lt at_row at_prev (by omega))

/-- The row at an index is at most everything from there on. -/
theorem Ordered.le_drop {s : ThreadRuntime} (ordered : Ordered s) {index : Nat} {next : TranscriptRecord}
    (at_next : s.transcript.rows[index]? = some next) {row : TranscriptRecord}
    (member : row ∈ s.transcript.rows.drop index) : next.orderSeq ≤ row.orderSeq := by
  obtain ⟨i, at_row⟩ := List.mem_iff_getElem?.mp member
  rw [List.getElem?_drop] at at_row
  by_cases first : i = 0
  · rw [first, Nat.add_zero, at_next] at at_row
    exact Int.le_of_eq (congrArg _ (Option.some.inj at_row))
  · exact Int.le_of_lt (ordered.lt_of_lt at_next at_row (by omega))

/-- Equal parts of a gap that is wider than the block leave every new key inside it. -/
theorem spaced_inside {gap count : Int} (wide : count < gap) {i : Int} (nonneg : 0 ≤ i) (within : i < count) :
    0 < gap / (count + 1) ∧ 0 < gap / (count + 1) + gap / (count + 1) * i ∧
      gap / (count + 1) + gap / (count + 1) * i < gap := by
  have positive : 0 < gap / (count + 1) := by
    have one : 1 ≤ gap / (count + 1) := (Int.le_ediv_iff_mul_le (by omega)).mpr (by omega)
    omega
  have total : gap / (count + 1) * (count + 1) ≤ gap := Int.ediv_mul_le gap (by omega)
  have part : gap / (count + 1) * (i + 1) ≤ gap / (count + 1) * count :=
    Int.mul_le_mul_of_nonneg_left (by omega) (Int.le_of_lt positive)
  have product : 0 ≤ gap / (count + 1) * i := Int.mul_nonneg (Int.le_of_lt positive) nonneg
  rw [Int.mul_add, Int.mul_one] at total part
  omega

/-- A block of records put in between two rows, in equal parts of the gap of their keys. -/
theorem Ordered.fillGap {s t : ThreadRuntime} (ordered : Ordered s) {index : Nat} {prev next : TranscriptRecord}
    (at_prev : s.transcript.rows[index - 1]? = some prev) (at_next : s.transcript.rows[index]? = some next)
    {records : List TranscriptRecord} {ids : List String}
    (wide : (records.length : Int) < next.orderSeq - prev.orderSeq)
    (placed : s.transcript.insertBefore index (numberFrom
      (prev.orderSeq + (next.orderSeq - prev.orderSeq) / ((records.length : Int) + 1))
      ((next.orderSeq - prev.orderSeq) / ((records.length : Int) + 1)) records) = some (t.transcript, ids))
    (tail : t.nextTailOrderSeq = s.nextTailOrderSeq) (head : t.nextHeadOrderSeq = s.nextHeadOrderSeq) :
    Advances s t := by
  have inside (new : TranscriptRecord) (member : new ∈ numberFrom
      (prev.orderSeq + (next.orderSeq - prev.orderSeq) / ((records.length : Int) + 1))
      ((next.orderSeq - prev.orderSeq) / ((records.length : Int) + 1)) records) :
      prev.orderSeq < new.orderSeq ∧ new.orderSeq < next.orderSeq := by
    obtain ⟨i, within, key⟩ := numberFrom_key member
    obtain ⟨-, low, high⟩ := spaced_inside wide (i := i) (by omega) (by omega)
    rw [key]
    omega
  have prev_row := List.mem_of_getElem? at_prev
  have next_row := List.mem_of_getElem? at_next
  refine ordered.splice placed ?_ ?_ ?_ tail (Int.le_of_eq head) ?_ ?_
  · rcases Nat.eq_zero_or_pos records.length with none_given | some_given
    · rw [List.length_eq_zero_iff.mp none_given]
      exact .nil
    · exact numberFrom_increasing (spaced_inside wide (Int.le_refl 0) (by omega)).1 records
  · intro row member new there
    exact Int.lt_of_le_of_lt (ordered.take_le at_prev member) (inside new there).1
  · intro row member new there
    exact Int.lt_of_lt_of_le (inside new there).2 (ordered.le_drop at_next member)
  · intro new there
    exact Int.lt_trans (inside new there).2 (ordered.above next next_row)
  · intro new there
    rw [head]
    exact Int.lt_trans (ordered.below prev prev_row) (inside new there).1

theorem Ordered.insertRecordsBefore {s t : ThreadRuntime} (ordered : Ordered s) {index : Nat}
    {records : List TranscriptRecord} (inserted : s.insertRecordsBefore index records = some t) : Advances s t := by
  unfold ThreadRuntime.insertRecordsBefore at inserted
  split at inserted
  · exact ordered.appendRecords inserted
  split at inserted
  · rename_i first
    obtain ⟨⟨r, base⟩, alloc, rest⟩ := Option.bind_eq_some_iff.mp inserted
    obtain ⟨⟨transcript, ids⟩, placed, result⟩ := Option.bind_eq_some_iff.mp rest
    obtain rfl := Option.some.inj result
    subst first
    exact ordered.prependBlock alloc placed rfl rfl
  · obtain ⟨prev, at_prev, rest⟩ := Option.bind_eq_some_iff.mp inserted
    obtain ⟨next, at_next, rest'⟩ := Option.bind_eq_some_iff.mp rest
    obtain ⟨gap, gaps, rest''⟩ := Option.bind_eq_some_iff.mp rest'
    obtain ⟨-, rfl⟩ := checkedInt_eq_some.mp gaps
    simp only at rest''
    split at rest''
    · rename_i wide
      obtain ⟨⟨transcript, ids⟩, placed, result⟩ := Option.bind_eq_some_iff.mp rest''
      obtain rfl := Option.some.inj result
      exact ordered.fillGap at_prev at_next wide placed rfl rfl
    · cases rest''

theorem Ordered.bindName {s : ThreadRuntime} (ordered : Ordered s) (space : SourceSpace) (rowId itemId : String) :
    Advances s { s with transcript := (s.transcript.bindName space rowId itemId).1 } :=
  ordered.edited (ThreadTranscript.bindName_consistent ordered.consistent space rowId itemId)
    (ThreadTranscript.bindName_shape ordered.consistent space rowId itemId).rows rfl rfl

theorem Ordered.updateTranscriptRow {R : Type} {s : ThreadRuntime} (ordered : Ordered s) (rowId : String)
    (edit : TranscriptRecord → TranscriptRecord × R) :
    Advances s { s with transcript := (s.transcript.updateRow rowId edit).1 } := by
  obtain ⟨shape, consistent⟩ := ThreadTranscript.updateRow_consistent ordered.consistent rowId edit
  exact ordered.edited consistent shape.rows rfl rfl

theorem Ordered.flushBefore {m n : ThreadRuntime.HistoryMerge} (ordered : Ordered m.runtime) {rowId : String}
    (flushed : ThreadRuntime.flushBefore m rowId = some n) : Advances m.runtime n.runtime := by
  unfold ThreadRuntime.flushBefore at flushed
  split at flushed
  · obtain rfl := Option.some.inj flushed
    exact .refl ordered
  · obtain ⟨anchor, _, rest⟩ := Option.bind_eq_some_iff.mp flushed
    obtain ⟨runtime, inserted, result⟩ := Option.bind_eq_some_iff.mp rest
    obtain rfl := Option.some.inj result
    exact ordered.insertRecordsBefore inserted

theorem Ordered.mergeRecord {m n : ThreadRuntime.HistoryMerge} (ordered : Ordered m.runtime)
    {record : TranscriptRecord} (merged : ThreadRuntime.mergeRecord m record = some n) :
    Advances m.runtime n.runtime := by
  unfold ThreadRuntime.mergeRecord at merged
  split at merged
  · rename_i rowId _
    obtain ⟨flushed, flush, rest⟩ := Option.bind_eq_some_iff.mp merged
    obtain ⟨index, _, result⟩ := Option.bind_eq_some_iff.mp rest
    obtain rfl := Option.some.inj result
    have first := ordered.flushBefore flush
    have second := first.ordered.updateTranscriptRow rowId fun existing => mergeRuntimeEntry existing record
    refine (first.trans second).trans ?_
    cases record.providerItemId with
    | none => exact .refl second.ordered
    | some providerItemId => exact second.ordered.bindName .provider rowId providerItemId
  · split at merged
    · obtain rfl := Option.some.inj merged
      exact .refl ordered
    · obtain rfl := Option.some.inj merged
      exact .refl ordered

theorem Ordered.mergeRecords {m n : ThreadRuntime.HistoryMerge} (ordered : Ordered m.runtime)
    {records : List TranscriptRecord} (merged : records.foldlM ThreadRuntime.mergeRecord m = some n) :
    Advances m.runtime n.runtime := by
  induction records generalizing m with
  | nil =>
    obtain rfl := Option.some.inj merged
    exact .refl ordered
  | cons record rest ih =>
    obtain ⟨middle, first, remaining⟩ := Option.bind_eq_some_iff.mp merged
    have step := ordered.mergeRecord first
    exact step.trans (ih step.ordered remaining)

theorem Ordered.mergeHistory {s t : ThreadRuntime} (ordered : Ordered s) {records : List TranscriptRecord}
    {readStartedAtRevision : Option UInt64} {changed : Bool}
    (merged : s.mergeTranscriptRecordsAfterReadStart records readStartedAtRevision = some (t, changed)) :
    Advances s t := by
  unfold ThreadRuntime.mergeTranscriptRecordsAfterReadStart at merged
  obtain ⟨merge, run, rest⟩ := Option.bind_eq_some_iff.mp merged
  have first : Advances s merge.runtime := Ordered.mergeRecords (m := { runtime := s, .. }) ordered run
  split at rest
  · obtain ⟨rfl, -⟩ := Prod.mk.inj (Option.some.inj rest)
    exact first
  · obtain ⟨runtime, inserted, result⟩ := Option.bind_eq_some_iff.mp rest
    obtain ⟨rfl, -⟩ := Prod.mk.inj (Option.some.inj result)
    exact first.trans (first.ordered.insertRecordsBefore inserted)

theorem Ordered.absorb {s : ThreadRuntime} (ordered : Ordered s) (absorbed : List (String × TranscriptRecord)) :
    Advances s { s with transcript := absorbed.foldl ThreadRuntime.absorbRecord s.transcript } := by
  induction absorbed generalizing s with
  | nil => exact .refl ordered
  | cons first rest ih =>
    have step : Advances s { s with transcript := ThreadRuntime.absorbRecord s.transcript first } :=
      ordered.updateTranscriptRow first.1 _
    exact step.trans (ih step.ordered)

theorem prependProviderHistory_eq {s t : ThreadRuntime} {entries : List ProviderTranscriptEntry}
    {requestedCursor prevCursor : Option Nat} {views : List TranscriptEntryView}
    (prepended : s.prependProviderHistory entries requestedCursor prevCursor = some (t, views)) :
    let page := ThreadRuntime.landPage s.transcript (pageRecords entries requestedCursor) 0
    ∃ r base minted,
      ({ s with transcript := page.2.1.foldl ThreadRuntime.absorbRecord s.transcript }).allocHeadOrderSeqBlock
        page.2.2.length = some (r, base) ∧
      r.transcript.insertBefore 0 (numberFrom base orderSeqStep page.2.2) = some (t.transcript, minted) ∧
      t = { r with transcript := t.transcript, providerHistoryCursor := prevCursor } := by
  intro page
  obtain ⟨⟨r, base⟩, alloc, rest⟩ := Option.bind_eq_some_iff.mp prepended
  obtain ⟨⟨transcript, minted⟩, inserted, result⟩ := Option.bind_eq_some_iff.mp rest
  obtain ⟨rfl, -⟩ := Prod.mk.inj (Option.some.inj result)
  exact ⟨r, base, minted, alloc, inserted, rfl⟩

theorem Ordered.prependProviderHistory {s t : ThreadRuntime} (ordered : Ordered s)
    {entries : List ProviderTranscriptEntry} {requestedCursor prevCursor : Option Nat}
    {views : List TranscriptEntryView}
    (prepended : s.prependProviderHistory entries requestedCursor prevCursor = some (t, views)) : Advances s t := by
  obtain ⟨r, base, minted, alloc, inserted, same⟩ := prependProviderHistory_eq prepended
  have first := ordered.absorb (ThreadRuntime.landPage s.transcript (pageRecords entries requestedCursor) 0).2.1
  exact first.trans (first.ordered.prependBlock alloc inserted (by rw [same]) (by rw [same]))

/-- What does not touch the rows or the cursors. -/
theorem Ordered.untouched {s t : ThreadRuntime} (ordered : Ordered s) (transcript : t.transcript = s.transcript)
    (tail : t.nextTailOrderSeq = s.nextTailOrderSeq) (head : t.nextHeadOrderSeq = s.nextHeadOrderSeq) :
    Advances s t := by
  refine ordered.edited ?_ ?_ tail head
  · rw [transcript]
    exact ordered.consistent
  · rw [transcript]
    exact ThreadTranscript.forall₂_refl _

theorem Ordered.stamped {s : ThreadRuntime} (ordered : Ordered s) (rowId : String) (revision : UInt64) :
    Advances s ((s.bumpRevision revision).stampTranscriptItemSeq rowId revision) := by
  have bumped : Advances s (s.bumpRevision revision) := ordered.untouched rfl rfl rfl
  exact bumped.trans (bumped.ordered.updateRow rowId _)

theorem Ordered.writeRow {s t : ThreadRuntime} (ordered : Ordered s) {space : IdSpace} {itemId : String}
    {edit : TranscriptRecord → TranscriptRecord} {born : TranscriptRecord} {landed : String × Nat × Int}
    (wrote : s.writeRow space itemId edit born = some (t, landed)) : Advances s t := by
  unfold ThreadRuntime.writeRow at wrote
  split at wrote
  · rename_i index row _
    obtain ⟨rfl, -⟩ := Prod.mk.inj (Option.some.inj wrote)
    exact ordered.updateRow row.rowId edit
  · obtain ⟨⟨next, id, key⟩, birth, same⟩ := Option.map_eq_some_iff.mp wrote
    obtain ⟨rfl, -⟩ := Prod.mk.inj same
    exact ordered.birthRow birth

theorem Ordered.writeLive {s t : ThreadRuntime} (ordered : Ordered s) {space : IdSpace} {itemId : String}
    {edit : TranscriptRecord → TranscriptRecord} {born : TranscriptRecord} {revision : UInt64}
    {mutation : TranscriptMutationMeta} (wrote : s.writeLive space itemId edit born revision = some (t, mutation)) :
    Advances s t := by
  obtain ⟨⟨written, rowId, entrySeq, orderSeq⟩, write, result⟩ := Option.bind_eq_some_iff.mp wrote
  obtain ⟨rfl, -⟩ := Prod.mk.inj (Option.some.inj result)
  have first := ordered.writeRow write
  exact first.trans (first.ordered.stamped rowId revision)

theorem Ordered.reconcile {s : ThreadRuntime} (ordered : Ordered s) (providerItemId text turnId : String)
    (revision : UInt64) : Advances s (s.reconcileCodexUserReservation providerItemId text turnId revision).1 := by
  unfold ThreadRuntime.reconcileCodexUserReservation
  split
  · exact .refl ordered
  rename_i localId _
  have claimed : Advances s (s.claimReservation localId turnId) := ordered.untouched rfl rfl rfl
  have edited := claimed.ordered.updateTranscriptRow localId fun entry =>
    (ThreadRuntime.reconciledEntry text turnId entry, ())
  simp only
  split
  · rename_i transcript update
    rw [update] at edited
    exact claimed.trans edited
  · rename_i transcript update
    rw [update] at edited
    have bound := edited.ordered.bindName .provider localId providerItemId
    exact ((claimed.trans edited).trans bound).trans (bound.ordered.untouched rfl rfl rfl)

theorem Ordered.beginCodex {s t : ThreadRuntime} (ordered : Ordered s) {generation threadId text : String}
    {revision : UInt64} {answer : Except String String}
    (began : s.beginCodexUserTurn generation threadId text revision = some (t, answer)) : Advances s t := by
  unfold ThreadRuntime.beginCodexUserTurn at began
  split at began
  · obtain ⟨rfl, -⟩ := Prod.mk.inj (Option.some.inj began)
    exact .refl ordered
  split at began
  · obtain ⟨rfl, -⟩ := Prod.mk.inj (Option.some.inj began)
    exact .refl ordered
  obtain ⟨⟨written, mutation⟩, wrote, result⟩ := Option.bind_eq_some_iff.mp began
  obtain ⟨rfl, -⟩ := Prod.mk.inj (Option.some.inj result)
  have counted : Advances s
      { s with codexUserReservationSeq := saturatingAdd s.codexUserReservationSeq 1 } := ordered.untouched rfl rfl rfl
  have reserved := counted.ordered.writeLive wrote
  exact (counted.trans reserved).trans (reserved.ordered.untouched rfl rfl rfl)

theorem Ordered.bindCodex {s : ThreadRuntime} (ordered : Ordered s) (reservationId turnId : String)
    (revision : UInt64) : Advances s (s.bindCodexUserReservation reservationId turnId revision) := by
  unfold ThreadRuntime.bindCodexUserReservation
  split
  · exact .refl ordered
  rename_i reservation _
  split
  · exact .refl ordered
  have claimed : Advances s { s with codexStartReservation := some { reservation with turnId := some turnId } } :=
    ordered.untouched rfl rfl rfl
  have edited := claimed.ordered.updateRow reservationId fun entry => { entry with turnId := some turnId }
  exact (claimed.trans edited).trans (edited.ordered.untouched rfl rfl rfl)

theorem Ordered.failCodex {s : ThreadRuntime} (ordered : Ordered s) (reservationId : String) (revision : UInt64) :
    Advances s (s.failCodexUserTurnDefinitive reservationId revision) := by
  unfold ThreadRuntime.failCodexUserTurnDefinitive
  split
  · exact .refl ordered
  split
  · exact .refl ordered
  · obtain ⟨rows, consistent⟩ := ThreadTranscript.updateAll_consistent ordered.consistent (fun () entry =>
      (if ThreadRuntime.isWithdrawableReservationRow entry reservationId then { entry with withdrawn := true } else entry,
        ())) ()
    exact ordered.edited consistent rows rfl rfl

/-- Every operation keeps the order of the keys, and every row with its key. -/
theorem RuntimeCall.run_advances {s t : ThreadRuntime} (ordered : Ordered s) {c : RuntimeCall}
    (step : c.run s = some t) : Advances s t := by
  cases c with
  | upsert itemId space kind text status turnId tool revision =>
    obtain ⟨⟨next, mutation⟩, wrote, rfl⟩ := Option.map_eq_some_iff.mp step
    exact ordered.writeLive wrote
  | agentDelta space itemId delta turnId revision =>
    obtain ⟨⟨next, mutation⟩, appended, rfl⟩ := Option.map_eq_some_iff.mp step
    obtain ⟨⟨next', mutation'⟩, wrote, result⟩ := Option.bind_eq_some_iff.mp appended
    obtain ⟨rfl, -⟩ := Prod.mk.inj (Option.some.inj result)
    exact ordered.writeLive wrote
  | commandDelta itemId delta revision =>
    obtain ⟨⟨next, mutation⟩, appended, rfl⟩ := Option.map_eq_some_iff.mp step
    obtain ⟨⟨next', mutation'⟩, wrote, result⟩ := Option.bind_eq_some_iff.mp appended
    obtain ⟨rfl, -⟩ := Prod.mk.inj (Option.some.inj result)
    exact ordered.writeLive wrote
  | prependPage entries requestedCursor prevCursor =>
    obtain ⟨⟨next, views⟩, prepended, rfl⟩ := Option.map_eq_some_iff.mp step
    exact ordered.prependProviderHistory prepended
  | mergeHistory records readStartedAtRevision =>
    obtain ⟨⟨next, changed⟩, merged, rfl⟩ := Option.map_eq_some_iff.mp step
    exact ordered.mergeHistory merged
  | reconcile providerItemId text turnId revision =>
    obtain rfl := Option.some.inj step
    exact ordered.reconcile providerItemId text turnId revision
  | beginCodex generation threadId text revision =>
    obtain ⟨⟨next, answer⟩, began, rfl⟩ := Option.map_eq_some_iff.mp step
    exact ordered.beginCodex began
  | bindCodex reservationId turnId revision =>
    obtain rfl := Option.some.inj step
    exact ordered.bindCodex reservationId turnId revision
  | failCodex reservationId revision =>
    obtain rfl := Option.some.inj step
    exact ordered.failCodex reservationId revision
  | finishCodex turnId =>
    obtain rfl := Option.some.inj step
    unfold ThreadRuntime.finishCodexStartReservation
    split
    · exact ordered.untouched rfl rfl rfl
    · exact .refl ordered
  | setActiveTurn turnId =>
    obtain rfl := Option.some.inj step
    exact ordered.untouched rfl rfl rfl

theorem new_ordered (transcriptRevision : UInt64) : Ordered (ThreadRuntime.new transcriptRevision) where
  consistent := ThreadTranscript.new_consistent
  increasing := List.Pairwise.nil
  above := by simp [ThreadRuntime.new, ThreadTranscript.new]
  below := by simp [ThreadRuntime.new, ThreadTranscript.new]
  apart := by
    show -orderSeqStep < 0
    decide

theorem pushAll_orderSeqs {t u : ThreadTranscript} (ok : t.Consistent) {records : List TranscriptRecord}
    (pushed : t.pushAll records = some u) :
    u.rows.map (·.orderSeq) = t.rows.map (·.orderSeq) ++ records.map (·.orderSeq) := by
  induction records generalizing t with
  | nil =>
    obtain rfl := Option.some.inj pushed
    simp
  | cons record rest ih =>
    obtain ⟨middle, first, remaining⟩ := Option.bind_eq_some_iff.mp pushed
    obtain ⟨⟨u', id⟩, landed, rfl⟩ := Option.map_eq_some_iff.mp first
    have rows := ThreadTranscript.push_rows ok landed
    rw [ih (ThreadTranscript.push_consistent ok landed) remaining, rows]
    simp

theorem numberFrom_cons (base step : Int) (record : TranscriptRecord) (rest : List TranscriptRecord) :
    numberFrom base step (record :: rest) =
      { record with orderSeq := base } :: numberFrom (base + step) step rest := by
  unfold numberFrom
  rw [List.zipIdx_cons, List.map_cons, Nat.zero_add, List.zipIdx_succ, List.map_map]
  congr 1
  · simp
  · refine List.map_congr_left fun entry _ => ?_
    have shift : base + step * ((entry.2 + 1 : Nat) : Int) = base + step + step * (entry.2 : Int) := by grind
    simp only [Function.comp, shift]

/-- The renumbering of a whole read gives its records the keys `index * orderSeqStep`. -/
theorem renumbered_eq {records numbered : List TranscriptRecord} {start : Nat}
    (renumbered : ((records.zipIdx start).mapM fun entry : TranscriptRecord × Nat => do
      let orderSeq ← checkedInt (entry.2 * orderSeqStep)
      some { entry.1 with orderSeq := orderSeq }) = some numbered) :
    numbered = numberFrom (start * orderSeqStep) orderSeqStep records := by
  induction records generalizing start numbered with
  | nil =>
    obtain rfl := Option.some.inj renumbered
    rfl
  | cons record rest ih =>
    rw [List.zipIdx_cons, List.mapM_cons] at renumbered
    obtain ⟨head, first, others⟩ := Option.bind_eq_some_iff.mp renumbered
    obtain ⟨tail, remaining, result⟩ := Option.bind_eq_some_iff.mp others
    obtain rfl := Option.some.inj result
    obtain ⟨key, checked, keyed⟩ := Option.bind_eq_some_iff.mp first
    obtain rfl := Option.some.inj keyed
    obtain ⟨-, rfl⟩ := checkedInt_eq_some.mp checked
    have next : ((start + 1 : Nat) : Int) * orderSeqStep = start * orderSeqStep + orderSeqStep := by grind
    rw [ih remaining, next, numberFrom_cons]

theorem fromSyncData_eq {entries : List ProviderTranscriptEntry} {transcriptRevision : UInt64} {first : ThreadRuntime}
    (built : ThreadRuntime.fromSyncData entries transcriptRevision = some first) :
    ThreadTranscript.fromRows (numberFrom 0 orderSeqStep (readRecords entries)) = some first.transcript ∧
      first = { ThreadRuntime.new transcriptRevision with
        nextTailOrderSeq := (readRecords entries).length * orderSeqStep
        transcript := first.transcript } := by
  obtain ⟨numbered, renumbered, rest⟩ := Option.bind_eq_some_iff.mp built
  obtain ⟨tail, checked, rest'⟩ := Option.bind_eq_some_iff.mp rest
  obtain ⟨transcript, rows, result⟩ := Option.bind_eq_some_iff.mp rest'
  obtain rfl := Option.some.inj result
  obtain ⟨-, rfl⟩ := checkedInt_eq_some.mp checked
  have keyed := renumbered_eq renumbered
  rw [Int.ofNat_zero, Int.zero_mul] at keyed
  have length : numbered.length = (readRecords entries).length := by
    rw [keyed]
    simp [numberFrom]
  rw [← keyed, ← length]
  exact ⟨rows, rfl⟩

theorem fromSyncData_ordered {entries : List ProviderTranscriptEntry} {transcriptRevision : UInt64}
    {first : ThreadRuntime} (built : ThreadRuntime.fromSyncData entries transcriptRevision = some first) :
    Ordered first := by
  obtain ⟨rows, same⟩ := fromSyncData_eq built
  have positive : (0 : Int) < orderSeqStep := by decide
  have keys : first.transcript.rows.map (·.orderSeq) =
      (numberFrom 0 orderSeqStep (readRecords entries)).map (·.orderSeq) :=
    pushAll_orderSeqs ThreadTranscript.new_consistent rows
  have tail : first.nextTailOrderSeq = (readRecords entries).length * orderSeqStep := by rw [same]
  have head : first.nextHeadOrderSeq = -orderSeqStep := by rw [same]; rfl
  have numbered (row : TranscriptRecord) (member : row ∈ first.transcript.rows) :
      ∃ i : Nat, i < (readRecords entries).length ∧ row.orderSeq = orderSeqStep * (i : Int) := by
    obtain ⟨record, there, key⟩ := mem_of_same_keys keys member
    obtain ⟨i, bound, value⟩ := numberFrom_key there
    exact ⟨i, bound, by omega⟩
  refine ⟨pushAll_consistent ThreadTranscript.new_consistent rows, ?_, ?_, ?_, ?_⟩
  · rw [keys]
    exact numberFrom_increasing positive _
  · intro row member
    obtain ⟨i, bound, key⟩ := numbered row member
    unfold orderSeqStep at *
    omega
  · intro row member
    obtain ⟨i, -, key⟩ := numbered row member
    unfold orderSeqStep at *
    omega
  · unfold orderSeqStep at *
    omega

/-- The runtimes a relay starts a thread with: an empty one, or one built from a read. -/
inductive FreshRuntime : ThreadRuntime → Prop
  | new (transcriptRevision : UInt64) : FreshRuntime (ThreadRuntime.new transcriptRevision)
  | fromSyncData {entries : List ProviderTranscriptEntry} {transcriptRevision : UInt64} {first : ThreadRuntime}
      (built : ThreadRuntime.fromSyncData entries transcriptRevision = some first) : FreshRuntime first

theorem FreshRuntime.ordered {first : ThreadRuntime} (fresh : FreshRuntime first) : Ordered first := by
  cases fresh with
  | new transcriptRevision => exact new_ordered transcriptRevision
  | fromSyncData built => exact fromSyncData_ordered built

theorem RuntimeRun.advances {allowed : ThreadRuntime → RuntimeCall → Prop} {first last : ThreadRuntime}
    (ordered : Ordered first) (run : RuntimeRun allowed first last) : Advances first last :=
  run.induct (.refl ordered) fun _ _ _ so_far _ step => so_far.trans (RuntimeCall.run_advances so_far.ordered step)

/-- Keys that agree belong to one row. -/
theorem Ordered.same_row {s : ThreadRuntime} (ordered : Ordered s) {a b : TranscriptRecord}
    (left : a ∈ s.transcript.rows) (right : b ∈ s.transcript.rows) (same : a.orderSeq = b.orderSeq) : a = b := by
  obtain ⟨i, at_a⟩ := List.mem_iff_getElem?.mp left
  obtain ⟨j, at_b⟩ := List.mem_iff_getElem?.mp right
  rcases Nat.lt_trichotomy i j with before | rfl | after
  · exact absurd (ordered.lt_of_lt at_a at_b before) (by omega)
  · exact Option.some.inj (at_a.symm.trans at_b)
  · exact absurd (ordered.lt_of_lt at_b at_a after) (by omega)

/-- Order keys agree with row order for the life of a runtime: whatever was issued up to
`middle` still belongs to the same row in `last`, and lies between its cursors. -/
theorem order_keys_agree_with_row_order {first middle last : ThreadRuntime} (fresh : FreshRuntime first)
    (before : RuntimeRun (fun _ _ => True) first middle) (after : RuntimeRun (fun _ _ => True) middle last) :
    (last.transcript.rows.map (·.orderSeq)).Pairwise (· < ·) ∧
    ∀ row ∈ middle.transcript.rows,
      last.nextHeadOrderSeq < row.orderSeq ∧ row.orderSeq < last.nextTailOrderSeq ∧
      (∃ next ∈ last.transcript.rows, next.rowId = row.rowId ∧ next.orderSeq = row.orderSeq) ∧
      (∀ next ∈ last.transcript.rows, next.rowId = row.rowId ↔ next.orderSeq = row.orderSeq) := by
  have early := before.advances fresh.ordered
  have late := after.advances early.ordered
  refine ⟨late.ordered.increasing, ?_⟩
  intro row member
  obtain ⟨next, there, kept⟩ := late.keeps row member
  refine ⟨?_, ?_, ⟨next, there, kept.rowId, kept.orderSeq⟩, ?_⟩
  · rw [← kept.orderSeq]
    exact late.ordered.below next there
  · rw [← kept.orderSeq]
    exact late.ordered.above next there
  · intro other here
    constructor
    · intro same
      have one := late.ordered.consistent.same_row here there (same.trans kept.rowId.symm)
      rw [one, kept.orderSeq]
    · intro same
      have one := late.ordered.same_row here there (same.trans kept.orderSeq.symm)
      rw [one, kept.rowId]

/-- An older page lands before a live row, a read fills the gap between the two, and no key moves. -/
theorem page_and_read_keep_the_live_key :
    ∃ middle paged last : ThreadRuntime,
      RuntimeCall.run (ThreadRuntime.new 0)
        (.upsert "live" .provider .agentText (some "now") "completed" none none 1) = some middle ∧
      RuntimeCall.run middle (.prependPage [.providerNamed (plainEntry (some "old"))] none none) = some paged ∧
      RuntimeCall.run paged (.mergeHistory [plainRecord "old" (some "old") none, plainRecord "mid" (some "mid") none,
        plainRecord "live" (some "live") none] none) = some last ∧
      last.transcript.rows.map (·.rowId) = ["old", "mid", "live"] ∧
      last.transcript.rows.map (·.orderSeq) = [-1048576, -524288, 0] ∧
      (last.transcript.rows.map (·.orderSeq)).Pairwise (· < ·) := by
  obtain ⟨middle, live, paged, older, last, read, ids, keys⟩ : ∃ middle,
      RuntimeCall.run (ThreadRuntime.new 0)
        (.upsert "live" .provider .agentText (some "now") "completed" none none 1) = some middle ∧ ∃ paged,
      RuntimeCall.run middle (.prependPage [.providerNamed (plainEntry (some "old"))] none none) = some paged ∧ ∃ last,
      RuntimeCall.run paged (.mergeHistory [plainRecord "old" (some "old") none, plainRecord "mid" (some "mid") none,
        plainRecord "live" (some "live") none] none) = some last ∧
      last.transcript.rows.map (·.rowId) = ["old", "mid", "live"] ∧
      last.transcript.rows.map (·.orderSeq) = [-1048576, -524288, 0] := ⟨_, rfl, _, rfl, _, rfl, rfl, rfl⟩
  have before : RuntimeRun (fun _ _ => True) (ThreadRuntime.new 0) middle := .next .start trivial live
  have after : RuntimeRun (fun _ _ => True) middle last := .next (.next .start trivial older) trivial read
  exact ⟨middle, paged, last, live, older, read, ids, keys,
    (order_keys_agree_with_row_order (.new 0) before after).1⟩

end Sealwire.Transcript

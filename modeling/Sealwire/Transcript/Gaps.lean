import Sealwire.Lib.Spacing
import Sealwire.Transcript.Places

namespace Sealwire.Transcript

open ThreadTranscript (RowKept)

/-- The gap `insertRecordsBefore` puts records into, and how many; none where they go to an end. -/
def ThreadRuntime.splitBefore (runtime : ThreadRuntime) (index : Nat) (records : List TranscriptRecord) :
    Option KeySplit :=
  if index = runtime.transcript.rows.length then none
  else if index = 0 then none
  else do
    let prev ← runtime.transcript.rows[index - 1]?
    let next ← runtime.transcript.rows[index]?
    some { prev := prev.orderSeq, next := next.orderSeq, count := records.length }

/-- The assertion `gap > count` of `insertRecordsBefore`. -/
def GapHolds (split : KeySplit) : Prop :=
  (split.count : Int) < split.next - split.prev

instance (split : KeySplit) : Decidable (GapHolds split) :=
  inferInstanceAs (Decidable ((split.count : Int) < split.next - split.prev))

namespace ThreadRuntime

/-- The gap that `mergeRecord` flushes the held records into. -/
def flushSplit (merge : HistoryMerge) (record : TranscriptRecord) : Option KeySplit :=
  match merge.runtime.transcript.resolveIncoming record with
  | some rowId =>
    if merge.pending = [] then none
    else (merge.runtime.transcript.indexOfRow rowId).bind fun anchor =>
      merge.runtime.splitBefore anchor merge.pending
  | none => none

/-- The gaps a merge puts records into, up to the record at which it ends or aborts. -/
def mergeSplits (merge : HistoryMerge) : List TranscriptRecord → List KeySplit
  | [] => []
  | record :: rest =>
    (flushSplit merge record).toList ++
      match mergeRecord merge record with
      | some next => mergeSplits next rest
      | none => []

/-- The gap that the records still held at the end of a read go into. -/
def lastSplit (merge : HistoryMerge) (readStartedAtRevision : Option UInt64) (incomingIds : List String) :
    Option KeySplit :=
  if merge.pending = [] then none
  else merge.runtime.splitBefore (tailBoundary merge.runtime.transcript.rows readStartedAtRevision incomingIds
    merge.tailPendingFloor merge.runtime.transcript.rows.length) merge.pending

def historySplits (runtime : ThreadRuntime) (records : List TranscriptRecord)
    (readStartedAtRevision : Option UInt64) : List KeySplit :=
  let first : HistoryMerge := { runtime := runtime, changed := false, pending := [], tailPendingFloor := 0 }
  mergeSplits first records ++
    match records.foldlM mergeRecord first with
    | some merge =>
      (lastSplit merge readStartedAtRevision (records.filterMap runtime.transcript.resolveIncoming)).toList
    | none => []

end ThreadRuntime

/-- The gaps a call puts records into, in order; an aborting call's last is the one it aborts at. -/
def RuntimeCall.splits (runtime : ThreadRuntime) : RuntimeCall → List KeySplit
  | .mergeHistory records readStartedAtRevision => runtime.historySplits records readStartedAtRevision
  | _ => []

/-- A run of calls with the gaps it has put records into, the latest first. -/
inductive SplitRun (first : ThreadRuntime) : ThreadRuntime → List KeySplit → Prop
  | start : SplitRun first first []
  | next {s t : ThreadRuntime} {earlier : List KeySplit} (run : SplitRun first s earlier) {c : RuntimeCall}
      (step : c.run s = some t) : SplitRun first t ((c.splits s).reverse ++ earlier)

def ThreadRuntime.keys (runtime : ThreadRuntime) : List Int :=
  runtime.transcript.rows.map (·.orderSeq)

/-- Neighbouring keys have the room that the splits leave of a step, and both cursors a full one. -/
structure Roomy (splits : List KeySplit) (runtime : ThreadRuntime) : Prop where
  spread : Spread orderSeqStep.toNat splits runtime.keys
  tail : ∀ key ∈ runtime.keys, key + orderSeqStep ≤ runtime.nextTailOrderSeq
  head : ∀ key ∈ runtime.keys, runtime.nextHeadOrderSeq + orderSeqStep ≤ key
  apart : runtime.nextHeadOrderSeq + orderSeqStep ≤ runtime.nextTailOrderSeq

theorem room_le_step (splits : List KeySplit) (low high : Int) :
    (roomOf orderSeqStep.toNat splits low high : Int) ≤ orderSeqStep :=
  Int.ofNat_le.mpr (roomOf_le_total orderSeqStep.toNat splits low high)

section Roomy

variable {splits : List KeySplit} {s t : ThreadRuntime}

theorem Roomy.same (roomy : Roomy splits s) (keys : t.keys = s.keys)
    (tail : t.nextTailOrderSeq = s.nextTailOrderSeq) (head : t.nextHeadOrderSeq = s.nextHeadOrderSeq) :
    Roomy splits t := by
  constructor
  · rw [keys]
    exact roomy.spread
  · rw [keys, tail]
    exact roomy.tail
  · rw [keys, head]
    exact roomy.head
  · rw [head, tail]
    exact roomy.apart

theorem Roomy.birthRow (roomy : Roomy splits s) (ordered : Ordered s) {record : TranscriptRecord} {rowId : String}
    {orderSeq : Int} (born : s.birthRow record = some (t, rowId, orderSeq)) : Roomy splits t := by
  obtain ⟨-, pushed, same⟩ := birthRow_eq born
  have rows := ThreadTranscript.push_rows ordered.consistent pushed
  have step : (0 : Int) < orderSeqStep := by decide
  have tail : t.nextTailOrderSeq = s.nextTailOrderSeq + orderSeqStep := by rw [same]
  have head : t.nextHeadOrderSeq = s.nextHeadOrderSeq := by rw [same]
  have keys : t.keys = s.keys ++ [s.nextTailOrderSeq] := by
    simp only [ThreadRuntime.keys, rows, List.map_append, List.map_cons, List.map_nil]
  constructor
  · rw [keys]
    refine List.isChain_append.mpr ⟨roomy.spread, List.isChain_singleton _, ?_⟩
    intro low last high first
    obtain rfl : s.nextTailOrderSeq = high := by simpa using first
    have bound := roomy.tail low (List.mem_of_getLast? last)
    have room := room_le_step splits low s.nextTailOrderSeq
    omega
  · intro key member
    rw [tail]
    rw [keys, List.mem_append, List.mem_singleton] at member
    rcases member with old | rfl
    · have bound := roomy.tail key old
      omega
    · exact Int.le_refl _
  · intro key member
    rw [head]
    rw [keys, List.mem_append, List.mem_singleton] at member
    rcases member with old | rfl
    · exact roomy.head key old
    · exact roomy.apart
  · have bound := roomy.apart
    rw [head, tail]
    omega

theorem Roomy.rule (splits : List KeySplit) : LiveRule fun s t => Roomy splits s → Roomy splits t where
  trans first second roomy := second (first roomy)
  edited rows tail head _ roomy := roomy.same (ThreadTranscript.forall₂_orderSeqs rows) tail head
  birth ordered born roomy := roomy.birthRow ordered born

theorem Roomy.appendRecords (roomy : Roomy splits s) (ordered : Ordered s) {records : List TranscriptRecord}
    (appended : s.appendRecords records = some t) : Roomy splits t := by
  induction records generalizing s with
  | nil =>
    obtain rfl := Option.some.inj appended
    exact roomy
  | cons record rest ih =>
    obtain ⟨middle, first, remaining⟩ := Option.bind_eq_some_iff.mp appended
    obtain ⟨⟨r, rowId, orderSeq⟩, born, rfl⟩ := Option.map_eq_some_iff.mp first
    exact ih (roomy.birthRow ordered born) (ordered.birthRow born).ordered remaining

theorem allocHeadOrderSeqBlock_values {count : Nat} {base : Int}
    (alloc : s.allocHeadOrderSeqBlock count = some (t, base)) :
    t.transcript = s.transcript ∧ t.nextTailOrderSeq = s.nextTailOrderSeq ∧
      (count = 0 ∧ t.nextHeadOrderSeq = s.nextHeadOrderSeq ∨
        0 < count ∧ base = s.nextHeadOrderSeq - ((count : Int) - 1) * orderSeqStep ∧
          t.nextHeadOrderSeq = base - orderSeqStep) := by
  unfold ThreadRuntime.allocHeadOrderSeqBlock at alloc
  split at alloc
  · rename_i none_given
    obtain ⟨rfl, rfl⟩ := Prod.mk.inj (Option.some.inj alloc)
    exact ⟨rfl, rfl, .inl ⟨none_given, rfl⟩⟩
  · rename_i some_given
    obtain ⟨span, spans, rest⟩ := Option.bind_eq_some_iff.mp alloc
    obtain ⟨low, lows, rest'⟩ := Option.bind_eq_some_iff.mp rest
    obtain ⟨next, nexts, result⟩ := Option.bind_eq_some_iff.mp rest'
    obtain ⟨-, rfl⟩ := checkedInt_eq_some.mp spans
    obtain ⟨-, rfl⟩ := checkedInt_eq_some.mp lows
    obtain ⟨-, rfl⟩ := checkedInt_eq_some.mp nexts
    obtain ⟨rfl, rfl⟩ := Prod.mk.inj (Option.some.inj result)
    exact ⟨rfl, rfl, .inr ⟨by omega, rfl, rfl⟩⟩

theorem numberFrom_evenKeys (base step : Int) (records : List TranscriptRecord) :
    (numberFrom base step records).map (·.orderSeq) = evenKeys base step records.length :=
  numberFrom_keys base step records

/-- The keys of the rows after a block was put in at `index`. -/
theorem insertBefore_keys (ordered : Ordered s) {index : Nat} {base step : Int} {records : List TranscriptRecord}
    {ids : List String} (inserted : s.transcript.insertBefore index (numberFrom base step records) =
      some (t.transcript, ids)) :
    t.keys = s.keys.take index ++ evenKeys base step records.length ++ s.keys.drop index := by
  obtain ⟨-, placed, renamed, -, rows⟩ := ThreadTranscript.insertBefore_placed ordered.consistent inserted
  rw [← numberFrom_evenKeys, ← renamed_orderSeqs renamed]
  simp only [ThreadRuntime.keys, rows, List.map_append, List.map_take, List.map_drop]

theorem Roomy.prependBlock {u : ThreadRuntime} (roomy : Roomy splits s) (ordered : Ordered s)
    {block : List TranscriptRecord} {base : Int} {ids : List String}
    (alloc : s.allocHeadOrderSeqBlock block.length = some (t, base))
    (inserted : t.transcript.insertBefore 0 (numberFrom base orderSeqStep block) = some (u.transcript, ids))
    (tail : u.nextTailOrderSeq = t.nextTailOrderSeq) (head : u.nextHeadOrderSeq = t.nextHeadOrderSeq) :
    Roomy splits u := by
  obtain ⟨same, tail', values⟩ := allocHeadOrderSeqBlock_values alloc
  rw [same] at inserted
  have keys := insertBefore_keys ordered inserted
  rw [List.take_zero, List.nil_append, List.drop_zero] at keys
  rcases values with ⟨empty, head'⟩ | ⟨some_given, rfl, head'⟩
  · rw [empty] at keys
    exact roomy.same keys (tail.trans tail') (head.trans head')
  have step : (0 : Int) < orderSeqStep := by decide
  have back : 0 ≤ ((block.length : Int) - 1) * orderSeqStep := Int.mul_nonneg (by omega) (by decide)
  have bounds (key : Int) (member : key ∈ evenKeys
      (s.nextHeadOrderSeq - ((block.length : Int) - 1) * orderSeqStep) orderSeqStep block.length) :
      s.nextHeadOrderSeq - ((block.length : Int) - 1) * orderSeqStep ≤ key ∧ key ≤ s.nextHeadOrderSeq := by
    obtain ⟨i, within, rfl⟩ := List.mem_map.mp member
    have place := List.mem_range.mp within
    unfold orderSeqStep
    omega
  have apart := roomy.apart
  constructor
  · rw [keys]
    refine List.isChain_append.mpr ⟨spread_evenKeys fun i _ => room_le_step splits _ _, roomy.spread, ?_⟩
    intro low last high first
    have room := room_le_step splits low high
    have left := (bounds low (List.mem_of_getLast? last)).2
    have right := roomy.head high (List.mem_of_head? first)
    omega
  · intro key member
    rw [tail, tail']
    rw [keys, List.mem_append] at member
    rcases member with new | old
    · have bound := (bounds key new).2
      omega
    · exact roomy.tail key old
  · intro key member
    rw [head, head']
    rw [keys, List.mem_append] at member
    rcases member with new | old
    · have bound := (bounds key new).1
      omega
    · have bound := roomy.head key old
      omega
  · rw [tail, tail', head, head']
    omega

theorem splitBefore_eq {index : Nat} {records : List TranscriptRecord} {split : KeySplit}
    (cut : s.splitBefore index records = some split) :
    split.prev ∈ (s.keys.take index).getLast? ∧ split.next ∈ (s.keys.drop index).head? ∧
      split.count = records.length := by
  unfold ThreadRuntime.splitBefore at cut
  split at cut
  · cases cut
  split at cut
  · cases cut
  rename_i inner
  obtain ⟨prev, at_prev, rest⟩ := Option.bind_eq_some_iff.mp cut
  obtain ⟨next, at_next, result⟩ := Option.bind_eq_some_iff.mp rest
  obtain rfl := Option.some.inj result
  have within := (List.getElem?_eq_some_iff.mp at_next).1
  refine ⟨?_, ?_, rfl⟩
  · have last : (s.transcript.rows.take index).getLast? = some prev := by
      rw [List.getLast?_take, if_neg inner, at_prev]
      rfl
    rw [ThreadRuntime.keys, ← List.map_take, List.getLast?_map, last]
    rfl
  · rw [ThreadRuntime.keys, ← List.map_drop, List.head?_map, List.head?_drop, at_next]
    rfl

/-- A gap whose splits multiply to no more than a step has the space the next insertion asserts. -/
theorem Roomy.gapHolds (roomy : Roomy splits s) {index : Nat} {records : List TranscriptRecord} {split : KeySplit}
    (cut : s.splitBefore index records = some split)
    (light : partsOf splits split.prev split.next * (split.count + 1) ≤ orderSeqStep.toNat) : GapHolds split := by
  obtain ⟨last, first, -⟩ := splitBefore_eq cut
  have spread := roomy.spread
  rw [← List.take_append_drop index s.keys] at spread
  have room := (List.isChain_append.mp spread).2.2 _ last _ first
  exact fits_of_room room light

/-- Whatever an insertion does, neighbours keep the room its own split leaves them. -/
theorem Roomy.insertRecordsBefore (roomy : Roomy splits s) (ordered : Ordered s) {index : Nat}
    {records : List TranscriptRecord} (inserted : s.insertRecordsBefore index records = some t) :
    Roomy ((s.splitBefore index records).toList ++ splits) t := by
  unfold ThreadRuntime.insertRecordsBefore at inserted
  split at inserted
  · rename_i at_tail
    rw [ThreadRuntime.splitBefore, if_pos at_tail]
    exact roomy.appendRecords ordered inserted
  split at inserted
  · rename_i inner at_head
    obtain ⟨⟨r, base⟩, alloc, rest⟩ := Option.bind_eq_some_iff.mp inserted
    obtain ⟨⟨transcript, ids⟩, placed, result⟩ := Option.bind_eq_some_iff.mp rest
    obtain rfl := Option.some.inj result
    rw [ThreadRuntime.splitBefore, if_neg inner, if_pos at_head]
    subst at_head
    exact roomy.prependBlock ordered alloc placed rfl rfl
  · rename_i inner apart
    obtain ⟨prev, at_prev, rest⟩ := Option.bind_eq_some_iff.mp inserted
    obtain ⟨next, at_next, rest'⟩ := Option.bind_eq_some_iff.mp rest
    obtain ⟨gap, gaps, rest''⟩ := Option.bind_eq_some_iff.mp rest'
    obtain ⟨-, rfl⟩ := checkedInt_eq_some.mp gaps
    have cut : s.splitBefore index records = some ⟨prev.orderSeq, next.orderSeq, records.length⟩ := by
      simp only [ThreadRuntime.splitBefore, if_neg inner, if_neg apart, at_prev, at_next, Option.bind_eq_bind,
        Option.bind_some]
    obtain ⟨last, first, -⟩ := splitBefore_eq cut
    simp only at rest''
    split at rest''
    · rename_i wide
      obtain ⟨⟨transcript, ids⟩, placed, result⟩ := Option.bind_eq_some_iff.mp rest''
      obtain rfl := Option.some.inj result
      have before := ordered.lt_of_lt at_prev at_next (by omega)
      have keys := insertBefore_keys (t := { s with transcript := transcript }) ordered placed
      have inside (key : Int) (member : key ∈ evenKeys
          (prev.orderSeq + (next.orderSeq - prev.orderSeq) / ((records.length : Int) + 1))
          ((next.orderSeq - prev.orderSeq) / ((records.length : Int) + 1)) records.length) :
          prev.orderSeq ≤ key ∧ key ≤ next.orderSeq := by
        obtain ⟨i, within, rfl⟩ := List.mem_map.mp member
        have place := List.mem_range.mp within
        obtain ⟨-, low, high⟩ := spaced_inside wide (i := i) (by omega) (by omega)
        omega
      have prev_key : prev.orderSeq ∈ s.keys := List.mem_map_of_mem (List.mem_of_getElem? at_prev)
      have next_key : next.orderSeq ∈ s.keys := List.mem_map_of_mem (List.mem_of_getElem? at_next)
      have origin (key : Int) (member : key ∈ ThreadRuntime.keys { s with transcript := transcript }) :
          key ∈ s.keys ∨ prev.orderSeq ≤ key ∧ key ≤ next.orderSeq := by
        rw [keys, List.mem_append, List.mem_append] at member
        rcases member with (old | new) | old
        · exact .inl (List.mem_of_mem_take old)
        · exact .inr (inside key new)
        · exact .inl (List.mem_of_mem_drop old)
      rw [cut]
      constructor
      · have spread := roomy.spread
        rw [← List.take_append_drop index s.keys] at spread
        rw [keys]
        exact spread.split last first (Int.le_of_lt before)
      · intro key member
        rcases origin key member with old | ⟨-, high⟩
        · exact roomy.tail key old
        · have bound := roomy.tail _ next_key
          change key + orderSeqStep ≤ s.nextTailOrderSeq
          omega
      · intro key member
        rcases origin key member with old | ⟨low, -⟩
        · exact roomy.head key old
        · have bound := roomy.head _ prev_key
          change s.nextHeadOrderSeq + orderSeqStep ≤ key
          omega
      · exact roomy.apart
    · cases rest''

theorem Roomy.mergeRecord {m n : ThreadRuntime.HistoryMerge} (roomy : Roomy splits m.runtime)
    (ordered : Ordered m.runtime) {record : TranscriptRecord} (merged : ThreadRuntime.mergeRecord m record = some n) :
    Roomy ((ThreadRuntime.flushSplit m record).toList ++ splits) n.runtime := by
  unfold ThreadRuntime.mergeRecord at merged
  unfold ThreadRuntime.flushSplit
  cases known : m.runtime.transcript.resolveIncoming record with
  | some rowId =>
    simp only [known] at merged ⊢
    obtain ⟨flushed, flush, rest⟩ := Option.bind_eq_some_iff.mp merged
    obtain ⟨index, _, result⟩ := Option.bind_eq_some_iff.mp rest
    obtain rfl := Option.some.inj result
    have advanced := ordered.flushBefore flush
    have first : Roomy ((if m.pending = [] then none
        else (m.runtime.transcript.indexOfRow rowId).bind fun anchor =>
          m.runtime.splitBefore anchor m.pending).toList ++ splits) flushed.runtime := by
      unfold ThreadRuntime.flushBefore at flush
      split at flush
      · rename_i empty
        obtain rfl := Option.some.inj flush
        rw [if_pos empty]
        exact roomy
      · rename_i held
        obtain ⟨anchor, found, rest⟩ := Option.bind_eq_some_iff.mp flush
        obtain ⟨runtime, inserted, result⟩ := Option.bind_eq_some_iff.mp rest
        obtain rfl := Option.some.inj result
        rw [if_neg held, found]
        exact roomy.insertRecordsBefore ordered inserted
    have second := (Roomy.rule _).update advanced.ordered rowId (fun existing => mergeRuntimeEntry existing record) first
    have still := advanced.ordered.updateTranscriptRow rowId fun existing => mergeRuntimeEntry existing record
    simp only
    cases record.providerItemId with
    | none => exact second
    | some providerItemId => exact (Roomy.rule _).binding still.ordered .provider rowId providerItemId second
  | none =>
    simp only [known] at merged ⊢
    split at merged
    · obtain rfl := Option.some.inj merged
      exact roomy
    · obtain rfl := Option.some.inj merged
      exact roomy

theorem Roomy.mergeRecords {m n : ThreadRuntime.HistoryMerge} (roomy : Roomy splits m.runtime)
    (ordered : Ordered m.runtime) {records : List TranscriptRecord}
    (merged : records.foldlM ThreadRuntime.mergeRecord m = some n) :
    Roomy ((ThreadRuntime.mergeSplits m records).reverse ++ splits) n.runtime := by
  induction records generalizing m splits with
  | nil =>
    obtain rfl := Option.some.inj merged
    exact roomy
  | cons record rest ih =>
    obtain ⟨middle, first, remaining⟩ := Option.bind_eq_some_iff.mp merged
    have step := ih (roomy.mergeRecord ordered first) (ordered.mergeRecord first).ordered remaining
    have single : (ThreadRuntime.flushSplit m record).toList.reverse = (ThreadRuntime.flushSplit m record).toList := by
      cases ThreadRuntime.flushSplit m record <;> rfl
    rw [ThreadRuntime.mergeSplits, first, List.reverse_append, single, List.append_assoc]
    exact step

theorem Roomy.mergeHistory (roomy : Roomy splits s) (ordered : Ordered s) {records : List TranscriptRecord}
    {readStartedAtRevision : Option UInt64} {changed : Bool}
    (merged : s.mergeTranscriptRecordsAfterReadStart records readStartedAtRevision = some (t, changed)) :
    Roomy ((s.historySplits records readStartedAtRevision).reverse ++ splits) t := by
  unfold ThreadRuntime.mergeTranscriptRecordsAfterReadStart at merged
  obtain ⟨merge, run, rest⟩ := Option.bind_eq_some_iff.mp merged
  have first := Roomy.mergeRecords
    (m := { runtime := s, changed := false, pending := [], tailPendingFloor := 0 }) roomy ordered run
  have advanced := Ordered.mergeRecords
    (m := { runtime := s, changed := false, pending := [], tailPendingFloor := 0 }) ordered run
  unfold ThreadRuntime.historySplits
  simp only [run, ThreadRuntime.lastSplit]
  rw [List.reverse_append, List.append_assoc]
  split at rest
  · rename_i empty
    obtain ⟨rfl, -⟩ := Prod.mk.inj (Option.some.inj rest)
    rw [if_pos empty]
    exact first
  · rename_i held
    obtain ⟨runtime, inserted, result⟩ := Option.bind_eq_some_iff.mp rest
    obtain ⟨rfl, -⟩ := Prod.mk.inj (Option.some.inj result)
    rw [if_neg held]
    have last := first.insertRecordsBefore advanced.ordered inserted
    cases cut : merge.runtime.splitBefore _ merge.pending with
    | none =>
      rw [cut] at last
      exact last
    | some split =>
      rw [cut] at last
      exact last

theorem Roomy.prependProviderHistory (roomy : Roomy splits s) (ordered : Ordered s)
    {entries : List ProviderTranscriptEntry} {requestedCursor prevCursor : Option Nat}
    {views : List TranscriptEntryView}
    (prepended : s.prependProviderHistory entries requestedCursor prevCursor = some (t, views)) : Roomy splits t := by
  obtain ⟨r, base, minted, alloc, inserted, same⟩ := prependProviderHistory_eq prepended
  have absorbed := ordered.absorb (ThreadRuntime.landPage s.transcript (pageRecords entries requestedCursor) 0).2.1
  have places := ordered.absorb_places (ThreadRuntime.landPage s.transcript (pageRecords entries requestedCursor) 0).2.1
  have keys : ThreadRuntime.keys { s with transcript := (ThreadRuntime.landPage s.transcript
      (pageRecords entries requestedCursor) 0).2.1.foldl ThreadRuntime.absorbRecord s.transcript } = s.keys := by
    have second := congrArg (List.map Prod.snd) places
    rw [ThreadRuntime.places, List.map_map, List.map_map] at second
    exact second
  exact (roomy.same keys rfl rfl).prependBlock absorbed.ordered alloc inserted (by rw [same]) (by rw [same])

/-- Every call leaves neighbours the room its splits leave them. -/
theorem Roomy.run (roomy : Roomy splits s) (ordered : Ordered s) {c : RuntimeCall} (step : c.run s = some t) :
    Roomy ((c.splits s).reverse ++ splits) t := by
  by_cases live : c.isLive = true
  · have kept := (Roomy.rule splits).run ordered live step roomy
    cases c with
    | mergeHistory records readStartedAtRevision => cases live
    | _ => exact kept
  cases c with
  | prependPage entries requestedCursor prevCursor =>
    obtain ⟨⟨next, views⟩, prepended, rfl⟩ := Option.map_eq_some_iff.mp step
    exact roomy.prependProviderHistory ordered prepended
  | mergeHistory records readStartedAtRevision =>
    obtain ⟨⟨next, changed⟩, merged, rfl⟩ := Option.map_eq_some_iff.mp step
    exact roomy.mergeHistory ordered merged
  | _ => exact absurd rfl live

/-- A merge meets each of its gaps with the room that the earlier ones left. -/
theorem Roomy.mergeSplits_hold {m : ThreadRuntime.HistoryMerge} (roomy : Roomy splits m.runtime)
    (ordered : Ordered m.runtime) {records : List TranscriptRecord} {before after : List KeySplit} {split : KeySplit}
    (order : ThreadRuntime.mergeSplits m records = before ++ split :: after)
    (light : partsOf (before.reverse ++ splits) split.prev split.next * (split.count + 1) ≤ orderSeqStep.toNat) :
    GapHolds split := by
  induction records generalizing m splits before with
  | nil => simp [ThreadRuntime.mergeSplits] at order
  | cons record rest ih =>
    rw [ThreadRuntime.mergeSplits] at order
    cases cut : ThreadRuntime.flushSplit m record with
    | none =>
      rw [cut, Option.toList_none, List.nil_append] at order
      split at order
      · rename_i next merged
        have kept := roomy.mergeRecord ordered merged
        rw [cut] at kept
        exact ih kept (ordered.mergeRecord merged).ordered order light
      · simp at order
    | some first =>
      rw [cut, Option.toList_some, List.singleton_append] at order
      cases before with
      | nil =>
        obtain ⟨rfl, -⟩ := List.cons.inj order
        unfold ThreadRuntime.flushSplit at cut
        split at cut
        · split at cut
          · cases cut
          · obtain ⟨anchor, _, there⟩ := Option.bind_eq_some_iff.mp cut
            exact roomy.gapHolds there light
        · cases cut
      | cons earlier others =>
        obtain ⟨rfl, later⟩ := List.cons.inj order
        split at later
        · rename_i next merged
          have kept := roomy.mergeRecord ordered merged
          rw [cut] at kept
          refine ih kept (ordered.mergeRecord merged).ordered later ?_
          rw [List.reverse_cons, List.append_assoc] at light
          exact light
        · simp at later

theorem Roomy.historySplits_hold (roomy : Roomy splits s) (ordered : Ordered s) {records : List TranscriptRecord}
    {readStartedAtRevision : Option UInt64} {before after : List KeySplit} {split : KeySplit}
    (order : s.historySplits records readStartedAtRevision = before ++ split :: after)
    (light : partsOf (before.reverse ++ splits) split.prev split.next * (split.count + 1) ≤ orderSeqStep.toNat) :
    GapHolds split := by
  unfold ThreadRuntime.historySplits at order
  simp only at order
  -- Either the gap is one of the merge's own, or the one the records still held at its end go into.
  have at_end (others : List KeySplit) (all : before = ThreadRuntime.mergeSplits
        { runtime := s, changed := false, pending := [], tailPendingFloor := 0 } records)
      (final : (match records.foldlM ThreadRuntime.mergeRecord
          { runtime := s, changed := false, pending := [], tailPendingFloor := 0 } with
        | some merge => (ThreadRuntime.lastSplit merge readStartedAtRevision
            (records.filterMap s.transcript.resolveIncoming)).toList
        | none => []) = split :: others) : GapHolds split := by
    split at final
    · rename_i merge run
      have kept := Roomy.mergeRecords
        (m := { runtime := s, changed := false, pending := [], tailPendingFloor := 0 }) roomy ordered run
      rw [← all] at kept
      have cut : ThreadRuntime.lastSplit merge readStartedAtRevision
          (records.filterMap s.transcript.resolveIncoming) = some split := by
        have member : split ∈ (ThreadRuntime.lastSplit merge readStartedAtRevision
            (records.filterMap s.transcript.resolveIncoming)).toList := by
          rw [final]
          exact List.mem_cons_self
        exact Option.mem_toList.mp member
      unfold ThreadRuntime.lastSplit at cut
      split at cut
      · cases cut
      · exact kept.gapHolds cut light
    · cases final
  rcases List.append_eq_append_iff.mp order with ⟨more, earlier, final⟩ | ⟨more, earlier, final⟩
  · have none_more : more = [] := by
      split at final
      · cases cut : ThreadRuntime.lastSplit _ readStartedAtRevision _ with
        | none =>
          rw [cut] at final
          simp at final
        | some last =>
          rw [cut] at final
          cases more with
          | nil => rfl
          | cons one others => simp at final
      · simp at final
    subst none_more
    rw [List.append_nil] at earlier
    exact at_end after earlier final
  · cases more with
    | nil =>
      rw [List.append_nil] at earlier
      exact at_end after earlier.symm final.symm
    | cons one others =>
      obtain ⟨rfl, -⟩ := List.cons.inj final
      exact Roomy.mergeSplits_hold
        (m := { runtime := s, changed := false, pending := [], tailPendingFloor := 0 }) roomy ordered earlier light

theorem FreshRuntime.roomy {first : ThreadRuntime} (fresh : FreshRuntime first) : Roomy [] first := by
  have step : (0 : Int) < orderSeqStep := by decide
  cases fresh with
  | new transcriptRevision =>
    refine ⟨List.isChain_nil, ?_, ?_, ?_⟩
    · intro key member
      cases member
    · intro key member
      cases member
    · show -orderSeqStep + orderSeqStep ≤ 0
      decide
  | @fromSyncData entries transcriptRevision first built =>
    obtain ⟨rows, same⟩ := fromSyncData_eq built
    have tail : first.nextTailOrderSeq = (readRecords entries).length * orderSeqStep := by rw [same]
    have head : first.nextHeadOrderSeq = -orderSeqStep := by rw [same]; rfl
    have keys : first.keys = evenKeys 0 orderSeqStep (readRecords entries).length :=
      (pushAll_orderSeqs ThreadTranscript.new_consistent rows).trans (numberFrom_evenKeys 0 orderSeqStep _)
    have bounds (key : Int) (member : key ∈ first.keys) :
        0 ≤ key ∧ key + orderSeqStep ≤ (readRecords entries).length * orderSeqStep := by
      rw [keys] at member
      obtain ⟨i, within, rfl⟩ := List.mem_map.mp member
      have place := List.mem_range.mp within
      unfold orderSeqStep
      omega
    constructor
    · rw [keys]
      exact spread_evenKeys fun i _ => room_le_step [] _ _
    · intro key member
      rw [tail]
      exact (bounds key member).2
    · intro key member
      have bound := (bounds key member).1
      omega
    · have count : 0 ≤ ((readRecords entries).length : Int) * orderSeqStep := Int.mul_nonneg (by omega) (by decide)
      omega

/-- In a run every two neighbours keep the room that the gaps the run has filled leave them. -/
theorem SplitRun.roomy {first last : ThreadRuntime} {splits : List KeySplit} (fresh : FreshRuntime first)
    (run : SplitRun first last splits) : Ordered last ∧ Roomy splits last := by
  induction run with
  | start => exact ⟨fresh.ordered, fresh.roomy⟩
  | next _ step ih => exact ⟨(RuntimeCall.run_advances ih.1 step).ordered, ih.2.run ih.1 step⟩

end Roomy

/-- A read meets no exhausted gap while the gap's spacing is not spent: the product of
`count + 1` over the insertion and the earlier ones whose gap held this one is within one step. -/
theorem gaps_hold_until_spent {first last : ThreadRuntime} {splits : List KeySplit} (fresh : FreshRuntime first)
    (run : SplitRun first last splits) (c : RuntimeCall) {before after : List KeySplit} {split : KeySplit}
    (order : c.splits last = before ++ split :: after)
    (light : partsOf (before.reverse ++ splits) split.prev split.next * (split.count + 1) ≤ orderSeqStep.toNat) :
    GapHolds split := by
  obtain ⟨ordered, roomy⟩ := run.roomy fresh
  cases c with
  | mergeHistory records readStartedAtRevision => exact roomy.historySplits_hold ordered order light
  | _ => simp [RuntimeCall.splits] at order

theorem SplitRun.calls {first s last : ThreadRuntime} {splits : List KeySplit} (run : SplitRun first s splits)
    {calls : List RuntimeCall} (ran : calls.foldlM RuntimeCall.run s = some last) :
    ∃ splits, SplitRun first last splits := by
  induction calls generalizing s splits with
  | nil =>
    obtain rfl := Option.some.inj ran
    exact ⟨splits, run⟩
  | cons c rest ih =>
    obtain ⟨middle, step, remaining⟩ := Option.bind_eq_some_iff.mp ran
    exact ih (run.next step) remaining

/-- A read of the row `last` with one new row before it. -/
def crowdingRead (i : Nat) : RuntimeCall :=
  let name := String.ofList (List.replicate (i + 1) 'n')
  .mergeHistory [plainRecord name (some name) none, plainRecord "last" (some "last") none] none

def firstRead : RuntimeCall :=
  .mergeHistory [plainRecord "first" (some "first") none, plainRecord "last" (some "last") none] none

set_option maxRecDepth 10000 in
/-- Twenty insertions before one row halve its gap to nothing: with 22 rows the next read aborts. -/
theorem one_anchor_spends_its_gap :
    ∃ last splits split, FreshRuntime (ThreadRuntime.new 0) ∧ SplitRun (ThreadRuntime.new 0) last splits ∧
      last.transcript.rows.length = 22 ∧ split ∈ (crowdingRead 20).splits last ∧ ¬GapHolds split ∧
      (crowdingRead 20).run last = none := by
  have reads : ((firstRead :: (List.range 20).map crowdingRead).foldlM RuntimeCall.run (ThreadRuntime.new 0)).map
      (fun last => (last.transcript.rows.length, (crowdingRead 20).splits last, ((crowdingRead 20).run last).isNone)) =
        some (22, [{ prev := 1048575, next := 1048576, count := 1 }], true) := by rfl
  obtain ⟨last, ran, values⟩ := Option.map_eq_some_iff.mp reads
  obtain ⟨rows, more⟩ := Prod.mk.inj values
  obtain ⟨splits, aborts⟩ := Prod.mk.inj more
  obtain ⟨earlier, run⟩ := SplitRun.calls .start ran
  refine ⟨last, earlier, { prev := 1048575, next := 1048576, count := 1 }, .new 0, run, rows, ?_, by decide,
    Option.isNone_iff_eq_none.mp aborts⟩
  rw [splits]
  exact List.mem_singleton_self _

/-- The first row read before an anchor has the whole step to be put into. -/
theorem first_insertion_fits :
    ∃ last split, SplitRun (ThreadRuntime.new 0) last [] ∧ (crowdingRead 0).splits last = [split] ∧ GapHolds split := by
  obtain ⟨last, step, none_yet, splits⟩ : ∃ last, firstRead.run (ThreadRuntime.new 0) = some last ∧
      firstRead.splits (ThreadRuntime.new 0) = [] ∧
      (crowdingRead 0).splits last = [{ prev := 0, next := 1048576, count := 1 }] := ⟨_, rfl, rfl, rfl⟩
  have run : SplitRun (ThreadRuntime.new 0) last ((firstRead.splits (ThreadRuntime.new 0)).reverse ++ []) :=
    .next .start step
  rw [none_yet] at run
  exact ⟨last, _, run, splits,
    @gaps_hold_until_spent _ _ _ (.new 0) run (crowdingRead 0) [] [] _ splits (by decide)⟩

end Sealwire.Transcript

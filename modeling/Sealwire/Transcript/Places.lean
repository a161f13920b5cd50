import Sealwire.Transcript.Walk

namespace Sealwire.Transcript

open ThreadTranscript (RowKept)

/-- A row's name and its key. -/
def TranscriptRecord.place (row : TranscriptRecord) : String × Int :=
  (row.rowId, row.orderSeq)

def ThreadRuntime.places (runtime : ThreadRuntime) : List (String × Int) :=
  runtime.transcript.rows.map TranscriptRecord.place

/-- Both cursors fit the code's `i64`. -/
structure Worded (runtime : ThreadRuntime) : Prop where
  head : -2 ^ 63 ≤ runtime.nextHeadOrderSeq
  tail : runtime.nextTailOrderSeq < 2 ^ 63

theorem Worded.same {s t : ThreadRuntime} (worded : Worded s) (head : t.nextHeadOrderSeq = s.nextHeadOrderSeq)
    (tail : t.nextTailOrderSeq = s.nextTailOrderSeq) : Worded t :=
  ⟨head ▸ worded.head, tail ▸ worded.tail⟩

theorem Worded.birthRow {s t : ThreadRuntime} (worded : Worded s) {record : TranscriptRecord} {rowId : String}
    {orderSeq : Int} (born : s.birthRow record = some (t, rowId, orderSeq)) : Worded t := by
  obtain ⟨⟨r, seq⟩, alloc, rest⟩ := Option.bind_eq_some_iff.mp born
  obtain ⟨⟨transcript, id⟩, -, result⟩ := Option.bind_eq_some_iff.mp rest
  obtain ⟨rfl, -⟩ := Prod.mk.inj (Option.some.inj result)
  obtain ⟨next, checked, same⟩ := Option.bind_eq_some_iff.mp alloc
  obtain ⟨rfl, -⟩ := Prod.mk.inj (Option.some.inj same)
  obtain ⟨word, rfl⟩ := checkedInt_eq_some.mp checked
  exact ⟨worded.head, word.2⟩

theorem Worded.appendRecords {s t : ThreadRuntime} (worded : Worded s) {records : List TranscriptRecord}
    (appended : s.appendRecords records = some t) : Worded t := by
  induction records generalizing s with
  | nil =>
    obtain rfl := Option.some.inj appended
    exact worded
  | cons record rest ih =>
    obtain ⟨middle, first, remaining⟩ := Option.bind_eq_some_iff.mp appended
    obtain ⟨⟨r, rowId, orderSeq⟩, born, rfl⟩ := Option.map_eq_some_iff.mp first
    exact ih (worded.birthRow born) remaining

theorem Worded.allocHead {s t : ThreadRuntime} (worded : Worded s) {count : Nat} {base : Int}
    (alloc : s.allocHeadOrderSeqBlock count = some (t, base)) : Worded t := by
  unfold ThreadRuntime.allocHeadOrderSeqBlock at alloc
  split at alloc
  · obtain ⟨rfl, -⟩ := Prod.mk.inj (Option.some.inj alloc)
    exact worded
  · obtain ⟨span, -, rest⟩ := Option.bind_eq_some_iff.mp alloc
    obtain ⟨low, -, rest'⟩ := Option.bind_eq_some_iff.mp rest
    obtain ⟨next, nexts, result⟩ := Option.bind_eq_some_iff.mp rest'
    obtain ⟨word, rfl⟩ := checkedInt_eq_some.mp nexts
    obtain ⟨rfl, -⟩ := Prod.mk.inj (Option.some.inj result)
    exact ⟨word.1, worded.tail⟩

theorem Worded.insertRecordsBefore {s t : ThreadRuntime} (worded : Worded s) {index : Nat}
    {records : List TranscriptRecord} (inserted : s.insertRecordsBefore index records = some t) : Worded t := by
  unfold ThreadRuntime.insertRecordsBefore at inserted
  split at inserted
  · exact worded.appendRecords inserted
  split at inserted
  · obtain ⟨⟨r, base⟩, alloc, rest⟩ := Option.bind_eq_some_iff.mp inserted
    obtain ⟨⟨transcript, ids⟩, -, result⟩ := Option.bind_eq_some_iff.mp rest
    obtain rfl := Option.some.inj result
    exact (worded.allocHead alloc).same rfl rfl
  · obtain ⟨prev, -, rest⟩ := Option.bind_eq_some_iff.mp inserted
    obtain ⟨next, -, rest'⟩ := Option.bind_eq_some_iff.mp rest
    obtain ⟨gap, -, rest''⟩ := Option.bind_eq_some_iff.mp rest'
    simp only at rest''
    split at rest''
    · obtain ⟨⟨transcript, ids⟩, -, result⟩ := Option.bind_eq_some_iff.mp rest''
      obtain rfl := Option.some.inj result
      exact worded.same rfl rfl
    · cases rest''

theorem Worded.mergeRecord {m n : ThreadRuntime.HistoryMerge} (worded : Worded m.runtime)
    {record : TranscriptRecord} (merged : ThreadRuntime.mergeRecord m record = some n) : Worded n.runtime := by
  unfold ThreadRuntime.mergeRecord at merged
  split at merged
  · obtain ⟨flushed, flush, rest⟩ := Option.bind_eq_some_iff.mp merged
    obtain ⟨index, -, result⟩ := Option.bind_eq_some_iff.mp rest
    obtain rfl := Option.some.inj result
    have first : Worded flushed.runtime := by
      unfold ThreadRuntime.flushBefore at flush
      split at flush
      · obtain rfl := Option.some.inj flush
        exact worded
      · obtain ⟨anchor, -, rest⟩ := Option.bind_eq_some_iff.mp flush
        obtain ⟨runtime, inserted, result⟩ := Option.bind_eq_some_iff.mp rest
        obtain rfl := Option.some.inj result
        exact worded.insertRecordsBefore inserted
    exact first.same rfl rfl
  · split at merged
    · obtain rfl := Option.some.inj merged
      exact worded
    · obtain rfl := Option.some.inj merged
      exact worded

theorem Worded.mergeRecords {m n : ThreadRuntime.HistoryMerge} (worded : Worded m.runtime)
    {records : List TranscriptRecord} (merged : records.foldlM ThreadRuntime.mergeRecord m = some n) :
    Worded n.runtime := by
  induction records generalizing m with
  | nil =>
    obtain rfl := Option.some.inj merged
    exact worded
  | cons record rest ih =>
    obtain ⟨middle, first, remaining⟩ := Option.bind_eq_some_iff.mp merged
    exact ih (worded.mergeRecord first) remaining

theorem Worded.mergeHistory {s t : ThreadRuntime} (worded : Worded s) {records : List TranscriptRecord}
    {readStartedAtRevision : Option UInt64} {changed : Bool}
    (merged : s.mergeTranscriptRecordsAfterReadStart records readStartedAtRevision = some (t, changed)) :
    Worded t := by
  obtain ⟨merge, run, rest⟩ := Option.bind_eq_some_iff.mp merged
  have first : Worded merge.runtime := by
    refine Worded.mergeRecords ?_ run
    exact worded
  split at rest
  · obtain ⟨rfl, -⟩ := Prod.mk.inj (Option.some.inj rest)
    exact first
  · obtain ⟨runtime, inserted, result⟩ := Option.bind_eq_some_iff.mp rest
    obtain ⟨rfl, -⟩ := Prod.mk.inj (Option.some.inj result)
    exact first.insertRecordsBefore inserted

theorem Worded.prependProviderHistory {s t : ThreadRuntime} (worded : Worded s)
    {entries : List ProviderTranscriptEntry} {requestedCursor prevCursor : Option Nat}
    {views : List TranscriptEntryView}
    (prepended : s.prependProviderHistory entries requestedCursor prevCursor = some (t, views)) : Worded t := by
  obtain ⟨r, base, minted, alloc, inserted, same⟩ := prependProviderHistory_eq prepended
  have absorbed : Worded { s with transcript := (ThreadRuntime.landPage s.transcript
    (pageRecords entries requestedCursor) 0).2.1.foldl ThreadRuntime.absorbRecord s.transcript } := worded.same rfl rfl
  exact (absorbed.allocHead alloc).same (by rw [same]) (by rw [same])

/-- The rows of `s` are those of `t` in place, with new ones behind them under new tail keys. -/
structure Appends (s t : ThreadRuntime) : Prop where
  places : ∃ new, t.places = s.places ++ new ∧ ∀ place ∈ new, s.nextTailOrderSeq ≤ place.2
  tail : s.nextTailOrderSeq ≤ t.nextTailOrderSeq
  head : t.nextHeadOrderSeq = s.nextHeadOrderSeq
  cursor : t.providerHistoryCursor = s.providerHistoryCursor
  worded : Worded s → Worded t

theorem Appends.trans {s t u : ThreadRuntime} (first : Appends s t) (second : Appends t u) : Appends s u := by
  obtain ⟨new, places, keys⟩ := first.places
  obtain ⟨later, places', keys'⟩ := second.places
  refine ⟨⟨new ++ later, by rw [places', places, List.append_assoc], ?_⟩, Int.le_trans first.tail second.tail,
    second.head.trans first.head, second.cursor.trans first.cursor, fun worded => second.worded (first.worded worded)⟩
  intro place member
  rcases List.mem_append.mp member with here | there
  · exact keys place here
  · exact Int.le_trans first.tail (keys' place there)

theorem forall₂_places {a b : List TranscriptRecord} (kept : List.Forall₂ RowKept a b) :
    b.map TranscriptRecord.place = a.map TranscriptRecord.place := by
  induction kept with
  | nil => rfl
  | cons head _ ih =>
    have same : TranscriptRecord.place _ = TranscriptRecord.place _ := Prod.ext head.rowId head.orderSeq
    rw [List.map_cons, List.map_cons, ih, same]

/-- Editing rows in place, with the cursors left alone. -/
theorem Appends.edited {s t : ThreadRuntime} (rows : List.Forall₂ RowKept s.transcript.rows t.transcript.rows)
    (tail : t.nextTailOrderSeq = s.nextTailOrderSeq) (head : t.nextHeadOrderSeq = s.nextHeadOrderSeq)
    (cursor : t.providerHistoryCursor = s.providerHistoryCursor) : Appends s t := by
  refine ⟨⟨[], ?_, by simp⟩, Int.le_of_eq tail.symm, head, cursor, fun worded => worded.same head tail⟩
  rw [List.append_nil]
  exact forall₂_places rows

theorem Ordered.appendsBirth {s t : ThreadRuntime} (ordered : Ordered s) {record : TranscriptRecord}
    {rowId : String} {orderSeq : Int} (born : s.birthRow record = some (t, rowId, orderSeq)) : Appends s t := by
  obtain ⟨-, pushed, same⟩ := birthRow_eq born
  have rows := ThreadTranscript.push_rows ordered.consistent pushed
  have step : (0 : Int) < orderSeqStep := by decide
  have tail : t.nextTailOrderSeq = s.nextTailOrderSeq + orderSeqStep := by rw [same]
  refine ⟨⟨[(rowId, s.nextTailOrderSeq)], ?_, by simp⟩, by omega, by rw [same], by rw [same],
    fun worded => worded.birthRow born⟩
  simp only [ThreadRuntime.places, rows, List.map_append, List.map_cons, List.map_nil]
  rfl

/-- What editing rows in place and giving birth to a row have in common with every live call. -/
structure LiveRule (relates : ThreadRuntime → ThreadRuntime → Prop) : Prop where
  trans : ∀ {s t u : ThreadRuntime}, relates s t → relates t u → relates s u
  edited : ∀ {s t : ThreadRuntime}, List.Forall₂ RowKept s.transcript.rows t.transcript.rows →
    t.nextTailOrderSeq = s.nextTailOrderSeq → t.nextHeadOrderSeq = s.nextHeadOrderSeq →
    t.providerHistoryCursor = s.providerHistoryCursor → relates s t
  birth : ∀ {s t : ThreadRuntime} {record : TranscriptRecord} {rowId : String} {orderSeq : Int}, Ordered s →
    s.birthRow record = some (t, rowId, orderSeq) → relates s t

theorem Appends.rule : LiveRule Appends where
  trans := Appends.trans
  edited := Appends.edited
  birth ordered born := ordered.appendsBirth born

namespace LiveRule

variable {relates : ThreadRuntime → ThreadRuntime → Prop} {s t : ThreadRuntime}

/-- What does not touch the rows or the cursors. -/
theorem untouched (rule : LiveRule relates) (transcript : t.transcript = s.transcript)
    (tail : t.nextTailOrderSeq = s.nextTailOrderSeq) (head : t.nextHeadOrderSeq = s.nextHeadOrderSeq)
    (cursor : t.providerHistoryCursor = s.providerHistoryCursor) : relates s t := by
  refine rule.edited ?_ tail head cursor
  rw [transcript]
  exact ThreadTranscript.forall₂_refl _

theorem refl (rule : LiveRule relates) (s : ThreadRuntime) : relates s s :=
  rule.untouched rfl rfl rfl rfl

theorem update {R : Type} (rule : LiveRule relates) (ordered : Ordered s) (rowId : String)
    (edit : TranscriptRecord → TranscriptRecord × R) :
    relates s { s with transcript := (s.transcript.updateRow rowId edit).1 } :=
  rule.edited (ThreadTranscript.updateRow_consistent ordered.consistent rowId edit).1.rows rfl rfl rfl

theorem binding (rule : LiveRule relates) (ordered : Ordered s) (space : SourceSpace) (rowId itemId : String) :
    relates s { s with transcript := (s.transcript.bindName space rowId itemId).1 } :=
  rule.edited (ThreadTranscript.bindName_shape ordered.consistent space rowId itemId).rows rfl rfl rfl

theorem live (rule : LiveRule relates) (ordered : Ordered s) {space : IdSpace} {itemId : String}
    {edit : TranscriptRecord → TranscriptRecord} {born : TranscriptRecord} {revision : UInt64}
    {mutation : TranscriptMutationMeta} (wrote : s.writeLive space itemId edit born revision = some (t, mutation)) :
    relates s t := by
  obtain ⟨⟨written, rowId, entrySeq, orderSeq⟩, write, result⟩ := Option.bind_eq_some_iff.mp wrote
  obtain ⟨rfl, -⟩ := Prod.mk.inj (Option.some.inj result)
  have first : relates s written := by
    unfold ThreadRuntime.writeRow at write
    split at write
    · rename_i index row _
      obtain ⟨rfl, -⟩ := Prod.mk.inj (Option.some.inj write)
      exact rule.update ordered row.rowId _
    · obtain ⟨⟨next, id, key⟩, birth, same⟩ := Option.map_eq_some_iff.mp write
      obtain ⟨rfl, -⟩ := Prod.mk.inj same
      exact rule.birth ordered birth
  have bumped : relates written (written.bumpRevision revision) := rule.untouched rfl rfl rfl rfl
  have still : Advances written (written.bumpRevision revision) :=
    (ordered.writeRow write).ordered.untouched rfl rfl rfl
  exact rule.trans (rule.trans first bumped) (rule.update still.ordered rowId fun entry =>
    ({ entry with lastLiveUpsertRevision := some revision }, ()))

theorem reconcile (rule : LiveRule relates) (ordered : Ordered s) (providerItemId text turnId : String)
    (revision : UInt64) : relates s (s.reconcileCodexUserReservation providerItemId text turnId revision).1 := by
  unfold ThreadRuntime.reconcileCodexUserReservation
  split
  · exact rule.refl s
  rename_i localId _
  have claimed : relates s (s.claimReservation localId turnId) := rule.untouched rfl rfl rfl rfl
  have still : Advances s (s.claimReservation localId turnId) := ordered.untouched rfl rfl rfl
  have edited := rule.update still.ordered localId fun entry =>
    (ThreadRuntime.reconciledEntry text turnId entry, ())
  have advanced := still.ordered.updateTranscriptRow localId fun entry =>
    (ThreadRuntime.reconciledEntry text turnId entry, ())
  simp only
  split
  · rename_i transcript update
    rw [update] at edited
    exact rule.trans claimed edited
  · rename_i transcript update
    rw [update] at edited advanced
    have bound := rule.binding advanced.ordered .provider localId providerItemId
    exact rule.trans (rule.trans (rule.trans claimed edited) bound) (rule.untouched rfl rfl rfl rfl)

theorem beginCodex (rule : LiveRule relates) (ordered : Ordered s) {generation threadId text : String}
    {revision : UInt64} {answer : Except String String}
    (began : s.beginCodexUserTurn generation threadId text revision = some (t, answer)) : relates s t := by
  unfold ThreadRuntime.beginCodexUserTurn at began
  split at began
  · obtain ⟨rfl, -⟩ := Prod.mk.inj (Option.some.inj began)
    exact rule.refl s
  split at began
  · obtain ⟨rfl, -⟩ := Prod.mk.inj (Option.some.inj began)
    exact rule.refl s
  obtain ⟨⟨written, mutation⟩, wrote, result⟩ := Option.bind_eq_some_iff.mp began
  obtain ⟨rfl, -⟩ := Prod.mk.inj (Option.some.inj result)
  have counted : relates s
      { s with codexUserReservationSeq := saturatingAdd s.codexUserReservationSeq 1 } :=
    rule.untouched rfl rfl rfl rfl
  have still : Advances s
      { s with codexUserReservationSeq := saturatingAdd s.codexUserReservationSeq 1 } := ordered.untouched rfl rfl rfl
  exact rule.trans (rule.trans counted (rule.live still.ordered wrote)) (rule.untouched rfl rfl rfl rfl)

theorem bindCodex (rule : LiveRule relates) (ordered : Ordered s) (reservationId turnId : String)
    (revision : UInt64) : relates s (s.bindCodexUserReservation reservationId turnId revision) := by
  unfold ThreadRuntime.bindCodexUserReservation
  split
  · exact rule.refl s
  rename_i reservation _
  split
  · exact rule.refl s
  have claimed : relates s { s with codexStartReservation := some { reservation with turnId := some turnId } } :=
    rule.untouched rfl rfl rfl rfl
  have still : Advances s { s with codexStartReservation := some { reservation with turnId := some turnId } } :=
    ordered.untouched rfl rfl rfl
  have edited := rule.update still.ordered reservationId fun entry => ({ entry with turnId := some turnId }, ())
  exact rule.trans (rule.trans claimed edited) (rule.untouched rfl rfl rfl rfl)

theorem failCodex (rule : LiveRule relates) (ordered : Ordered s) (reservationId : String) (revision : UInt64) :
    relates s (s.failCodexUserTurnDefinitive reservationId revision) := by
  unfold ThreadRuntime.failCodexUserTurnDefinitive
  split
  · exact rule.refl s
  split
  · exact rule.refl s
  · obtain ⟨rows, -⟩ := ThreadTranscript.updateAll_consistent ordered.consistent (fun () entry =>
      (if ThreadRuntime.isWithdrawableReservationRow entry reservationId then { entry with withdrawn := true } else entry,
        ())) ()
    exact rule.edited rows rfl rfl rfl

theorem run (rule : LiveRule relates) (ordered : Ordered s) {c : RuntimeCall} (live : c.isLive = true)
    (step : c.run s = some t) : relates s t := by
  cases c with
  | upsert itemId space kind text status turnId tool revision =>
    obtain ⟨⟨next, mutation⟩, wrote, rfl⟩ := Option.map_eq_some_iff.mp step
    exact rule.live ordered wrote
  | agentDelta space itemId delta turnId revision =>
    obtain ⟨⟨next, mutation⟩, appended, rfl⟩ := Option.map_eq_some_iff.mp step
    obtain ⟨⟨next', mutation'⟩, wrote, result⟩ := Option.bind_eq_some_iff.mp appended
    obtain ⟨rfl, -⟩ := Prod.mk.inj (Option.some.inj result)
    exact rule.live ordered wrote
  | commandDelta itemId delta revision =>
    obtain ⟨⟨next, mutation⟩, appended, rfl⟩ := Option.map_eq_some_iff.mp step
    obtain ⟨⟨next', mutation'⟩, wrote, result⟩ := Option.bind_eq_some_iff.mp appended
    obtain ⟨rfl, -⟩ := Prod.mk.inj (Option.some.inj result)
    exact rule.live ordered wrote
  | prependPage entries requestedCursor prevCursor => cases live
  | mergeHistory records readStartedAtRevision => cases live
  | reconcile providerItemId text turnId revision =>
    obtain rfl := Option.some.inj step
    exact rule.reconcile ordered providerItemId text turnId revision
  | beginCodex generation threadId text revision =>
    obtain ⟨⟨next, answer⟩, began, rfl⟩ := Option.map_eq_some_iff.mp step
    exact rule.beginCodex ordered began
  | bindCodex reservationId turnId revision =>
    obtain rfl := Option.some.inj step
    exact rule.bindCodex ordered reservationId turnId revision
  | failCodex reservationId revision =>
    obtain rfl := Option.some.inj step
    exact rule.failCodex ordered reservationId revision
  | finishCodex turnId =>
    obtain rfl := Option.some.inj step
    unfold ThreadRuntime.finishCodexStartReservation
    split
    · exact rule.untouched rfl rfl rfl rfl
    · exact rule.refl s
  | setActiveTurn turnId =>
    obtain rfl := Option.some.inj step
    exact rule.untouched rfl rfl rfl rfl

end LiveRule

/-- A live call puts rows nowhere but behind the others. -/
theorem RuntimeCall.live_appends {s t : ThreadRuntime} (ordered : Ordered s) {c : RuntimeCall} (live : c.isLive = true)
    (step : c.run s = some t) : Appends s t :=
  Appends.rule.run ordered live step

theorem RuntimeCall.run_worded {s t : ThreadRuntime} (ordered : Ordered s) (worded : Worded s) {c : RuntimeCall}
    (step : c.run s = some t) : Worded t := by
  by_cases live : c.isLive = true
  · exact (live_appends ordered live step).worded worded
  cases c with
  | prependPage entries requestedCursor prevCursor =>
    obtain ⟨⟨next, views⟩, prepended, rfl⟩ := Option.map_eq_some_iff.mp step
    exact worded.prependProviderHistory prepended
  | mergeHistory records readStartedAtRevision =>
    obtain ⟨⟨next, changed⟩, merged, rfl⟩ := Option.map_eq_some_iff.mp step
    exact worded.mergeHistory merged
  | _ => exact absurd rfl live

theorem FreshRuntime.worded {first : ThreadRuntime} (fresh : FreshRuntime first) : Worded first := by
  cases fresh with
  | new transcriptRevision =>
    constructor
    · show -2 ^ 63 ≤ -orderSeqStep
      decide
    · show (0 : Int) < 2 ^ 63
      decide
  | fromSyncData built =>
    obtain ⟨numbered, -, rest⟩ := Option.bind_eq_some_iff.mp built
    obtain ⟨tail, checked, rest'⟩ := Option.bind_eq_some_iff.mp rest
    obtain ⟨transcript, -, result⟩ := Option.bind_eq_some_iff.mp rest'
    obtain rfl := Option.some.inj result
    obtain ⟨word, rfl⟩ := checkedInt_eq_some.mp checked
    refine ⟨?_, word.2⟩
    show -2 ^ 63 ≤ -orderSeqStep
    decide

/-- The keys of a reached runtime increase, and its cursors are words of the code. -/
theorem RuntimeRun.ordered_worded {first last : ThreadRuntime} (fresh : FreshRuntime first)
    (run : RuntimeRun (fun _ _ => True) first last) : Ordered last ∧ Worded last := by
  induction run with
  | start => exact ⟨fresh.ordered, fresh.worded⟩
  | next _ _ step ih => exact ⟨(RuntimeCall.run_advances ih.1 step).ordered, RuntimeCall.run_worded ih.1 ih.2 step⟩

/-- The rows of `s` are those of `t` in place, with new ones before them under new head keys. -/
structure Prepends (s t : ThreadRuntime) : Prop where
  places : ∃ new, t.places = new ++ s.places ∧ ∀ place ∈ new, place.2 ≤ s.nextHeadOrderSeq
  tail : t.nextTailOrderSeq = s.nextTailOrderSeq
  head : t.nextHeadOrderSeq ≤ s.nextHeadOrderSeq

theorem Ordered.absorb_places {s : ThreadRuntime} (ordered : Ordered s)
    (absorbed : List (String × TranscriptRecord)) :
    (absorbed.foldl ThreadRuntime.absorbRecord s.transcript).rows.map TranscriptRecord.place = s.places := by
  induction absorbed generalizing s with
  | nil => rfl
  | cons first rest ih =>
    have advanced : Advances s { s with transcript := ThreadRuntime.absorbRecord s.transcript first } :=
      ordered.updateTranscriptRow first.1 _
    have rows : List.Forall₂ RowKept s.transcript.rows (ThreadRuntime.absorbRecord s.transcript first).rows :=
      (ThreadTranscript.updateRow_consistent ordered.consistent first.1 _).1.rows
    exact (ih advanced.ordered).trans (forall₂_places rows)

theorem Ordered.prepends {s t : ThreadRuntime} (ordered : Ordered s) {entries : List ProviderTranscriptEntry}
    {requestedCursor prevCursor : Option Nat} {views : List TranscriptEntryView}
    (prepended : s.prependProviderHistory entries requestedCursor prevCursor = some (t, views)) : Prepends s t := by
  obtain ⟨r, base, minted, alloc, inserted, same⟩ := prependProviderHistory_eq prepended
  have absorbed := ordered.absorb (ThreadRuntime.landPage s.transcript (pageRecords entries requestedCursor) 0).2.1
  have kept := ordered.absorb_places (ThreadRuntime.landPage s.transcript (pageRecords entries requestedCursor) 0).2.1
  obtain ⟨transcript, tail, head, keys⟩ := allocHeadOrderSeqBlock_eq alloc
  rw [transcript] at inserted
  obtain ⟨-, placed, renamed, -, rows⟩ := ThreadTranscript.insertBefore_placed absorbed.ordered.consistent inserted
  rw [List.take_zero, List.nil_append, List.drop_zero] at rows
  refine ⟨⟨placed.map TranscriptRecord.place, ?_, ?_⟩, by rw [same]; exact tail, by rw [same]; exact head⟩
  · rw [ThreadRuntime.places, rows, List.map_append, kept]
  · intro place member
    obtain ⟨row, there, rfl⟩ := List.mem_map.mp member
    obtain ⟨new, numbered, key⟩ := mem_of_same_keys (renamed_orderSeqs renamed) there
    obtain ⟨i, within, value⟩ := numberFrom_key numbered
    have bound := (keys i within).2
    change row.orderSeq ≤ s.nextHeadOrderSeq
    rw [← key, value]
    exact bound

end Sealwire.Transcript

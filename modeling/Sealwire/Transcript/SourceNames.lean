import Sealwire.Transcript.OrderKeys
import Sealwire.Transcript.ReadNames

namespace Sealwire.Transcript

open ThreadTranscript (Named Vacant Newcomer EmptyAnswers Takes)

/-- A source name is carried by one row at most, and leads to the row that carries it. -/
structure OneRowPerName (t : ThreadTranscript) : Prop where
  unique : ∀ (space : SourceSpace) (i j : Nat) (a b : TranscriptRecord) (name : String), t.rows[i]? = some a →
    t.rows[j]? = some b → a.sourceName space = some name → b.sourceName space = some name → i = j
  resolves : ∀ (space : SourceSpace) (i : Nat) (row : TranscriptRecord) (name : String), t.rows[i]? = some row →
    row.sourceName space = some name → name ≠ "" →
    t.resolveName space name = some row.rowId ∧ t.indexOfRow row.rowId = some i

theorem ThreadTranscript.Consistent.at_row {t : ThreadTranscript} (ok : t.Consistent) {i : Nat} {row : TranscriptRecord}
    (at_i : t.rows[i]? = some row) : t.indexOfRow row.rowId = some i :=
  (ok.indexed row.rowId i).mpr (by rw [at_i]; rfl)

theorem ThreadTranscript.Named.oneRowPerName {t : ThreadTranscript} (named : Named t) : OneRowPerName t := by
  refine ⟨?_, ?_⟩
  · intro space i j a b name at_i at_j at_a at_b
    have same := named.unique space a (List.mem_of_getElem? at_i) b (List.mem_of_getElem? at_j) name at_a at_b
    have left := named.consistent.at_row at_i
    have right := named.consistent.at_row at_j
    rw [same] at left
    exact Option.some.inj (left.symm.trans right)
  · intro space i row name at_i carries nonempty
    refine ⟨?_, named.consistent.at_row at_i⟩
    rw [named.consistent.resolveName_eq]
    rcases named.found space row (List.mem_of_getElem? at_i) name carries with bound | ⟨empty, -⟩
    · exact bound
    · exact absurd empty nonempty

theorem NamesApart.head {record : TranscriptRecord} {rest : List TranscriptRecord} (apart : NamesApart (record :: rest))
    {space : SourceSpace} {name : String} (carries : record.sourceName space = some name) :
    ∀ other ∈ rest, other.sourceName space ≠ some name :=
  fun other member => (List.pairwise_cons.mp (apart.pairwise space)).1 other member name carries

theorem NamesApart.between {a b : List TranscriptRecord} (apart : NamesApart (a ++ b)) {record other : TranscriptRecord}
    (left : record ∈ a) (right : other ∈ b) {space : SourceSpace} {name : String}
    (carries : record.sourceName space = some name) : other.sourceName space ≠ some name :=
  (List.pairwise_append.mp (apart.pairwise space)).2.2 record left other right name carries

theorem sameNames_numberFrom (base step : Int) (records : List TranscriptRecord) (space : SourceSpace) :
    (numberFrom base step records).map (·.sourceName space) = records.map (·.sourceName space) := by
  induction records generalizing base with
  | nil => rfl
  | cons record rest ih =>
    rw [numberFrom_cons, List.map_cons, List.map_cons, ih, sameNames_setOrderSeq record base space]

theorem numberFrom_origin {base step : Int} {records : List TranscriptRecord} {row : TranscriptRecord}
    (member : row ∈ numberFrom base step records) : ∃ record ∈ records, SameNames row record := by
  obtain ⟨⟨record, index⟩, there, rfl⟩ := List.mem_map.mp member
  exact ⟨record, List.fst_mem_of_mem_zipIdx there, sameNames_setOrderSeq record _⟩

theorem insertNumbered_takes {t u : ThreadTranscript} (named : Named t) {index : Nat} {records : List TranscriptRecord}
    {base step : Int} {ids : List String} (apart : NamesApart records)
    (newcomers : ∀ record ∈ records, Newcomer t record)
    (inserted : t.insertBefore index (numberFrom base step records) = some (u, ids)) : Takes records t u := by
  have taken := ThreadTranscript.insertBefore_named named (.of_names (sameNames_numberFrom base step records) apart)
    (fun row member => by
      obtain ⟨record, there, same⟩ := numberFrom_origin member
      exact (newcomers record there).of_names same) inserted
  refine ⟨taken.named, taken.held, ?_⟩
  intro space name vacant other
  refine taken.vacant space name vacant ?_
  intro row member
  obtain ⟨record, there, same⟩ := numberFrom_origin member
  rw [same space]
  exact other record there

theorem pushAll_takes {t u : ThreadTranscript} (named : Named t) {records : List TranscriptRecord}
    (apart : NamesApart records) (newcomers : ∀ record ∈ records, Newcomer t record)
    (pushed : t.pushAll records = some u) : Takes records t u := by
  induction records generalizing t with
  | nil =>
    obtain rfl := Option.some.inj pushed
    exact .refl named []
  | cons record rest ih =>
    obtain ⟨middle, first, remaining⟩ := Option.bind_eq_some_iff.mp pushed
    obtain ⟨⟨u', id⟩, landed, rfl⟩ := Option.map_eq_some_iff.mp first
    have one := ThreadTranscript.push_named named (newcomers record List.mem_cons_self) landed
    have others := ih one.named (apart.sublist (List.sublist_cons_self record rest)) (fun other member => by
      refine one.newcomer (newcomers other (List.mem_cons_of_mem _ member)) ?_
      intro space name carries known there same
      rw [List.mem_singleton.mp there] at same
      exact apart.head same other member carries) remaining
    exact (one.mono (by simp)).trans (others.mono (List.subset_cons_self record rest))

/-- The rows pushed carry the names of the records, in order. -/
theorem pushAll_renamed {t u : ThreadTranscript} (ok : t.Consistent)
    {records : List TranscriptRecord} (pushed : t.pushAll records = some u) :
    ∃ placed, List.Forall₂ ThreadTranscript.Renamed records placed ∧ u.rows = t.rows ++ placed := by
  induction records generalizing t with
  | nil =>
    obtain rfl := Option.some.inj pushed
    exact ⟨[], .nil, by simp⟩
  | cons record rest ih =>
    obtain ⟨middle, first, remaining⟩ := Option.bind_eq_some_iff.mp pushed
    obtain ⟨⟨u', id⟩, landed, rfl⟩ := Option.map_eq_some_iff.mp first
    obtain ⟨placed, renamed, rows⟩ := ih (ThreadTranscript.push_consistent ok landed) remaining
    refine ⟨{ record with rowId := id } :: placed, .cons rfl renamed, ?_⟩
    rw [rows, ThreadTranscript.push_rows ok landed, List.append_assoc, List.singleton_append]

theorem birthRow_takes {s t : ThreadRuntime} (named : Named s.transcript) {record : TranscriptRecord}
    (newcomer : Newcomer s.transcript record) {rowId : String} {orderSeq : Int}
    (born : s.birthRow record = some (t, rowId, orderSeq)) : Takes [record] s.transcript t.transcript := by
  obtain ⟨-, pushed, -⟩ := birthRow_eq born
  have same := sameNames_setOrderSeq record s.nextTailOrderSeq
  have taken := ThreadTranscript.push_named named (newcomer.of_names same) pushed
  refine ⟨taken.named, taken.held, ?_⟩
  intro space name vacant other
  refine taken.vacant space name vacant ?_
  intro row member
  rw [List.mem_singleton.mp member, same space]
  exact other record List.mem_cons_self

theorem appendRecords_takes {s t : ThreadRuntime} (named : Named s.transcript) {records : List TranscriptRecord}
    (apart : NamesApart records) (newcomers : ∀ record ∈ records, Newcomer s.transcript record)
    (appended : s.appendRecords records = some t) : Takes records s.transcript t.transcript := by
  induction records generalizing s with
  | nil =>
    obtain rfl := Option.some.inj appended
    exact .refl named []
  | cons record rest ih =>
    obtain ⟨middle, first, remaining⟩ := Option.bind_eq_some_iff.mp appended
    obtain ⟨⟨r, rowId, orderSeq⟩, born, rfl⟩ := Option.map_eq_some_iff.mp first
    have one := birthRow_takes named (newcomers record List.mem_cons_self) born
    have others := ih one.named (apart.sublist (List.sublist_cons_self record rest)) (fun other member => by
      refine one.newcomer (newcomers other (List.mem_cons_of_mem _ member)) ?_
      intro space name carries known there same
      rw [List.mem_singleton.mp there] at same
      exact apart.head same other member carries) remaining
    exact (one.mono (by simp)).trans (others.mono (List.subset_cons_self record rest))

theorem insertRecordsBefore_takes {s t : ThreadRuntime} (named : Named s.transcript) {index : Nat}
    {records : List TranscriptRecord} (apart : NamesApart records)
    (newcomers : ∀ record ∈ records, Newcomer s.transcript record)
    (inserted : s.insertRecordsBefore index records = some t) : Takes records s.transcript t.transcript := by
  unfold ThreadRuntime.insertRecordsBefore at inserted
  split at inserted
  · exact appendRecords_takes named apart newcomers inserted
  split at inserted
  · obtain ⟨⟨r, base⟩, alloc, rest⟩ := Option.bind_eq_some_iff.mp inserted
    obtain ⟨⟨transcript, ids⟩, placed, result⟩ := Option.bind_eq_some_iff.mp rest
    obtain rfl := Option.some.inj result
    have same : r.transcript = s.transcript := (allocHeadOrderSeqBlock_eq alloc).1
    simp only [same] at placed
    exact insertNumbered_takes named apart newcomers placed
  · obtain ⟨prev, _, rest⟩ := Option.bind_eq_some_iff.mp inserted
    obtain ⟨next, _, rest'⟩ := Option.bind_eq_some_iff.mp rest
    obtain ⟨gap, _, rest''⟩ := Option.bind_eq_some_iff.mp rest'
    simp only at rest''
    split at rest''
    · obtain ⟨⟨transcript, ids⟩, placed, result⟩ := Option.bind_eq_some_iff.mp rest''
      obtain rfl := Option.some.inj result
      exact insertNumbered_takes named apart newcomers placed
    · cases rest''

/-- A record that resolves does so by the one name it carries. -/
theorem resolveIncoming_some {t : ThreadTranscript} (ok : t.Consistent) {record : TranscriptRecord}
    (one : OneName record) {rowId : String} (resolved : t.resolveIncoming record = some rowId) {space : SourceSpace}
    {name : String} (carries : record.sourceName space = some name) : (t.names space).get name = some rowId := by
  unfold ThreadTranscript.resolveIncoming at resolved
  rw [← ok.resolveName_eq]
  cases space with
  | provider =>
    have carried : record.providerItemId = some name := carries
    rw [carried] at resolved
    exact resolved
  | relay =>
    have carried : record.relayItemId = some name := carries
    have none : record.providerItemId = none := one.resolve_right (by simp [carried])
    rw [none, carried] at resolved
    exact resolved

theorem resolveIncoming_none {t : ThreadTranscript} (named : Named t) {record : TranscriptRecord} (one : OneName record)
    (unresolved : t.resolveIncoming record = none)
    (empties : ∀ space, record.sourceName space = some "" → EmptyAnswers space t) : Newcomer t record := by
  intro space name carries
  refine named.vacant ?_ (fun empty => empties space (empty ▸ carries))
  unfold ThreadTranscript.resolveIncoming at unresolved
  rw [← named.consistent.resolveName_eq]
  cases space with
  | provider =>
    have carried : record.providerItemId = some name := carries
    rw [carried] at unresolved
    exact unresolved
  | relay =>
    have carried : record.relayItemId = some name := carries
    have none : record.providerItemId = none := one.resolve_right (by simp [carried])
    rw [none, carried] at unresolved
    exact unresolved

section History

/-- Between two records of a history merge: what is held back is unknown to the thread, and
no name is carried twice among it and the records still to come. -/
structure Merging (m : ThreadRuntime.HistoryMerge) (rest : List TranscriptRecord) : Prop where
  named : Named m.runtime.transcript
  newcomers : ∀ record ∈ m.pending, Newcomer m.runtime.transcript record
  apart : NamesApart (m.pending ++ rest)
  single : ∀ record ∈ rest, OneName record
  empties : ∀ record ∈ rest, ∀ space, record.sourceName space = some "" → EmptyAnswers space m.runtime.transcript

theorem flushBefore_takes {m n : ThreadRuntime.HistoryMerge} {rest : List TranscriptRecord} (ok : Merging m rest)
    {rowId : String} (flushed : ThreadRuntime.flushBefore m rowId = some n) :
    Takes m.pending m.runtime.transcript n.runtime.transcript ∧ n.pending = [] := by
  unfold ThreadRuntime.flushBefore at flushed
  split at flushed
  · rename_i empty
    obtain rfl := Option.some.inj flushed
    exact ⟨.refl ok.named _, empty⟩
  · obtain ⟨anchor, _, rest'⟩ := Option.bind_eq_some_iff.mp flushed
    obtain ⟨runtime, inserted, result⟩ := Option.bind_eq_some_iff.mp rest'
    obtain rfl := Option.some.inj result
    have apart := ok.apart.sublist (List.sublist_append_left m.pending rest)
    exact ⟨insertRecordsBefore_takes ok.named apart ok.newcomers inserted, rfl⟩

/-- A known record's copy is merged into its row, which keeps its names or takes the copy's. -/
theorem mergeKnown_takes {t : ThreadTranscript} (named : Named t) (record : TranscriptRecord) (rowId : String)
    (resolved : ∀ space name, record.sourceName space = some name → (t.names space).get name = some rowId) :
    Takes [record] t (match record.providerItemId with
      | some providerItemId =>
        ((t.updateRow rowId fun existing => mergeRuntimeEntry existing record).1.bindProviderItemId rowId providerItemId).1
      | none => (t.updateRow rowId fun existing => mergeRuntimeEntry existing record).1) := by
  have updated : Takes [record] t (t.updateRow rowId fun existing => mergeRuntimeEntry existing record).1 := by
    refine ThreadTranscript.updateRow_takes named rowId _ [record] ?_ ?_
    · intro other member space name carries
      rw [List.mem_singleton.mp member] at carries
      exact resolved space name carries
    · intro row space name carries
      rcases mergeRuntimeEntry_names row record space with kept | merged
      · exact .inl (kept.symm.trans carries)
      · rw [merged, Option.or_eq_some_iff] at carries
        exact carries.elim (fun its => .inr ⟨record, List.mem_cons_self, its⟩) fun own => .inl own.2
  split
  · rename_i providerItemId carried
    exact updated.trans (ThreadTranscript.bindName_takes updated.named .provider rowId providerItemId
      ⟨record, List.mem_cons_self, carried⟩)
  · exact updated

theorem mergeRecord_merging {m n : ThreadRuntime.HistoryMerge} {record : TranscriptRecord}
    {rest : List TranscriptRecord} (ok : Merging m (record :: rest))
    (merged : ThreadRuntime.mergeRecord m record = some n) : Merging n rest := by
  have one := ok.single record List.mem_cons_self
  have singles (other : TranscriptRecord) (member : other ∈ rest) : OneName other :=
    ok.single other (List.mem_cons_of_mem _ member)
  have empties (other : TranscriptRecord) (member : other ∈ rest) (space : SourceSpace)
      (carries : other.sourceName space = some "") : EmptyAnswers space m.runtime.transcript :=
    ok.empties other (List.mem_cons_of_mem _ member) space carries
  unfold ThreadRuntime.mergeRecord at merged
  split at merged
  · rename_i rowId known
    obtain ⟨flushed, flush, rest'⟩ := Option.bind_eq_some_iff.mp merged
    obtain ⟨index, _, result⟩ := Option.bind_eq_some_iff.mp rest'
    obtain rfl := Option.some.inj result
    obtain ⟨first, nothing⟩ := flushBefore_takes ok flush
    have second := mergeKnown_takes first.named record rowId fun space name carries =>
      first.held space name rowId (resolveIncoming_some ok.named.consistent one known carries)
    have both := (first.mono (List.subset_append_left m.pending [record])).trans
      (second.mono (List.subset_append_right m.pending [record]))
    -- what is still to come shares no name with what was put in
    have apart : NamesApart ((m.pending ++ [record]) ++ rest) := by
      rw [List.append_assoc]
      exact ok.apart
    refine ⟨both.named, ?_, ?_, singles, ?_⟩
    · intro other member
      rw [show _ = ([] : List TranscriptRecord) from nothing] at member
      cases member
    · rw [show _ = ([] : List TranscriptRecord) from nothing]
      exact apart.sublist (List.sublist_append_right _ rest)
    · intro other member space carries
      refine both.emptyAnswers (empties other member space carries) ?_
      intro earlier there its
      exact apart.between there member its carries
  · rename_i unknown
    split at merged
    · obtain rfl := Option.some.inj merged
      refine ⟨ok.named, ok.newcomers, ok.apart.sublist ?_, singles, empties⟩
      exact (List.sublist_cons_self record rest).append_left m.pending
    · obtain rfl := Option.some.inj merged
      refine ⟨ok.named, ?_, ?_, singles, empties⟩
      · intro other member
        rcases List.mem_append.mp member with held | new
        · exact ok.newcomers other held
        · rw [List.mem_singleton.mp new]
          exact resolveIncoming_none ok.named one unknown (ok.empties record List.mem_cons_self)
      · show NamesApart ((m.pending ++ [record]) ++ rest)
        rw [List.append_assoc]
        exact ok.apart

theorem mergeRecords_merging {m n : ThreadRuntime.HistoryMerge} {records : List TranscriptRecord}
    (ok : Merging m records) (merged : records.foldlM ThreadRuntime.mergeRecord m = some n) : Merging n [] := by
  induction records generalizing m with
  | nil =>
    obtain rfl := Option.some.inj merged
    exact ok
  | cons record rest ih =>
    obtain ⟨middle, first, remaining⟩ := Option.bind_eq_some_iff.mp merged
    exact ih (mergeRecord_merging ok first) remaining

theorem mergeHistory_named {s t : ThreadRuntime} (named : Named s.transcript) {records : List TranscriptRecord}
    (apart : NamesApart records) (single : ∀ record ∈ records, OneName record)
    (empties : ∀ record ∈ records, ∀ space, record.sourceName space = some "" → EmptyAnswers space s.transcript)
    {readStartedAtRevision : Option UInt64} {changed : Bool}
    (merged : s.mergeTranscriptRecordsAfterReadStart records readStartedAtRevision = some (t, changed)) :
    Named t.transcript := by
  unfold ThreadRuntime.mergeTranscriptRecordsAfterReadStart at merged
  obtain ⟨merge, run, rest⟩ := Option.bind_eq_some_iff.mp merged
  have start : Merging { runtime := s, changed := false, pending := [], tailPendingFloor := 0 } records :=
    ⟨named, by simp, apart, single, empties⟩
  have ok := mergeRecords_merging start run
  split at rest
  · obtain ⟨rfl, -⟩ := Prod.mk.inj (Option.some.inj rest)
    exact ok.named
  · obtain ⟨runtime, inserted, result⟩ := Option.bind_eq_some_iff.mp rest
    obtain ⟨rfl, -⟩ := Prod.mk.inj (Option.some.inj result)
    have pending_apart := ok.apart.sublist (List.sublist_append_left merge.pending [])
    exact (insertRecordsBefore_takes ok.named pending_apart ok.newcomers inserted).named

theorem landPage_fresh (t : ThreadTranscript) (records : List TranscriptRecord) (fresh : Nat) :
    (ThreadRuntime.landPage t records fresh).2.2.Sublist records ∧
      ∀ record ∈ (ThreadRuntime.landPage t records fresh).2.2, t.resolveIncoming record = none := by
  induction records generalizing fresh with
  | nil => exact ⟨.slnil, by simp [ThreadRuntime.landPage]⟩
  | cons record rest ih =>
    unfold ThreadRuntime.landPage
    split
    · obtain ⟨sub, unknown⟩ := ih fresh
      exact ⟨sub.cons record, unknown⟩
    · rename_i unresolved
      obtain ⟨sub, unknown⟩ := ih (fresh + 1)
      refine ⟨sub.cons_cons record, ?_⟩
      intro other member
      rcases List.mem_cons.mp member with rfl | later
      · exact unresolved
      · exact unknown other later

theorem absorb_takes {t : ThreadTranscript} (named : Named t) (absorbed : List (String × TranscriptRecord)) :
    Takes [] t (absorbed.foldl ThreadRuntime.absorbRecord t) := by
  induction absorbed generalizing t with
  | nil => exact .refl named []
  | cons first rest ih =>
    have one : Takes [] t (ThreadRuntime.absorbRecord t first) := by
      refine ThreadTranscript.updateRow_takes named first.1 _ [] (by simp) ?_
      intro row space name carries
      refine .inl ?_
      rw [← carries]
      cases space <;> rfl
    exact one.trans (ih one.named)

theorem prepend_named {s t : ThreadRuntime} (named : Named s.transcript) {entries : List ProviderTranscriptEntry}
    (built : SourceNamed entries)
    (empties : ∀ entry ∈ entries, ∀ space, entry.sourceName space = some "" → EmptyAnswers space s.transcript)
    {requestedCursor prevCursor : Option Nat} {views : List TranscriptEntryView}
    (prepended : s.prependProviderHistory entries requestedCursor prevCursor = some (t, views)) :
    Named t.transcript := by
  obtain ⟨apart, single⟩ := pageRecords_apart built requestedCursor
  obtain ⟨r, base, minted, alloc, inserted, -⟩ := prependProviderHistory_eq prepended
  obtain ⟨sub, unknown⟩ := landPage_fresh s.transcript (pageRecords entries requestedCursor) 0
  have absorbed := absorb_takes named (ThreadRuntime.landPage s.transcript (pageRecords entries requestedCursor) 0).2.1
  have same := (allocHeadOrderSeqBlock_eq alloc).1
  rw [same] at inserted
  refine (insertNumbered_takes absorbed.named (apart.sublist sub) ?_ inserted).named
  intro record member
  refine absorbed.newcomer ?_ (by simp)
  refine resolveIncoming_none named (single record (sub.subset member)) (unknown record member) ?_
  intro space carries
  obtain ⟨entry, there, its⟩ := pageRecords_names record (sub.subset member) carries
  exact empties entry there space its

end History

section Live

/-- The name `itemId` arrives in `space`; the empty name only where a row under it is found. -/
def Arrives (space : IdSpace) (itemId : String) (t : ThreadTranscript) : Prop :=
  match space with
  | .provider => itemId = "" → EmptyAnswers .provider t
  | .relay => itemId = "" → EmptyAnswers .relay t
  | .row => True

theorem liveRow_none {s : ThreadRuntime} (ok : s.transcript.Consistent) {space : IdSpace} {itemId : String}
    (unknown : s.liveRow space itemId = none) : s.transcript.resolveIn space itemId = none := by
  cases resolved : s.transcript.resolveIn space itemId with
  | none => rfl
  | some rowId =>
    exfalso
    have present : s.transcript.byRowId.has rowId = true := by
      cases space with
      | provider => exact (Option.filter_eq_some_iff.mp resolved).2
      | relay => exact (Option.filter_eq_some_iff.mp resolved).2
      | row =>
        unfold ThreadTranscript.resolveIn ThreadTranscript.resolveRow at resolved
        simp only at resolved
        split at resolved
        · rename_i here
          rw [← Option.some.inj resolved]
          exact here
        · cases resolved
    obtain ⟨index, at_id⟩ := Table.has_iff.mp present
    obtain ⟨row, at_row, -⟩ := ok.at_index at_id
    have index_of : s.transcript.indexOfRow rowId = some index := at_id
    simp [ThreadRuntime.liveRow, ThreadTranscript.resolveIndexIn, resolved, index_of, at_row] at unknown

theorem bornRecord_newcomer {t : ThreadTranscript} (named : Named t) {space : IdSpace} {itemId : String}
    (unresolved : t.resolveIn space itemId = none) (arrives : Arrives space itemId t) (kind : TranscriptEntryKind)
    (text : Option String) (status : String) (turnId : Option String) (tool : Option ToolCallView) :
    Newcomer t (ThreadRuntime.bornRecord space itemId kind text status turnId tool) := by
  intro source name carries
  cases space with
  | provider =>
    cases source with
    | provider =>
      obtain rfl := Option.some.inj (show some itemId = some name from carries)
      have unbound : t.resolveName .provider itemId = none := unresolved
      rw [named.consistent.resolveName_eq] at unbound
      exact named.vacant unbound arrives
    | relay => cases (show none = some name from carries)
  | relay =>
    cases source with
    | provider => cases (show none = some name from carries)
    | relay =>
      obtain rfl := Option.some.inj (show some itemId = some name from carries)
      have unbound : t.resolveName .relay itemId = none := unresolved
      rw [named.consistent.resolveName_eq] at unbound
      exact named.vacant unbound arrives
  | row => cases source <;> cases (show none = some name from carries)

/-- An edit that leaves the names alone. -/
theorem updateRow_sameNames {s : ThreadRuntime} (named : Named s.transcript) (rowId : String)
    {edit : TranscriptRecord → TranscriptRecord} (same : ∀ entry, SameNames (edit entry) entry) :
    Named (s.updateRow rowId edit).transcript := by
  refine (ThreadTranscript.updateRow_takes named rowId (fun entry => (edit entry, ())) [] (by simp) ?_).named
  intro row space name carries
  exact .inl ((same row space).symm.trans carries)

theorem writeLive_named {s t : ThreadRuntime} (named : Named s.transcript) (space : IdSpace) {itemId : String}
    (arrives : Arrives space itemId s.transcript) {edit : TranscriptRecord → TranscriptRecord}
    (same : ∀ entry, SameNames (edit entry) entry) {kind : TranscriptEntryKind} {text : Option String}
    {status : String} {turnId : Option String} {tool : Option ToolCallView} {revision : UInt64}
    {mutation : TranscriptMutationMeta}
    (wrote : s.writeLive space itemId edit (ThreadRuntime.bornRecord space itemId kind text status turnId tool) revision =
      some (t, mutation)) : Named t.transcript := by
  obtain ⟨⟨written, rowId, entrySeq, orderSeq⟩, write, result⟩ := Option.bind_eq_some_iff.mp wrote
  obtain ⟨rfl, -⟩ := Prod.mk.inj (Option.some.inj result)
  have first : Named written.transcript := by
    unfold ThreadRuntime.writeRow at write
    split at write
    · rename_i index row _
      obtain ⟨rfl, -⟩ := Prod.mk.inj (Option.some.inj write)
      exact updateRow_sameNames named row.rowId same
    · rename_i unknown
      obtain ⟨⟨next, id, key⟩, birth, landed⟩ := Option.map_eq_some_iff.mp write
      obtain ⟨rfl, -⟩ := Prod.mk.inj landed
      have newcomer := bornRecord_newcomer named (liveRow_none named.consistent unknown) arrives kind text status turnId tool
      exact (birthRow_takes named newcomer birth).named
  exact updateRow_sameNames (s := written.bumpRevision revision) first rowId fun entry space => by cases space <;> rfl

theorem reconcile_named {s : ThreadRuntime} (named : Named s.transcript) (providerItemId text turnId : String)
    (revision : UInt64) :
    Named (s.reconcileCodexUserReservation providerItemId text turnId revision).1.transcript := by
  unfold ThreadRuntime.reconcileCodexUserReservation
  split
  · exact named
  rename_i localId _
  have edited : Named (s.transcript.updateRow localId fun entry =>
      (ThreadRuntime.reconciledEntry text turnId entry, ())).1 :=
    updateRow_sameNames named localId fun entry space => by cases space <;> rfl
  simp only
  split
  · rename_i transcript update
    have same : (s.transcript.updateRow localId fun entry =>
      (ThreadRuntime.reconciledEntry text turnId entry, ())) = (transcript, none) := update
    rw [same] at edited
    exact edited
  · rename_i transcript _ update
    have same : (s.transcript.updateRow localId fun entry =>
      (ThreadRuntime.reconciledEntry text turnId entry, ())) = (transcript, some _) := update
    rw [same] at edited
    exact ThreadTranscript.bindName_named edited .provider localId providerItemId

end Live

theorem fromSyncData_named {entries : List ProviderTranscriptEntry} (built : SourceNamed entries)
    (once : RelayNamesOnce entries) {transcriptRevision : UInt64} {first : ThreadRuntime}
    (read : ThreadRuntime.fromSyncData entries transcriptRevision = some first) :
    Named first.transcript ∧ NamesApart first.transcript.rows ∧ ∀ row ∈ first.transcript.rows, OneName row := by
  obtain ⟨rows, -⟩ := fromSyncData_eq read
  obtain ⟨apart, single⟩ := readRecords_apart built once
  have numbered : NamesApart (numberFrom 0 orderSeqStep (readRecords entries)) :=
    .of_names (sameNames_numberFrom 0 orderSeqStep _) apart
  have named := (pushAll_takes ThreadTranscript.new_named numbered
    (fun record _ => ThreadTranscript.new_newcomer record) rows).named
  obtain ⟨placed, renamed, same_rows⟩ := pushAll_renamed ThreadTranscript.new_consistent rows
  rw [show first.transcript.rows = placed from same_rows]
  refine ⟨named, .of_names (ThreadTranscript.sameNames_renamed renamed) numbered, ?_⟩
  intro row member
  obtain ⟨record, there, same⟩ := ThreadTranscript.renamed_origin renamed member
  obtain ⟨origin, at_origin, same'⟩ := numberFrom_origin there
  exact ((single origin at_origin).of_names same').of_names same

theorem OneRowPerName.apart {t : ThreadTranscript} (one : OneRowPerName t) : NamesApart t.rows := by
  refine namesApart_of_pairwise fun space => List.pairwise_iff_getElem.mpr ?_
  intro i j at_i at_j before name left right
  have same := one.unique space i j _ _ name (List.getElem?_eq_getElem at_i) (List.getElem?_eq_getElem at_j) left right
  omega

/-- A read gives each source name one row exactly when it names no relay item twice. -/
theorem fromSyncData_oneRow_iff {entries : List ProviderTranscriptEntry} (built : SourceNamed entries)
    {transcriptRevision : UInt64} {first : ThreadRuntime}
    (read : ThreadRuntime.fromSyncData entries transcriptRevision = some first) :
    OneRowPerName first.transcript ↔ RelayNamesOnce entries := by
  constructor
  · intro one
    obtain ⟨rows, -⟩ := fromSyncData_eq read
    obtain ⟨placed, renamed, same_rows⟩ := pushAll_renamed ThreadTranscript.new_consistent rows
    have apart := one.apart
    rw [show first.transcript.rows = placed from same_rows] at apart
    have names (space : SourceSpace) : (readRecords entries).map (·.sourceName space) = placed.map (·.sourceName space) :=
      ((ThreadTranscript.sameNames_renamed renamed space).trans (sameNames_numberFrom 0 orderSeqStep _ space)).symm
    have records : NamesApart (readRecords entries) := .of_names names apart
    unfold RelayNamesOnce
    rw [← readRecords_relayNames built]
    exact records .relay
  · intro once
    exact (fromSyncData_named built once read).1.oneRowPerName

/-- The records a history merge is given: the rows of a runtime built from a read that names
no relay item twice. -/
def ReadOnce (records : List TranscriptRecord) : Prop :=
  ∃ entries transcriptRevision fresh, SourceNamed entries ∧ RelayNamesOnce entries ∧
    ThreadRuntime.fromSyncData entries transcriptRevision = some fresh ∧ records = fresh.transcript.rows

/-- A call whose read names no relay item twice, and that brings in the empty name only where
a row that carries it is found under it. -/
def RuntimeCall.NamesOnce (s : ThreadRuntime) : RuntimeCall → Prop
  | .upsert itemId space _ _ _ _ _ _ => Arrives space itemId s.transcript
  | .agentDelta space itemId _ _ _ => Arrives space itemId s.transcript
  | .commandDelta itemId _ _ => Arrives .provider itemId s.transcript
  | .prependPage entries _ _ => SourceNamed entries ∧
      ∀ entry ∈ entries, ∀ space, entry.sourceName space = some "" → EmptyAnswers space s.transcript
  | .mergeHistory records _ => ReadOnce records ∧
      ∀ record ∈ records, ∀ space, record.sourceName space = some "" → EmptyAnswers space s.transcript
  | _ => True

theorem RuntimeCall.run_named {s t : ThreadRuntime} (named : Named s.transcript) {c : RuntimeCall}
    (once : c.NamesOnce s) (step : c.run s = some t) : Named t.transcript := by
  cases c with
  | upsert itemId space kind text status turnId tool revision =>
    obtain ⟨⟨next, mutation⟩, wrote, rfl⟩ := Option.map_eq_some_iff.mp step
    exact writeLive_named named _ once (fun entry space => by cases space <;> rfl) wrote
  | agentDelta space itemId delta turnId revision =>
    obtain ⟨⟨next, mutation⟩, appended, rfl⟩ := Option.map_eq_some_iff.mp step
    obtain ⟨⟨next', mutation'⟩, wrote, result⟩ := Option.bind_eq_some_iff.mp appended
    obtain ⟨rfl, -⟩ := Prod.mk.inj (Option.some.inj result)
    exact writeLive_named named _ once (fun entry space => by cases space <;> rfl) wrote
  | commandDelta itemId delta revision =>
    obtain ⟨⟨next, mutation⟩, appended, rfl⟩ := Option.map_eq_some_iff.mp step
    obtain ⟨⟨next', mutation'⟩, wrote, result⟩ := Option.bind_eq_some_iff.mp appended
    obtain ⟨rfl, -⟩ := Prod.mk.inj (Option.some.inj result)
    exact writeLive_named named .provider once (fun entry space => by cases space <;> rfl) wrote
  | prependPage entries requestedCursor prevCursor =>
    obtain ⟨⟨next, views⟩, prepended, rfl⟩ := Option.map_eq_some_iff.mp step
    exact prepend_named named once.1 once.2 prepended
  | mergeHistory records readStartedAtRevision =>
    obtain ⟨⟨next, changed⟩, merged, rfl⟩ := Option.map_eq_some_iff.mp step
    obtain ⟨⟨entries, revision, fresh, built, relay_once, read, rfl⟩, empties⟩ := once
    obtain ⟨-, apart, single⟩ := fromSyncData_named built relay_once read
    exact mergeHistory_named named apart single empties merged
  | reconcile providerItemId text turnId revision =>
    obtain rfl := Option.some.inj step
    exact reconcile_named named providerItemId text turnId revision
  | beginCodex generation threadId text revision =>
    obtain ⟨⟨next, answer⟩, began, rfl⟩ := Option.map_eq_some_iff.mp step
    unfold ThreadRuntime.beginCodexUserTurn at began
    split at began
    · obtain ⟨rfl, -⟩ := Prod.mk.inj (Option.some.inj began)
      exact named
    split at began
    · obtain ⟨rfl, -⟩ := Prod.mk.inj (Option.some.inj began)
      exact named
    obtain ⟨⟨written, mutation⟩, wrote, result⟩ := Option.bind_eq_some_iff.mp began
    obtain ⟨rfl, -⟩ := Prod.mk.inj (Option.some.inj result)
    have reserved : Named written.transcript :=
      writeLive_named (s := { s with codexUserReservationSeq := saturatingAdd s.codexUserReservationSeq 1 })
        named .row trivial (fun entry space => by cases space <;> rfl) wrote
    exact reserved
  | bindCodex reservationId turnId revision =>
    obtain rfl := Option.some.inj step
    unfold ThreadRuntime.bindCodexUserReservation
    split
    · exact named
    split
    · exact named
    · exact updateRow_sameNames named reservationId fun entry space => by cases space <;> rfl
  | failCodex reservationId revision =>
    obtain rfl := Option.some.inj step
    unfold ThreadRuntime.failCodexUserTurnDefinitive
    split
    · exact named
    split
    · exact named
    · refine ThreadTranscript.updateAll_named named ?_ ()
      intro state entry space
      dsimp only
      split
      · cases space <;> rfl
      · rfl
  | finishCodex turnId =>
    obtain rfl := Option.some.inj step
    unfold ThreadRuntime.finishCodexStartReservation
    split <;> exact named
  | setActiveTurn turnId =>
    obtain rfl := Option.some.inj step
    exact named

/-- A source name never names two rows, in every state of a run that starts with an empty
thread or a read, while no read names a relay item twice and the empty name is not doubled. -/
theorem source_name_names_one_row {first last : ThreadRuntime}
    (start : (∃ transcriptRevision, first = ThreadRuntime.new transcriptRevision) ∨
      ∃ entries transcriptRevision, SourceNamed entries ∧ RelayNamesOnce entries ∧
        ThreadRuntime.fromSyncData entries transcriptRevision = some first)
    (run : RuntimeRun RuntimeCall.NamesOnce first last) : OneRowPerName last.transcript := by
  have at_start : Named first.transcript := by
    rcases start with ⟨transcriptRevision, rfl⟩ | ⟨entries, transcriptRevision, built, once, read⟩
    · exact ThreadTranscript.new_named
    · exact (fromSyncData_named built once read).1
  have named : Named last.transcript :=
    run.induct at_start fun _ _ _ so_far once step => RuntimeCall.run_named so_far once step
  exact named.oneRowPerName

def turnError : ProviderTranscriptEntry :=
  .relayNamed (plainEntry (some "turn-error:unknown"))

/-- A read that names a relay item twice leaves two rows under the one name. -/
theorem twice_named_relay_item_makes_two_rows :
    SourceNamed [turnError, turnError] ∧
    ∃ first, ThreadRuntime.fromSyncData [turnError, turnError] 0 = some first ∧
      first.transcript.rows.map (·.relayItemId) = [some "turn-error:unknown", some "turn-error:unknown"] ∧
      ¬OneRowPerName first.transcript := by
  refine ⟨?_, _, rfl, rfl, ?_⟩
  · intro entry member
    obtain rfl : entry = turnError := by simpa using member
    exact ⟨plainEntry (some "turn-error:unknown"), .inr rfl⟩
  · intro one
    have same := one.unique .relay 0 1 _ _ "turn-error:unknown" rfl rfl rfl rfl
    cases same

/-- A thread read with a provider item and a relay item of one spelling, then written live. -/
theorem one_spelling_in_two_spaces :
    ∃ first last, ThreadRuntime.fromSyncData
        [.providerNamed (plainEntry (some "x")), .relayNamed (plainEntry (some "x"))] 0 = some first ∧
      RuntimeCall.run first (.upsert "x" .relay .agentText (some "late") "completed" none none 1) = some last ∧
      last.transcript.rows.map (·.rowId) = ["x", "x#row1"] ∧ OneRowPerName last.transcript := by
  obtain ⟨first, read, last, step, ids⟩ : ∃ first, ThreadRuntime.fromSyncData
        [.providerNamed (plainEntry (some "x")), .relayNamed (plainEntry (some "x"))] 0 = some first ∧ ∃ last,
      RuntimeCall.run first (.upsert "x" .relay .agentText (some "late") "completed" none none 1) = some last ∧
      last.transcript.rows.map (·.rowId) = ["x", "x#row1"] := ⟨_, rfl, _, rfl, rfl⟩
  have built : SourceNamed [.providerNamed (plainEntry (some "x")), .relayNamed (plainEntry (some "x"))] := by
    intro entry member
    exact ⟨plainEntry (some "x"), by simpa using member⟩
  have once : RelayNamesOnce [.providerNamed (plainEntry (some "x")), .relayNamed (plainEntry (some "x"))] := by
    show ["x"].Nodup
    decide
  have arrives : RuntimeCall.NamesOnce first
      (.upsert "x" .relay .agentText (some "late") "completed" none none 1) :=
    fun empty => absurd empty (by decide)
  exact ⟨first, last, read, step, ids,
    source_name_names_one_row (.inr ⟨_, _, built, once, read⟩) (.next .start arrives step)⟩

end Sealwire.Transcript

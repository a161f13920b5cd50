import Sealwire.Transcript.Runtime
import Sealwire.Transcript.StoreNames

namespace Sealwire.Transcript

/-- A record named in one space at most, as every entry of a read is. -/
def OneName (record : TranscriptRecord) : Prop :=
  record.providerItemId = none ∨ record.relayItemId = none

/-- The entries of a read, built by `providerNamed` or `relayNamed`. -/
def SourceNamed (entries : List ProviderTranscriptEntry) : Prop :=
  ∀ entry ∈ entries, ∃ view, entry = .providerNamed view ∨ entry = .relayNamed view

def ProviderTranscriptEntry.sourceName (space : SourceSpace) (entry : ProviderTranscriptEntry) : Option String :=
  match space with
  | .provider => entry.providerItemId
  | .relay => entry.relayItemId

/-- No two entries of the read carry one relay item id. -/
def RelayNamesOnce (entries : List ProviderTranscriptEntry) : Prop :=
  (entries.filterMap (·.relayItemId)).Nodup

theorem OneName.of_names {a b : TranscriptRecord} (same : SameNames a b) (one : OneName b) : OneName a := by
  rcases one with none | none
  · exact .inl ((same .provider).trans none)
  · exact .inr ((same .relay).trans none)

theorem recordOfEntry_oneName {entry : ProviderTranscriptEntry} {view : TranscriptEntryView}
    (built : entry = .providerNamed view ∨ entry = .relayNamed view) (rowId : String) :
    OneName (recordOfEntry entry rowId) := by
  rcases built with rfl | rfl
  · exact .inr rfl
  · exact .inl rfl

theorem mergeRuntimeEntry_rowId (existing incoming : TranscriptRecord) :
    (mergeRuntimeEntry existing incoming).1.rowId = existing.rowId := by
  unfold mergeRuntimeEntry mergeRuntimeEntryBody
  dsimp only
  split
  · rfl
  split
  · rfl
  generalize (if existing.lastLiveUpsertRevision.isSome
    then existing.turnId.or incoming.turnId else incoming.turnId.or existing.turnId) = mergedTurnId
  split <;> rfl

/-- Merging a copy into a row keeps the row's names, or takes the copy's where it has one. -/
theorem mergeRuntimeEntry_names (existing incoming : TranscriptRecord) (space : SourceSpace) :
    (mergeRuntimeEntry existing incoming).1.sourceName space = existing.sourceName space ∨
      (mergeRuntimeEntry existing incoming).1.sourceName space =
        (incoming.sourceName space).or (existing.sourceName space) := by
  unfold mergeRuntimeEntry mergeRuntimeEntryBody
  dsimp only
  split
  · exact .inl (by cases space <;> rfl)
  split
  · exact .inl (by cases space <;> rfl)
  generalize (if existing.lastLiveUpsertRevision.isSome
    then existing.turnId.or incoming.turnId else incoming.turnId.or existing.turnId) = mergedTurnId
  split
  · exact .inr (by cases space <;> rfl)
  · exact .inl (by cases space <;> rfl)

theorem mergeRuntimeEntry_sameNames {existing incoming : TranscriptRecord} (same : SameNames existing incoming) :
    SameNames (mergeRuntimeEntry existing incoming).1 existing := by
  intro space
  rcases mergeRuntimeEntry_names existing incoming space with kept | merged
  · exact kept
  · rw [merged, ← same space]
    exact Option.or_self

section ByKey

variable {K : Type} [DecidableEq K] {key : TranscriptRecord → Option K}

/-- A key under which two records of one key carry the same names, and that looks at the
names and the row id only. -/
structure NameKey (key : TranscriptRecord → Option K) : Prop where
  agree : ∀ a b k, OneName a → OneName b → key a = some k → key b = some k → SameNames a b
  follows : ∀ a b, SameNames a b → a.rowId = b.rowId → key a = key b

/-- The first record of each key is kept, at the index the table has for it. -/
structure Keyed (key : TranscriptRecord → Option K) (seen : Table K Nat × List TranscriptRecord) : Prop where
  placed : ∀ k i, seen.1.get k = some i → ∃ record, seen.2[i]? = some record ∧ key record = some k
  indexed : ∀ i record k, seen.2[i]? = some record → key record = some k → seen.1.get k = some i
  single : ∀ record ∈ seen.2, OneName record

omit [DecidableEq K] in
theorem merged_follows (named : NameKey key) {existing incoming : TranscriptRecord} {k : K} (left : OneName existing)
    (right : OneName incoming) (at_existing : key existing = some k) (at_incoming : key incoming = some k) :
    SameNames (mergeRuntimeEntry existing incoming).1 existing ∧
      key (mergeRuntimeEntry existing incoming).1 = some k := by
  have names := mergeRuntimeEntry_sameNames (named.agree existing incoming k left right at_existing at_incoming)
  exact ⟨names, (named.follows _ _ names (mergeRuntimeEntry_rowId existing incoming)).trans at_existing⟩

theorem mergeByKey_found {seen : Table K Nat × List TranscriptRecord} {record : TranscriptRecord} {k : K} {i : Nat}
    (at_record : key record = some k) (held : seen.1.get k = some i) :
    mergeByKey key seen record =
      (seen.1, seen.2.modify i fun existing => (mergeRuntimeEntry existing record).1) := by
  simp [mergeByKey, at_record, held]

theorem mergeByKey_keyed (named : NameKey key) {seen : Table K Nat × List TranscriptRecord} (keyed : Keyed key seen)
    {record : TranscriptRecord} (one : OneName record) : Keyed key (mergeByKey key seen record) := by
  cases found : (key record).bind seen.1.get with
  | some kept =>
    obtain ⟨k, at_record, held⟩ := Option.bind_eq_some_iff.mp found
    obtain ⟨first, at_kept, at_first⟩ := keyed.placed k kept held
    have first_one := keyed.single first (List.mem_of_getElem? at_kept)
    obtain ⟨names, at_merged⟩ := merged_follows named first_one one at_first at_record
    rw [mergeByKey_found at_record held]
    have modified (i : Nat) : (seen.2.modify kept fun existing => (mergeRuntimeEntry existing record).1)[i]? =
        if kept = i then some (mergeRuntimeEntry first record).1 else seen.2[i]? := by
      rw [List.getElem?_modify]
      split
      · rename_i here
        subst here
        rw [at_kept]
        rfl
      · simp
    refine ⟨?_, ?_, ?_⟩
    · intro k' i at_k
      obtain ⟨other, at_i, at_other⟩ := keyed.placed k' i at_k
      rw [modified]
      split
      · rename_i here
        subst here
        obtain rfl := Option.some.inj (at_kept.symm.trans at_i)
        exact ⟨_, rfl, at_merged.trans (at_first.symm.trans at_other)⟩
      · exact ⟨other, at_i, at_other⟩
    · intro i other k' at_i at_other
      rw [modified] at at_i
      split at at_i
      · rename_i here
        subst here
        obtain rfl := Option.some.inj at_i
        obtain rfl := Option.some.inj (at_merged.symm.trans at_other)
        exact held
      · exact keyed.indexed i other k' at_i at_other
    · intro other member
      obtain ⟨i, at_i⟩ := List.mem_iff_getElem?.mp member
      rw [modified] at at_i
      split at at_i
      · obtain rfl := Option.some.inj at_i
        exact first_one.of_names names
      · exact keyed.single other (List.mem_of_getElem? at_i)
  | none =>
    have appended (i : Nat) (other : TranscriptRecord) (at_i : (seen.2 ++ [record])[i]? = some other) :
        seen.2[i]? = some other ∨ i = seen.2.length ∧ other = record := by
      rw [List.getElem?_append] at at_i
      split at at_i
      · exact .inl at_i
      · rename_i past
        have last : i - seen.2.length = 0 := by
          have bound := (List.getElem?_eq_some_iff.mp at_i).1
          simp only [List.length_singleton] at bound
          omega
        rw [last] at at_i
        exact .inr ⟨by omega, (Option.some.inj at_i).symm⟩
    have singles (other : TranscriptRecord) (member : other ∈ seen.2 ++ [record]) : OneName other := by
      rcases List.mem_append.mp member with old | new
      · exact keyed.single other old
      · rw [List.mem_singleton.mp new]
        exact one
    have within {i : Nat} {other : TranscriptRecord} (at_i : seen.2[i]? = some other) :
        (seen.2 ++ [record])[i]? = some other := by
      rw [List.getElem?_append_left (List.getElem?_eq_some_iff.mp at_i).1]
      exact at_i
    unfold mergeByKey
    simp only [found]
    cases at_record : key record with
    | none =>
      refine ⟨?_, ?_, singles⟩
      · intro k i at_k
        obtain ⟨other, at_i, at_other⟩ := keyed.placed k i at_k
        exact ⟨other, within at_i, at_other⟩
      · intro i other k at_i at_other
        rcases appended i other at_i with old | ⟨-, rfl⟩
        · exact keyed.indexed i other k old at_other
        · rw [at_record] at at_other
          cases at_other
    | some k =>
      have absent : seen.1.get k = none := by
        rw [at_record] at found
        exact found
      refine ⟨?_, ?_, singles⟩
      · intro k' i at_k
        simp only [Table.get_put] at at_k
        split at at_k
        · rename_i here
          subst here
          obtain rfl := Option.some.inj at_k
          exact ⟨record, by simp, at_record⟩
        · obtain ⟨other, at_i, at_other⟩ := keyed.placed k' i at_k
          exact ⟨other, within at_i, at_other⟩
      · intro i other k' at_i at_other
        simp only [Table.get_put]
        rcases appended i other at_i with old | ⟨rfl, rfl⟩
        · have held := keyed.indexed i other k' old at_other
          split
          · rename_i here
            subst here
            rw [absent] at held
            cases held
          · exact held
        · obtain rfl := Option.some.inj (at_record.symm.trans at_other)
          simp

theorem mergeAll_keyed (named : NameKey key) {records : List TranscriptRecord} (single : ∀ r ∈ records, OneName r)
    {seen : Table K Nat × List TranscriptRecord} (keyed : Keyed key seen) :
    Keyed key (records.foldl (mergeByKey key) seen) := by
  induction records generalizing seen with
  | nil => exact keyed
  | cons record rest ih =>
    refine ih (fun r member => single r (List.mem_cons_of_mem _ member)) ?_
    exact mergeByKey_keyed named keyed (single record List.mem_cons_self)

theorem empty_keyed : Keyed key ((∅ : Table K Nat), []) where
  placed := by
    intro k i held
    rw [Table.get_empty] at held
    cases held
  indexed := by
    intro i record k at_i
    simp at at_i
  single := by
    intro record member
    cases member

theorem Keyed.pairwise {seen : Table K Nat × List TranscriptRecord} (keyed : Keyed key seen) :
    seen.2.Pairwise fun a b => ∀ k, key a = some k → key b ≠ some k := by
  rw [List.pairwise_iff_getElem]
  intro i j at_i at_j before k left right
  have first := keyed.indexed i _ k (List.getElem?_eq_getElem at_i) left
  have second := keyed.indexed j _ k (List.getElem?_eq_getElem at_j) right
  have same := Option.some.inj (first.symm.trans second)
  omega

/-- Names of a space that all keyed records lack are those of the records given. -/
theorem mergeAll_otherNames (named : NameKey key) (space : SourceSpace)
    (lacks : ∀ record k, OneName record → key record = some k → record.sourceName space = none)
    {records : List TranscriptRecord} (single : ∀ r ∈ records, OneName r)
    {seen : Table K Nat × List TranscriptRecord} (keyed : Keyed key seen) :
    (records.foldl (mergeByKey key) seen).2.filterMap (·.sourceName space) =
      seen.2.filterMap (·.sourceName space) ++ records.filterMap (·.sourceName space) := by
  induction records generalizing seen with
  | nil => simp
  | cons record rest ih =>
    have one := single record List.mem_cons_self
    have step : (mergeByKey key seen record).2.filterMap (·.sourceName space) =
        seen.2.filterMap (·.sourceName space) ++ [record].filterMap (·.sourceName space) := by
      cases found : (key record).bind seen.1.get with
      | some kept =>
        obtain ⟨k, at_record, held⟩ := Option.bind_eq_some_iff.mp found
        obtain ⟨first, at_kept, at_first⟩ := keyed.placed k kept held
        have first_one := keyed.single first (List.mem_of_getElem? at_kept)
        obtain ⟨names, -⟩ := merged_follows named first_one one at_first at_record
        obtain ⟨bound, here⟩ := List.getElem?_eq_some_iff.mp at_kept
        have same : (seen.2.modify kept fun existing => (mergeRuntimeEntry existing record).1).map
            (·.sourceName space) = seen.2.map (·.sourceName space) := by
          rw [List.modify_eq_set_getElem?]
          simp only [at_kept, Option.map_eq_map, Option.map_some, Option.getD_some]
          rw [List.map_set, names space, ← here,
            ← List.getElem_map fun record : TranscriptRecord => record.sourceName space, List.set_getElem_self]
          simpa using bound
        have filtered := congrArg (List.filterMap id) same
        rw [mergeByKey_found at_record held]
        simpa [List.filterMap_map, lacks record k one at_record] using filtered
      | none =>
        unfold mergeByKey
        simp only [found, List.filterMap_append]
    rw [List.foldl_cons, ih (fun r member => single r (List.mem_cons_of_mem _ member)) (mergeByKey_keyed named keyed one),
      step, List.append_assoc, ← List.filterMap_append, List.singleton_append]

theorem mergeByKey_all {holds : TranscriptRecord → Prop}
    (merges : ∀ a b, holds a → holds b → holds (mergeRuntimeEntry a b).1) {seen : Table K Nat × List TranscriptRecord}
    (before : ∀ r ∈ seen.2, holds r) {record : TranscriptRecord} (here : holds record) :
    ∀ r ∈ (mergeByKey key seen record).2, holds r := by
  intro r member
  unfold mergeByKey at member
  split at member
  · rename_i kept _
    obtain ⟨i, at_i⟩ := List.mem_iff_getElem?.mp member
    rw [List.getElem?_modify] at at_i
    obtain ⟨old, at_old, same⟩ := Option.map_eq_some_iff.mp at_i
    have held := before old (List.mem_of_getElem? at_old)
    split at same
    · rw [← same]
      exact merges old record held here
    · rw [← same]
      exact held
  · rcases List.mem_append.mp member with old | new
    · exact before r old
    · rw [List.mem_singleton.mp new]
      exact here

theorem mergeAll_all {holds : TranscriptRecord → Prop}
    (merges : ∀ a b, holds a → holds b → holds (mergeRuntimeEntry a b).1) {records : List TranscriptRecord}
    (given : ∀ r ∈ records, holds r) {seen : Table K Nat × List TranscriptRecord} (before : ∀ r ∈ seen.2, holds r) :
    ∀ r ∈ (records.foldl (mergeByKey key) seen).2, holds r := by
  induction records generalizing seen with
  | nil => exact before
  | cons record rest ih =>
    refine ih (fun r member => given r (List.mem_cons_of_mem _ member)) ?_
    exact mergeByKey_all merges before (given record List.mem_cons_self)

end ByKey

theorem providerKey : NameKey fun record : TranscriptRecord => record.providerItemId where
  agree := by
    intro a b k one one' at_a at_b space
    cases space with
    | provider => exact at_a.trans at_b.symm
    | relay =>
      have left : a.relayItemId = none := one.resolve_left (by simp [at_a])
      have right : b.relayItemId = none := one'.resolve_left (by simp [at_b])
      exact left.trans right.symm
  follows := fun _ _ names _ => names .provider

theorem PageIdentity.of_eq_provider {record : TranscriptRecord} {name : String} :
    PageIdentity.of record = .provider name ↔ record.providerItemId = some name := by
  unfold PageIdentity.of
  cases record.providerItemId <;> cases record.relayItemId <;> simp

theorem PageIdentity.of_eq_relay {record : TranscriptRecord} {name : String} :
    PageIdentity.of record = .relay name ↔ record.providerItemId = none ∧ record.relayItemId = some name := by
  unfold PageIdentity.of
  cases record.providerItemId <;> cases record.relayItemId <;> simp

theorem PageIdentity.of_eq_row {record : TranscriptRecord} {rowId : String} :
    PageIdentity.of record = .row rowId ↔
      record.providerItemId = none ∧ record.relayItemId = none ∧ record.rowId = rowId := by
  unfold PageIdentity.of
  cases record.providerItemId <;> cases record.relayItemId <;> simp

theorem pageKey : NameKey fun record : TranscriptRecord => some (PageIdentity.of record) where
  agree := by
    intro a b k one one' at_a at_b space
    have left := Option.some.inj at_a
    have right := Option.some.inj at_b
    cases k with
    | provider name =>
      rw [PageIdentity.of_eq_provider] at left right
      have same := providerKey.agree a b name one one' left right
      exact same space
    | relay name =>
      rw [PageIdentity.of_eq_relay] at left right
      cases space with
      | provider => exact left.1.trans right.1.symm
      | relay => exact left.2.trans right.2.symm
    | row rowId =>
      rw [PageIdentity.of_eq_row] at left right
      cases space with
      | provider => exact left.1.trans right.1.symm
      | relay => exact left.2.1.trans right.2.1.symm
  follows := by
    intro a b names rowId
    have provider : a.providerItemId = b.providerItemId := names .provider
    have relay : a.relayItemId = b.relayItemId := names .relay
    unfold PageIdentity.of
    rw [provider, relay, rowId]

theorem entries_single {entries : List ProviderTranscriptEntry} (built : SourceNamed entries)
    (rowId : Nat → String) :
    ∀ record ∈ entries.zipIdx.map fun entry => recordOfEntry entry.1 (rowId entry.2), OneName record := by
  intro record member
  obtain ⟨⟨entry, index⟩, there, rfl⟩ := List.mem_map.mp member
  obtain ⟨view, source⟩ := built entry (List.fst_mem_of_mem_zipIdx there)
  exact recordOfEntry_oneName source _

/-- The records of a page carry no name twice: the page is deduplicated in all three spaces. -/
theorem dedupePage_apart {entries : List ProviderTranscriptEntry} (built : SourceNamed entries)
    (rowId : Nat → String) :
    let records := dedupePage (entries.zipIdx.map fun entry => recordOfEntry entry.1 (rowId entry.2))
    NamesApart records ∧ ∀ record ∈ records, OneName record := by
  have keyed := mergeAll_keyed pageKey (entries_single built rowId) empty_keyed
  refine ⟨namesApart_of_pairwise ?_, keyed.single⟩
  intro space
  refine keyed.pairwise.imp_of_mem ?_
  intro a b left right differ name at_a at_b
  cases space with
  | provider =>
    refine differ (.provider name) ?_ ?_
    · rw [PageIdentity.of_eq_provider.mpr at_a]
    · rw [PageIdentity.of_eq_provider.mpr at_b]
  | relay =>
    have at_a : a.relayItemId = some name := at_a
    have at_b : b.relayItemId = some name := at_b
    have none_a : a.providerItemId = none := (keyed.single a left).resolve_right (by simp [at_a])
    have none_b : b.providerItemId = none := (keyed.single b right).resolve_right (by simp [at_b])
    refine differ (.relay name) ?_ ?_
    · rw [PageIdentity.of_eq_relay.mpr ⟨none_a, at_a⟩]
    · rw [PageIdentity.of_eq_relay.mpr ⟨none_b, at_b⟩]

theorem pageRecords_apart {entries : List ProviderTranscriptEntry} (built : SourceNamed entries)
    (requestedCursor : Option Nat) :
    NamesApart (pageRecords entries requestedCursor) ∧ ∀ record ∈ pageRecords entries requestedCursor, OneName record := by
  cases requestedCursor with
  | none => exact dedupePage_apart built fun index => "provider-history-" ++ "tail" ++ "-" ++ index.repr
  | some cursor => exact dedupePage_apart built fun index => "provider-history-" ++ cursor.repr ++ "-" ++ index.repr

/-- A name on a record of a page is the name of an entry. -/
theorem pageRecords_names {entries : List ProviderTranscriptEntry} {requestedCursor : Option Nat} {space : SourceSpace}
    {name : String} : ∀ record ∈ pageRecords entries requestedCursor, record.sourceName space = some name →
      ∃ entry ∈ entries, entry.sourceName space = some name := by
  unfold pageRecords dedupePage
  refine mergeAll_all ?_ ?_ (by simp)
  · intro a b of_a of_b carries
    rcases mergeRuntimeEntry_names a b space with kept | merged
    · exact of_a (kept.symm.trans carries)
    · rw [merged, Option.or_eq_some_iff] at carries
      exact carries.elim of_b fun own => of_a own.2
  · intro record member carries
    obtain ⟨⟨entry, index⟩, there, rfl⟩ := List.mem_map.mp member
    refine ⟨entry, List.fst_mem_of_mem_zipIdx there, ?_⟩
    rw [← carries]
    cases space <;> rfl

/-- A whole read is deduplicated by provider name only: its relay names all come through. -/
theorem readRecords_relayNames {entries : List ProviderTranscriptEntry} (built : SourceNamed entries) :
    (readRecords entries).filterMap (·.sourceName .relay) = entries.filterMap (·.relayItemId) := by
  unfold readRecords mergeDuplicateProviderRows
  have names := mergeAll_otherNames providerKey .relay
    (fun record k one at_record => one.resolve_left (by simp [at_record]))
    (entries_single built fun index => "history-" ++ index.repr) empty_keyed
  rw [names, List.filterMap_nil, List.nil_append, List.filterMap_map]
  have unindexed : (entries.zipIdx.map Prod.fst).filterMap (·.relayItemId) = entries.filterMap (·.relayItemId) := by
    rw [List.zipIdx_map_fst]
  rw [← unindexed, List.filterMap_map]
  rfl

/-- So the names of its records are apart where the read names no relay item twice. -/
theorem readRecords_apart {entries : List ProviderTranscriptEntry} (built : SourceNamed entries)
    (once : RelayNamesOnce entries) :
    NamesApart (readRecords entries) ∧ ∀ record ∈ readRecords entries, OneName record := by
  have single := entries_single built fun index => "history-" ++ index.repr
  have keyed := mergeAll_keyed providerKey single empty_keyed
  refine ⟨?_, keyed.single⟩
  intro space
  cases space with
  | provider =>
    rw [List.Nodup, List.pairwise_filterMap]
    refine keyed.pairwise.imp ?_
    rintro a b differ name left other right rfl
    exact differ name left right
  | relay =>
    rw [readRecords_relayNames built]
    exact once

end Sealwire.Transcript

import Sealwire.Transcript.StoreInvariant

namespace Sealwire.Transcript

/-- A batch in which no source name is carried twice. -/
def NamesApart (records : List TranscriptRecord) : Prop :=
  ∀ space, (records.filterMap (·.sourceName space)).Nodup

/-- `a` carries just the names `b` carries. -/
def SameNames (a b : TranscriptRecord) : Prop :=
  ∀ space, a.sourceName space = b.sourceName space

theorem sameNames_setRowId (record : TranscriptRecord) (rowId : String) :
    SameNames { record with rowId := rowId } record := by
  intro space
  cases space <;> rfl

theorem sameNames_setOrderSeq (record : TranscriptRecord) (orderSeq : Int) :
    SameNames { record with orderSeq := orderSeq } record := by
  intro space
  cases space <;> rfl

theorem sourceName_restore (identity : RowIdentity) (record : TranscriptRecord) :
    SameNames (identity.restore record) record := by
  intro space
  cases space <;> rfl

theorem sourceName_setSourceName_self (space : SourceSpace) (record : TranscriptRecord) (name : Option String) :
    (record.setSourceName space name).sourceName space = name := by
  cases space <;> rfl

theorem sourceName_setSourceName_ne {space other : SourceSpace} (ne : other ≠ space) (record : TranscriptRecord)
    (name : Option String) : (record.setSourceName space name).sourceName other = record.sourceName other := by
  cases space <;> cases other <;> first | rfl | exact absurd rfl ne

theorem NamesApart.pairwise {records : List TranscriptRecord} (apart : NamesApart records) (space : SourceSpace) :
    records.Pairwise fun a b => ∀ name, a.sourceName space = some name → b.sourceName space ≠ some name := by
  have nodup := apart space
  rw [List.Nodup, List.pairwise_filterMap] at nodup
  refine nodup.imp ?_
  intro a b differ name left right
  exact differ name left name right rfl

theorem namesApart_of_pairwise {records : List TranscriptRecord}
    (apart : ∀ space, records.Pairwise fun a b => ∀ name, a.sourceName space = some name →
      b.sourceName space ≠ some name) : NamesApart records := by
  intro space
  rw [List.Nodup, List.pairwise_filterMap]
  refine (apart space).imp ?_
  rintro a b differ name left other right rfl
  exact differ name left right

theorem NamesApart.same {records : List TranscriptRecord} (apart : NamesApart records) {space : SourceSpace}
    {a b : TranscriptRecord} {name : String} (left : a ∈ records) (right : b ∈ records)
    (at_a : a.sourceName space = some name) (at_b : b.sourceName space = some name) : a = b := by
  by_contra differ
  have symmetric : Std.Symm fun a b : TranscriptRecord =>
      ∀ name, a.sourceName space = some name → b.sourceName space ≠ some name :=
    ⟨fun _ _ differ name left right => differ name right left⟩
  exact (apart.pairwise space).forall left right differ name at_a at_b

theorem NamesApart.of_names {a b : List TranscriptRecord}
    (same : ∀ space, a.map (·.sourceName space) = b.map (·.sourceName space)) (apart : NamesApart b) : NamesApart a := by
  intro space
  have names : a.filterMap (·.sourceName space) = b.filterMap (·.sourceName space) := by
    have both := congrArg (List.filterMap id) (same space)
    simpa [List.filterMap_map] using both
  rw [names]
  exact apart space

theorem NamesApart.sublist {a b : List TranscriptRecord} (apart : NamesApart b) (sub : a.Sublist b) : NamesApart a :=
  fun space => (apart space).sublist (sub.filterMap _)

namespace ThreadTranscript

/-- A source name names at most one row, and a row that carries one is found under it. The
binders refuse the empty name, so only `reindex` may record it. -/
structure Named (t : ThreadTranscript) : Prop where
  consistent : t.Consistent
  unique : ∀ space, ∀ a ∈ t.rows, ∀ b ∈ t.rows, ∀ name,
    a.sourceName space = some name → b.sourceName space = some name → a.rowId = b.rowId
  found : ∀ space, ∀ row ∈ t.rows, ∀ name, row.sourceName space = some name →
    (t.names space).get name = some row.rowId ∨ name = "" ∧ (t.names space).get name = none

/-- Nothing goes by this name. -/
structure Vacant (space : SourceSpace) (t : ThreadTranscript) (name : String) : Prop where
  unbound : (t.names space).get name = none
  uncarried : ∀ row ∈ t.rows, row.sourceName space ≠ some name

/-- Every name the record carries is free. -/
def Newcomer (t : ThreadTranscript) (record : TranscriptRecord) : Prop :=
  ∀ space name, record.sourceName space = some name → Vacant space t name

/-- A row under the empty name, if there is one, is found under it. -/
def EmptyAnswers (space : SourceSpace) (t : ThreadTranscript) : Prop :=
  (t.names space).get "" = none → ∀ row ∈ t.rows, row.sourceName space ≠ some ""

theorem new_named : Named new where
  consistent := new_consistent
  unique := by
    intro space a member
    cases member
  found := by
    intro space row member
    cases member

theorem new_newcomer (record : TranscriptRecord) : Newcomer new record := by
  intro space name _
  refine ⟨?_, ?_⟩
  · cases space <;> exact Table.get_empty name
  · intro row member
    cases member

theorem Newcomer.of_names {t : ThreadTranscript} {a b : TranscriptRecord} (same : SameNames a b)
    (newcomer : Newcomer t b) : Newcomer t a := by
  intro space name carries
  rw [same space] at carries
  exact newcomer space name carries

theorem Named.vacant {t : ThreadTranscript} (named : Named t) {space : SourceSpace} {name : String}
    (unbound : (t.names space).get name = none) (empty : name = "" → EmptyAnswers space t) : Vacant space t name := by
  refine ⟨unbound, ?_⟩
  intro row member carries
  rcases named.found space row member name carries with bound | ⟨rfl, -⟩
  · rw [unbound] at bound
    cases bound
  · exact empty rfl unbound row member carries

theorem Consistent.resolveName_eq {t : ThreadTranscript} (ok : t.Consistent) (space : SourceSpace) (name : String) :
    t.resolveName space name = (t.names space).get name := by
  unfold resolveName
  cases bound : (t.names space).get name with
  | none => rfl
  | some id => simp [Option.filter, ok.has_of_names bound]

/-- What births leave behind: rows that were there under the names they carried, and the
placed block, whose names were free. -/
theorem Named.born {t u : ThreadTranscript} {placed : List TranscriptRecord} (named : Named t)
    (consistent : u.Consistent)
    (rows : ∀ row ∈ u.rows, (∃ old ∈ t.rows, old.rowId = row.rowId ∧ SameNames row old) ∨ row ∈ placed)
    (apart : NamesApart placed) (newcomers : ∀ row ∈ placed, Newcomer t row)
    (held : ∀ space name id, (t.names space).get name = some id → (u.names space).get name = some id)
    (origin : ∀ space name id, (u.names space).get name = some id → (t.names space).get name = some id ∨
      ∃ row ∈ u.rows, row.sourceName space = some name ∧ row.rowId = id)
    (bound : ∀ space, ∀ row ∈ placed, ∀ name, row.sourceName space = some name → name ≠ "" →
      (u.names space).get name ≠ none) : Named u := by
  have unique (space : SourceSpace) (a : TranscriptRecord) (left : a ∈ u.rows) (b : TranscriptRecord)
      (right : b ∈ u.rows) (name : String) (at_a : a.sourceName space = some name)
      (at_b : b.sourceName space = some name) : a.rowId = b.rowId := by
    rcases rows a left with ⟨old, there, id, same⟩ | new <;> rcases rows b right with ⟨old', there', id', same'⟩ | new'
    · rw [← id, ← id']
      exact named.unique space old there old' there' name (same space ▸ at_a) (same' space ▸ at_b)
    · exact absurd (same space ▸ at_a) ((newcomers b new' space name at_b).uncarried old there)
    · exact absurd (same' space ▸ at_b) ((newcomers a new space name at_a).uncarried old' there')
    · rw [apart.same new new' at_a at_b]
  refine ⟨consistent, unique, ?_⟩
  intro space row member name carries
  cases now : (u.names space).get name with
  | some id =>
    refine .inl ?_
    rcases origin space name id now with before | ⟨carrier, there, carried, rfl⟩
    · rcases rows row member with ⟨old, at_t, same_id, same⟩ | new
      · rcases named.found space old at_t name (same space ▸ carries) with own | ⟨-, unbound⟩
        · rw [← same_id, ← own, before]
        · rw [unbound] at before
          cases before
      · rw [(newcomers row new space name carries).unbound] at before
        cases before
    · rw [unique space carrier there row member name carried carries]
  | none =>
    refine .inr ⟨?_, rfl⟩
    by_contra nonempty
    rcases rows row member with ⟨old, at_t, same_id, same⟩ | new
    · rcases named.found space old at_t name (same space ▸ carries) with own | ⟨empty, -⟩
      · rw [held space name _ own] at now
        cases now
      · exact nonempty empty
    · exact bound space row new name carries nonempty now

theorem Vacant.born {t u : ThreadTranscript} {placed : List TranscriptRecord} {space : SourceSpace} {name : String}
    (vacant : Vacant space t name)
    (rows : ∀ row ∈ u.rows, (∃ old ∈ t.rows, old.rowId = row.rowId ∧ SameNames row old) ∨ row ∈ placed)
    (origin : ∀ id, (u.names space).get name = some id → (t.names space).get name = some id ∨
      ∃ row ∈ u.rows, row.sourceName space = some name ∧ row.rowId = id)
    (other : ∀ row ∈ placed, row.sourceName space ≠ some name) : Vacant space u name := by
  have uncarried (row : TranscriptRecord) (member : row ∈ u.rows) : row.sourceName space ≠ some name := by
    rcases rows row member with ⟨old, there, -, same⟩ | new
    · rw [same space]
      exact vacant.uncarried old there
    · exact other row new
  refine ⟨?_, uncarried⟩
  cases now : (u.names space).get name with
  | none => rfl
  | some id =>
    rcases origin id now with before | ⟨row, member, carries, -⟩
    · rw [vacant.unbound] at before
      cases before
    · exact absurd carries (uncarried row member)

/-- `u` is `t` after names of `records` may have come in: names keep naming one row each, no
name is taken away from its row, and every other free name is still free. -/
structure Takes (records : List TranscriptRecord) (t u : ThreadTranscript) : Prop where
  named : Named u
  held : ∀ space name id, (t.names space).get name = some id → (u.names space).get name = some id
  vacant : ∀ space name, Vacant space t name → (∀ record ∈ records, record.sourceName space ≠ some name) →
    Vacant space u name

theorem Takes.refl {t : ThreadTranscript} (named : Named t) (records : List TranscriptRecord) : Takes records t t :=
  ⟨named, fun _ _ _ bound => bound, fun _ _ vacant _ => vacant⟩

theorem Takes.trans {records : List TranscriptRecord} {t u v : ThreadTranscript} (first : Takes records t u)
    (second : Takes records u v) : Takes records t v :=
  ⟨second.named, fun space name id bound => second.held space name id (first.held space name id bound),
    fun space name vacant other => second.vacant space name (first.vacant space name vacant other) other⟩

theorem Takes.mono {some_records records : List TranscriptRecord} {t u : ThreadTranscript}
    (taken : Takes some_records t u) (sub : some_records ⊆ records) : Takes records t u :=
  ⟨taken.named, taken.held, fun space name vacant other =>
    taken.vacant space name vacant fun record member => other record (sub member)⟩

theorem Takes.newcomer {records : List TranscriptRecord} {t u : ThreadTranscript} (taken : Takes records t u)
    {record : TranscriptRecord} (newcomer : Newcomer t record)
    (apart : ∀ space name, record.sourceName space = some name →
      ∀ other ∈ records, other.sourceName space ≠ some name) : Newcomer u record :=
  fun space name carries => taken.vacant space name (newcomer space name carries) (apart space name carries)

theorem Takes.emptyAnswers {records : List TranscriptRecord} {t u : ThreadTranscript} (taken : Takes records t u)
    {space : SourceSpace} (answers : EmptyAnswers space t)
    (apart : ∀ record ∈ records, record.sourceName space ≠ some "") : EmptyAnswers space u := by
  intro unbound
  have before : (t.names space).get "" = none := by
    cases bound : (t.names space).get "" with
    | none => rfl
    | some id =>
      rw [taken.held space "" id bound] at unbound
      cases unbound
  exact (taken.vacant space "" ⟨before, answers before⟩ apart).uncarried

section Edits

variable {t : ThreadTranscript}

theorem setRow_named (named : Named t) {index : Nat} {row next : TranscriptRecord} (at_row : t.rows[index]? = some row)
    (kept : RowKept row next)
    (names : ∀ space name, next.sourceName space = some name →
      row.sourceName space = some name ∨ (t.names space).get name = some row.rowId) : Named (t.setRow index next) := by
  have before : row ∈ t.rows := List.mem_of_getElem? at_row
  -- a name carried after the edit was carried by the same row, or resolved to it
  have carried (space : SourceSpace) (a : TranscriptRecord) (member : a ∈ (t.setRow index next).rows) (name : String)
      (carries : a.sourceName space = some name) :
      (∃ old ∈ t.rows, old.rowId = a.rowId ∧ old.sourceName space = some name) ∨
        (t.names space).get name = some a.rowId := by
    rcases List.mem_or_eq_of_mem_set member with old | rfl
    · exact .inl ⟨a, old, rfl, carries⟩
    · rcases names space name carries with own | resolved
      · exact .inl ⟨row, before, kept.rowId.symm, own⟩
      · rw [kept.rowId]
        exact .inr resolved
  refine ⟨setRow_consistent named.consistent at_row kept, ?_, ?_⟩
  · intro space a left b right name at_a at_b
    rcases carried space a left name at_a with ⟨old, there, id, own⟩ | resolved <;>
      rcases carried space b right name at_b with ⟨old', there', id', own'⟩ | resolved'
    · rw [← id, ← id']
      exact named.unique space old there old' there' name own own'
    · rcases named.found space old there name own with bound | ⟨-, unbound⟩
      · rw [← id]
        exact Option.some.inj (bound.symm.trans resolved')
      · rw [unbound] at resolved'
        cases resolved'
    · rcases named.found space old' there' name own' with bound | ⟨-, unbound⟩
      · rw [← id']
        exact Option.some.inj (resolved.symm.trans bound)
      · rw [unbound] at resolved
        cases resolved
    · exact Option.some.inj (resolved.symm.trans resolved')
  · intro space a member name carries
    rw [names_setRow]
    rcases carried space a member name carries with ⟨old, there, id, own⟩ | resolved
    · rw [← id]
      exact named.found space old there name own
    · exact .inl resolved

/-- A binder that takes a name takes one that is free or the row's own. -/
theorem Binds.held (ok : t.Consistent) {space : SourceSpace} {rowId itemId : String} (yes : Binds space t rowId itemId)
    {other : String} (bound : (t.names space).get itemId = some other) : other = rowId := by
  rcases yes.free other bound with same | gone
  · exact same
  · rw [ok.has_of_names bound] at gone
    cases gone

theorem setNames_named (named : Named t) {space : SourceSpace} {rowId itemId : String}
    (yes : Binds space t rowId itemId) : Named (t.setNames space ((t.names space).put itemId rowId)) := by
  have names (other : SourceSpace) (name : String) :
      ((t.setNames space ((t.names space).put itemId rowId)).names other).get name =
        if other = space ∧ name = itemId then some rowId else (t.names other).get name := by
    by_cases same : other = space
    · subst same
      simp [Table.get_put]
    · simp [names_setNames_ne same, same]
  have consistent : (t.setNames space ((t.names space).put itemId rowId)).Consistent := by
    refine named.consistent.of_shape ⟨by simp, by simpa using forall₂_refl t.rows⟩ ?_
    intro other name id bound
    rw [names] at bound
    split at bound
    · obtain rfl := Option.some.inj bound
      exact yes.present
    · exact named.consistent.has_of_names bound
  refine ⟨consistent, by simpa using named.unique, ?_⟩
  intro other row member name carries
  rw [rows_setNames] at member
  rw [names]
  split
  · rename_i here
    obtain ⟨rfl, rfl⟩ := here
    rcases named.found other row member name carries with bound | ⟨empty, -⟩
    · exact .inl (congrArg some (yes.held named.consistent bound).symm)
    · exact absurd empty yes.named
  · exact named.found other row member name carries

theorem sourceName_adoptName {space other : SourceSpace} {row : TranscriptRecord} {itemId name : String}
    (carries : (adoptName space row itemId).sourceName other = some name) :
    row.sourceName other = some name ∨ other = space ∧ name = itemId := by
  unfold adoptName at carries
  split at carries
  · by_cases same : other = space
    · subst same
      rw [sourceName_setSourceName_self] at carries
      exact .inr ⟨rfl, (Option.some.inj carries).symm⟩
    · rw [sourceName_setSourceName_ne same] at carries
      exact .inl carries
  · exact .inl carries

theorem bindName_named (named : Named t) (space : SourceSpace) (rowId itemId : String) :
    Named (t.bindName space rowId itemId).1 := by
  by_cases yes : Binds space t rowId itemId
  · obtain ⟨index, row, _, at_row, same, result⟩ := bindName_taken named.consistent yes
    rw [result]
    refine setRow_named (setNames_named named yes) (by simpa using at_row) (.adoptName space row itemId) ?_
    intro other name carries
    rcases sourceName_adoptName carries with own | ⟨rfl, rfl⟩
    · exact .inl own
    · exact .inr (by simp [same])
  · rw [bindName_refused yes]
    exact named

/-- A binder never takes a name away from a row. -/
theorem bindName_held (ok : t.Consistent) (space : SourceSpace) (rowId itemId : String) {other : SourceSpace}
    {name id : String} (bound : (t.names other).get name = some id) :
    ((t.bindName space rowId itemId).1.names other).get name = some id := by
  rcases bindName_names ok space other rowId itemId with same | ⟨rfl, yes, put⟩
  · rw [same]
    exact bound
  · rw [put, Table.get_put]
    split
    · rename_i here
      subst here
      rw [yes.held ok bound]
    · exact bound

theorem Vacant.bindName {space other : SourceSpace} {name : String} (vacant : Vacant other t name) (ok : t.Consistent)
    (rowId itemId : String) (differ : other = space → name ≠ itemId) :
    Vacant other (t.bindName space rowId itemId).1 name := by
  by_cases yes : Binds space t rowId itemId
  · obtain ⟨index, row, _, at_row, _, result⟩ := bindName_taken ok yes
    rw [result]
    refine ⟨?_, ?_⟩
    · rw [names_setRow]
      by_cases same : other = space
      · subst same
        rw [names_setNames_self, Table.get_put_ne _ _ (differ rfl)]
        exact vacant.unbound
      · rw [names_setNames_ne same]
        exact vacant.unbound
    · intro after member carries
      rcases List.mem_or_eq_of_mem_set member with old | rfl
      · exact vacant.uncarried after (by simpa using old) carries
      · rcases sourceName_adoptName carries with own | ⟨same, rfl⟩
        · exact vacant.uncarried row (List.mem_of_getElem? at_row) own
        · exact differ same rfl
  · rw [bindName_refused yes]
    exact vacant

/-- What binding the names a row carries keeps. -/
theorem bindOwnNames_named (named : Named t) (rowId : String) (providerItemId relayItemId : Option String) :
    Named (t.bindOwnNames rowId providerItemId relayItemId) := by
  unfold bindOwnNames bindCarried
  cases providerItemId with
  | none =>
    cases relayItemId with
    | none => exact named
    | some relay => exact bindName_named named .relay rowId relay
  | some provider =>
    have first := bindName_named named .provider rowId provider
    cases relayItemId with
    | none => exact first
    | some relay => exact bindName_named first .relay rowId relay

theorem bindOwnNames_held (ok : t.Consistent) (rowId : String) (providerItemId relayItemId : Option String)
    {space : SourceSpace} {name id : String} (bound : (t.names space).get name = some id) :
    ((t.bindOwnNames rowId providerItemId relayItemId).names space).get name = some id := by
  unfold bindOwnNames
  have middle := (bindCarried_consistent ok .provider rowId providerItemId).2
  have first : ((t.bindCarried .provider rowId providerItemId).names space).get name = some id := by
    cases providerItemId with
    | none => exact bound
    | some provider => exact bindName_held ok .provider rowId provider bound
  cases relayItemId with
  | none => exact first
  | some relay => exact bindName_held middle .relay rowId relay first

theorem Vacant.bindOwnNames {space : SourceSpace} {name : String} (vacant : Vacant space t name) (ok : t.Consistent)
    (rowId : String) (record : TranscriptRecord) (differ : record.sourceName space ≠ some name) :
    Vacant space (t.bindOwnNames rowId record.providerItemId record.relayItemId) name := by
  unfold ThreadTranscript.bindOwnNames
  have middle := (bindCarried_consistent ok .provider rowId record.providerItemId).2
  have first : Vacant space (t.bindCarried .provider rowId record.providerItemId) name := by
    cases carried : record.providerItemId with
    | none => exact vacant
    | some provider =>
      refine vacant.bindName ok rowId provider ?_
      rintro rfl rfl
      exact differ carried
  cases carried : record.relayItemId with
  | none => exact first
  | some relay =>
    refine first.bindName middle rowId relay ?_
    rintro rfl rfl
    exact differ carried

/-- An edit may only give a row names it carries or is found under. -/
theorem updateRow_named {R : Type} (named : Named t) (rowId : String) (edit : TranscriptRecord → TranscriptRecord × R)
    (names : ∀ row ∈ t.rows, row.rowId = rowId → ∀ space name, (edit row).1.sourceName space = some name →
      row.sourceName space = some name ∨ (t.names space).get name = some rowId) :
    Named (t.updateRow rowId edit).1 := by
  unfold updateRow
  split
  · exact named
  rename_i index at_id
  obtain ⟨row, at_row, same⟩ := named.consistent.at_index at_id
  simp only [at_row]
  refine bindOwnNames_named (setRow_named named at_row (.restore row _) ?_) _ _ _
  intro space name carries
  rw [sourceName_restore] at carries
  rw [same]
  exact names row (List.mem_of_getElem? at_row) same space name carries

theorem updateRow_held {R : Type} (ok : t.Consistent) (rowId : String) (edit : TranscriptRecord → TranscriptRecord × R)
    {space : SourceSpace} {name id : String} (bound : (t.names space).get name = some id) :
    ((t.updateRow rowId edit).1.names space).get name = some id := by
  unfold updateRow
  split
  · exact bound
  rename_i index at_id
  obtain ⟨row, at_row, -⟩ := ok.at_index at_id
  simp only [at_row]
  refine bindOwnNames_held (setRow_consistent ok at_row (.restore row _)) _ _ _ ?_
  rw [names_setRow]
  exact bound

theorem Vacant.updateRow {R : Type} {space : SourceSpace} {name : String} (vacant : Vacant space t name)
    (ok : t.Consistent) (rowId : String) (edit : TranscriptRecord → TranscriptRecord × R)
    (differ : ∀ row ∈ t.rows, row.rowId = rowId → (edit row).1.sourceName space ≠ some name) :
    Vacant space (t.updateRow rowId edit).1 name := by
  unfold ThreadTranscript.updateRow
  split
  · exact vacant
  rename_i index at_id
  obtain ⟨row, at_row, same⟩ := ok.at_index at_id
  have edited : ((RowIdentity.of row).restore (edit row).1).sourceName space ≠ some name := by
    rw [sourceName_restore]
    exact differ row (List.mem_of_getElem? at_row) same
  simp only [at_row]
  refine Vacant.bindOwnNames ⟨?_, ?_⟩ (setRow_consistent ok at_row (.restore row _)) _ _ edited
  · rw [names_setRow]
    exact vacant.unbound
  · intro after member
    rcases List.mem_or_eq_of_mem_set member with old | rfl
    · exact vacant.uncarried after old
    · exact edited

/-- Edit a row, giving it only names it carries or those of `records`, which resolve to it. -/
theorem updateRow_takes {R : Type} (named : Named t) (rowId : String)
    (edit : TranscriptRecord → TranscriptRecord × R) (records : List TranscriptRecord)
    (resolved : ∀ record ∈ records, ∀ space name, record.sourceName space = some name →
      (t.names space).get name = some rowId)
    (names : ∀ row space name, (edit row).1.sourceName space = some name →
      row.sourceName space = some name ∨ ∃ record ∈ records, record.sourceName space = some name) :
    Takes records t (t.updateRow rowId edit).1 := by
  refine ⟨updateRow_named named rowId edit ?_, fun space name id => updateRow_held named.consistent rowId edit, ?_⟩
  · intro row member same space name carries
    rcases names row space name carries with own | ⟨record, there, its⟩
    · exact .inl own
    · exact .inr (resolved record there space name its)
  · intro space name vacant other
    refine vacant.updateRow named.consistent rowId edit ?_
    intro row member _ carries
    rcases names row space name carries with own | ⟨record, there, its⟩
    · exact vacant.uncarried row member own
    · exact other record there its

theorem bindName_takes (named : Named t) (space : SourceSpace) (rowId itemId : String)
    {records : List TranscriptRecord} (carried : ∃ record ∈ records, record.sourceName space = some itemId) :
    Takes records t (t.bindName space rowId itemId).1 := by
  refine ⟨bindName_named named space rowId itemId,
    fun other name id => bindName_held named.consistent space rowId itemId, ?_⟩
  intro other name vacant differ
  refine vacant.bindName named.consistent rowId itemId ?_
  rintro rfl rfl
  obtain ⟨record, there, its⟩ := carried
  exact differ record there its

end Edits

section Births

variable {t u : ThreadTranscript}

theorem bindName_origin (ok : t.Consistent) {space other : SourceSpace} {rowId itemId name id : String}
    (bound : ((t.bindName space rowId itemId).1.names other).get name = some id) :
    (t.names other).get name = some id ∨ other = space ∧ name = itemId ∧ id = rowId := by
  rcases bindName_names ok space other rowId itemId with same | ⟨same, -, put⟩
  · rw [same] at bound
    exact .inl bound
  · rw [put, Table.get_put] at bound
    split at bound
    · rename_i here
      exact .inr ⟨same, here, (Option.some.inj bound).symm⟩
    · exact .inl bound

theorem bindOwnNames_origin (ok : t.Consistent) {rowId : String} {record : TranscriptRecord} {space : SourceSpace}
    {name id : String}
    (bound : ((t.bindOwnNames rowId record.providerItemId record.relayItemId).names space).get name = some id) :
    (t.names space).get name = some id ∨ record.sourceName space = some name ∧ id = rowId := by
  have middle := (bindCarried_consistent ok .provider rowId record.providerItemId).2
  have first (bound : ((t.bindCarried .provider rowId record.providerItemId).names space).get name = some id) :
      (t.names space).get name = some id ∨ record.sourceName space = some name ∧ id = rowId := by
    cases carried : record.providerItemId with
    | none =>
      rw [carried] at bound
      exact .inl bound
    | some provider =>
      rw [carried] at bound
      rcases bindName_origin ok bound with before | ⟨rfl, rfl, same⟩
      · exact .inl before
      · exact .inr ⟨carried, same⟩
  unfold bindOwnNames at bound
  cases carried : record.relayItemId with
  | none =>
    rw [carried] at bound
    exact first bound
  | some relay =>
    rw [carried] at bound
    rcases bindName_origin middle bound with before | ⟨rfl, rfl, same⟩
    · exact first before
    · exact .inr ⟨carried, same⟩

theorem bindName_bound (ok : t.Consistent) {space : SourceSpace} {rowId itemId : String} (named : itemId ≠ "")
    (present : t.byRowId.has rowId = true) (free : (t.names space).get itemId = none) :
    ((t.bindName space rowId itemId).1.names space).get itemId = some rowId := by
  have yes : Binds space t rowId itemId := by
    refine ⟨named, present, ?_⟩
    intro existing held
    rw [free] at held
    cases held
  obtain ⟨index, row, _, _, _, result⟩ := bindName_taken ok yes
  rw [result, names_setRow, names_setNames_self, Table.get_put_self]

theorem bindOwnNames_bound (ok : t.Consistent) {rowId : String} {record : TranscriptRecord} {space : SourceSpace}
    {name : String} (carries : record.sourceName space = some name) (named : name ≠ "")
    (present : t.byRowId.has rowId = true) (free : (t.names space).get name = none) :
    ((t.bindOwnNames rowId record.providerItemId record.relayItemId).names space).get name = some rowId := by
  obtain ⟨shape, middle⟩ := bindCarried_consistent ok .provider rowId record.providerItemId
  unfold bindOwnNames
  cases space with
  | provider =>
    have carried : record.providerItemId = some name := carries
    have first : ((t.bindName .provider rowId name).1.names .provider).get name = some rowId :=
      bindName_bound ok named present free
    rw [carried] at middle ⊢
    cases record.relayItemId with
    | none => exact first
    | some relay => exact bindName_held middle .relay rowId relay first
  | relay =>
    have carried : record.relayItemId = some name := carries
    rw [carried]
    refine bindName_bound middle named (by rw [shape.byRowId]; exact present) ?_
    cases record.providerItemId with
    | none => exact free
    | some provider =>
      rcases bindName_names ok .provider .relay rowId provider with same | ⟨differ, -⟩
      · exact (congrArg (Table.get · name) same).trans free
      · cases differ

/-- A pushed record whose names are free takes them all. -/
theorem push_named (named : Named t) {record : TranscriptRecord} {id : String} (newcomer : Newcomer t record)
    (pushed : t.push record = some (u, id)) : Takes [record] t u := by
  have consistent := push_consistent named.consistent pushed
  have rows := push_rows named.consistent pushed
  obtain ⟨free, seq, rfl⟩ := push_eq pushed
  have ok : (t.appended { record with rowId := id } seq).Consistent := appended_consistent named.consistent free seq
  have same := sameNames_setRowId record id
  have old_names (space : SourceSpace) : (t.appended { record with rowId := id } seq).names space = t.names space := by
    cases space <;> rfl
  have members (row : TranscriptRecord) (member : row ∈ t.rows ++ [{ record with rowId := id }]) :
      (∃ old ∈ t.rows, old.rowId = row.rowId ∧ SameNames row old) ∨ row ∈ [{ record with rowId := id }] := by
    rcases List.mem_append.mp member with old | new
    · exact .inl ⟨row, old, rfl, fun _ => rfl⟩
    · exact .inr new
  rw [← rows] at members
  have origin (space : SourceSpace) (name other : String)
      (bound : (((t.appended { record with rowId := id } seq).bindOwnNames id record.providerItemId
        record.relayItemId).names space).get name = some other) :
      (t.names space).get name = some other ∨ ∃ row ∈ ((t.appended { record with rowId := id } seq).bindOwnNames id
        record.providerItemId record.relayItemId).rows, row.sourceName space = some name ∧ row.rowId = other := by
    rcases bindOwnNames_origin ok bound with before | ⟨carries, rfl⟩
    · rw [old_names] at before
      exact .inl before
    · refine .inr ⟨{ record with rowId := other }, ?_, ?_, rfl⟩
      · rw [rows]
        simp
      · rw [same space]
        exact carries
  have held (space : SourceSpace) (name other : String) (bound : (t.names space).get name = some other) :
      (((t.appended { record with rowId := id } seq).bindOwnNames id record.providerItemId
        record.relayItemId).names space).get name = some other := by
    refine bindOwnNames_held ok _ _ _ ?_
    rw [old_names]
    exact bound
  refine ⟨named.born consistent members ?_ ?_ held origin ?_, held, ?_⟩
  · intro space
    cases carried : ({ record with rowId := id } : TranscriptRecord).sourceName space <;> simp [carried]
  · intro row member
    obtain rfl := List.mem_singleton.mp member
    exact newcomer.of_names same
  · intro space row member name carries nonempty
    obtain rfl := List.mem_singleton.mp member
    rw [same space] at carries
    have present : (t.appended { record with rowId := id } seq).byRowId.has id = true :=
      ok.has_iff.mpr ⟨{ record with rowId := id }, by simp [appended], rfl⟩
    have unbound := (newcomer space name carries).unbound
    rw [bindOwnNames_bound ok carries nonempty present (by rw [old_names]; exact unbound)]
    exact Option.some_ne_none id
  · intro space name vacant differ
    refine vacant.born members (origin space name) ?_
    intro row member
    obtain rfl := List.mem_singleton.mp member
    rw [same space]
    exact differ record List.mem_cons_self

theorem nameRows_held {space : SourceSpace} {rows : List TranscriptRecord} {names : Table String String}
    {name id : String} (bound : names.get name = some id) : (nameRows space rows names).get name = some id := by
  induction rows generalizing names with
  | nil => exact bound
  | cons row rest ih =>
    rw [nameRows_cons]
    refine ih ?_
    split
    · rename_i itemId carries
      split
      · exact bound
      · rename_i absent
        have differ : name ≠ itemId := by
          rintro rfl
          exact absent (Table.has_iff.mpr ⟨id, bound⟩)
        rw [Table.get_put_ne _ _ differ]
        exact bound
    · exact bound

theorem nameRows_bound {space : SourceSpace} {rows : List TranscriptRecord} {names : Table String String}
    {row : TranscriptRecord} (member : row ∈ rows) {name : String} (carries : row.sourceName space = some name) :
    ∃ id, (nameRows space rows names).get name = some id := by
  induction rows generalizing names with
  | nil => cases member
  | cons head rest ih =>
    rw [nameRows_cons]
    rcases List.mem_cons.mp member with rfl | later
    · rw [carries]
      by_cases held : names.has name = true
      · obtain ⟨id, bound⟩ := Table.has_iff.mp held
        exact ⟨id, nameRows_held (by simpa [held] using bound)⟩
      · exact ⟨row.rowId, nameRows_held (by simp [held])⟩
    · exact ih later

theorem reindex_names (t : ThreadTranscript) (space : SourceSpace) :
    t.reindex.names space =
      nameRows space t.rows ((t.names space).retain fun _ rowId => (indexRows t.rows).has rowId) := by
  cases space <;> rfl

/-- The names after a rebuild: those held for rows that are still there, and those the rows carry. -/
theorem reindex_named (v : ThreadTranscript) (placed : List TranscriptRecord) (named : Named t)
    (distinct : (v.rows.map (·.rowId)).Nodup) (names : ∀ space, v.names space = t.names space)
    (kept : ∀ old ∈ t.rows, ∃ row ∈ v.rows, row.rowId = old.rowId)
    (rows : ∀ row ∈ v.rows, (∃ old ∈ t.rows, old.rowId = row.rowId ∧ SameNames row old) ∨ row ∈ placed)
    (here : ∀ row ∈ placed, row ∈ v.rows) (apart : NamesApart placed) (newcomers : ∀ row ∈ placed, Newcomer t row) :
    Takes placed t v.reindex := by
  have consistent := reindex_consistent distinct
  have origin (space : SourceSpace) (name id : String) (bound : (v.reindex.names space).get name = some id) :
      (t.names space).get name = some id ∨ ∃ row ∈ v.reindex.rows, row.sourceName space = some name ∧ row.rowId = id := by
    rw [reindex_names] at bound
    rcases nameRows_get bound with held | ⟨-, row, member, carries, same⟩
    · rw [← names space]
      exact .inl (Table.get_of_get_retain held)
    · exact .inr ⟨row, member, carries, same⟩
  have held (space : SourceSpace) (name id : String) (bound : (t.names space).get name = some id) :
      (v.reindex.names space).get name = some id := by
    obtain ⟨old, there, same⟩ := named.consistent.live space name id bound
    obtain ⟨row, member, same_id⟩ := kept old there
    have live : (indexRows v.rows).has id = true := consistent.has_iff.mpr ⟨row, member, same_id.trans same⟩
    rw [reindex_names, names space]
    refine nameRows_held ?_
    rw [Table.get_retain, bound]
    simp [live]
  refine ⟨named.born consistent rows apart newcomers held origin ?_, held, ?_⟩
  · intro space row member name carries _
    rw [reindex_names]
    obtain ⟨id, bound⟩ := nameRows_bound (here row member) carries
    rw [bound]
    exact Option.some_ne_none id
  · intro space name vacant other
    exact vacant.born rows (origin space name) other

theorem sameNames_renamed {records placed : List TranscriptRecord} (renamed : List.Forall₂ Renamed records placed)
    (space : SourceSpace) : placed.map (·.sourceName space) = records.map (·.sourceName space) := by
  induction renamed with
  | nil => rfl
  | cons head _ ih =>
    rw [List.map_cons, List.map_cons, ih, head]
    congr 1

theorem renamed_origin {records placed : List TranscriptRecord} (renamed : List.Forall₂ Renamed records placed)
    {row : TranscriptRecord} (member : row ∈ placed) : ∃ record ∈ records, SameNames row record := by
  induction renamed with
  | nil => cases member
  | @cons record claimed _ _ head _ ih =>
    rcases List.mem_cons.mp member with rfl | later
    · refine ⟨record, List.mem_cons_self, ?_⟩
      rw [head]
      exact sameNames_setRowId record _
    · obtain ⟨other, there, same⟩ := ih later
      exact ⟨other, List.mem_cons_of_mem _ there, same⟩

/-- A batch put in at once, with names that are free and used once. -/
theorem insertBefore_named (named : Named t) {index : Nat} {records : List TranscriptRecord} {ids : List String}
    (apart : NamesApart records) (newcomers : ∀ record ∈ records, Newcomer t record)
    (inserted : t.insertBefore index records = some (u, ids)) : Takes records t u := by
  obtain ⟨claimed, byRowId, seq, renamed, distinct, free, -, rfl⟩ := insertBefore_eq inserted
  have split (row : TranscriptRecord) : row ∈ (t.spliced index claimed byRowId seq).rows ↔ row ∈ t.rows ∨ row ∈ claimed := by
    have parts : row ∈ t.rows ↔ row ∈ t.rows.take index ∨ row ∈ t.rows.drop index := by
      rw [← List.mem_append, List.take_append_drop]
    simp only [spliced, List.mem_append, parts]
    tauto
  have taken := reindex_named (t.spliced index claimed byRowId seq) claimed named
    (spliced_distinct named.consistent distinct free) (fun space => by cases space <;> rfl)
    (fun old member => ⟨old, (split old).mpr (.inl member), rfl⟩)
    (fun row member => ((split row).mp member).imp (fun old => ⟨row, old, rfl, fun _ => rfl⟩) id)
    (fun row member => (split row).mpr (.inr member)) (.of_names (sameNames_renamed renamed) apart)
    (fun row member => by
      obtain ⟨record, there, same⟩ := renamed_origin renamed member
      exact (newcomers record there).of_names same)
  refine ⟨taken.named, taken.held, ?_⟩
  intro space name vacant differ
  refine taken.vacant space name vacant ?_
  intro row member
  obtain ⟨record, there, same⟩ := renamed_origin renamed member
  rw [same space]
  exact differ record there

theorem editAll_origin {S : Type} {edit : S → TranscriptRecord → TranscriptRecord × S}
    (names : ∀ state row, SameNames (edit state row).1 row) {state : S} {rows : List TranscriptRecord}
    {row : TranscriptRecord} (member : row ∈ editAll edit state rows) :
    ∃ old ∈ rows, old.rowId = row.rowId ∧ SameNames row old := by
  induction rows generalizing state with
  | nil => cases member
  | cons head rest ih =>
    rcases List.mem_cons.mp member with rfl | later
    · refine ⟨head, List.mem_cons_self, rfl, ?_⟩
      intro space
      exact (sourceName_restore _ _ space).trans (names state head space)
    · obtain ⟨old, there, same⟩ := ih later
      exact ⟨old, List.mem_cons_of_mem _ there, same⟩

/-- A sweep that leaves the names of the rows alone. -/
theorem updateAll_named {S : Type} (named : Named t) {edit : S → TranscriptRecord → TranscriptRecord × S}
    (names : ∀ state row, SameNames (edit state row).1 row) (state : S) : Named (t.updateAll edit state) := by
  have kept := editAll_kept edit state t.rows
  have distinct : ((editAll edit state t.rows).map (·.rowId)).Nodup := by
    rw [forall₂_rowIds kept]
    exact named.consistent.distinct
  refine (reindex_named { t with rows := editAll edit state t.rows } [] named distinct
    (fun space => by cases space <;> rfl) ?_ (fun row member => .inl (editAll_origin names member)) (by simp)
    (fun _ => List.nodup_nil) (by simp)).named
  intro old member
  obtain ⟨row, there, same⟩ := forall₂_member kept member
  exact ⟨row, there, same.rowId⟩

end Births

end ThreadTranscript

end Sealwire.Transcript

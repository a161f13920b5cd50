import Sealwire.Transcript.Store

namespace Sealwire.Transcript

namespace ThreadTranscript

/-- The representation invariant: row ids are distinct, `byRowId` is exactly the position
of each, and every alias points at a live row. -/
structure Consistent (t : ThreadTranscript) : Prop where
  distinct : (t.rows.map (·.rowId)).Nodup
  indexed : ∀ id index, t.byRowId.get id = some index ↔ (t.rows[index]?).map (·.rowId) = some id
  live : ∀ space name id, (t.names space).get name = some id → ∃ row ∈ t.rows, row.rowId = id

theorem Consistent.at_index {t : ThreadTranscript} (ok : t.Consistent) {id : String} {index : Nat}
    (at_id : t.byRowId.get id = some index) : ∃ row, t.rows[index]? = some row ∧ row.rowId = id := by
  have here := (ok.indexed id index).mp at_id
  obtain ⟨row, at_row, same⟩ := Option.map_eq_some_iff.mp here
  exact ⟨row, at_row, same⟩

theorem Consistent.has_iff {t : ThreadTranscript} (ok : t.Consistent) {id : String} :
    t.byRowId.has id = true ↔ ∃ row ∈ t.rows, row.rowId = id := by
  rw [Table.has_iff]
  constructor
  · rintro ⟨index, at_id⟩
    obtain ⟨row, at_row, same⟩ := ok.at_index at_id
    exact ⟨row, List.mem_of_getElem? at_row, same⟩
  · rintro ⟨row, member, same⟩
    obtain ⟨index, at_row⟩ := List.mem_iff_getElem?.mp member
    exact ⟨index, (ok.indexed id index).mpr (by simp [at_row, same])⟩

/-- A row id names one row. -/
theorem Consistent.same_row {t : ThreadTranscript} (ok : t.Consistent) {a b : TranscriptRecord} (left : a ∈ t.rows)
    (right : b ∈ t.rows) (same : a.rowId = b.rowId) : a = b :=
  List.inj_on_of_nodup_map ok.distinct left right same

theorem new_consistent : Consistent new where
  distinct := List.nodup_nil
  indexed := by simp [new]
  live := by
    intro space name id found
    cases space <;> simp [names, new] at found

section Names

@[simp] theorem names_setNames_self (space : SourceSpace) (t : ThreadTranscript) (table : Table String String) :
    (t.setNames space table).names space = table := by
  cases space <;> rfl

theorem names_setNames_ne {space other : SourceSpace} (ne : other ≠ space) (t : ThreadTranscript)
    (table : Table String String) : (t.setNames space table).names other = t.names other := by
  cases space <;> cases other <;> first | rfl | exact absurd rfl ne

@[simp] theorem rows_setNames (space : SourceSpace) (t : ThreadTranscript) (table : Table String String) :
    (t.setNames space table).rows = t.rows := by
  cases space <;> rfl

@[simp] theorem byRowId_setNames (space : SourceSpace) (t : ThreadTranscript) (table : Table String String) :
    (t.setNames space table).byRowId = t.byRowId := by
  cases space <;> rfl

@[simp] theorem names_setRow (space : SourceSpace) (t : ThreadTranscript) (index : Nat) (record : TranscriptRecord) :
    (t.setRow index record).names space = t.names space := by
  cases space <;> rfl

end Names

/-- A name a binder takes for a row. -/
structure Binds (space : SourceSpace) (t : ThreadTranscript) (rowId itemId : String) : Prop where
  named : itemId ≠ ""
  present : t.byRowId.has rowId = true
  free : ∀ existing, (t.names space).get itemId = some existing → existing = rowId ∨ t.byRowId.has existing = false

/-- What every write on a row keeps: its id, its key, and a withdrawal. -/
structure RowKept (row next : TranscriptRecord) : Prop where
  rowId : next.rowId = row.rowId
  orderSeq : next.orderSeq = row.orderSeq
  withdrawn : row.withdrawn = true → next.withdrawn = true

theorem RowKept.refl (row : TranscriptRecord) : RowKept row row :=
  ⟨rfl, rfl, fun h => h⟩

theorem RowKept.trans {a b c : TranscriptRecord} (first : RowKept a b) (second : RowKept b c) : RowKept a c :=
  ⟨second.rowId.trans first.rowId, second.orderSeq.trans first.orderSeq, fun h => second.withdrawn (first.withdrawn h)⟩

theorem RowKept.restore (row edited : TranscriptRecord) : RowKept row ((RowIdentity.of row).restore edited) :=
  ⟨rfl, rfl, fun h => by simp [RowIdentity.restore, RowIdentity.of, h]⟩

theorem RowKept.setSourceName (space : SourceSpace) (row : TranscriptRecord) (name : Option String) :
    RowKept row (row.setSourceName space name) := by
  cases space <;> exact ⟨rfl, rfl, fun h => h⟩

theorem forall₂_refl (rows : List TranscriptRecord) : List.Forall₂ RowKept rows rows :=
  List.forall₂_same.mpr fun row _ => .refl row

theorem forall₂_set {rows : List TranscriptRecord} {index : Nat} {row next : TranscriptRecord}
    (at_row : rows[index]? = some row) (kept : RowKept row next) :
    List.Forall₂ RowKept rows (rows.set index next) := by
  induction rows generalizing index with
  | nil => simp at at_row
  | cons head rest ih =>
    cases index with
    | zero =>
      obtain rfl : head = row := by simpa using at_row
      exact .cons kept (forall₂_refl rest)
    | succ index => exact .cons (.refl head) (ih at_row)

theorem forall₂_rowIds {a b : List TranscriptRecord} (kept : List.Forall₂ RowKept a b) :
    b.map (·.rowId) = a.map (·.rowId) := by
  induction kept with
  | nil => rfl
  | cons head _ ih => simp [head.rowId, ih]

theorem forall₂_orderSeqs {a b : List TranscriptRecord} (kept : List.Forall₂ RowKept a b) :
    b.map (·.orderSeq) = a.map (·.orderSeq) := by
  induction kept with
  | nil => rfl
  | cons head _ ih => simp [head.orderSeq, ih]

theorem forall₂_trans {a b c : List TranscriptRecord} (first : List.Forall₂ RowKept a b)
    (second : List.Forall₂ RowKept b c) : List.Forall₂ RowKept a c := by
  induction first generalizing c with
  | nil => exact second
  | cons head _ ih =>
    cases second with
    | cons next rest => exact .cons (head.trans next) (ih rest)

theorem forall₂_member {a b : List TranscriptRecord} (kept : List.Forall₂ RowKept a b) {row : TranscriptRecord}
    (member : row ∈ a) : ∃ next ∈ b, RowKept row next := by
  induction kept with
  | nil => cases member
  | @cons first second rest rest' head _ ih =>
    rcases List.mem_cons.mp member with rfl | later
    · exact ⟨second, List.mem_cons_self, head⟩
    · obtain ⟨next, there, same⟩ := ih later
      exact ⟨next, List.mem_cons_of_mem _ there, same⟩

/-- `u` holds the rows of `t` at their places, up to content. -/
structure SameShape (t u : ThreadTranscript) : Prop where
  byRowId : u.byRowId = t.byRowId
  rows : List.Forall₂ RowKept t.rows u.rows

theorem SameShape.refl (t : ThreadTranscript) : SameShape t t :=
  ⟨rfl, forall₂_refl t.rows⟩

theorem SameShape.trans {t u v : ThreadTranscript} (first : SameShape t u) (second : SameShape u v) : SameShape t v := by
  exact ⟨second.byRowId.trans first.byRowId, forall₂_trans first.rows second.rows⟩

theorem Consistent.of_shape {t u : ThreadTranscript} (ok : t.Consistent) (shape : SameShape t u)
    (live : ∀ space name id, (u.names space).get name = some id → t.byRowId.has id = true) : u.Consistent where
  distinct := by
    rw [forall₂_rowIds shape.rows]
    exact ok.distinct
  indexed := by
    intro id index
    have same : u.rows[index]?.map (·.rowId) = t.rows[index]?.map (·.rowId) := by
      rw [← List.getElem?_map, ← List.getElem?_map, forall₂_rowIds shape.rows]
    rw [shape.byRowId, same]
    exact ok.indexed id index
  live := by
    intro space name id found
    obtain ⟨row, member, same⟩ := ok.has_iff.mp (live space name id found)
    obtain ⟨next, there, kept⟩ := forall₂_member shape.rows member
    exact ⟨next, there, kept.rowId.trans same⟩

theorem Consistent.has_of_names {t : ThreadTranscript} (ok : t.Consistent) {space : SourceSpace} {name id : String}
    (found : (t.names space).get name = some id) : t.byRowId.has id = true :=
  ok.has_iff.mpr (ok.live space name id found)

/-- The row after a binder recorded a name for it. -/
def adoptName (space : SourceSpace) (row : TranscriptRecord) (itemId : String) : TranscriptRecord :=
  if (row.sourceName space).isNone then row.setSourceName space (some itemId) else row

theorem RowKept.adoptName (space : SourceSpace) (row : TranscriptRecord) (itemId : String) :
    RowKept row (ThreadTranscript.adoptName space row itemId) := by
  unfold ThreadTranscript.adoptName
  split
  · exact .setSourceName space row _
  · exact .refl row

theorem bindName_refused {space : SourceSpace} {t : ThreadTranscript} {rowId itemId : String}
    (no : ¬Binds space t rowId itemId) : (t.bindName space rowId itemId).1 = t := by
  unfold bindName
  split
  · rfl
  rename_i acceptable
  split
  · rfl
  rename_i free
  exfalso
  apply no
  simp only [not_or, Bool.not_eq_true', Bool.not_eq_false] at acceptable
  refine ⟨acceptable.1, acceptable.2, ?_⟩
  intro existing held
  rw [held] at free
  by_cases same : existing = rowId
  · exact .inl same
  · exact .inr (by simpa [same] using free)

theorem bindName_taken {space : SourceSpace} {t : ThreadTranscript} (ok : t.Consistent) {rowId itemId : String}
    (yes : Binds space t rowId itemId) :
    ∃ index row, t.byRowId.get rowId = some index ∧ t.rows[index]? = some row ∧ row.rowId = rowId ∧
      (t.bindName space rowId itemId).1 =
        (t.setNames space ((t.names space).put itemId rowId)).setRow index (adoptName space row itemId) := by
  obtain ⟨index, at_id⟩ := Table.has_iff.mp yes.present
  obtain ⟨row, at_row, same⟩ := ok.at_index at_id
  refine ⟨index, row, at_id, at_row, same, ?_⟩
  have free : ¬((t.names space).get itemId).any (fun existing => existing ≠ rowId && t.byRowId.has existing) = true := by
    cases held : (t.names space).get itemId with
    | none => simp
    | some existing =>
      rcases yes.free existing held with rfl | gone
      · simp
      · simp [gone]
  unfold bindName
  rw [if_neg (by simp [yes.named, yes.present]), if_neg free]
  simp only [byRowId_setNames, at_id, rows_setNames, at_row]
  unfold adoptName
  split
  · rfl
  · have unchanged : t.rows.set index row = t.rows := by
      rw [List.getElem?_eq_some_iff] at at_row
      obtain ⟨bound, rfl⟩ := at_row
      exact List.set_getElem_self bound
    cases space <;> simp [setRow, setNames, unchanged]

theorem bindName_shape {t : ThreadTranscript} (ok : t.Consistent) (space : SourceSpace) (rowId itemId : String) :
    SameShape t (t.bindName space rowId itemId).1 := by
  by_cases yes : Binds space t rowId itemId
  · obtain ⟨index, row, _, at_row, _, result⟩ := bindName_taken ok yes
    rw [result]
    refine ⟨by simp [setRow], ?_⟩
    simp only [setRow, rows_setNames]
    exact forall₂_set at_row (.adoptName space row itemId)
  · rw [bindName_refused yes]
    exact .refl t

theorem bindName_names {t : ThreadTranscript} (ok : t.Consistent) (space other : SourceSpace) (rowId itemId : String) :
    (t.bindName space rowId itemId).1.names other = t.names other ∨
      (other = space ∧ Binds space t rowId itemId ∧
        (t.bindName space rowId itemId).1.names other = (t.names other).put itemId rowId) := by
  by_cases yes : Binds space t rowId itemId
  · obtain ⟨index, row, _, _, _, result⟩ := bindName_taken ok yes
    rw [result, names_setRow]
    by_cases same : other = space
    · subst same
      exact .inr ⟨rfl, yes, names_setNames_self _ _ _⟩
    · exact .inl (names_setNames_ne same t _)
  · rw [bindName_refused yes]
    exact .inl rfl

theorem bindName_consistent {t : ThreadTranscript} (ok : t.Consistent) (space : SourceSpace) (rowId itemId : String) :
    (t.bindName space rowId itemId).1.Consistent := by
  refine ok.of_shape (bindName_shape ok space rowId itemId) ?_
  intro other name id found
  rcases bindName_names ok space other rowId itemId with same | ⟨-, binds, put⟩
  · rw [same] at found
    exact ok.has_of_names found
  · rw [put, Table.get_put] at found
    split at found
    · obtain rfl := Option.some.inj found
      exact binds.present
    · exact ok.has_of_names found

theorem bindCarried_consistent {t : ThreadTranscript} (ok : t.Consistent) (space : SourceSpace) (rowId : String)
    (name : Option String) :
    SameShape t (t.bindCarried space rowId name) ∧ (t.bindCarried space rowId name).Consistent := by
  cases name with
  | none => exact ⟨.refl t, ok⟩
  | some itemId => exact ⟨bindName_shape ok space rowId itemId, bindName_consistent ok space rowId itemId⟩

theorem bindOwnNames_consistent {t : ThreadTranscript} (ok : t.Consistent) (rowId : String)
    (providerItemId relayItemId : Option String) :
    SameShape t (t.bindOwnNames rowId providerItemId relayItemId) ∧
      (t.bindOwnNames rowId providerItemId relayItemId).Consistent := by
  obtain ⟨shape, middle⟩ := bindCarried_consistent ok .provider rowId providerItemId
  obtain ⟨shape', last⟩ := bindCarried_consistent middle .relay rowId relayItemId
  exact ⟨shape.trans shape', last⟩

theorem mintLoop_free {rounds : Nat} {candidate : String} {byRowId : Table String Nat} {seq : UInt64}
    {minted : String × UInt64} (found : mintLoop rounds candidate byRowId seq = some minted) :
    byRowId.has minted.1 = false := by
  induction rounds generalizing seq with
  | zero => cases found
  | succ rounds ih =>
    unfold mintLoop at found
    simp only at found
    split at found
    · exact ih found
    · rename_i free
      obtain rfl := Option.some.inj found
      simpa using free

theorem mintRowId_free {candidate : String} {byRowId : Table String Nat} {seq : UInt64} {minted : String × UInt64}
    (found : mintRowId candidate byRowId seq = some minted) : byRowId.has minted.1 = false := by
  unfold mintRowId at found
  split at found
  · rename_i adopted
    obtain rfl := Option.some.inj found
    simpa using adopted.2
  · exact mintLoop_free found

theorem Consistent.not_has {t : ThreadTranscript} (ok : t.Consistent) {id : String} (free : t.byRowId.has id = false)
    {row : TranscriptRecord} (member : row ∈ t.rows) : row.rowId ≠ id := by
  intro same
  have present := ok.has_iff.mpr ⟨row, member, same⟩
  rw [free] at present
  cases present

/-- Appending a row under a free id keeps the invariant. -/
theorem Consistent.append {t u : ThreadTranscript} (ok : t.Consistent) {record : TranscriptRecord}
    (free : t.byRowId.has record.rowId = false) (rows : u.rows = t.rows ++ [record])
    (byRowId : u.byRowId = t.byRowId.put record.rowId t.rows.length) (names : ∀ space, u.names space = t.names space) :
    u.Consistent where
  distinct := by
    rw [rows, List.map_append, List.nodup_append]
    refine ⟨ok.distinct, by simp, ?_⟩
    rintro id old _ new rfl
    obtain ⟨row, member, same⟩ := List.mem_map.mp old
    exact ok.not_has free member (by simpa [← same] using new)
  indexed := by
    intro id index
    rw [byRowId, rows, Table.get_put]
    rcases Nat.lt_trichotomy index t.rows.length with before | here | after
    · rw [List.getElem?_append_left before]
      split
      · rename_i same
        subst same
        have apart : t.rows[index]?.map (·.rowId) ≠ some record.rowId := by
          intro taken
          obtain ⟨row, at_row, same⟩ := Option.map_eq_some_iff.mp taken
          exact ok.not_has free (List.mem_of_getElem? at_row) same
        simp only [apart, iff_false, Option.some.injEq]
        omega
      · exact ok.indexed id index
    · subst here
      rw [List.getElem?_append_right (Nat.le_refl _)]
      split
      · rename_i same
        simp [same]
      · rename_i other
        have beyond : t.byRowId.get id ≠ some t.rows.length := by
          intro taken
          simpa using (ok.indexed id _).mp taken
        simp [beyond, Ne.symm other]
    · have beyond : (t.rows ++ [record])[index]? = none := by
        rw [List.getElem?_eq_none_iff, List.length_append, List.length_singleton]
        omega
      rw [beyond]
      split
      · simp only [Option.some.injEq, Option.map_none, reduceCtorEq, iff_false]
        omega
      · rw [ok.indexed id index, List.getElem?_eq_none_iff.mpr after.le]
  live := by
    intro space name id found
    rw [names] at found
    obtain ⟨row, member, same⟩ := ok.live space name id found
    exact ⟨row, by simp [rows, member], same⟩

/-- The row under the id, if live, already carries the name in that space or none is given. -/
def Carries (space : SourceSpace) (t : ThreadTranscript) (rowId : String) (name : Option String) : Prop :=
  ∀ itemId, name = some itemId → ∀ row ∈ t.rows, row.rowId = rowId → (row.sourceName space).isSome = true

/-- A row that carries a name keeps its content when that space is bound again. -/
theorem bindCarried_rows {t : ThreadTranscript} (ok : t.Consistent) {space : SourceSpace} {rowId : String}
    {name : Option String} (carries : Carries space t rowId name) : (t.bindCarried space rowId name).rows = t.rows := by
  cases name with
  | none => rfl
  | some itemId =>
    unfold bindCarried
    by_cases yes : Binds space t rowId itemId
    · obtain ⟨index, row, _, at_row, same, result⟩ := bindName_taken ok yes
      have kept : adoptName space row itemId = row := by
        have carried := carries itemId rfl row (List.mem_of_getElem? at_row) same
        simp [adoptName, Option.isNone_iff_eq_none, Option.isSome_iff_ne_none.mp carried]
      simp only [result, kept, setRow, rows_setNames]
      rw [List.getElem?_eq_some_iff] at at_row
      obtain ⟨bound, rfl⟩ := at_row
      exact List.set_getElem_self bound
    · simp only [bindName_refused yes]

theorem bindOwnNames_rows {t : ThreadTranscript} (ok : t.Consistent) {rowId : String} (record : TranscriptRecord)
    (here : ∀ row ∈ t.rows, row.rowId = rowId → row = record) :
    (t.bindOwnNames rowId record.providerItemId record.relayItemId).rows = t.rows := by
  have provider : Carries .provider t rowId record.providerItemId := by
    intro itemId named row member same
    obtain rfl := here row member same
    simp [TranscriptRecord.sourceName, named]
  have middle := (bindCarried_consistent ok .provider rowId record.providerItemId).2
  have rows := bindCarried_rows ok provider
  have relay : Carries .relay (t.bindCarried .provider rowId record.providerItemId) rowId record.relayItemId := by
    intro itemId named row member same
    rw [rows] at member
    obtain rfl := here row member same
    simp [TranscriptRecord.sourceName, named]
  unfold bindOwnNames
  rw [bindCarried_rows middle relay, rows]

/-- The store as `push` leaves it before the names of the row are bound. -/
def appended (t : ThreadTranscript) (record : TranscriptRecord) (seq : UInt64) : ThreadTranscript :=
  { t with
    rows := t.rows ++ [record]
    byRowId := t.byRowId.put record.rowId t.rows.length
    syntheticSeq := seq }

theorem appended_consistent {t : ThreadTranscript} (ok : t.Consistent) {record : TranscriptRecord}
    (free : t.byRowId.has record.rowId = false) (seq : UInt64) : (t.appended record seq).Consistent :=
  ok.append free rfl rfl fun space => by cases space <;> rfl

theorem push_eq {t u : ThreadTranscript} {record : TranscriptRecord} {id : String}
    (pushed : t.push record = some (u, id)) :
    t.byRowId.has id = false ∧ ∃ seq, u =
      (t.appended { record with rowId := id } seq).bindOwnNames id record.providerItemId record.relayItemId := by
  unfold push at pushed
  obtain ⟨⟨rowId, seq⟩, minted, result⟩ := Option.bind_eq_some_iff.mp pushed
  obtain ⟨rfl, rfl⟩ := Prod.mk.inj (Option.some.inj result)
  exact ⟨mintRowId_free minted, seq, rfl⟩

theorem push_consistent {t u : ThreadTranscript} (ok : t.Consistent) {record : TranscriptRecord} {id : String}
    (pushed : t.push record = some (u, id)) : u.Consistent := by
  obtain ⟨free, seq, rfl⟩ := push_eq pushed
  exact (bindOwnNames_consistent (appended_consistent ok free seq) id _ _).2

/-- `push` appends exactly the given row, under the id it returns. -/
theorem push_rows {t u : ThreadTranscript} (ok : t.Consistent) {record : TranscriptRecord} {id : String}
    (pushed : t.push record = some (u, id)) : u.rows = t.rows ++ [{ record with rowId := id }] := by
  obtain ⟨free, seq, rfl⟩ := push_eq pushed
  refine bindOwnNames_rows (appended_consistent ok free seq) { record with rowId := id } ?_
  intro row member same
  rcases List.mem_append.mp member with old | new
  · exact absurd same (ok.not_has free old)
  · exact List.mem_singleton.mp new

theorem setRow_shape {t : ThreadTranscript} {index : Nat} {row next : TranscriptRecord}
    (at_row : t.rows[index]? = some row) (kept : RowKept row next) : SameShape t (t.setRow index next) :=
  ⟨rfl, forall₂_set at_row kept⟩

theorem setRow_consistent {t : ThreadTranscript} (ok : t.Consistent) {index : Nat} {row next : TranscriptRecord}
    (at_row : t.rows[index]? = some row) (kept : RowKept row next) : (t.setRow index next).Consistent :=
  ok.of_shape (setRow_shape at_row kept) fun space name id found => ok.has_of_names (by simpa using found)

theorem updateRow_consistent {R : Type} {t : ThreadTranscript} (ok : t.Consistent) (rowId : String)
    (edit : TranscriptRecord → TranscriptRecord × R) :
    SameShape t (t.updateRow rowId edit).1 ∧ (t.updateRow rowId edit).1.Consistent := by
  unfold updateRow
  split
  · exact ⟨.refl t, ok⟩
  rename_i index at_id
  split
  · exact ⟨.refl t, ok⟩
  rename_i row at_row
  have kept := RowKept.restore row (edit row).1
  have shape := setRow_shape at_row kept
  obtain ⟨bound, last⟩ := bindOwnNames_consistent (setRow_consistent ok at_row kept) (RowIdentity.of row).rowId
    ((RowIdentity.of row).restore (edit row).1).providerItemId ((RowIdentity.of row).restore (edit row).1).relayItemId
  exact ⟨shape.trans bound, last⟩

theorem indexRows_append (rows : List TranscriptRecord) (row : TranscriptRecord) :
    indexRows (rows ++ [row]) = (indexRows rows).put row.rowId rows.length := by
  simp [indexRows, List.zipIdx_append]

theorem indexRows_get {rows : List TranscriptRecord} (distinct : (rows.map (·.rowId)).Nodup) (id : String)
    (index : Nat) : (indexRows rows).get id = some index ↔ (rows[index]?).map (·.rowId) = some id := by
  induction rows using List.reverseRecOn generalizing index with
  | nil => simp [indexRows]
  | append_singleton rows row ih =>
    rw [List.map_append, List.nodup_append] at distinct
    obtain ⟨earlier, _, apart⟩ := distinct
    have fresh (member : TranscriptRecord) (here : member ∈ rows) : member.rowId ≠ row.rowId := by
      intro same
      exact apart _ (List.mem_map_of_mem here) row.rowId (by simp) same
    rw [indexRows_append, Table.get_put]
    rcases Nat.lt_trichotomy index rows.length with before | here | after
    · rw [List.getElem?_append_left before]
      split
      · rename_i same
        subst same
        have other : rows[index]?.map (·.rowId) ≠ some row.rowId := by
          intro taken
          obtain ⟨member, at_member, same⟩ := Option.map_eq_some_iff.mp taken
          exact fresh member (List.mem_of_getElem? at_member) same
        simp only [other, iff_false, Option.some.injEq]
        omega
      · exact ih earlier index
    · subst here
      rw [List.getElem?_append_right (Nat.le_refl _)]
      split
      · rename_i same
        simp [same]
      · rename_i other
        have beyond : (indexRows rows).get id ≠ some rows.length := by
          intro taken
          simpa using (ih earlier _).mp taken
        simp [beyond, Ne.symm other]
    · have beyond : (rows ++ [row])[index]? = none := by
        rw [List.getElem?_eq_none_iff, List.length_append, List.length_singleton]
        omega
      rw [beyond]
      split
      · simp only [Option.some.injEq, Option.map_none, reduceCtorEq, iff_false]
        omega
      · rw [ih earlier index, List.getElem?_eq_none_iff.mpr after.le]

theorem nameRows_cons (space : SourceSpace) (row : TranscriptRecord) (rows : List TranscriptRecord)
    (names : Table String String) :
    nameRows space (row :: rows) names = nameRows space rows
      (match row.sourceName space with
        | some itemId => if names.has itemId then names else names.put itemId row.rowId
        | none => names) := rfl

/-- A name held before `nameRows` keeps its row; a new one is that of a row that carries it. -/
theorem nameRows_get {space : SourceSpace} {rows : List TranscriptRecord} {names : Table String String}
    {name id : String} (found : (nameRows space rows names).get name = some id) :
    names.get name = some id ∨
      names.get name = none ∧ ∃ row ∈ rows, row.sourceName space = some name ∧ row.rowId = id := by
  induction rows generalizing names with
  | nil => exact .inl found
  | cons row rows ih =>
    rw [nameRows_cons] at found
    rcases ih found with held | ⟨absent, later, member, carries, same⟩
    · split at held
      · rename_i itemId carries
        split at held
        · exact .inl held
        · rename_i absent
          rw [Table.get_put] at held
          split at held
          · rename_i here
            subst here
            refine .inr ⟨?_, row, List.mem_cons_self, carries, Option.some.inj held⟩
            simpa [Table.has] using absent
          · exact .inl held
      · exact .inl held
    · refine .inr ⟨?_, later, List.mem_cons_of_mem _ member, carries, same⟩
      split at absent
      · split at absent
        · exact absent
        · rw [Table.get_put] at absent
          split at absent
          · cases absent
          · exact absent
      · exact absent

theorem reindex_consistent {t : ThreadTranscript} (distinct : (t.rows.map (·.rowId)).Nodup) : t.reindex.Consistent := by
  have indexed := indexRows_get distinct
  have live_id (id : String) (present : (indexRows t.rows).has id = true) : ∃ row ∈ t.rows, row.rowId = id := by
    obtain ⟨index, at_id⟩ := Table.has_iff.mp present
    obtain ⟨row, at_row, same⟩ := Option.map_eq_some_iff.mp ((indexed id index).mp at_id)
    exact ⟨row, List.mem_of_getElem? at_row, same⟩
  refine ⟨distinct, indexed, ?_⟩
  have lives (space : SourceSpace) (names : Table String String) (name id : String)
      (found : (nameRows space t.rows (names.retain fun _ rowId => (indexRows t.rows).has rowId)).get name = some id) :
      ∃ row ∈ t.rows, row.rowId = id := by
    rcases nameRows_get found with held | ⟨_, row, member, _, same⟩
    · rw [Table.get_retain] at held
      exact live_id id (Option.filter_eq_some_iff.mp held).2
    · exact ⟨row, member, same⟩
  intro space name id found
  cases space with
  | provider => exact lives .provider _ name id found
  | relay => exact lives .relay _ name id found

theorem editAll_kept {S : Type} (edit : S → TranscriptRecord → TranscriptRecord × S) (state : S)
    (rows : List TranscriptRecord) : List.Forall₂ RowKept rows (editAll edit state rows) := by
  induction rows generalizing state with
  | nil => exact .nil
  | cons row rest ih => exact .cons (.restore row _) (ih _)

theorem updateAll_consistent {S : Type} {t : ThreadTranscript} (ok : t.Consistent)
    (edit : S → TranscriptRecord → TranscriptRecord × S) (state : S) :
    List.Forall₂ RowKept t.rows (t.updateAll edit state).rows ∧ (t.updateAll edit state).Consistent := by
  have kept := editAll_kept edit state t.rows
  refine ⟨kept, reindex_consistent ?_⟩
  change ((editAll edit state t.rows).map (·.rowId)).Nodup
  rw [forall₂_rowIds kept]
  exact ok.distinct

/-- A record of a batch under the row id it was given. -/
def Renamed (record claimed : TranscriptRecord) : Prop :=
  claimed = { record with rowId := claimed.rowId }

theorem claimRowIds_spec {records claimed : List TranscriptRecord} {byRowId after : Table String Nat}
    {seq next : UInt64} (run : claimRowIds records byRowId seq = some (claimed, after, next)) :
    List.Forall₂ Renamed records claimed ∧ (claimed.map (·.rowId)).Nodup ∧
      ∀ row ∈ claimed, byRowId.has row.rowId = false := by
  induction records generalizing byRowId seq claimed after next with
  | nil =>
    simp only [claimRowIds, Option.some.injEq, Prod.mk.injEq] at run
    obtain ⟨rfl, -⟩ := run
    simp
  | cons record rest ih =>
    unfold claimRowIds at run
    obtain ⟨⟨rowId, seq'⟩, minted, remaining⟩ := Option.bind_eq_some_iff.mp run
    obtain ⟨⟨claimed', after', next'⟩, claims, result⟩ := Option.bind_eq_some_iff.mp remaining
    simp only [Option.some.injEq, Prod.mk.injEq] at result
    obtain ⟨rfl, -⟩ := result
    obtain ⟨renamed, distinct, free⟩ := ih claims
    have later (row : TranscriptRecord) (member : row ∈ claimed') :
        row.rowId ≠ rowId ∧ byRowId.has row.rowId = false := by
      have unclaimed := free row member
      unfold Table.has at unclaimed ⊢
      rw [Table.get_put] at unclaimed
      split at unclaimed
      · cases unclaimed
      · rename_i other
        exact ⟨other, unclaimed⟩
    refine ⟨.cons rfl renamed, ?_, ?_⟩
    · rw [List.map_cons, List.nodup_cons]
      refine ⟨?_, distinct⟩
      rintro taken
      obtain ⟨row, member, same⟩ := List.mem_map.mp taken
      exact (later row member).1 same
    · intro row member
      rcases List.mem_cons.mp member with rfl | there
      · exact mintRowId_free minted
      · exact (later row there).2

/-- The rows with a batch put in before `index`. -/
def spliced (t : ThreadTranscript) (index : Nat) (claimed : List TranscriptRecord) (byRowId : Table String Nat)
    (seq : UInt64) : ThreadTranscript :=
  { t with
    rows := t.rows.take index ++ claimed ++ t.rows.drop index
    byRowId := byRowId
    syntheticSeq := seq }

theorem insertBefore_eq {t u : ThreadTranscript} {index : Nat} {records : List TranscriptRecord} {ids : List String}
    (inserted : t.insertBefore index records = some (u, ids)) :
    ∃ claimed byRowId seq, List.Forall₂ Renamed records claimed ∧ (claimed.map (·.rowId)).Nodup ∧
      (∀ row ∈ claimed, t.byRowId.has row.rowId = false) ∧ ids = claimed.map (·.rowId) ∧
      u = (t.spliced index claimed byRowId seq).reindex := by
  unfold insertBefore at inserted
  obtain ⟨⟨claimed, byRowId, seq⟩, claims, result⟩ := Option.bind_eq_some_iff.mp inserted
  simp only at result
  split at result
  · obtain ⟨rfl, rfl⟩ := Prod.mk.inj (Option.some.inj result)
    obtain ⟨renamed, distinct, free⟩ := claimRowIds_spec claims
    exact ⟨claimed, byRowId, seq, renamed, distinct, free, rfl, rfl⟩
  · cases result

theorem spliced_distinct {t : ThreadTranscript} (ok : t.Consistent) {index : Nat} {claimed : List TranscriptRecord}
    (distinct : (claimed.map (·.rowId)).Nodup) (free : ∀ row ∈ claimed, t.byRowId.has row.rowId = false) :
    ((t.rows.take index ++ claimed ++ t.rows.drop index).map (·.rowId)).Nodup := by
  have order : (t.rows.take index ++ claimed ++ t.rows.drop index).Perm (t.rows ++ claimed) := by
    rw [List.append_assoc]
    have swap : (claimed ++ t.rows.drop index).Perm (t.rows.drop index ++ claimed) := List.perm_append_comm
    refine (swap.append_left _).trans ?_
    rw [← List.append_assoc, List.take_append_drop]
  refine (order.map _).nodup_iff.mpr ?_
  rw [List.map_append, List.nodup_append]
  refine ⟨ok.distinct, distinct, ?_⟩
  rintro id old _ new rfl
  obtain ⟨row, member, same⟩ := List.mem_map.mp old
  obtain ⟨claim, there, taken⟩ := List.mem_map.mp new
  exact ok.not_has (free claim there) member (same.trans taken.symm)

theorem insertBefore_placed {t u : ThreadTranscript} (ok : t.Consistent) {index : Nat}
    {records : List TranscriptRecord} {ids : List String} (inserted : t.insertBefore index records = some (u, ids)) :
    u.Consistent ∧ ∃ placed, List.Forall₂ Renamed records placed ∧ ids = placed.map (·.rowId) ∧
      u.rows = t.rows.take index ++ placed ++ t.rows.drop index := by
  obtain ⟨claimed, byRowId, seq, renamed, distinct, free, same, rfl⟩ := insertBefore_eq inserted
  exact ⟨reindex_consistent (spliced_distinct ok distinct free), claimed, renamed, same, rfl⟩

theorem zipWith_renamed {records placed : List TranscriptRecord} (renamed : List.Forall₂ Renamed records placed) :
    List.zipWith (fun record id => { record with rowId := id }) records (placed.map (·.rowId)) = placed := by
  induction renamed with
  | nil => rfl
  | cons head _ ih =>
    simp only [List.map_cons, List.zipWith_cons_cons, ih]
    rw [← head]

/-- `insertBefore` puts in exactly the given rows, in order, under the ids it returns. -/
theorem insertBefore_consistent {t u : ThreadTranscript} (ok : t.Consistent) {index : Nat}
    {records : List TranscriptRecord} {ids : List String} (inserted : t.insertBefore index records = some (u, ids)) :
    u.Consistent ∧ ids.length = records.length ∧ u.rows = t.rows.take index ++
      List.zipWith (fun record id => { record with rowId := id }) records ids ++ t.rows.drop index := by
  obtain ⟨consistent, placed, renamed, rfl, rows⟩ := insertBefore_placed ok inserted
  refine ⟨consistent, by simp [renamed.length_eq], ?_⟩
  rw [zipWith_renamed renamed, rows]

theorem clear_consistent (t : ThreadTranscript) : t.clear.Consistent where
  distinct := List.nodup_nil
  indexed := by simp [clear]
  live := by
    intro space name id found
    cases space <;> simp [names, clear] at found

end ThreadTranscript

end Sealwire.Transcript

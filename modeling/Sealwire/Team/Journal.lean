import Sealwire.Team.Revision

namespace Sealwire.Team

namespace TeamCommandJournal

theorem find_eq_none {journal : TeamCommandJournal} {commandId : String} :
    journal.find commandId = none ↔ ∀ record ∈ journal.records, record.commandId ≠ commandId := by
  simp [find, List.find?_eq_none]

theorem mem_of_find {journal : TeamCommandJournal} {commandId : String} {record : TeamCommandRecord}
    (found : journal.find commandId = some record) : record ∈ journal.records ∧ record.commandId = commandId := by
  refine ⟨List.mem_of_find?_eq_some found, ?_⟩
  simpa using List.find?_some found

/-- With distinct ids the journal finds each of its records under its own id. -/
theorem find_of_mem {journal : TeamCommandJournal} (distinct : (journal.records.map (·.commandId)).Nodup)
    {record : TeamCommandRecord} (member : record ∈ journal.records) :
    journal.find record.commandId = some record := by
  cases found : journal.find record.commandId with
  | none => exact absurd rfl (find_eq_none.mp found record member)
  | some other =>
    obtain ⟨inside, same⟩ := mem_of_find found
    rw [List.inj_on_of_nodup_map distinct inside member same]

/-- A record under an id of its own keeps the ids distinct. -/
theorem nodup_append {records : List TeamCommandRecord} {record : TeamCommandRecord}
    (distinct : (records.map (·.commandId)).Nodup) (apart : ∀ old ∈ records, old.commandId ≠ record.commandId) :
    ((records ++ [record]).map (·.commandId)).Nodup := by
  rw [List.map_append, List.map_singleton, List.nodup_append]
  refine ⟨distinct, List.nodup_singleton _, ?_⟩
  intro id inside last same
  obtain ⟨old, member, rfl⟩ := List.mem_map.mp inside
  intro clash
  rw [List.mem_singleton.mp same] at clash
  exact apart old member clash

theorem removeFirst_split {journal next : TeamCommandJournal} {test : TeamCommandRecord → Bool}
    {record : TeamCommandRecord} (taken : journal.removeFirst test = some (record, next)) :
    test record = true ∧ ∃ before after, journal.records = before ++ record :: after ∧
      next = { journal with records := before ++ after } := by
  obtain ⟨first, found, same⟩ := Option.map_eq_some_iff.mp taken
  obtain ⟨rfl, rfl⟩ := Prod.mk.inj same
  have passes := List.find?_some found
  obtain ⟨_, before, after, split, skipped⟩ := List.find?_eq_some_iff_append.mp found
  refine ⟨passes, before, after, split, ?_⟩
  have kept : ∀ other ∈ before, ¬test other = true := by
    intro other inside
    simpa using skipped other inside
  rw [split, List.eraseP_append_right _ kept, List.eraseP_cons_of_pos passes]

end TeamCommandJournal

/-- Notes are kept only for the drains among the records. -/
def NotesBacked (run : TeamRun) : Prop :=
  ∀ entry ∈ run.drainedNotes, ∃ record ∈ run.commandJournal.records,
    record.commandId = entry.commandId ∧ record.kind = .takeUserNotes

/-- A journal that can answer a redelivery: the watermark covers its records, an id names one
of them, and notes are kept only for the drains among them. -/
structure Ledger (run : TeamRun) : Prop where
  covered : ∀ record ∈ run.commandJournal.records, record.sequence ≤ run.driverProgress.lastCommandSeq
  distinct : (run.commandJournal.records.map (·.commandId)).Nodup
  notes : NotesBacked run

/-- A run that journaled nothing yet. -/
theorem Ledger.of_empty {run : TeamRun} (records : run.commandJournal.records = []) (notes : run.drainedNotes = []) :
    Ledger run := by
  refine ⟨?_, ?_, ?_⟩
  · rw [records]
    exact fun _ member => absurd member List.not_mem_nil
  · rw [records]
    exact List.nodup_nil
  · unfold NotesBacked
    rw [notes]
    exact fun _ member => absurd member List.not_mem_nil

/-- An evicted record takes its notes along if it is a drain, so what is left stays backed. -/
theorem NotesBacked.evict {run : TeamRun} (backed : NotesBacked run) {evicted : TeamCommandRecord}
    {before after : List TeamCommandRecord} (parts : run.commandJournal.records = before ++ evicted :: after)
    {next : TeamRun} (records : next.commandJournal.records = before ++ after)
    (notes : next.drainedNotes = if evicted.kind = .takeUserNotes then
      run.drainedNotes.filter fun entry => entry.commandId ≠ evicted.commandId else run.drainedNotes) :
    NotesBacked next := by
  intro entry member
  rw [notes] at member
  have old : entry ∈ run.drainedNotes ∧ (evicted.kind = .takeUserNotes → entry.commandId ≠ evicted.commandId) := by
    split at member
    · obtain ⟨inside, other⟩ := List.mem_filter.mp member
      exact ⟨inside, fun _ => by simpa using other⟩
    · rename_i plain
      exact ⟨member, fun drain => absurd drain plain⟩
  obtain ⟨record, inside, named, drain⟩ := backed entry old.1
  have stays : record ≠ evicted := by
    rintro rfl
    exact old.2 drain named.symm
  rw [parts] at inside
  rw [records]
  refine ⟨record, ?_, named, drain⟩
  rcases List.mem_append.mp inside with first | rest
  · exact List.mem_append_left _ first
  · rcases List.mem_cons.mp rest with same | last
    · exact absurd same stays
    · exact List.mem_append_right _ last

/-- The notes a drain left for its replay. -/
def TeamRun.notesUnder (run : TeamRun) (commandId : String) : Option LastDrainedNotes :=
  run.drainedNotes.find? fun entry => entry.commandId = commandId

/-- What eviction may do to a run: take records out, never the latest, and with a drain its notes. -/
structure Trims (run next : TeamRun) : Prop where
  backend : next.orchestrationBackend = run.orchestrationBackend
  progress : next.driverProgress = run.driverProgress
  malformed : next.commandJournal.malformed = run.commandJournal.malformed
  records : next.commandJournal.records.Sublist run.commandJournal.records
  latest : ∀ record ∈ run.commandJournal.records, record.sequence = run.driverProgress.lastCommandSeq →
    record ∈ next.commandJournal.records
  notes : ∀ record ∈ next.commandJournal.records,
    next.notesUnder record.commandId = run.notesUnder record.commandId
  ledger : Ledger next

theorem Trims.refl {run : TeamRun} (ledger : Ledger run) : Trims run run :=
  ⟨rfl, rfl, rfl, .refl _, fun _ member _ => member, fun _ _ => rfl, ledger⟩

theorem Trims.trans {run mid next : TeamRun} (first : Trims run mid) (second : Trims mid next) : Trims run next where
  backend := second.backend.trans first.backend
  progress := second.progress.trans first.progress
  malformed := second.malformed.trans first.malformed
  records := second.records.trans first.records
  latest := by
    intro record member top
    refine second.latest record (first.latest record member top) ?_
    rw [first.progress]
    exact top
  notes := by
    intro record member
    rw [second.notes record member, first.notes record (second.records.subset member)]
  ledger := second.ledger

theorem notesUnder_drop {run : TeamRun} {evicted commandId : String} (other : commandId ≠ evicted) :
    (dropDrainedNotes run evicted).notesUnder commandId = run.notesUnder commandId := by
  unfold TeamRun.notesUnder dropDrainedNotes
  rw [List.find?_filter]
  congr 1
  funext entry
  by_cases same : entry.commandId = commandId
  · simp [same, other]
  · simp [same]

/-- One round of the eviction loop. -/
theorem evictOne_trims {run next : TeamRun} {evicted : TeamCommandRecord} (ledger : Ledger run)
    (taken : evictOne run = some (evicted, next)) :
    Trims run (if evicted.kind = .takeUserNotes then dropDrainedNotes next evicted.commandId else next) := by
  obtain ⟨⟨first, journal⟩, removed, same⟩ := Option.map_eq_some_iff.mp taken
  obtain ⟨rfl, rfl⟩ := Prod.mk.inj same
  obtain ⟨passes, before, after, split, rfl⟩ := TeamCommandJournal.removeFirst_split removed
  have below : first.sequence < run.driverProgress.lastCommandSeq := by
    simp only [TeamRun.evictable, Bool.and_eq_true, decide_eq_true_eq] at passes
    exact passes.2
  have fewer : (before ++ after).Sublist run.commandJournal.records := by
    rw [split]
    exact (List.sublist_cons_self first after).append_left before
  have distinct : ((before ++ after).map (·.commandId)).Nodup := (fewer.map _).nodup ledger.distinct
  -- the ids are distinct, so no retained record shares the evicted one's
  have apart : ∀ record ∈ before ++ after, record.commandId ≠ first.commandId := by
    intro record member
    have nodup := ledger.distinct
    rw [split, List.map_append, List.map_cons, List.nodup_middle] at nodup
    intro clash
    refine (List.nodup_cons.mp nodup).1 ?_
    rw [← clash, ← List.map_append]
    exact List.mem_map_of_mem member
  have stays : ∀ record ∈ run.commandJournal.records, record ≠ first → record ∈ before ++ after := by
    intro record member differs
    rw [split] at member
    rcases List.mem_append.mp member with inside | inside
    · exact List.mem_append_left _ inside
    · rcases List.mem_cons.mp inside with rfl | inside
      · exact absurd rfl differs
      · exact List.mem_append_right _ inside
  have latest : ∀ record ∈ run.commandJournal.records, record.sequence = run.driverProgress.lastCommandSeq →
      record ∈ before ++ after := by
    intro record member top
    refine stays record member ?_
    rintro rfl
    rw [top] at below
    exact UInt64.lt_irrefl _ below
  have covered : ∀ record ∈ before ++ after, record.sequence ≤ run.driverProgress.lastCommandSeq :=
    fun record member => ledger.covered record (fewer.subset member)
  split
  · rename_i drain
    refine ⟨rfl, rfl, rfl, fewer, latest, ?_, covered, distinct, ledger.notes.evict split rfl (if_pos drain).symm⟩
    intro record member
    exact notesUnder_drop (apart record member)
  · rename_i plain
    exact ⟨rfl, rfl, rfl, fewer, latest, fun _ _ => rfl, covered, distinct,
      ledger.notes.evict split rfl (if_neg plain).symm⟩

theorem evictWhileFull_trims (rounds : Nat) {run : TeamRun} (ledger : Ledger run) :
    Trims run (evictWhileFull rounds run) := by
  induction rounds generalizing run with
  | zero => exact .refl ledger
  | succ rounds ih =>
    unfold evictWhileFull
    split
    · split
      · exact .refl ledger
      · rename_i evicted next taken
        have round := evictOne_trims ledger taken
        exact round.trans (ih round.ledger)
    · exact .refl ledger

/-- The run with the record appended, before anything is evicted for it. -/
def TeamRun.withRecord (run : TeamRun) (record : TeamCommandRecord) : TeamRun :=
  { run with
    driverProgress := { run.driverProgress with
      lastCommandSeq := max run.driverProgress.lastCommandSeq record.sequence }
    commandJournal := run.commandJournal.push record }

theorem pushWithEviction_eq (run : TeamRun) (record : TeamCommandRecord) :
    pushWithEviction run record =
      evictWhileFull (run.withRecord record).commandJournal.records.length (run.withRecord record) :=
  rfl

/-- Appending a fresh record keeps the ledger, where its notes may have come in before it. -/
theorem withRecord_ledger {run : TeamRun} {record : TeamCommandRecord}
    (covered : ∀ old ∈ run.commandJournal.records, old.sequence ≤ run.driverProgress.lastCommandSeq)
    (distinct : (run.commandJournal.records.map (·.commandId)).Nodup)
    (unseen : run.commandJournal.find record.commandId = none)
    (notes : ∀ entry ∈ run.drainedNotes, (record.commandId = entry.commandId ∧ record.kind = .takeUserNotes) ∨
      ∃ old ∈ run.commandJournal.records, old.commandId = entry.commandId ∧ old.kind = .takeUserNotes) :
    Ledger (run.withRecord record) where
  covered := by
    intro old member
    have top := toNat_max run.driverProgress.lastCommandSeq record.sequence
    simp only [TeamRun.withRecord, TeamCommandJournal.push, List.mem_append, List.mem_singleton] at member
    simp only [TeamRun.withRecord, UInt64.le_iff_toNat_le]
    rcases member with member | rfl
    · have below := UInt64.le_iff_toNat_le.mp (covered old member)
      omega
    · omega
  distinct := by
    exact TeamCommandJournal.nodup_append distinct (TeamCommandJournal.find_eq_none.mp unseen)
  notes := by
    intro entry member
    rcases notes entry member with ⟨named, drain⟩ | ⟨old, inside, named, drain⟩
    · exact ⟨record, List.mem_append_right _ (List.mem_singleton_self record), named, drain⟩
    · exact ⟨old, List.mem_append_left _ inside, named, drain⟩

end Sealwire.Team

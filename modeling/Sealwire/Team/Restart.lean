import Sealwire.Team.Idempotence
import Sealwire.Team.Restore

namespace Sealwire.Team

/-- What no part of the recovery undoes. -/
structure Preserves (run next : TeamRun) : Prop where
  backend : next.orchestrationBackend = run.orchestrationBackend
  progress : next.driverProgress.malformed = run.driverProgress.malformed
  inFlight : next.inFlightCommand = run.inFlightCommand
  legacy : next.driverProgress.inFlightCommandId = run.driverProgress.inFlightCommandId
  watermark : run.driverProgress.lastCommandSeq ≤ next.driverProgress.lastCommandSeq

theorem Preserves.refl (run : TeamRun) : Preserves run run :=
  ⟨rfl, rfl, rfl, rfl, UInt64.le_refl _⟩

theorem Preserves.trans {run mid next : TeamRun} (first : Preserves run mid) (second : Preserves mid next) :
    Preserves run next where
  backend := second.backend.trans first.backend
  progress := second.progress.trans first.progress
  inFlight := second.inFlight.trans first.inFlight
  legacy := second.legacy.trans first.legacy
  watermark := UInt64.le_trans first.watermark second.watermark

/-- A journal that fits and has one record for each id. -/
structure Sound (journal : TeamCommandJournal) : Prop where
  fits : journal.records.length ≤ maxTeamCommandJournal
  distinct : (journal.records.map (·.commandId)).Nodup

namespace TeamCommandJournal

theorem decodeRecords_distinct {decodeRecord : JsonValue → Option TeamCommandRecord} {items : List JsonValue}
    {seen records : List TeamCommandRecord} (distinct : (seen.map (·.commandId)).Nodup)
    (decoded : decodeRecords decodeRecord seen items = some records) :
    records.length = seen.length + items.length ∧ (records.map (·.commandId)).Nodup := by
  induction items generalizing seen with
  | nil =>
    obtain rfl := Option.some.inj decoded
    exact ⟨rfl, distinct⟩
  | cons item items ih =>
    unfold decodeRecords at decoded
    split at decoded
    · rename_i record _
      split at decoded
      · cases decoded
      · rename_i fresh
        have grown : ((seen ++ [record]).map (·.commandId)).Nodup := by
          refine nodup_append distinct fun old member same => fresh (List.any_eq_true.mpr ⟨old, member, ?_⟩)
          exact decide_eq_true same
        obtain ⟨length, nodup⟩ := ih grown decoded
        refine ⟨?_, nodup⟩
        rw [length, List.length_append, List.length_singleton, List.length_cons]
        omega
    · cases decoded

/-- A persisted journal reads as malformed or as one that fits with distinct ids. -/
theorem decode_sound (decodeRecord : JsonValue → Option TeamCommandRecord) (value : JsonValue) :
    (decode decodeRecord value).malformed = true ∨ Sound (decode decodeRecord value) := by
  unfold decode
  split
  · split
    · exact .inl rfl
    · split
      · rename_i items _
        split
        · exact .inl rfl
        · rename_i fits
          split
          · rename_i records decoded
            have start : (([] : List TeamCommandRecord).map (·.commandId)).Nodup := List.nodup_nil
            obtain ⟨length, distinct⟩ := decodeRecords_distinct start decoded
            refine .inr ⟨?_, distinct⟩
            rw [length, List.length_nil]
            omega
          · exact .inl rfl
      · exact .inl rfl
  · exact .inl rfl

theorem restored_sound (decodeRecord : JsonValue → Option TeamCommandRecord) (persisted : Option JsonValue) :
    (restored decodeRecord persisted).malformed = true ∨ Sound (restored decodeRecord persisted) := by
  cases persisted with
  | some value => exact decode_sound decodeRecord value
  | none => exact .inr ⟨Nat.zero_le _, List.nodup_nil⟩

end TeamCommandJournal

namespace TeamRun

theorem coverSequence_preserves (run : TeamRun) (sequence : UInt64) : Preserves run (run.coverSequence sequence) := by
  refine ⟨rfl, rfl, rfl, rfl, ?_⟩
  rw [UInt64.le_iff_toNat_le, TeamRun.coverSequence, toNat_max]
  exact Nat.le_max_left _ _

theorem le_coverSequence (run : TeamRun) (sequence : UInt64) :
    sequence ≤ (run.coverSequence sequence).driverProgress.lastCommandSeq := by
  rw [UInt64.le_iff_toNat_le, TeamRun.coverSequence, toNat_max]
  exact Nat.le_max_right _ _

theorem markJournalMalformed_preserves (run : TeamRun) : Preserves run run.markJournalMalformed :=
  ⟨rfl, rfl, rfl, rfl, UInt64.le_refl _⟩

/-- Making room evicts records and nothing else, and with enough rounds leaves room for one. -/
theorem makeRoom_spec (commandId : String) (rounds : Nat) (run : TeamRun)
    (enough : run.commandJournal.records.length ≤ rounds) :
    Preserves run (run.makeRoom commandId rounds).1 ∧
      (run.makeRoom commandId rounds).1.commandJournal.malformed = run.commandJournal.malformed ∧
      (run.makeRoom commandId rounds).1.commandJournal.records.Sublist run.commandJournal.records ∧
      ((run.makeRoom commandId rounds).2 = true →
        (run.makeRoom commandId rounds).1.commandJournal.records.length < maxTeamCommandJournal) := by
  induction rounds generalizing run with
  | zero =>
    refine ⟨.refl run, rfl, .refl _, fun _ => ?_⟩
    rw [makeRoom, Nat.le_zero.mp enough]
    decide
  | succ rounds ih =>
    unfold makeRoom
    split
    · rename_i full
      split
      · exact ⟨.refl run, rfl, .refl _, fun stuck => by cases stuck⟩
      · rename_i evicted journal removed
        obtain ⟨-, before, after, parts, rfl⟩ := TeamCommandJournal.removeFirst_split removed
        have fewer : (before ++ after).Sublist run.commandJournal.records := by
          rw [parts]
          exact (List.sublist_cons_self evicted after).append_left before
        have shorter : (before ++ after).length ≤ rounds := by
          rw [parts, List.length_append, List.length_cons] at enough
          rw [List.length_append]
          omega
        -- the notes of an evicted drain go with it, which none of the four facts sees
        have step (mid : TeamRun) (covered : Preserves run mid)
            (journal : mid.commandJournal = { run.commandJournal with records := before ++ after }) :
            Preserves run (mid.makeRoom commandId rounds).1 ∧
              (mid.makeRoom commandId rounds).1.commandJournal.malformed = run.commandJournal.malformed ∧
              (mid.makeRoom commandId rounds).1.commandJournal.records.Sublist run.commandJournal.records ∧
              ((mid.makeRoom commandId rounds).2 = true →
                (mid.makeRoom commandId rounds).1.commandJournal.records.length < maxTeamCommandJournal) := by
          obtain ⟨preserves, malformed, sublist, room⟩ := ih mid (by rw [journal]; exact shorter)
          rw [journal] at malformed sublist
          exact ⟨covered.trans preserves, malformed, sublist.trans fewer, room⟩
        have covered := coverSequence_preserves run evicted.sequence
        dsimp only
        split
        · exact step _ ⟨covered.backend, covered.progress, covered.inFlight, covered.legacy, covered.watermark⟩ rfl
        · exact step _ ⟨covered.backend, covered.progress, covered.inFlight, covered.legacy, covered.watermark⟩ rfl
    · rename_i room
      exact ⟨.refl run, rfl, .refl _, fun _ => Nat.lt_of_not_le room⟩

end TeamRun

/-- A journal that is marked untrustworthy, or sound. -/
def Trusted (journal : TeamCommandJournal) : Prop :=
  journal.malformed = true ∨ Sound journal

/-- What settling an interrupted command leaves: its number is spent, and a journal still
trusted has under its id the interrupted record or the one that was there before. -/
structure Settles (run : TeamRun) (record : TeamCommandRecord) (hasTypedIdentity : Bool) (next : TeamRun) : Prop where
  preserves : Preserves run next
  spent : record.sequence ≤ next.driverProgress.lastCommandSeq
  trusted : Trusted next.commandJournal
  answer : next.commandJournal.malformed = false →
    (next.commandJournal.find record.commandId = some record ∧ run.commandJournal.find record.commandId = none) ∨
    ∃ existing, run.commandJournal.find record.commandId = some existing ∧ next.commandJournal = run.commandJournal ∧
      next.drainedNotes = run.drainedNotes ∧ (hasTypedIdentity = true → existing.fingerprint = record.fingerprint)

theorem find_push {journal : TeamCommandJournal} {record : TeamCommandRecord}
    (unseen : journal.find record.commandId = none) : (journal.push record).find record.commandId = some record := by
  unfold TeamCommandJournal.find at unseen ⊢
  rw [TeamCommandJournal.push, List.find?_append, unseen]
  simp

theorem Sound.push {journal : TeamCommandJournal} {record : TeamCommandRecord}
    (distinct : (journal.records.map (·.commandId)).Nodup) (unseen : journal.find record.commandId = none)
    (room : journal.records.length < maxTeamCommandJournal) : Sound (journal.push record) := by
  refine ⟨?_, TeamCommandJournal.nodup_append distinct (TeamCommandJournal.find_eq_none.mp unseen)⟩
  rw [TeamCommandJournal.push, List.length_append, List.length_singleton]
  exact room

theorem settleInterrupted_settles (run : TeamRun) (trusted : Trusted run.commandJournal) (record : TeamCommandRecord)
    (hasTypedIdentity : Bool) : Settles run record hasTypedIdentity (run.settleInterrupted record hasTypedIdentity) := by
  have covered := run.coverSequence_preserves record.sequence
  have spent := run.le_coverSequence record.sequence
  unfold TeamRun.settleInterrupted
  dsimp only
  split
  · rename_i malformed
    refine ⟨covered, spent, .inl malformed, ?_⟩
    intro sound
    rw [malformed] at sound
    cases sound
  · rename_i readable
    have sound : Sound run.commandJournal := trusted.resolve_left readable
    split
    · rename_i existing found
      split
      · rename_i compatible
        refine ⟨covered, spent, .inr sound, fun _ => .inr ⟨existing, found, rfl, rfl, ?_⟩⟩
        rintro rfl
        simp only [Bool.not_true, Bool.false_or, Bool.and_eq_true, decide_eq_true_eq] at compatible
        exact compatible.1.1.1
      · refine ⟨covered.trans (TeamRun.markJournalMalformed_preserves _), spent, .inl rfl, ?_⟩
        intro readable
        cases readable
    · rename_i unseen
      obtain ⟨preserves, malformed, sublist, room⟩ := (run.coverSequence record.sequence).makeRoom_spec record.commandId
        (run.coverSequence record.sequence).commandJournal.records.length (Nat.le_refl _)
      have reached := UInt64.le_trans spent preserves.watermark
      split
      · rename_i stuck made
        rw [made] at preserves reached
        exact ⟨(covered.trans preserves).trans (TeamRun.markJournalMalformed_preserves _), reached, .inl rfl,
          fun readable => by cases readable⟩
      · rename_i roomy made
        rw [made] at preserves malformed sublist room reached
        have still : roomy.commandJournal.find record.commandId = none :=
          TeamCommandJournal.find_eq_none.mpr fun old member =>
            TeamCommandJournal.find_eq_none.mp unseen old (sublist.subset member)
        have distinct : (roomy.commandJournal.records.map (·.commandId)).Nodup := (sublist.map _).nodup sound.distinct
        have whole := covered.trans preserves
        exact ⟨⟨whole.backend, whole.progress, whole.inFlight, whole.legacy, whole.watermark⟩, reached,
          .inr (.push distinct still (room rfl)), fun _ => .inl ⟨find_push still, unseen⟩⟩

/-- The envelope that was in flight: that of the typed marker, or one under the id-only marker
that is of the record already there, if one is. -/
def InFlight (codec : Codec) (run : TeamRun) (runId : String) (envelope : TeamCommandEnvelope) : Prop :=
  match run.inFlightCommand, run.driverProgress.inFlightCommandId with
  | some inFlight, _ =>
    envelope.commandId = inFlight.commandId ∧ codec.fingerprint runId envelope = inFlight.fingerprint
  | none, some commandId =>
    envelope.commandId = commandId ∧ ∀ record, run.commandJournal.find commandId = some record →
      record.matchesFingerprint (codec.fingerprint runId envelope) = true
  | none, none => False

/-- What recovery leaves of a run with markers: none of them, the backend and the trust in its
progress as they were, and an answer under the marked id. -/
structure Recovered (run next : TeamRun) : Prop where
  backend : next.orchestrationBackend = run.orchestrationBackend
  progress : next.driverProgress.malformed = run.driverProgress.malformed
  inFlight : next.inFlightCommand = none
  legacy : next.driverProgress.inFlightCommandId = none
  spent : ∀ inFlight, run.inFlightCommand = some inFlight → next.commandJournal.malformed = false →
    inFlight.sequence ≤ next.driverProgress.lastCommandSeq
  trusted : Trusted next.commandJournal
  typed : ∀ inFlight, run.inFlightCommand = some inFlight → next.commandJournal.malformed = false →
    ∃ record, next.commandJournal.find inFlight.commandId = some record ∧
      record.fingerprint = some inFlight.fingerprint ∧
      (record.outcome = .interrupted ∨
        run.commandJournal.find inFlight.commandId = some record ∧ next.drainedNotes = run.drainedNotes)
  untyped : ∀ commandId, run.inFlightCommand = none → run.driverProgress.inFlightCommandId = some commandId →
    next.commandJournal.malformed = false →
    ∃ record, next.commandJournal.find commandId = some record ∧
      ((record.outcome = .interrupted ∧ record.kind = .unknown ∧ record.fingerprint = none) ∨
        run.commandJournal.find commandId = some record ∧ next.drainedNotes = run.drainedNotes)

theorem recoverStranded_recovered {run : TeamRun} (trusted : Trusted run.commandJournal) :
    Recovered run run.recoverStrandedInFlightCommand.1 := by
  unfold TeamRun.recoverStrandedInFlightCommand
  split
  · rename_i noTyped noLegacy
    refine ⟨rfl, rfl, rfl, rfl, ?_, trusted, ?_, ?_⟩
    · intro inFlight marked
      rw [noTyped] at marked
      cases marked
    · intro inFlight marked
      rw [noTyped] at marked
      cases marked
    · intro commandId _ marked
      rw [noLegacy] at marked
      cases marked
  · rename_i inFlight typed
    have sole (other : InFlightCommand) (marked : run.inFlightCommand = some other) : other = inFlight := by
      rw [typed] at marked
      exact (Option.some.inj marked).symm
    have no_legacy (commandId : String) (absent : run.inFlightCommand = none) : False := by
      rw [typed] at absent
      cases absent
    dsimp only
    split
    · -- two markers that name different commands
      refine ⟨rfl, rfl, rfl, rfl, ?_, .inl rfl, ?_, fun commandId absent => (no_legacy commandId absent).elim⟩
      · intro other _ readable
        cases readable
      · intro other _ readable
        cases readable
    · have settles := settleInterrupted_settles run.clearMarkers trusted inFlight.intoInterruptedRecord true
      refine ⟨settles.preserves.backend, settles.preserves.progress, settles.preserves.inFlight, settles.preserves.legacy,
        ?_, settles.trusted, ?_, fun commandId absent => (no_legacy commandId absent).elim⟩
      · intro other marked _
        rw [sole other marked]
        exact settles.spent
      · intro other marked readable
        rw [sole other marked]
        rcases settles.answer readable with ⟨found, -⟩ | ⟨existing, before, journal, notes, digest⟩
        · exact ⟨_, found, rfl, .inl rfl⟩
        · refine ⟨existing, ?_, digest rfl, .inr ⟨before, notes⟩⟩
          rw [journal]
          exact before
  · rename_i commandId noTyped legacy
    have no_typed (other : InFlightCommand) (marked : run.inFlightCommand = some other) : False := by
      rw [noTyped] at marked
      cases marked
    have settles := settleInterrupted_settles run.clearMarkers trusted (run.legacyRecord commandId) false
    refine ⟨settles.preserves.backend, settles.preserves.progress, settles.preserves.inFlight, settles.preserves.legacy,
      fun other marked => (no_typed other marked).elim, settles.trusted, fun other marked => (no_typed other marked).elim,
      ?_⟩
    intro named _ marked readable
    rw [legacy] at marked
    obtain rfl := Option.some.inj marked
    rcases settles.answer readable with ⟨found, -⟩ | ⟨existing, before, journal, notes, -⟩
    · exact ⟨_, found, .inl ⟨rfl, rfl, rfl⟩⟩
    · refine ⟨existing, ?_, .inr ⟨before, notes⟩⟩
      rw [journal]
      exact before

/-- The repair raises the watermark, over every retained record of a readable journal. -/
theorem repairWatermark_spec (run : TeamRun) :
    ∃ top, run.repairCommandJournalWatermark.1 =
        { run with driverProgress := { run.driverProgress with lastCommandSeq := top } } ∧
      run.driverProgress.lastCommandSeq ≤ top ∧
      (run.commandJournal.malformed = false → ∀ record ∈ run.commandJournal.records, record.sequence ≤ top) := by
  unfold TeamRun.repairCommandJournalWatermark
  split
  · rename_i malformed
    refine ⟨_, rfl, UInt64.le_refl _, ?_⟩
    intro readable
    rw [malformed] at readable
    cases readable
  · split
    · rename_i empty
      refine ⟨_, rfl, UInt64.le_refl _, ?_⟩
      intro _ record member
      rw [List.max?_eq_none_iff, List.map_eq_nil_iff] at empty
      rw [empty] at member
      cases member
    · rename_i top highest
      have covers : ∀ record ∈ run.commandJournal.records, record.sequence ≤ top := by
        intro record member
        exact (List.max?_eq_some_iff.mp highest).2 record.sequence (List.mem_map_of_mem member)
      split
      · rename_i covered
        exact ⟨_, rfl, UInt64.le_refl _, fun _ record member => UInt64.le_trans (covers record member) covered⟩
      · rename_i behind
        exact ⟨top, rfl, UInt64.le_of_lt (UInt64.not_le.mp behind), fun _ => covers⟩

/-- A watermark that covers a readable journal needs no repair. -/
theorem repairWatermark_idle {run : TeamRun} (covered : run.commandJournal.malformed = false →
    ∀ record ∈ run.commandJournal.records, record.sequence ≤ run.driverProgress.lastCommandSeq) :
    run.repairCommandJournalWatermark = (run, false) := by
  unfold TeamRun.repairCommandJournalWatermark
  split
  · rfl
  · rename_i readable
    split
    · rfl
    · rename_i top highest
      obtain ⟨record, member, same⟩ := List.mem_map.mp (List.max?_eq_some_iff.mp highest).1
      have below := covered (Bool.not_eq_true _ ▸ readable) record member
      rw [same] at below
      rw [if_pos below]

/-- The lifecycle part leaves what answers a redelivery alone, up to the revision. -/
structure KeepsAnswers (run next : TeamRun) : Prop where
  backend : next.orchestrationBackend = run.orchestrationBackend
  journal : next.commandJournal = run.commandJournal
  notes : next.drainedNotes = run.drainedNotes
  inFlight : next.inFlightCommand = run.inFlightCommand
  progress : ∃ revision, next.driverProgress = { run.driverProgress with stateRevision := revision }

theorem KeepsAnswers.refl (run : TeamRun) : KeepsAnswers run run :=
  ⟨rfl, rfl, rfl, rfl, _, rfl⟩

theorem KeepsAnswers.trans {run mid next : TeamRun} (first : KeepsAnswers run mid) (second : KeepsAnswers mid next) :
    KeepsAnswers run next := by
  obtain ⟨_, before⟩ := first.progress
  obtain ⟨revision, after⟩ := second.progress
  refine ⟨second.backend.trans first.backend, second.journal.trans first.journal, second.notes.trans first.notes,
    second.inFlight.trans first.inFlight, revision, ?_⟩
  rw [after, before]

theorem StandingOnly.answers {run next : TeamRun} (standing : StandingOnly run next) : KeepsAnswers run next := by
  obtain ⟨_, _, _, _, _, _, _, _, _, _, rfl⟩ := standing
  exact ⟨rfl, rfl, rfl, rfl, _, rfl⟩

theorem rollbackCurrentRound_answers (run : TeamRun) : KeepsAnswers run run.rollbackCurrentRound := by
  unfold TeamRun.rollbackCurrentRound
  dsimp only
  split
  · exact ⟨rfl, rfl, rfl, rfl, _, rfl⟩
  · exact ⟨rfl, rfl, rfl, rfl, _, rfl⟩

theorem appendBackendReason_standing (run : TeamRun) : StandingOnly run run.appendBackendReason := by
  unfold TeamRun.appendBackendReason
  split
  · exact ⟨_, _, _, _, _, _, _, _, _, _, rfl⟩
  · exact .refl run

theorem appendBackendReason_progress (run : TeamRun) :
    run.appendBackendReason.status = run.status ∧ run.appendBackendReason.driverProgress = run.driverProgress := by
  unfold TeamRun.appendBackendReason
  split
  · exact ⟨rfl, rfl⟩
  · exact ⟨rfl, rfl⟩

theorem reconcileLifecycle_answers (run : TeamRun) : KeepsAnswers run run.reconcileLifecycleAfterRestore.1 := by
  have noted := (appendBackendReason_standing run).answers
  unfold TeamRun.reconcileLifecycleAfterRestore
  split
  · exact .refl run
  · dsimp only
    generalize run.appendBackendReason = mid at noted
    split
    · exact noted.trans ⟨rfl, rfl, rfl, rfl, _, rfl⟩
    · exact noted.trans (mid.settlePaused_standing _ _).answers
    · exact (noted.trans (rollbackCurrentRound_answers mid)).trans (TeamRun.settlePaused_standing _ _ _).answers
    · split
      · exact noted.trans mid.markInterruptedIfStranded_standing.answers
      · exact noted.trans ⟨rfl, rfl, rfl, rfl, _, rfl⟩

/-- Over, or paused: where a reconciled run rests. -/
def AtRest (run : TeamRun) : Prop :=
  run.status.isTerminal = true ∨ run.status = .paused

theorem settlePaused_status {run : TeamRun} (going : (run.status.isTerminal || run.status.isSettledWithoutDriver) = false)
    (reason : String) (kind : TeamPauseKind) : (run.settlePaused reason kind).1.status = .paused := by
  unfold TeamRun.settlePaused
  rw [going]
  rfl

theorem rollbackCurrentRound_status (run : TeamRun) : run.rollbackCurrentRound.status = run.status := by
  unfold TeamRun.rollbackCurrentRound
  dsimp only
  split
  · rfl
  · rfl

theorem reconcileLifecycle_atRest (run : TeamRun) : AtRest run.reconcileLifecycleAfterRestore.1 := by
  have same := (appendBackendReason_progress run).1
  unfold TeamRun.reconcileLifecycleAfterRestore
  split
  · rename_i terminal
    exact .inl terminal
  · rename_i open'
    dsimp only
    rw [← same] at open'
    generalize run.appendBackendReason = mid at open'
    split
    · rename_i paused
      exact .inr paused
    · rename_i pausing
      refine .inr (settlePaused_status ?_ _ _)
      rw [pausing]
      rfl
    · rename_i waiting
      refine .inr (settlePaused_status ?_ _ _)
      rw [rollbackCurrentRound_status, waiting]
      rfl
    · rename_i unpaused _ _
      split
      · unfold TeamRun.markInterruptedIfStranded
        split
        · rename_i settled
          have resumable : mid.status.isResumable = true := by
            rw [Bool.not_eq_true] at open'
            rwa [open', Bool.false_or] at settled
          refine .inr ?_
          revert resumable
          cases mid.status <;> simp [TeamRunStatus.isResumable]
        · exact .inl rfl
      · exact .inl rfl

/-- At rest the lifecycle part leaves the driver's progress alone too. -/
theorem reconcileLifecycle_idle {run : TeamRun} (rest : AtRest run) :
    run.reconcileLifecycleAfterRestore.1.driverProgress = run.driverProgress := by
  obtain ⟨same, progress⟩ := appendBackendReason_progress run
  unfold TeamRun.reconcileLifecycleAfterRestore
  split
  · rfl
  · rename_i open'
    have paused : run.appendBackendReason.status = .paused := by
      rw [same]
      exact rest.resolve_left open'
    dsimp only
    split
    · exact progress
    · rename_i other
      rw [paused] at other
      cases other
    · rename_i other
      rw [paused] at other
      cases other
    · rename_i other _ _
      exact absurd paused other

theorem reconcileAfterRestore_eq (run : TeamRun) : run.reconcileAfterRestore.1 =
    run.recoverStrandedInFlightCommand.1.repairCommandJournalWatermark.1.reconcileLifecycleAfterRestore.1 :=
  rfl

/-- The repair and the lifecycle part keep what recovery left, and cover the journal. -/
theorem reconcile_recovered {run : TeamRun} (trusted : Trusted run.commandJournal) :
    Recovered run run.reconcileAfterRestore.1 ∧
      (run.reconcileAfterRestore.1.commandJournal.malformed = false →
        ∀ record ∈ run.reconcileAfterRestore.1.commandJournal.records,
          record.sequence ≤ run.reconcileAfterRestore.1.driverProgress.lastCommandSeq) := by
  have recovered := recoverStranded_recovered trusted
  obtain ⟨top, repaired, raised, covers⟩ := repairWatermark_spec run.recoverStrandedInFlightCommand.1
  have answers := reconcileLifecycle_answers run.recoverStrandedInFlightCommand.1.repairCommandJournalWatermark.1
  rw [reconcileAfterRestore_eq]
  rw [repaired] at answers ⊢
  generalize run.recoverStrandedInFlightCommand.1 = mid at *
  obtain ⟨backend, journal, notes, inFlight, revision, progress⟩ := answers
  refine ⟨⟨?_, ?_, ?_, ?_, ?_, ?_, ?_, ?_⟩, ?_⟩
  · rw [backend, recovered.backend]
  · rw [progress]
    exact recovered.progress
  · rw [inFlight, recovered.inFlight]
  · rw [progress]
    exact recovered.legacy
  · intro marker marked readable
    rw [journal] at readable
    rw [progress]
    exact UInt64.le_trans (recovered.spent marker marked readable) raised
  · rw [journal]
    exact recovered.trusted
  · intro marker marked readable
    rw [journal] at readable ⊢
    rw [notes]
    exact recovered.typed marker marked readable
  · intro commandId untyped marked readable
    rw [journal] at readable ⊢
    rw [notes]
    exact recovered.untyped commandId untyped marked readable
  · intro readable
    rw [journal] at readable
    simp only [journal, progress]
    exact covers readable

/-- A trusted run that recovery marks as untrustworthy refuses every command and stays as it is. -/
theorem malformed_refuses {run : TeamRun} (malformed : run.commandJournal.malformed = true) (codec : Codec)
    (mint : Nat → String) (runId : String) (envelope : TeamCommandEnvelope) (effectiveCommand : TeamStateCommand) :
    ∃ reason, applyTeamCommandWithEffective codec mint run runId envelope effectiveCommand =
      (run, snapshotReceipt run envelope.commandId envelope.sequence (.rejected reason), false) := by
  by_cases executable : run.isExecutableByCurrentBuild = true
  · refine ⟨.invalidState, apply_of_preflight ?_⟩
    unfold preflightTeamCommandIdentity
    simp [executable, malformed]
  · refine ⟨.backendMismatch, apply_of_preflight ?_⟩
    unfold preflightTeamCommandIdentity
    simp [executable]

theorem Trusted.distinct {journal : TeamCommandJournal} (trusted : Trusted journal)
    (readable : journal.malformed = false) :
    (journal.records.map (·.commandId)).Nodup := by
  rcases trusted with malformed | sound
  · rw [malformed] at readable
    cases readable
  · exact sound.distinct

theorem replayReceipt_interrupted {run : TeamRun} {commandId : String} {sequence : UInt64} {record : TeamCommandRecord}
    (interrupted : record.outcome = .interrupted) :
    (replayReceipt run commandId sequence record).status = .interrupted := by
  simp [replayReceipt, interrupted]

/-- The replay of a record depends on the run through the notes alone. -/
theorem replayReceipt_notes {run next : TeamRun} (notes : next.drainedNotes = run.drainedNotes) (commandId : String)
    (sequence : UInt64) (record : TeamCommandRecord) :
    replayReceipt next commandId sequence record = replayReceipt run commandId sequence record := by
  simp only [replayReceipt, notes]

/-- What a restart keeps of the run's idempotence. -/
structure KeepsIdempotence (codec : Codec) (run next : TeamRun) : Prop where
  markers : next.inFlightCommand = none ∧ next.driverProgress.inFlightCommandId = none
  bounded : next.commandJournal.records.length ≤ maxTeamCommandJournal ∨ next.commandJournal.malformed = true
  covered : next.commandJournal.malformed = false →
    (∀ record ∈ next.commandJournal.records, record.sequence ≤ next.driverProgress.lastCommandSeq) ∧
    ∀ inFlight, run.inFlightCommand = some inFlight → inFlight.sequence ≤ next.driverProgress.lastCommandSeq
  redelivered : next.commandJournal.malformed = false → run.isExecutableByCurrentBuild = true →
    run.driverProgress.malformed = false → ∀ mint runId envelope effectiveCommand,
    envelope.protocolVersion = teamCommandProtocolVersion → InFlight codec run runId envelope →
    ∃ receipt, applyTeamCommandWithEffective codec mint next runId envelope effectiveCommand = (next, receipt, false) ∧
      (receipt.status = .interrupted ∨
        ∃ record, run.commandJournal.find envelope.commandId = some record ∧
          record.matchesFingerprint (codec.fingerprint runId envelope) = true ∧
          receipt = replayReceipt run envelope.commandId envelope.sequence record)
  reused : next.commandJournal.malformed = false → run.isExecutableByCurrentBuild = true →
    run.driverProgress.malformed = false → ∀ inFlight, run.inFlightCommand = some inFlight →
    ∀ mint runId envelope effectiveCommand, envelope.protocolVersion = teamCommandProtocolVersion →
    envelope.commandId = inFlight.commandId → codec.fingerprint runId envelope ≠ inFlight.fingerprint →
    applyTeamCommandWithEffective codec mint next runId envelope effectiveCommand =
      (next, snapshotReceipt next envelope.commandId envelope.sequence (.rejected .duplicateCommand), false)
  refused : next.commandJournal.malformed = true → ∀ mint runId envelope effectiveCommand,
    ∃ reason, applyTeamCommandWithEffective codec mint next runId envelope effectiveCommand =
      (next, snapshotReceipt next envelope.commandId envelope.sequence (.rejected reason), false)

section Restart

variable {codec : Codec} {run next : TeamRun}

theorem Recovered.workable (recovered : Recovered run next) (readable : next.commandJournal.malformed = false)
    (executable : run.isExecutableByCurrentBuild = true) (progress : run.driverProgress.malformed = false) :
    Workable next where
  executable := by
    rw [TeamRun.isExecutableByCurrentBuild, recovered.backend]
    exact executable
  progress := recovered.progress.trans progress
  journal := readable

/-- A command in flight at the crash is answered from the journal when it is delivered again. -/
theorem Recovered.answers (recovered : Recovered run next) (readable : next.commandJournal.malformed = false)
    (workable : Workable next) (mint : Nat → String) {runId : String} {envelope : TeamCommandEnvelope}
    (effectiveCommand : TeamStateCommand) (spoken : envelope.protocolVersion = teamCommandProtocolVersion)
    (inFlight : InFlight codec run runId envelope) :
    ∃ receipt, applyTeamCommandWithEffective codec mint next runId envelope effectiveCommand = (next, receipt, false) ∧
      (receipt.status = .interrupted ∨
        ∃ record, run.commandJournal.find envelope.commandId = some record ∧
          record.matchesFingerprint (codec.fingerprint runId envelope) = true ∧
          receipt = replayReceipt run envelope.commandId envelope.sequence record) := by
  have replay {record : TeamCommandRecord} (found : next.commandJournal.find envelope.commandId = some record)
      (same : record.matchesFingerprint (codec.fingerprint runId envelope) = true) :
      applyTeamCommandWithEffective codec mint next runId envelope effectiveCommand =
        (next, replayReceipt next envelope.commandId envelope.sequence record, false) := by
    refine apply_of_preflight ?_
    rw [preflight_lookup workable spoken found, if_pos same]
  unfold InFlight at inFlight
  split at inFlight
  · rename_i marker typed
    obtain ⟨named, digest⟩ := inFlight
    obtain ⟨record, found, stored, origin⟩ := recovered.typed marker typed readable
    rw [← named] at found origin
    have same : record.matchesFingerprint (codec.fingerprint runId envelope) = true := by
      simp [TeamCommandRecord.matchesFingerprint, stored, digest]
    refine ⟨_, replay found same, ?_⟩
    rcases origin with interrupted | ⟨before, notes⟩
    · exact .inl (replayReceipt_interrupted interrupted)
    · exact .inr ⟨record, before, same, replayReceipt_notes notes _ _ _⟩
  · rename_i commandId untyped legacy
    obtain ⟨named, known⟩ := inFlight
    obtain ⟨record, found, origin⟩ := recovered.untyped commandId untyped legacy readable
    rw [← named] at found origin known
    rcases origin with ⟨interrupted, kind, absent⟩ | ⟨before, notes⟩
    · have same : record.matchesFingerprint (codec.fingerprint runId envelope) = true := by
        simp [TeamCommandRecord.matchesFingerprint, absent, interrupted, kind]
      exact ⟨_, replay found same, .inl (replayReceipt_interrupted interrupted)⟩
    · have same := known record before
      exact ⟨_, replay found same, .inr ⟨record, before, same, replayReceipt_notes notes _ _ _⟩⟩
  · exact inFlight.elim

/-- Another command under the typed marker's id is caught as a duplicate. -/
theorem Recovered.catches (recovered : Recovered run next) (readable : next.commandJournal.malformed = false)
    (workable : Workable next) {inFlight : InFlightCommand} (typed : run.inFlightCommand = some inFlight)
    (mint : Nat → String) {runId : String} {envelope : TeamCommandEnvelope} (effectiveCommand : TeamStateCommand)
    (spoken : envelope.protocolVersion = teamCommandProtocolVersion) (named : envelope.commandId = inFlight.commandId)
    (differs : codec.fingerprint runId envelope ≠ inFlight.fingerprint) :
    applyTeamCommandWithEffective codec mint next runId envelope effectiveCommand =
      (next, snapshotReceipt next envelope.commandId envelope.sequence (.rejected .duplicateCommand), false) := by
  obtain ⟨record, found, stored, -⟩ := recovered.typed inFlight typed readable
  rw [← named] at found
  have other : record.matchesFingerprint (codec.fingerprint runId envelope) = false := by
    simp [TeamCommandRecord.matchesFingerprint, stored, differs.symm]
  refine apply_of_preflight ?_
  rw [preflight_lookup workable spoken found, if_neg (by simp [other])]

/-- A restart keeps idempotence, whatever the persisted journal and the markers held; and a
second one changes neither the journal nor the progress. -/
theorem restart_keeps_idempotence (codec : Codec) (decodeRecord : JsonValue → Option TeamCommandRecord)
    (persisted : Option JsonValue) (run : TeamRun)
    (loaded : run.commandJournal = TeamCommandJournal.restored decodeRecord persisted) :
    KeepsIdempotence codec run run.reconcileAfterRestore.1 ∧
      run.reconcileAfterRestore.1.reconcileAfterRestore.1.commandJournal = run.reconcileAfterRestore.1.commandJournal ∧
      run.reconcileAfterRestore.1.reconcileAfterRestore.1.driverProgress = run.reconcileAfterRestore.1.driverProgress := by
  have trusted : Trusted run.commandJournal := by
    rw [loaded]
    exact TeamCommandJournal.restored_sound decodeRecord persisted
  obtain ⟨recovered, covered⟩ := reconcile_recovered trusted
  have rest : AtRest run.reconcileAfterRestore.1 := reconcileLifecycle_atRest _
  generalize run.reconcileAfterRestore.1 = next at *
  refine ⟨⟨⟨recovered.inFlight, recovered.legacy⟩, ?_, ?_, ?_, ?_, ?_⟩, ?_⟩
  · rcases recovered.trusted with malformed | sound
    · exact .inr malformed
    · exact .inl sound.fits
  · intro readable
    exact ⟨covered readable, fun inFlight typed => recovered.spent inFlight typed readable⟩
  · intro readable executable progress mint runId envelope effectiveCommand spoken inFlight
    have workable := recovered.workable readable executable progress
    exact recovered.answers readable workable mint effectiveCommand spoken inFlight
  · intro readable executable progress inFlight typed mint runId envelope effectiveCommand spoken named differs
    have workable := recovered.workable readable executable progress
    exact recovered.catches readable workable typed mint effectiveCommand spoken named differs
  · intro malformed mint runId envelope effectiveCommand
    exact malformed_refuses malformed codec mint runId envelope effectiveCommand
  · -- nothing is left to recover, to repair or to settle
    have cleared : next.recoverStrandedInFlightCommand = (next, false) := by
      have same : next.clearMarkers = next := by
        have inFlight := recovered.inFlight
        have legacy := recovered.legacy
        unfold TeamRun.clearMarkers
        rw [← inFlight, ← legacy]
      unfold TeamRun.recoverStrandedInFlightCommand
      simp only [recovered.inFlight, recovered.legacy, same]
    rw [reconcileAfterRestore_eq, cleared, repairWatermark_idle covered]
    exact ⟨(reconcileLifecycle_answers next).journal, reconcileLifecycle_idle rest⟩

end Restart

theorem makeRoom_backed (commandId : String) (rounds : Nat) {run : TeamRun} (backed : NotesBacked run) :
    NotesBacked (run.makeRoom commandId rounds).1 := by
  induction rounds generalizing run with
  | zero => exact backed
  | succ rounds ih =>
    unfold TeamRun.makeRoom
    split
    · split
      · exact backed
      · rename_i evicted journal removed
        obtain ⟨-, before, after, parts, rfl⟩ := TeamCommandJournal.removeFirst_split removed
        refine ih ?_
        split
        · rename_i drain
          exact backed.evict parts rfl (if_pos drain).symm
        · rename_i plain
          exact backed.evict parts rfl (if_neg plain).symm
    · exact backed

theorem settleInterrupted_backed {run : TeamRun} (backed : NotesBacked run) (record : TeamCommandRecord)
    (hasTypedIdentity : Bool) : NotesBacked (run.settleInterrupted record hasTypedIdentity) := by
  have covered : NotesBacked (run.coverSequence record.sequence) := backed
  unfold TeamRun.settleInterrupted
  dsimp only
  split
  · exact covered
  · split
    · split
      · exact covered
      · exact covered
    · have made := makeRoom_backed record.commandId
        (run.coverSequence record.sequence).commandJournal.records.length covered
      split
      · rename_i stuck found
        rw [found] at made
        exact made
      · rename_i roomy found
        rw [found] at made
        intro entry member
        obtain ⟨old, inside, named, drain⟩ := made entry member
        exact ⟨old, List.mem_append_left _ inside, named, drain⟩

/-- A restarted run whose journal is still readable is one whose redeliveries are settled once:
its journal answers for every history that follows. -/
theorem restarted_ledger {decodeRecord : JsonValue → Option TeamCommandRecord} {persisted : Option JsonValue}
    {run : TeamRun} (loaded : run.commandJournal = TeamCommandJournal.restored decodeRecord persisted)
    (backed : NotesBacked run) (readable : run.reconcileAfterRestore.1.commandJournal.malformed = false) :
    Ledger run.reconcileAfterRestore.1 := by
  have trusted : Trusted run.commandJournal := by
    rw [loaded]
    exact TeamCommandJournal.restored_sound decodeRecord persisted
  obtain ⟨recovered, covered⟩ := reconcile_recovered trusted
  refine ⟨covered readable, recovered.trusted.distinct readable, ?_⟩
  have settled : NotesBacked run.recoverStrandedInFlightCommand.1 := by
    have cleared : NotesBacked run.clearMarkers := backed
    unfold TeamRun.recoverStrandedInFlightCommand
    split
    · exact cleared
    · dsimp only
      split
      · exact cleared
      · exact settleInterrupted_backed cleared _ _
    · exact settleInterrupted_backed cleared _ _
  obtain ⟨top, repaired, -, -⟩ := repairWatermark_spec run.recoverStrandedInFlightCommand.1
  have answers := reconcileLifecycle_answers run.recoverStrandedInFlightCommand.1.repairCommandJournalWatermark.1
  unfold NotesBacked
  rw [reconcileAfterRestore_eq, answers.journal, answers.notes, repaired]
  exact settled

/-- A run restarted while its first command was in flight. -/
def strandedRun : TeamRun :=
  { runningRun with inFlightCommand := some {
      commandId := "c1", fingerprint := 1, kind := .setPhase, sequence := 1, expectedRevision := 0, stateRevision := 0,
      lastEventSeq := 0 } }

/-- The command is not run again after the restart. -/
theorem stranded_command_is_not_rerun :
    ∃ receipt, deliver strandedRun.reconcileAfterRestore.1 firstCommand =
        (strandedRun.reconcileAfterRestore.1, receipt, false) ∧
      (receipt.status = .interrupted ∨
        ∃ record, strandedRun.commandJournal.find "c1" = some record ∧ record.matchesFingerprint 1 = true ∧
          receipt = replayReceipt strandedRun "c1" 1 record) := by
  have safe := (restart_keeps_idempotence sequenceCodec (fun _ => none) (some (.object [("records", .array [])]))
    strandedRun rfl).1
  exact safe.redelivered rfl rfl rfl Nat.repr "run-1" firstCommand firstCommand.command rfl ⟨rfl, rfl⟩

/-- A run with one record, of the command under the id `c1` with the given digest and kind. -/
def recordedRun (fingerprint : CommandFingerprint) (kind : TeamCommandKind) : TeamRun :=
  { strandedRun with commandJournal := strandedRun.commandJournal.push {
      commandId := "c1", sequence := 1, kind := kind, fingerprint := some fingerprint, expectedRevision := 0,
      stateRevision := 1, lastEventSeq := 1, outcome := .applied } }

/-- A delivery to the run as it is after the restart: whether its journal is malformed, and the answer. -/
def redeliver (run : TeamRun) (envelope : TeamCommandEnvelope) : Bool × TeamCommandStatus :=
  (run.reconcileAfterRestore.1.commandJournal.malformed, (deliver run.reconcileAfterRestore.1 envelope).2.1.status)

/-- Where a restart with a readable journal gives another answer: a backend that does not execute
here, progress that cannot be trusted, an id-only marker beside the record of another command,
a drain whose notes are gone, and another command in a protocol this build does not speak. -/
theorem answers_after_other_restarts :
    redeliver { strandedRun with orchestrationBackend := .cloud } firstCommand = (false, .rejected .backendMismatch) ∧
    redeliver { strandedRun with driverProgress := { strandedRun.driverProgress with malformed := true } } firstCommand =
      (false, .rejected .invalidState) ∧
    redeliver { recordedRun 7 .setPhase with
        inFlightCommand := none
        driverProgress := { strandedRun.driverProgress with inFlightCommandId := some "c1" } } firstCommand =
      (false, .rejected .duplicateCommand) ∧
    redeliver { recordedRun 1 .takeUserNotes with inFlightCommand := some {
        commandId := "c1", fingerprint := 1, kind := .takeUserNotes, sequence := 1, expectedRevision := 0,
        stateRevision := 0, lastEventSeq := 0 } } (numbered 1 0 .takeUserNotes) = (false, .rejected .staleCommand) ∧
    redeliver strandedRun { numbered 2 0 .takeUserNotes with commandId := "c1", protocolVersion := 2 } =
      (false, .rejected .unsupportedProtocol) := by
  refine ⟨?_, ?_, ?_, ?_, ?_⟩ <;> decide

end Sealwire.Team

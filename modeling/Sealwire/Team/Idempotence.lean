import Mathlib.Data.Set.Function
import Sealwire.Team.Journal
import Sealwire.Team.Standing

namespace Sealwire.Team

/-- The parts of a run that answer a redelivery are the same. -/
structure SameBook (run next : TeamRun) : Prop where
  backend : next.orchestrationBackend = run.orchestrationBackend
  journal : next.commandJournal = run.commandJournal
  watermark : next.driverProgress.lastCommandSeq = run.driverProgress.lastCommandSeq
  progress : next.driverProgress.malformed = run.driverProgress.malformed

theorem SameBook.trans {run mid next : TeamRun} (first : SameBook run mid) (second : SameBook mid next) :
    SameBook run next :=
  ⟨second.backend.trans first.backend, second.journal.trans first.journal,
    second.watermark.trans first.watermark, second.progress.trans first.progress⟩

theorem SameBook.workable {run next : TeamRun} (same : SameBook run next) (workable : Workable run) :
    Workable next where
  executable := by
    rw [TeamRun.isExecutableByCurrentBuild, same.backend]
    exact workable.executable
  progress := same.progress.trans workable.progress
  journal := by
    rw [same.journal]
    exact workable.journal

theorem SameBook.ledger {run next : TeamRun} (same : SameBook run next)
    (notes : next.drainedNotes = run.drainedNotes) (ledger : Ledger run) : Ledger next := by
  refine ⟨?_, ?_, ?_⟩
  · rw [same.journal, same.watermark]
    exact ledger.covered
  · rw [same.journal]
    exact ledger.distinct
  · unfold NotesBacked
    rw [same.journal, notes]
    exact ledger.notes

theorem StandingOnly.book {run next : TeamRun} (standing : StandingOnly run next) :
    SameBook run next ∧ next.drainedNotes = run.drainedNotes := by
  obtain ⟨_, _, _, _, _, _, _, _, _, _, rfl⟩ := standing
  exact ⟨⟨rfl, rfl, rfl, rfl⟩, rfl⟩

theorem UserAction.run_book (run : TeamRun) (action : UserAction) :
    SameBook run (action.run run) ∧ (action.run run).drainedNotes = run.drainedNotes := by
  have standing := action.run_standing run
  cases action with
  | reviveSubTasks named =>
    simp only [UserAction.run, TeamRun.reviveSubTasks]
    split
    · exact ⟨⟨rfl, rfl, rfl, rfl⟩, rfl⟩
    · exact ⟨⟨rfl, rfl, rfl, rfl⟩, rfl⟩
  | _ => exact (standing (by simp)).book

/-- The effects of a command leave the journal to the reducer; a drain keeps its notes under its id. -/
theorem applyEffects_book (mint : Nat → String) (run : TeamRun) (commandId : String) (command : TeamStateCommand) :
    SameBook run (applyEffects mint run commandId command).1 ∧
      (applyEffects mint run commandId command).1.drainedNotes =
        if command = .takeUserNotes then run.drainedNotes ++ [{ commandId := commandId, notes := run.pendingUserNotes }]
        else run.drainedNotes := by
  cases lifecycle : command.isLifecycleTransition with
  | true =>
    have plain : command ≠ .takeUserNotes := by
      rintro rfl
      cases lifecycle
    rw [if_neg plain]
    exact (applyEffects_standing mint run commandId lifecycle).book
  | false =>
    cases command with
    | setRunStatus | failRun | blockRun | settleRun => cases lifecycle
    | takeUserNotes => exact ⟨⟨rfl, rfl, rfl, rfl⟩, rfl⟩
    | _ => exact ⟨⟨rfl, rfl, rfl, rfl⟩, (if_neg (by simp)).symm⟩

theorem applyEffects_output (mint : Nat → String) (run : TeamRun) (commandId : String) (command : TeamStateCommand) :
    (applyEffects mint run commandId command).2 =
      if command = .takeUserNotes then .drainedNotes run.pendingUserNotes else .ack := by
  cases command with
  | takeUserNotes => rfl
  | settleRun status reason pauseKind =>
    rw [if_neg (by simp)]
    cases status <;> rfl
  | _ =>
    rw [if_neg (by simp)]
    rfl

/-- The host's guard swaps a command for a block only, never for a drain or from one. -/
theorem effectiveCommandOf_drain_iff (working : List String) (command : TeamStateCommand) :
    effectiveCommandOf working command = .takeUserNotes ↔ command = .takeUserNotes := by
  cases command with
  | settleRun status reason pauseKind =>
    unfold effectiveCommandOf
    dsimp only
    split <;> simp
  | _ => rfl

section Follows

variable (codec : Codec) (runId : String) (Sent : Set TeamCommandEnvelope)

/-- What a stretch of a history in which `Sent` was delivered leaves of the run's answers: the
records still there keep theirs, and the new ones come from `Sent`, above the old watermark. -/
structure Follows (run next : TeamRun) : Prop where
  workable : Workable next
  ledger : Ledger next
  watermark : run.driverProgress.lastCommandSeq ≤ next.driverProgress.lastCommandSeq
  notes : ∀ record ∈ run.commandJournal.records, record ∈ next.commandJournal.records →
    next.notesUnder record.commandId = run.notesUnder record.commandId
  origin : ∀ record ∈ next.commandJournal.records, record ∉ run.commandJournal.records →
    run.driverProgress.lastCommandSeq < record.sequence ∧ ∃ envelope ∈ Sent, record.commandId = envelope.commandId ∧
      record.sequence = envelope.sequence ∧ record.fingerprint = some (codec.fingerprint runId envelope)
  single : ∀ record ∈ next.commandJournal.records, ∀ other ∈ next.commandJournal.records,
    run.driverProgress.lastCommandSeq < record.sequence → record.sequence = other.sequence → record = other

variable {codec runId Sent}

theorem Follows.of_book {run next : TeamRun} (workable : Workable run) (ledger : Ledger run)
    (same : SameBook run next) (notes : next.drainedNotes = run.drainedNotes) : Follows codec runId Sent run next where
  workable := same.workable workable
  ledger := same.ledger notes ledger
  watermark := by
    rw [same.watermark]
    exact UInt64.le_refl _
  notes := by
    intro record _ _
    rw [TeamRun.notesUnder, notes]
    rfl
  origin := by
    intro record member gone
    rw [same.journal] at member
    exact absurd member gone
  single := by
    intro record member _ _ above _
    rw [same.journal] at member
    exact absurd (ledger.covered record member) (UInt64.not_le.mpr above)

/-- A record between two retained ones of the same stretch was never evicted, for what comes
back later has a higher number. -/
theorem Follows.retained_between {run mid next : TeamRun} (ledger : Ledger run)
    (first : Follows codec runId Sent run mid) (second : Follows codec runId Sent mid next) {record : TeamCommandRecord}
    (before : record ∈ run.commandJournal.records) (after : record ∈ next.commandJournal.records) :
    record ∈ mid.commandJournal.records := by
  by_contra gone
  have above := UInt64.lt_iff_toNat_lt.mp (second.origin record after gone).1
  have below := UInt64.le_iff_toNat_le.mp (ledger.covered record before)
  have grows := UInt64.le_iff_toNat_le.mp first.watermark
  omega

theorem Follows.trans {run mid next : TeamRun} (ledger : Ledger run) (first : Follows codec runId Sent run mid)
    (second : Follows codec runId Sent mid next) : Follows codec runId Sent run next where
  workable := second.workable
  ledger := second.ledger
  watermark := UInt64.le_trans first.watermark second.watermark
  notes := by
    intro record before after
    have between := first.retained_between ledger second before after
    rw [second.notes record between after, first.notes record before between]
  origin := by
    intro record after gone
    by_cases between : record ∈ mid.commandJournal.records
    · exact first.origin record between gone
    · obtain ⟨above, source⟩ := second.origin record after between
      exact ⟨UInt64.lt_of_le_of_lt first.watermark above, source⟩
  single := by
    intro record member other inside above same
    by_cases old : record ∈ mid.commandJournal.records
    · by_cases past : other ∈ mid.commandJournal.records
      · exact first.single record old other past above same
      · have higher := (second.origin other inside past).1
        rw [← same] at higher
        exact absurd (first.ledger.covered record old) (UInt64.not_le.mpr higher)
    · exact second.single record member other inside (second.origin record member old).1 same

theorem Follows.refl {run : TeamRun} (workable : Workable run) (ledger : Ledger run) :
    Follows codec runId Sent run run :=
  .of_book workable ledger ⟨rfl, rfl, rfl, rfl⟩ rfl

/-- Appending the record of a delivery, after its effects, starts a new stretch. The record is
in, at the watermark, and the notes under its id are those the effects left. -/
theorem push_follows {run base : TeamRun} (record : TeamCommandRecord) {envelope : TeamCommandEnvelope}
    (workable : Workable run) (ledger : Ledger run) (same : SameBook run base)
    (unseen : run.commandJournal.find envelope.commandId = none)
    (fresh : run.driverProgress.lastCommandSeq < envelope.sequence) (sent : envelope ∈ Sent)
    (named : record.commandId = envelope.commandId) (numbered : record.sequence = envelope.sequence)
    (digest : record.fingerprint = some (codec.fingerprint runId envelope))
    (drained : base.drainedNotes = run.drainedNotes ∨ record.kind = .takeUserNotes ∧
      ∃ notes, base.drainedNotes = run.drainedNotes ++ [{ commandId := envelope.commandId, notes := notes }]) :
    Follows codec runId Sent run (pushWithEviction base record) ∧
      record ∈ (pushWithEviction base record).commandJournal.records ∧
      (pushWithEviction base record).driverProgress.lastCommandSeq = envelope.sequence ∧
      (pushWithEviction base record).notesUnder envelope.commandId = base.notesUnder envelope.commandId := by
  have apart : ∀ old ∈ run.commandJournal.records, old.commandId ≠ envelope.commandId :=
    TeamCommandJournal.find_eq_none.mp unseen
  have appended : Ledger (base.withRecord record) := by
    refine withRecord_ledger ?_ ?_ ?_ ?_
    · rw [same.journal, same.watermark]
      exact ledger.covered
    · rw [same.journal]
      exact ledger.distinct
    · rw [same.journal, named]
      exact unseen
    · intro entry member
      rw [same.journal]
      rcases drained with plain | ⟨drain, notes, grown⟩
      · rw [plain] at member
        exact .inr (ledger.notes entry member)
      · rw [grown] at member
        rcases List.mem_append.mp member with old | last
        · exact .inr (ledger.notes entry old)
        · rw [List.mem_singleton.mp last]
          exact .inl ⟨named, drain⟩
  have trims := evictWhileFull_trims (base.withRecord record).commandJournal.records.length appended
  rw [← pushWithEviction_eq] at trims
  have top : (base.withRecord record).driverProgress.lastCommandSeq = envelope.sequence := by
    have max := toNat_max base.driverProgress.lastCommandSeq record.sequence
    have above := UInt64.lt_iff_toNat_lt.mp fresh
    rw [same.watermark, numbered] at max
    refine UInt64.toNat_inj.mp ?_
    simp only [TeamRun.withRecord, same.watermark, numbered]
    omega
  have inside (other : TeamCommandRecord) (member : other ∈ (pushWithEviction base record).commandJournal.records) :
      other ∈ run.commandJournal.records ∨ other = record := by
    have grown := trims.records.subset member
    simp only [TeamRun.withRecord, TeamCommandJournal.push, same.journal] at grown
    rcases List.mem_append.mp grown with old | last
    · exact .inl old
    · exact .inr (List.mem_singleton.mp last)
  have watermark := trims.progress
  have workable' := same.workable workable
  have kept : record ∈ (pushWithEviction base record).commandJournal.records := by
    refine trims.latest record (List.mem_append_right _ (List.mem_singleton_self record)) ?_
    rw [top, numbered]
  refine ⟨⟨⟨?_, ?_, ?_⟩, trims.ledger, ?_, ?_, ?_, ?_⟩, kept, ?_, ?_⟩
  · rw [TeamRun.isExecutableByCurrentBuild, trims.backend]
    exact workable'.executable
  · rw [watermark]
    exact workable'.progress
  · rw [trims.malformed]
    exact workable'.journal
  · rw [watermark, top]
    exact UInt64.le_of_lt fresh
  · intro old before after
    rw [trims.notes old after]
    rcases drained with plain | ⟨-, notes, grown⟩
    · simp only [TeamRun.notesUnder, TeamRun.withRecord, plain]
    · have other := (apart old before).symm
      simp only [TeamRun.notesUnder, TeamRun.withRecord, grown, List.find?_append]
      simp [other]
  · intro other member gone
    rcases inside other member with old | rfl
    · exact absurd old gone
    · rw [numbered]
      exact ⟨fresh, envelope, sent, named, rfl, digest⟩
  · intro one member other present above equal
    have new (candidate : TeamCommandRecord) (member : candidate ∈ (pushWithEviction base record).commandJournal.records)
        (above : run.driverProgress.lastCommandSeq < candidate.sequence) : candidate = record := by
      rcases inside candidate member with old | same
      · exact absurd (ledger.covered candidate old) (UInt64.not_le.mpr above)
      · exact same
    rw [new one member above, new other present (equal ▸ above)]
  · rw [watermark, top]
  · rw [← named, trims.notes record kept]
    rfl

/-- A delivery that wrote a record: which one, and that the receipt is the one it replays. -/
structure JournaledAs (codec : Codec) (runId : String) (envelope : TeamCommandEnvelope) (run next : TeamRun)
    (receipt : TeamCommandReceipt) (record : TeamCommandRecord) : Prop where
  spoken : envelope.protocolVersion = teamCommandProtocolVersion
  fresh : run.driverProgress.lastCommandSeq < envelope.sequence
  top : next.driverProgress.lastCommandSeq = envelope.sequence
  member : record ∈ next.commandJournal.records
  named : record.commandId = envelope.commandId
  numbered : record.sequence = envelope.sequence
  digest : record.fingerprint = some (codec.fingerprint runId envelope)
  answer : receipt = replayReceipt next envelope.commandId envelope.sequence record

/-- What a delivery hands to the effects drains the notes exactly when the envelope does. -/
def SameDrain (envelope : TeamCommandEnvelope) (effectiveCommand : TeamStateCommand) : Prop :=
  effectiveCommand = .takeUserNotes ↔ envelope.command = .takeUserNotes

theorem kind_eq_takeUserNotes (command : TeamStateCommand) :
    command.kind = .takeUserNotes ↔ command = .takeUserNotes := by
  cases command <;> simp [TeamStateCommand.kind]

theorem notesUnder_none {run : TeamRun} (ledger : Ledger run) {commandId : String}
    (unseen : run.commandJournal.find commandId = none) : run.notesUnder commandId = none := by
  rw [TeamRun.notesUnder, List.find?_eq_none]
  intro entry member
  obtain ⟨record, inside, named, -⟩ := ledger.notes entry member
  have apart := TeamCommandJournal.find_eq_none.mp unseen record inside
  rw [named] at apart
  simpa using apart

/-- The run an applied command's record is appended to. -/
def TeamRun.afterEffects (run : TeamRun) (mint : Nat → String) (commandId : String) (command : TeamStateCommand) :
    TeamRun :=
  let run := (applyEffects mint run commandId command).1.holdPhaseForWaitingSubTasks.1
  { run with driverProgress := { run.driverProgress with
    stateRevision := run.driverProgress.stateRevision + 1
    lastEventSeq := run.driverProgress.lastEventSeq + 1 } }

def TeamRun.appliedRecord (run : TeamRun) (envelope : TeamCommandEnvelope) (fingerprint : CommandFingerprint) :
    TeamCommandRecord where
  commandId := envelope.commandId
  sequence := envelope.sequence
  kind := envelope.command.kind
  fingerprint := some fingerprint
  expectedRevision := envelope.expectedRevision
  stateRevision := run.driverProgress.stateRevision
  lastEventSeq := run.driverProgress.lastEventSeq
  outcome := .applied

theorem applyAndJournal_eq (mint : Nat → String) (run : TeamRun) (envelope : TeamCommandEnvelope)
    (fingerprint : CommandFingerprint) (effectiveCommand : TeamStateCommand) :
    applyAndJournal mint run envelope fingerprint effectiveCommand =
      let base := run.afterEffects mint envelope.commandId effectiveCommand
      let next := pushWithEviction base (base.appliedRecord envelope fingerprint)
      (next, snapshotReceipt next envelope.commandId envelope.sequence
        (.applied (applyEffects mint run envelope.commandId effectiveCommand).2), true) :=
  rfl

theorem afterEffects_book (run : TeamRun) (mint : Nat → String) (commandId : String) (command : TeamStateCommand) :
    SameBook run (run.afterEffects mint commandId command) ∧
      (run.afterEffects mint commandId command).drainedNotes =
        if command = .takeUserNotes then run.drainedNotes ++ [{ commandId := commandId, notes := run.pendingUserNotes }]
        else run.drainedNotes := by
  obtain ⟨book, notes⟩ := applyEffects_book mint run commandId command
  obtain ⟨phase, mrVerdict, unresolved, held⟩ := holdPhase_frame (applyEffects mint run commandId command).1
  unfold TeamRun.afterEffects
  rw [held]
  exact ⟨⟨book.backend, book.journal, book.watermark, book.progress⟩, notes⟩

theorem pushWithEviction_counters (run : TeamRun) (record : TeamCommandRecord) :
    (pushWithEviction run record).driverProgress.stateRevision = run.driverProgress.stateRevision ∧
      (pushWithEviction run record).driverProgress.lastEventSeq = run.driverProgress.lastEventSeq := by
  obtain ⟨journal, notes, frame⟩ := pushWithEviction_frame run record
  rw [frame]
  exact ⟨rfl, rfl⟩

theorem replayReceipt_drain {run : TeamRun} {commandId : String} {sequence : UInt64} {record : TeamCommandRecord}
    {entry : LastDrainedNotes} (applied : record.outcome = .applied) (kind : record.kind = .takeUserNotes)
    (found : run.notesUnder commandId = some entry) :
    replayReceipt run commandId sequence record =
      { commandId := commandId, sequence := sequence, stateRevision := record.stateRevision,
        lastEventSeq := record.lastEventSeq, status := .applied (.drainedNotes entry.notes) } := by
  rw [TeamRun.notesUnder] at found
  simp [replayReceipt, applied, kind, found]

theorem replayReceipt_plain {run : TeamRun} {commandId : String} {sequence : UInt64} {record : TeamCommandRecord}
    (applied : record.outcome = .applied) (kind : record.kind ≠ .takeUserNotes) :
    replayReceipt run commandId sequence record =
      { commandId := commandId, sequence := sequence, stateRevision := record.stateRevision,
        lastEventSeq := record.lastEventSeq, status := .applied .ack } := by
  simp [replayReceipt, applied, kind]

/-- An applied delivery writes its record, and its receipt is what the record replays. -/
theorem applyAndJournal_journaled {mint : Nat → String} {run : TeamRun} {envelope : TeamCommandEnvelope}
    {effectiveCommand : TeamStateCommand} (ledger : Ledger run)
    (reaches : ReachesEffects codec run envelope effectiveCommand) (sent : envelope ∈ Sent)
    (drain : SameDrain envelope effectiveCommand) {outcome : TeamRun × TeamCommandReceipt × Bool}
    (result : outcome = applyAndJournal mint run envelope (codec.fingerprint runId envelope) effectiveCommand) :
    Follows codec runId Sent run outcome.1 ∧
      ∃ record, JournaledAs codec runId envelope run outcome.1 outcome.2.1 record := by
  obtain ⟨same, notes⟩ := afterEffects_book run mint envelope.commandId effectiveCommand
  have output := applyEffects_output mint run envelope.commandId effectiveCommand
  rw [applyAndJournal_eq] at result
  subst result
  generalize run.afterEffects mint envelope.commandId effectiveCommand = base at same notes
  have drained : base.drainedNotes = run.drainedNotes ∨ envelope.command.kind = .takeUserNotes ∧
      ∃ notes, base.drainedNotes = run.drainedNotes ++ [{ commandId := envelope.commandId, notes := notes }] := by
    by_cases drains : effectiveCommand = .takeUserNotes
    · rw [if_pos drains] at notes
      exact .inr ⟨(kind_eq_takeUserNotes _).mpr (drain.mp drains), _, notes⟩
    · rw [if_neg drains] at notes
      exact .inl notes
  obtain ⟨follows, member, top, kept⟩ := push_follows (base.appliedRecord envelope
    (codec.fingerprint runId envelope)) reaches.workable ledger same reaches.unseen reaches.fresh sent rfl rfl rfl drained
  obtain ⟨revision, events⟩ := pushWithEviction_counters base
    (base.appliedRecord envelope (codec.fingerprint runId envelope))
  refine ⟨follows, _, reaches.spoken, reaches.fresh, top, member, rfl, rfl, rfl, ?_⟩
  by_cases drains : effectiveCommand = .takeUserNotes
  · have kind := (kind_eq_takeUserNotes _).mpr (drain.mp drains)
    have found : base.notesUnder envelope.commandId =
        some { commandId := envelope.commandId, notes := run.pendingUserNotes } := by
      rw [if_pos drains] at notes
      have none := notesUnder_none ledger reaches.unseen
      unfold TeamRun.notesUnder at none ⊢
      rw [notes, List.find?_append, none]
      simp
    rw [replayReceipt_drain rfl kind (kept.trans found), output, if_pos drains]
    simp only [snapshotReceipt, revision, events]
    rfl
  · have kind : envelope.command.kind ≠ .takeUserNotes := by
      intro same
      exact drains (drain.mpr ((kind_eq_takeUserNotes _).mp same))
    rw [replayReceipt_plain rfl kind, output, if_neg drains]
    simp only [snapshotReceipt, revision, events]
    rfl

def TeamRun.rejectedRecord (run : TeamRun) (envelope : TeamCommandEnvelope) (fingerprint : CommandFingerprint)
    (reason : CommandRejection) : TeamCommandRecord where
  commandId := envelope.commandId
  sequence := envelope.sequence
  kind := envelope.command.kind
  fingerprint := some fingerprint
  expectedRevision := envelope.expectedRevision
  stateRevision := run.driverProgress.stateRevision
  lastEventSeq := run.driverProgress.lastEventSeq
  outcome := .rejected reason

/-- A refusal that is journaled replays itself. -/
theorem rejectAndJournal_journaled {run : TeamRun} {envelope : TeamCommandEnvelope} {reason : CommandRejection}
    (workable : Workable run) (ledger : Ledger run)
    (spoken : envelope.protocolVersion = teamCommandProtocolVersion)
    (unseen : run.commandJournal.find envelope.commandId = none)
    (fresh : run.driverProgress.lastCommandSeq < envelope.sequence) (sent : envelope ∈ Sent)
    {outcome : TeamRun × TeamCommandReceipt × Bool}
    (result : outcome = rejectAndJournal run envelope.commandId envelope.sequence envelope.command.kind
      (codec.fingerprint runId envelope) envelope.expectedRevision reason) :
    Follows codec runId Sent run outcome.1 ∧
      ∃ record, JournaledAs codec runId envelope run outcome.1 outcome.2.1 record := by
  subst result
  have same : SameBook run run := ⟨rfl, rfl, rfl, rfl⟩
  obtain ⟨follows, member, top, -⟩ := push_follows (run.rejectedRecord envelope (codec.fingerprint runId envelope) reason)
    workable ledger same unseen fresh sent rfl rfl rfl (.inl rfl)
  exact ⟨follows, _, spoken, fresh, top, member, rfl, rfl, rfl, rfl⟩

/-- One delivery: the run follows, and either a record was written or nothing changed. -/
theorem delivery_step (codec : Codec) (runId : String) (mint : Nat → String) {run : TeamRun}
    {envelope : TeamCommandEnvelope} {effectiveCommand : TeamStateCommand} (workable : Workable run) (ledger : Ledger run) (sent : envelope ∈ Sent)
    (drain : SameDrain envelope effectiveCommand) :
    let outcome := applyTeamCommandWithEffective codec mint run runId envelope effectiveCommand
    Follows codec runId Sent run outcome.1 ∧
      ((outcome.2.2 = true ∧ ∃ record, JournaledAs codec runId envelope run outcome.1 outcome.2.1 record) ∨
        outcome.2.2 = false ∧ outcome.1 = run) := by
  intro outcome
  rcases apply_cases codec mint run runId envelope effectiveCommand with
    ⟨reaches, result⟩ | ⟨passed, fresh, -, reason, result⟩ | ⟨-, receipt, result⟩
  · obtain ⟨follows, journaled⟩ := applyAndJournal_journaled ledger reaches sent drain result
    refine ⟨follows, .inl ⟨?_, journaled⟩⟩
    rw [show outcome = _ from result]
    rfl
  · obtain ⟨-, spoken, unseen⟩ := preflight_none_iff.mp passed
    obtain ⟨follows, journaled⟩ := rejectAndJournal_journaled workable ledger spoken unseen fresh sent result
    refine ⟨follows, .inl ⟨?_, journaled⟩⟩
    rw [show outcome = _ from result]
    rfl
  · rw [show outcome = _ from result]
    exact ⟨.refl workable ledger, .inr ⟨rfl, rfl⟩⟩

/-- The events of a history in which `Sent` is delivered, and the user acts as they like. -/
def Delivers (Sent : Set TeamCommandEnvelope) (_ : TeamRun) : TeamEvent → Prop
  | .delivery _ envelope effectiveCommand => envelope ∈ Sent ∧ SameDrain envelope effectiveCommand
  | .user _ => True

theorem TeamEvent.run_follows {run : TeamRun} {event : TeamEvent} (workable : Workable run) (ledger : Ledger run)
    (permitted : Delivers Sent run event) : Follows codec runId Sent run (event.run codec runId run) := by
  cases event with
  | delivery mint envelope effectiveCommand =>
    obtain ⟨sent, drain⟩ := permitted
    exact (delivery_step codec runId mint workable ledger sent drain).1
  | user action =>
    obtain ⟨same, notes⟩ := action.run_book run
    exact .of_book workable ledger same notes

theorem TeamHistory.follows {first last : TeamRun} (workable : Workable first) (ledger : Ledger first)
    (history : TeamHistory codec runId (Delivers Sent) first last) : Follows codec runId Sent first last := by
  induction history with
  | start => exact .refl workable ledger
  | next _ permitted before => exact before.trans ledger (TeamEvent.run_follows before.workable before.ledger permitted)

section Redelivery

variable {mint : Nat → String} {run : TeamRun} {envelope : TeamCommandEnvelope} {effectiveCommand : TeamStateCommand}
  {record : TeamCommandRecord}

theorem redelivery_of_retained (workable : Workable run) (ledger : Ledger run)
    (spoken : envelope.protocolVersion = teamCommandProtocolVersion) (member : record ∈ run.commandJournal.records)
    (named : record.commandId = envelope.commandId)
    (digest : record.fingerprint = some (codec.fingerprint runId envelope)) :
    applyTeamCommandWithEffective codec mint run runId envelope effectiveCommand =
      (run, replayReceipt run envelope.commandId envelope.sequence record, false) := by
  have found := TeamCommandJournal.find_of_mem ledger.distinct member
  rw [named] at found
  refine apply_of_preflight ?_
  rw [preflight_lookup workable spoken found]
  simp [TeamCommandRecord.matchesFingerprint, digest]

theorem reuse_of_retained (workable : Workable run) (ledger : Ledger run)
    (spoken : envelope.protocolVersion = teamCommandProtocolVersion) (member : record ∈ run.commandJournal.records)
    (named : record.commandId = envelope.commandId)
    (differs : record.matchesFingerprint (codec.fingerprint runId envelope) = false) :
    applyTeamCommandWithEffective codec mint run runId envelope effectiveCommand =
      (run, snapshotReceipt run envelope.commandId envelope.sequence (.rejected .duplicateCommand), false) := by
  have found := TeamCommandJournal.find_of_mem ledger.distinct member
  rw [named] at found
  refine apply_of_preflight ?_
  rw [preflight_lookup workable spoken found, if_neg (by simp [differs])]

end Redelivery

/-- The journal still has the record a delivery of the envelope wrote. -/
def Retains (run : TeamRun) (envelope : TeamCommandEnvelope) : Prop :=
  ∃ record ∈ run.commandJournal.records,
    record.commandId = envelope.commandId ∧ record.sequence = envelope.sequence

instance (run : TeamRun) (envelope : TeamCommandEnvelope) : Decidable (Retains run envelope) :=
  inferInstanceAs (Decidable (∃ record ∈ run.commandJournal.records,
    record.commandId = envelope.commandId ∧ record.sequence = envelope.sequence))

/-- What a delivery that wrote a record means for every later state `final` of the run. -/
structure SettledOnce (codec : Codec) (runId : String) (Sent : Set TeamCommandEnvelope) (run final : TeamRun)
    (envelope : TeamCommandEnvelope) (outcome : TeamRun × TeamCommandReceipt × Bool) : Prop where
  advances : run.driverProgress.lastCommandSeq < envelope.sequence ∧
    outcome.1.driverProgress.lastCommandSeq = envelope.sequence ∧
    envelope.sequence ≤ final.driverProgress.lastCommandSeq
  single : ∀ record ∈ final.commandJournal.records, ∀ other ∈ final.commandJournal.records,
    record.sequence = envelope.sequence → other.sequence = envelope.sequence → record = other
  replayed : Retains final envelope → ∀ mint effectiveCommand,
    applyTeamCommandWithEffective codec mint final runId envelope effectiveCommand = (final, outcome.2.1, false)
  evicted : ¬Retains final envelope → ∀ mint effectiveCommand,
    applyTeamCommandWithEffective codec mint final runId envelope effectiveCommand =
      (final, snapshotReceipt final envelope.commandId envelope.sequence (.rejected
        (if (final.commandJournal.find envelope.commandId).isSome then .duplicateCommand else .staleCommand)), false)
  reused : Retains final envelope → ∀ other ∈ Sent, other.commandId = envelope.commandId → other ≠ envelope →
    other.protocolVersion = teamCommandProtocolVersion → ∀ mint effectiveCommand,
      applyTeamCommandWithEffective codec mint final runId other effectiveCommand =
        (final, snapshotReceipt final other.commandId other.sequence (.rejected .duplicateCommand), false)

theorem JournaledAs.settledOnce (collisionFree : Set.InjOn (codec.fingerprint runId) Sent) {run final : TeamRun}
    {envelope : TeamCommandEnvelope} {outcome : TeamRun × TeamCommandReceipt × Bool} {record : TeamCommandRecord}
    (sent : envelope ∈ Sent) (step : Follows codec runId Sent run outcome.1)
    (journaled : JournaledAs codec runId envelope run outcome.1 outcome.2.1 record)
    (later : Follows codec runId Sent outcome.1 final) : SettledOnce codec runId Sent run final envelope outcome := by
  have reached : envelope.sequence ≤ final.driverProgress.lastCommandSeq := by
    rw [← journaled.top]
    exact later.watermark
  -- whatever stands under the envelope's number is the record of this delivery
  have sole (other : TeamCommandRecord) (member : other ∈ final.commandJournal.records)
      (numbered : other.sequence = envelope.sequence) : other = record := by
    have old : other ∈ outcome.1.commandJournal.records := by
      by_contra gone
      have above := (later.origin other member gone).1
      rw [journaled.top, numbered] at above
      exact UInt64.lt_irrefl _ above
    refine step.single other old record journaled.member ?_ (numbered.trans journaled.numbered.symm)
    rw [numbered]
    exact journaled.fresh
  have matches_iff (other : TeamCommandEnvelope) (inside : other ∈ Sent) (found : TeamCommandRecord)
      (source : TeamCommandEnvelope) (known : source ∈ Sent)
      (digest : found.fingerprint = some (codec.fingerprint runId source)) (differs : other ≠ source) :
      found.matchesFingerprint (codec.fingerprint runId other) = false := by
    have apart : codec.fingerprint runId source ≠ codec.fingerprint runId other :=
      fun same => differs (collisionFree inside known same.symm)
    simp [TeamCommandRecord.matchesFingerprint, digest, apart]
  refine ⟨⟨journaled.fresh, journaled.top, reached⟩, ?_, ?_, ?_, ?_⟩
  · intro one member other inside first second
    rw [sole one member first, sole other inside second]
  · rintro ⟨found, member, -, numbered⟩ mint effectiveCommand
    rw [sole found member numbered] at member
    rw [redelivery_of_retained later.workable later.ledger journaled.spoken member journaled.named journaled.digest,
      journaled.answer]
    have notes := later.notes record journaled.member member
    rw [journaled.named] at notes
    simp only [TeamRun.notesUnder] at notes
    simp only [replayReceipt, notes]
  · intro gone mint effectiveCommand
    cases found : final.commandJournal.find envelope.commandId with
    | none =>
      have passed : preflightTeamCommandIdentity codec final runId envelope = none :=
        preflight_none_iff.mpr ⟨later.workable, journaled.spoken, found⟩
      rw [apply_of_stale passed reached]
      rfl
    | some taker =>
      obtain ⟨member, named⟩ := TeamCommandJournal.mem_of_find found
      -- the id was taken again, so by another envelope
      have new : taker ∉ outcome.1.commandJournal.records := by
        intro old
        have same := TeamCommandJournal.find_of_mem step.ledger.distinct old
        rw [named, ← journaled.named, TeamCommandJournal.find_of_mem step.ledger.distinct journaled.member] at same
        refine gone ⟨taker, member, named, ?_⟩
        rw [← Option.some.inj same]
        exact journaled.numbered
      obtain ⟨above, source, known, -, numbered, digest⟩ := later.origin taker member new
      have differs : envelope ≠ source := by
        rintro rfl
        rw [journaled.top, numbered] at above
        exact UInt64.lt_irrefl _ above
      rw [reuse_of_retained later.workable later.ledger journaled.spoken member named
        (matches_iff envelope sent taker source known digest differs)]
      rfl
  · rintro ⟨found, member, -, numbered⟩ other inside named differs spoken mint effectiveCommand
    rw [sole found member numbered] at member
    exact reuse_of_retained later.workable later.ledger spoken member (journaled.named.trans named.symm)
      (matches_iff other inside record envelope sent journaled.digest differs)

/-- A command takes effect at most once. From a run that can be trusted with its journal, in
any history of deliveries and user actions, the watermark covers the journal and only grows;
a delivery that wrote nothing changed nothing; and one that wrote a record is settled for good. -/
theorem commands_take_effect_at_most_once (collisionFree : Set.InjOn (codec.fingerprint runId) Sent)
    {start run final : TeamRun} (workable : Workable start) (ledger : Ledger start)
    (before : TeamHistory codec runId (Delivers Sent) start run) {mint : Nat → String}
    {envelope : TeamCommandEnvelope} {effectiveCommand : TeamStateCommand} (sent : envelope ∈ Sent)
    (drain : SameDrain envelope effectiveCommand)
    (after : TeamHistory codec runId (Delivers Sent)
      (applyTeamCommandWithEffective codec mint run runId envelope effectiveCommand).1 final) :
    let outcome := applyTeamCommandWithEffective codec mint run runId envelope effectiveCommand
    (∀ record ∈ final.commandJournal.records, record.sequence ≤ final.driverProgress.lastCommandSeq) ∧
      (run.driverProgress.lastCommandSeq ≤ outcome.1.driverProgress.lastCommandSeq ∧
        outcome.1.driverProgress.lastCommandSeq ≤ final.driverProgress.lastCommandSeq) ∧
      (outcome.2.2 = false → outcome.1 = run) ∧
      (outcome.2.2 = true → SettledOnce codec runId Sent run final envelope outcome) ∧
      ∀ record ∈ final.commandJournal.records, ∀ other : TeamCommandEnvelope, other.commandId = record.commandId →
        other.protocolVersion = teamCommandProtocolVersion →
        record.matchesFingerprint (codec.fingerprint runId other) = false → ∀ mint' effectiveCommand',
          applyTeamCommandWithEffective codec mint' final runId other effectiveCommand' =
            (final, snapshotReceipt final other.commandId other.sequence (.rejected .duplicateCommand), false) := by
  intro outcome
  have known := before.follows workable ledger
  obtain ⟨step, wrote⟩ := delivery_step codec runId mint known.workable known.ledger sent drain
  have later := after.follows step.workable step.ledger
  refine ⟨later.ledger.covered, ⟨step.watermark, later.watermark⟩, ?_, ?_, ?_⟩
  · intro silent
    rcases wrote with ⟨loud, -⟩ | ⟨-, same⟩
    · rw [show outcome.2.2 = true from loud] at silent
      cases silent
    · exact same
  · intro loud
    rcases wrote with ⟨-, record, journaled⟩ | ⟨silent, -⟩
    · exact journaled.settledOnce collisionFree sent step later
    · rw [show outcome.2.2 = false from silent] at loud
      cases loud
  · intro record member other named spoken differs mint' effectiveCommand'
    exact reuse_of_retained later.workable later.ledger spoken member named.symm differs

end Follows

def firstCommand : TeamCommandEnvelope :=
  numbered 1 0 (.setPhase .design)

def secondCommand : TeamCommandEnvelope :=
  numbered 2 1 (.setPhase .planning)

/-- After a second command, the first delivered again gets its receipt again. -/
theorem first_command_is_replayed :
    deliver (deliver (deliver runningRun firstCommand).1 secondCommand).1 firstCommand =
      ((deliver (deliver runningRun firstCommand).1 secondCommand).1, (deliver runningRun firstCommand).2.1, false) := by
  have collisionFree : Set.InjOn (sequenceCodec.fingerprint "run-1") {firstCommand, secondCommand} := by
    rintro _ (rfl | rfl) _ (rfl | rfl) same
    · rfl
    · exact absurd same (by decide)
    · exact absurd same (by decide)
    · rfl
  have ledger : Ledger runningRun := .of_empty rfl rfl
  have permitted : Delivers {firstCommand, secondCommand} (deliver runningRun firstCommand).1
      (.delivery Nat.repr secondCommand secondCommand.command) := ⟨.inr rfl, .rfl⟩
  have workable : Workable runningRun := ⟨rfl, rfl, rfl⟩
  have sent : firstCommand ∈ ({firstCommand, secondCommand} : Set TeamCommandEnvelope) := .inl rfl
  have drain : SameDrain firstCommand firstCommand.command := .rfl
  have later : TeamHistory sequenceCodec "run-1" (Delivers {firstCommand, secondCommand})
      (deliver runningRun firstCommand).1 (deliver (deliver runningRun firstCommand).1 secondCommand).1 :=
    .next .start permitted
  have settled := (commands_take_effect_at_most_once collisionFree workable ledger .start sent drain later).2.2.2.1 rfl
  exact settled.replayed (by decide) Nat.repr firstCommand.command

/-- The run after 65 commands, the first of them evicted. -/
def fullJournal : TeamRun :=
  (List.range 65).foldl (fun run n => (deliver run (numbered (UInt64.ofNat (n + 1)) 0 (.setPhase .design))).1) TeamRun.new

/-- A run that still keeps notes under an id no record of its journal has. -/
def orphanedNotes : TeamRun :=
  { runningRun with
    drainedNotes := [{ commandId := "c1", notes := ["an old note"] }]
    pendingUserNotes := ["a new note"] }

/-- A run whose watermark is behind its journal. -/
def laggingWatermark : TeamRun :=
  { runningRun with commandJournal :=
      runningRun.commandJournal.push (runningRun.rejectedRecord { numbered 1 0 (.setPhase .design) with commandId := "c0" }
        0 .invalidState) }

/-- Where the answers of a journal change: an evicted command whose id was taken again, a drain
over orphaned notes, a number behind the journal but not the watermark, another command handed
to the effects, and an id reused in a protocol this build does not speak. -/
theorem answers_change_elsewhere :
    (deliver fullJournal firstCommand).2.1.status = .rejected .staleCommand ∧
      (deliver (deliver fullJournal { numbered 66 0 (.setPhase .design) with commandId := "c1" }).1
        firstCommand).2.1.status = .rejected .duplicateCommand ∧
    (deliver orphanedNotes (numbered 1 0 .takeUserNotes)).2.1.status = .applied (.drainedNotes ["a new note"]) ∧
      (deliver (deliver orphanedNotes (numbered 1 0 .takeUserNotes)).1 (numbered 1 0 .takeUserNotes)).2.1.status =
        .applied (.drainedNotes ["an old note"]) ∧
    ((deliver laggingWatermark firstCommand).1.commandJournal.records.map (·.sequence)) = [1, 1] ∧
    (applyTeamCommandWithEffective sequenceCodec Nat.repr runningRun "run-1" firstCommand .takeUserNotes).2.1.status =
        .applied (.drainedNotes []) ∧
      (deliver (applyTeamCommandWithEffective sequenceCodec Nat.repr runningRun "run-1" firstCommand .takeUserNotes).1
        firstCommand).2.1.status = .applied .ack ∧
    (deliver (deliver runningRun firstCommand).1 { numbered 1 0 .takeUserNotes with protocolVersion := 2 }).2.1.status =
      .rejected .unsupportedProtocol := by
  refine ⟨?_, ?_, ?_, ?_, ?_, ?_, ?_, ?_⟩
  · decide +kernel
  · decide +kernel
  all_goals decide

end Sealwire.Team

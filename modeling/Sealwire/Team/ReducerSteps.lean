import Sealwire.Team.Reducer

namespace Sealwire.Team

/-- A run this build may change: its backend is executable and its progress is trustworthy. -/
structure Workable (run : TeamRun) : Prop where
  executable : run.isExecutableByCurrentBuild = true
  progress : run.driverProgress.malformed = false
  journal : run.commandJournal.malformed = false

/-- A delivery that passes every ordered check, in the order the reducer makes them. -/
structure ReachesEffects (codec : Codec) (run : TeamRun) (envelope : TeamCommandEnvelope)
    (effectiveCommand : TeamStateCommand) : Prop where
  workable : Workable run
  spoken : envelope.protocolVersion = teamCommandProtocolVersion
  unseen : run.commandJournal.find envelope.commandId = none
  fresh : run.driverProgress.lastCommandSeq < envelope.sequence
  payload : validatePayload codec run envelope.command = .ok ()
  effectivePayload : validatePayload codec run effectiveCommand = .ok ()
  headroom : hasCounterHeadroom run envelope.sequence = true
  current : envelope.expectedRevision = run.driverProgress.stateRevision
  permitted : envelope.command.isLifecycleTransition = true ∨ commandIsPermittedByLifecycle run = true

theorem preflight_none_iff {codec : Codec} {run : TeamRun} {runId : String} {envelope : TeamCommandEnvelope} :
    preflightTeamCommandIdentity codec run runId envelope = none ↔
      Workable run ∧ envelope.protocolVersion = teamCommandProtocolVersion ∧
        run.commandJournal.find envelope.commandId = none := by
  unfold preflightTeamCommandIdentity
  constructor
  · intro passed
    simp only at passed
    split at passed
    · cases passed
    rename_i executable
    split at passed
    · cases passed
    rename_i sound
    split at passed
    · cases passed
    rename_i spoken
    simp only [Bool.or_eq_true, not_or, Bool.not_eq_true] at sound
    exact ⟨⟨by simpa using executable, sound.1, sound.2⟩, by simpa using spoken, by simpa using passed⟩
  · rintro ⟨workable, spoken, unseen⟩
    simp [workable.executable, workable.progress, workable.journal, spoken, unseen]

/-- The preflight of a workable run that speaks the envelope's protocol is the journal lookup. -/
theorem preflight_lookup {codec : Codec} {run : TeamRun} {runId : String} {envelope : TeamCommandEnvelope}
    (workable : Workable run) (spoken : envelope.protocolVersion = teamCommandProtocolVersion)
    {existing : TeamCommandRecord} (found : run.commandJournal.find envelope.commandId = some existing) :
    preflightTeamCommandIdentity codec run runId envelope = some
      (if existing.matchesFingerprint (codec.fingerprint runId envelope) then
        replayReceipt run envelope.commandId envelope.sequence existing
      else snapshotReceipt run envelope.commandId envelope.sequence (.rejected .duplicateCommand)) := by
  unfold preflightTeamCommandIdentity
  simp [workable.executable, workable.progress, workable.journal, spoken, found]

section Apply

variable {codec : Codec} {mint : Nat → String} {run : TeamRun} {runId : String} {envelope : TeamCommandEnvelope}
  {effectiveCommand : TeamStateCommand}

theorem apply_of_preflight {receipt : TeamCommandReceipt}
    (answered : preflightTeamCommandIdentity codec run runId envelope = some receipt) :
    applyTeamCommandWithEffective codec mint run runId envelope effectiveCommand = (run, receipt, false) := by
  unfold applyTeamCommandWithEffective
  rw [answered]

/-- Behind the watermark nothing is written. -/
theorem apply_of_stale (passed : preflightTeamCommandIdentity codec run runId envelope = none)
    (stale : envelope.sequence ≤ run.driverProgress.lastCommandSeq) :
    applyTeamCommandWithEffective codec mint run runId envelope effectiveCommand =
      (run, snapshotReceipt run envelope.commandId envelope.sequence (.rejected .staleCommand), false) := by
  unfold applyTeamCommandWithEffective
  rw [passed]
  simp [stale]

theorem apply_of_reaches (reaches : ReachesEffects codec run envelope effectiveCommand) :
    applyTeamCommandWithEffective codec mint run runId envelope effectiveCommand =
      applyAndJournal mint run envelope (codec.fingerprint runId envelope) effectiveCommand := by
  have passed : preflightTeamCommandIdentity codec run runId envelope = none :=
    preflight_none_iff.mpr ⟨reaches.workable, reaches.spoken, reaches.unseen⟩
  have fresh : ¬envelope.sequence ≤ run.driverProgress.lastCommandSeq := UInt64.not_le.mpr reaches.fresh
  have permitted : (!envelope.command.isLifecycleTransition && !commandIsPermittedByLifecycle run) = false := by
    rcases reaches.permitted with lifecycle | permitted
    · simp [lifecycle]
    · simp [permitted]
  unfold applyTeamCommandWithEffective
  rw [passed]
  simp [fresh, reaches.payload, reaches.effectivePayload, reaches.headroom, reaches.current, permitted]

/-- What one delivery can do: take effect, be refused with a record, or write nothing. -/
theorem apply_cases (codec : Codec) (mint : Nat → String) (run : TeamRun) (runId : String)
    (envelope : TeamCommandEnvelope) (effectiveCommand : TeamStateCommand) :
    (ReachesEffects codec run envelope effectiveCommand ∧
      applyTeamCommandWithEffective codec mint run runId envelope effectiveCommand =
        applyAndJournal mint run envelope (codec.fingerprint runId envelope) effectiveCommand) ∨
    (preflightTeamCommandIdentity codec run runId envelope = none ∧
      run.driverProgress.lastCommandSeq < envelope.sequence ∧
      ¬ReachesEffects codec run envelope effectiveCommand ∧
      ∃ reason, applyTeamCommandWithEffective codec mint run runId envelope effectiveCommand =
        rejectAndJournal run envelope.commandId envelope.sequence envelope.command.kind
          (codec.fingerprint runId envelope) envelope.expectedRevision reason) ∨
    (¬ReachesEffects codec run envelope effectiveCommand ∧
      ∃ receipt, applyTeamCommandWithEffective codec mint run runId envelope effectiveCommand =
        (run, receipt, false)) := by
  by_cases reaches : ReachesEffects codec run envelope effectiveCommand
  · exact .inl ⟨reaches, apply_of_reaches reaches⟩
  refine .inr ?_
  cases passed : preflightTeamCommandIdentity codec run runId envelope with
  | some receipt => exact .inr ⟨reaches, receipt, apply_of_preflight passed⟩
  | none =>
    by_cases stale : envelope.sequence ≤ run.driverProgress.lastCommandSeq
    · exact .inr ⟨reaches, _, apply_of_stale passed stale⟩
    have fresh := UInt64.not_le.mp stale
    refine .inl ⟨rfl, fresh, reaches, ?_⟩
    obtain ⟨workable, spoken, unseen⟩ := preflight_none_iff.mp passed
    unfold applyTeamCommandWithEffective
    simp only [passed, stale, if_false]
    split
    · exact ⟨_, rfl⟩
    rename_i payload
    split
    · exact ⟨_, rfl⟩
    rename_i effectivePayload
    split
    · exact ⟨_, rfl⟩
    rename_i headroom
    split
    · exact ⟨_, rfl⟩
    rename_i current
    split
    · exact ⟨_, rfl⟩
    rename_i permitted
    -- every check passed after all
    refine absurd ⟨workable, spoken, unseen, fresh, payload, effectivePayload, by simpa using headroom,
      by simpa using current, ?_⟩ reaches
    cases lifecycle : envelope.command.isLifecycleTransition with
    | true => exact .inl rfl
    | false => exact .inr (by simpa [lifecycle] using permitted)

end Apply

section Journaling

/-- Evicting changes nothing but the journal and the drained notes. -/
theorem evictWhileFull_frame (rounds : Nat) (run : TeamRun) :
    ∃ journal notes, evictWhileFull rounds run = { run with commandJournal := journal, drainedNotes := notes } := by
  induction rounds generalizing run with
  | zero => exact ⟨_, _, rfl⟩
  | succ rounds ih =>
    unfold evictWhileFull
    split
    · split
      · exact ⟨_, _, rfl⟩
      · rename_i evicted next taken
        obtain ⟨⟨record, journal⟩, _, same⟩ := Option.map_eq_some_iff.mp taken
        obtain ⟨rfl, rfl⟩ := Prod.mk.inj same
        split
        · obtain ⟨journal', notes, result⟩ :=
            ih (dropDrainedNotes { run with commandJournal := journal } record.commandId)
          exact ⟨journal', notes, result⟩
        · obtain ⟨journal', notes, result⟩ := ih { run with commandJournal := journal }
          exact ⟨journal', notes, result⟩
    · exact ⟨_, _, rfl⟩

/-- Appending a record moves the watermark, and changes the journal and the drained notes. -/
theorem pushWithEviction_frame (run : TeamRun) (record : TeamCommandRecord) :
    ∃ journal notes, pushWithEviction run record = { run with
      driverProgress := { run.driverProgress with
        lastCommandSeq := max run.driverProgress.lastCommandSeq record.sequence }
      commandJournal := journal
      drainedNotes := notes } := by
  obtain ⟨journal, notes, result⟩ := evictWhileFull_frame (run.commandJournal.push record).records.length
    { run with
      driverProgress := { run.driverProgress with
        lastCommandSeq := max run.driverProgress.lastCommandSeq record.sequence }
      commandJournal := run.commandJournal.push record }
  exact ⟨journal, notes, result⟩

theorem rejectAndJournal_frame (run : TeamRun) (commandId : String) (sequence : UInt64) (kind : TeamCommandKind)
    (fingerprint : CommandFingerprint) (expectedRevision : UInt64) (reason : CommandRejection) :
    ∃ journal notes, (rejectAndJournal run commandId sequence kind fingerprint expectedRevision reason).1 = { run with
      driverProgress := { run.driverProgress with lastCommandSeq := max run.driverProgress.lastCommandSeq sequence }
      commandJournal := journal
      drainedNotes := notes } :=
  pushWithEviction_frame run _

/-- Holding the phase back touches the phase, the final verdict and the leftovers only. -/
theorem holdPhase_frame (run : TeamRun) :
    ∃ phase mrVerdict unresolved, run.holdPhaseForWaitingSubTasks.1 =
      { run with phase := phase, mrVerdict := mrVerdict, unresolved := unresolved } := by
  unfold TeamRun.holdPhaseForWaitingSubTasks
  dsimp only
  split
  · exact ⟨_, _, _, rfl⟩
  · exact ⟨_, _, _, rfl⟩

/-- What an applied command leaves beside its effects. -/
theorem applyAndJournal_frame (mint : Nat → String) (run : TeamRun) (envelope : TeamCommandEnvelope)
    (fingerprint : CommandFingerprint) (effectiveCommand : TeamStateCommand) :
    ∃ phase mrVerdict unresolved journal notes,
      let effects := (applyEffects mint run envelope.commandId effectiveCommand).1
      (applyAndJournal mint run envelope fingerprint effectiveCommand).1 = { effects with
        phase := phase
        mrVerdict := mrVerdict
        unresolved := unresolved
        driverProgress := { effects.driverProgress with
          stateRevision := effects.driverProgress.stateRevision + 1
          lastEventSeq := effects.driverProgress.lastEventSeq + 1
          lastCommandSeq := max effects.driverProgress.lastCommandSeq envelope.sequence }
        commandJournal := journal
        drainedNotes := notes } := by
  obtain ⟨phase, mrVerdict, unresolved, held⟩ :=
    holdPhase_frame (applyEffects mint run envelope.commandId effectiveCommand).1
  unfold applyAndJournal
  simp only [held]
  obtain ⟨journal, notes, pushed⟩ := pushWithEviction_frame _ _
  exact ⟨phase, mrVerdict, unresolved, journal, notes, pushed⟩

end Journaling

end Sealwire.Team

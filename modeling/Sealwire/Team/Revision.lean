import Sealwire.Team.Settled

namespace Sealwire.Team

/-- The user-side methods that take the run out of the driver's hands. -/
inductive UserAction
  | requestPause (deviceId : String)
  | requestStop (deviceId : String)
  | settlePaused (reason : String) (kind : TeamPauseKind)
  | resume
  | cancel (reason : String)
  | reviveSubTasks (named : Option (List String))

def UserAction.run (run : TeamRun) : UserAction → TeamRun
  | requestPause deviceId => run.requestPause deviceId
  | requestStop deviceId => run.requestStop deviceId
  | settlePaused reason kind => (run.settlePaused reason kind).1
  | resume => run.resume.1
  | cancel reason => (run.cancel reason).1
  | reviveSubTasks named => (run.reviveSubTasks named).1

/-- Whether the method took: its own answer, or for the two requests that the run was open. -/
def UserAction.took (run : TeamRun) : UserAction → Bool
  | requestPause _ | requestStop _ => !(run.status.isTerminal || run.status.isSettledWithoutDriver)
  | settlePaused reason kind => (run.settlePaused reason kind).2
  | resume => run.resume.2
  | cancel reason => (run.cancel reason).2
  | reviveSubTasks named => (run.reviveSubTasks named).2

/-- A delivery that was applied now, not answered out of the journal. -/
def Applies (outcome : TeamRun × TeamCommandReceipt × Bool) : Prop :=
  (∃ output, outcome.2.1.status = .applied output) ∧ outcome.2.2 = true

/-- What happens to a run: a delivery to the reducer, or a user action. -/
inductive TeamEvent
  | delivery (mint : Nat → String) (envelope : TeamCommandEnvelope) (effectiveCommand : TeamStateCommand)
  | user (action : UserAction)

section Events

variable (codec : Codec) (runId : String)

def TeamEvent.run (run : TeamRun) : TeamEvent → TeamRun
  | delivery mint envelope effectiveCommand =>
    (applyTeamCommandWithEffective codec mint run runId envelope effectiveCommand).1
  | user action => action.run run

def TeamEvent.TakesEffect (run : TeamRun) : TeamEvent → Prop
  | delivery mint envelope effectiveCommand =>
    Applies (applyTeamCommandWithEffective codec mint run runId envelope effectiveCommand)
  | user action => action.took run = true

/-- A history of a run, every event of it allowed where it happens. -/
inductive TeamHistory (allowed : TeamRun → TeamEvent → Prop) (first : TeamRun) : TeamRun → Prop
  | start : TeamHistory allowed first first
  | next {run : TeamRun} (history : TeamHistory allowed first run) {event : TeamEvent} (permitted : allowed run event) :
      TeamHistory allowed first (event.run codec runId run)

end Events

/-- The effective settlements that move the revision once themselves, before the reducer does. -/
def bumpsRevision (run : TeamRun) : TeamStateCommand → Bool
  | .settleRun .paused _ _ => !(run.status.isTerminal || run.status.isSettledWithoutDriver)
  | .settleRun .cancelled _ _ => !run.status.isTerminal
  | _ => false

/-- A delivery that settles an open run as paused or cancelled where only one revision is left. -/
def Wraps (codec : Codec) (run : TeamRun) (envelope : TeamCommandEnvelope) (effectiveCommand : TeamStateCommand) : Prop :=
  ReachesEffects codec run envelope effectiveCommand ∧ bumpsRevision run effectiveCommand = true ∧
    run.driverProgress.stateRevision.toNat = 2 ^ 64 - 2

/-- No delivery of the history wraps the revision. -/
def KeepsRoom (codec : Codec) (run : TeamRun) : TeamEvent → Prop
  | .delivery _ envelope effectiveCommand => ¬Wraps codec run envelope effectiveCommand
  | .user _ => True

theorem applyEffects_progress (mint : Nat → String) (run : TeamRun) (commandId : String) (command : TeamStateCommand) :
    (applyEffects mint run commandId command).1.driverProgress =
      if bumpsRevision run command then run.invalidateDriverDecisions.driverProgress else run.driverProgress := by
  cases command with
  | setRunStatus status =>
    simp only [applyEffects, TeamRun.setStatus, bumpsRevision]
    split <;> rfl
  | failRun error =>
    simp only [applyEffects, TeamRun.fail, TeamRun.setStatus, bumpsRevision]
    split
    · rfl
    · split <;> rfl
  | blockRun error =>
    simp only [applyEffects, TeamRun.block, bumpsRevision]
    split <;> rfl
  | settleRun status reason pauseKind =>
    cases status with
    | paused =>
      cases closed : run.status.isTerminal || run.status.isSettledWithoutDriver with
      | true => simp [applyEffects, TeamRun.settlePaused, bumpsRevision, closed]
      | false =>
        simp only [applyEffects, TeamRun.settlePaused, bumpsRevision, closed]
        rfl
    | cancelled =>
      cases closed : run.status.isTerminal with
      | true => simp [applyEffects, TeamRun.cancel, bumpsRevision, closed]
      | false =>
        simp only [applyEffects, TeamRun.cancel, bumpsRevision, closed]
        rfl
    | done =>
      simp only [applyEffects, TeamRun.forceMarkStatus, bumpsRevision]
      split
      · rfl
      · split <;> rfl
    | _ =>
      simp only [applyEffects, TeamRun.setStatus, bumpsRevision]
      split <;> rfl
  | _ => rfl

theorem hasCounterHeadroom_revision {run : TeamRun} {sequence : UInt64}
    (headroom : hasCounterHeadroom run sequence = true) :
    run.driverProgress.stateRevision.toNat + 1 < 2 ^ 64 := by
  unfold hasCounterHeadroom at headroom
  simp only [Bool.and_eq_true, checkedAdd_isSome, UInt64.toNat_one] at headroom
  exact headroom.1.1

theorem applyAndJournal_revision (mint : Nat → String) (run : TeamRun) (envelope : TeamCommandEnvelope)
    (fingerprint : CommandFingerprint) (effectiveCommand : TeamStateCommand) :
    (applyAndJournal mint run envelope fingerprint effectiveCommand).1.driverProgress.stateRevision =
      (if bumpsRevision run effectiveCommand then saturatingAdd run.driverProgress.stateRevision 1
        else run.driverProgress.stateRevision) + 1 := by
  obtain ⟨phase, mrVerdict, unresolved, journal, notes, frame⟩ :=
    applyAndJournal_frame mint run envelope fingerprint effectiveCommand
  rw [frame]
  simp only [applyEffects_progress]
  split <;> rfl

section Delivery

variable {codec : Codec} {mint : Nat → String} {run : TeamRun} {runId : String} {envelope : TeamCommandEnvelope}
  {effectiveCommand : TeamStateCommand}

/-- A delivery is applied now exactly when it passes every check. -/
theorem applies_iff : Applies (applyTeamCommandWithEffective codec mint run runId envelope effectiveCommand) ↔
    ReachesEffects codec run envelope effectiveCommand := by
  rcases apply_cases codec mint run runId envelope effectiveCommand with
    ⟨reaches, result⟩ | ⟨-, -, refused, reason, result⟩ | ⟨refused, receipt, result⟩
  · rw [result]
    exact iff_of_true ⟨⟨_, rfl⟩, rfl⟩ reaches
  · rw [result]
    refine iff_of_false ?_ refused
    rintro ⟨⟨output, applied⟩, -⟩
    cases applied
  · rw [result]
    refine iff_of_false ?_ refused
    rintro ⟨-, wrote⟩
    cases wrote

theorem delivery_refused_revision (refused : ¬ReachesEffects codec run envelope effectiveCommand) :
    (applyTeamCommandWithEffective codec mint run runId envelope effectiveCommand).1.driverProgress.stateRevision =
      run.driverProgress.stateRevision := by
  rcases apply_cases codec mint run runId envelope effectiveCommand with
    ⟨reaches, -⟩ | ⟨-, -, -, reason, result⟩ | ⟨-, receipt, result⟩
  · exact absurd reaches refused
  · obtain ⟨journal, notes, frame⟩ := rejectAndJournal_frame run envelope.commandId envelope.sequence
      envelope.command.kind (codec.fingerprint runId envelope) envelope.expectedRevision reason
    rw [result, frame]
  · rw [result]

/-- An applied delivery moves the revision up exactly when it does not wrap. -/
theorem delivery_applied_lt_iff (reaches : ReachesEffects codec run envelope effectiveCommand) :
    run.driverProgress.stateRevision <
        (applyTeamCommandWithEffective codec mint run runId envelope effectiveCommand).1.driverProgress.stateRevision ↔
      ¬Wraps codec run envelope effectiveCommand := by
  have room := hasCounterHeadroom_revision reaches.headroom
  rw [apply_of_reaches reaches, applyAndJournal_revision, UInt64.lt_iff_toNat_lt]
  unfold Wraps
  cases bumps : bumpsRevision run effectiveCommand with
  | false =>
    simp only [Bool.false_eq_true, if_false, false_and, and_false, not_false_eq_true, iff_true]
    rw [toNat_add_one (by omega)]
    omega
  | true =>
    simp only [if_true, true_and, reaches]
    by_cases last : run.driverProgress.stateRevision.toNat = 2 ^ 64 - 2
    · have full : (saturatingAdd run.driverProgress.stateRevision 1).toNat = 2 ^ 64 - 1 := by
        rw [toNat_saturatingAdd, last]
        rfl
      have wrapped : (saturatingAdd run.driverProgress.stateRevision 1 + 1).toNat = 0 := by
        rw [UInt64.toNat_add, full]
        rfl
      rw [wrapped]
      exact iff_of_false (Nat.not_lt_zero _) fun safe => safe last
    · have next : (saturatingAdd run.driverProgress.stateRevision 1).toNat = run.driverProgress.stateRevision.toNat + 1 :=
        toNat_saturatingAdd_one (by omega)
      rw [toNat_add_one (by omega), next]
      exact iff_of_true (by omega) last

end Delivery

/-- A user action that took moves the revision up, or leaves it at the ceiling. -/
theorem UserAction.took_revision {run : TeamRun} {action : UserAction} (took : action.took run = true) :
    run.driverProgress.stateRevision < (action.run run).driverProgress.stateRevision ∨
      run.driverProgress.stateRevision.toNat = 2 ^ 64 - 1 ∧
        (action.run run).driverProgress.stateRevision.toNat = 2 ^ 64 - 1 := by
  have bounded := run.driverProgress.stateRevision.toNat_lt
  have once (next : UInt64) (same : next = saturatingAdd run.driverProgress.stateRevision 1) :
      run.driverProgress.stateRevision < next ∨
        run.driverProgress.stateRevision.toNat = 2 ^ 64 - 1 ∧ next.toNat = 2 ^ 64 - 1 := by
    rw [same, UInt64.lt_iff_toNat_lt, toNat_saturatingAdd, UInt64.toNat_one]
    omega
  cases action with
  | requestPause deviceId =>
    have closed : (run.status.isTerminal || run.status.isSettledWithoutDriver) = false := by
      simpa [UserAction.took] using took
    refine once _ ?_
    simp [UserAction.run, TeamRun.requestPause, TeamRun.setStatus, closed, TeamRun.invalidateDriverDecisions]
  | requestStop deviceId =>
    have closed : (run.status.isTerminal || run.status.isSettledWithoutDriver) = false := by
      simpa [UserAction.took] using took
    have twice : ((UserAction.requestStop deviceId).run run).driverProgress.stateRevision =
        saturatingAdd (saturatingAdd run.driverProgress.stateRevision 1) 1 := by
      simp [UserAction.run, TeamRun.requestStop, TeamRun.requestPause, TeamRun.setStatus, closed,
        TeamRun.invalidateDriverDecisions]
    rw [twice, UInt64.lt_iff_toNat_lt, toNat_saturatingAdd, toNat_saturatingAdd, UInt64.toNat_one]
    omega
  | settlePaused reason kind =>
    refine once _ ?_
    simp only [UserAction.took, TeamRun.settlePaused] at took
    simp only [UserAction.run, TeamRun.settlePaused]
    split at took
    · cases took
    · rename_i going
      rw [if_neg going]
      rfl
  | resume =>
    refine once _ ?_
    simp only [UserAction.took, TeamRun.resume] at took
    simp only [UserAction.run, TeamRun.resume]
    split at took
    · cases took
    · rename_i going
      rw [if_neg going]
      rfl
  | cancel reason =>
    refine once _ ?_
    simp only [UserAction.took, TeamRun.cancel] at took
    simp only [UserAction.run, TeamRun.cancel]
    split at took
    · cases took
    · rename_i going
      rw [if_neg going]
      rfl
  | reviveSubTasks named =>
    refine once _ ?_
    simp only [UserAction.took, TeamRun.reviveSubTasks] at took
    simp only [UserAction.run, TeamRun.reviveSubTasks]
    split at took
    · cases took
    · rename_i going
      rw [if_neg going]
      rfl

/-- A user action that did not take leaves the run alone. -/
theorem UserAction.not_took {run : TeamRun} {action : UserAction} (refused : action.took run = false) :
    action.run run = run := by
  cases action with
  | requestPause deviceId =>
    have closed : (run.status.isTerminal || run.status.isSettledWithoutDriver) = true := by
      simpa only [UserAction.took, Bool.not_eq_false'] using refused
    simp [UserAction.run, TeamRun.requestPause, closed]
  | requestStop deviceId =>
    have closed : (run.status.isTerminal || run.status.isSettledWithoutDriver) = true := by
      simpa only [UserAction.took, Bool.not_eq_false'] using refused
    simp [UserAction.run, TeamRun.requestStop, closed]
  | settlePaused reason kind =>
    simp only [UserAction.took, TeamRun.settlePaused] at refused
    simp only [UserAction.run, TeamRun.settlePaused]
    split at refused
    · rename_i closed
      rw [if_pos closed]
    · cases refused
  | resume =>
    simp only [UserAction.took, TeamRun.resume] at refused
    simp only [UserAction.run, TeamRun.resume]
    split at refused
    · rename_i closed
      rw [if_pos closed]
    · cases refused
  | cancel reason =>
    simp only [UserAction.took, TeamRun.cancel] at refused
    simp only [UserAction.run, TeamRun.cancel]
    split at refused
    · rename_i closed
      rw [if_pos closed]
    · cases refused
  | reviveSubTasks named =>
    simp only [UserAction.took, TeamRun.reviveSubTasks] at refused
    simp only [UserAction.run, TeamRun.reviveSubTasks]
    split at refused
    · rename_i closed
      rw [if_pos closed]
    · cases refused

/-- One event never lowers the revision, unless it is a delivery that wraps it. -/
theorem TeamEvent.run_revision {codec : Codec} (runId : String) {run : TeamRun} {event : TeamEvent}
    (room : KeepsRoom codec run event) :
    run.driverProgress.stateRevision ≤ (event.run codec runId run).driverProgress.stateRevision := by
  cases event with
  | delivery mint envelope effectiveCommand =>
    by_cases reaches : ReachesEffects codec run envelope effectiveCommand
    · exact UInt64.le_of_lt ((delivery_applied_lt_iff reaches).mpr room)
    · rw [TeamEvent.run, delivery_refused_revision reaches]
      exact UInt64.le_refl _
  | user action =>
    rw [TeamEvent.run]
    cases took : action.took run with
    | false =>
      rw [UserAction.not_took took]
      exact UInt64.le_refl _
    | true =>
      rcases UserAction.took_revision took with moved | ⟨full, stays⟩
      · exact UInt64.le_of_lt moved
      · rw [UInt64.le_iff_toNat_le, full, stays]

theorem TeamHistory.revision_mono {codec : Codec} {runId : String} {first last : TeamRun}
    (history : TeamHistory codec runId (KeepsRoom codec) first last) :
    first.driverProgress.stateRevision ≤ last.driverProgress.stateRevision := by
  induction history with
  | start => exact UInt64.le_refl _
  | next _ room before => exact UInt64.le_trans before (TeamEvent.run_revision runId room)

section Separation

variable {codec : Codec} {runId : String}

/-- At the ceiling no delivery applies. -/
theorem not_applies_at_ceiling {mint : Nat → String} {run : TeamRun} {envelope : TeamCommandEnvelope}
    {effectiveCommand : TeamStateCommand} (full : run.driverProgress.stateRevision.toNat = 2 ^ 64 - 1) :
    ¬Applies (applyTeamCommandWithEffective codec mint run runId envelope effectiveCommand) := by
  intro applies
  have room := hasCounterHeadroom_revision (applies_iff.mp applies).headroom
  omega

/-- What took effect moves the revision up, or finds it at the ceiling and leaves it there. -/
theorem TeamEvent.takesEffect_revision {run : TeamRun} {event : TeamEvent} (room : KeepsRoom codec run event)
    (effect : event.TakesEffect codec runId run) :
    run.driverProgress.stateRevision < (event.run codec runId run).driverProgress.stateRevision ∨
      run.driverProgress.stateRevision.toNat = 2 ^ 64 - 1 ∧
        (event.run codec runId run).driverProgress.stateRevision.toNat = 2 ^ 64 - 1 := by
  cases event with
  | delivery mint envelope effectiveCommand =>
    have reaches := applies_iff.mp effect
    exact .inl ((delivery_applied_lt_iff reaches).mpr room)
  | user action => exact UserAction.took_revision effect

/-- No decision read before a user action that took is applied after it. -/
theorem decision_expires {run final : TeamRun} {action : UserAction} (took : action.took run = true)
    (history : TeamHistory codec runId (KeepsRoom codec) (action.run run) final) (mint : Nat → String)
    (envelope : TeamCommandEnvelope) (effectiveCommand : TeamStateCommand)
    (before : envelope.expectedRevision ≤ run.driverProgress.stateRevision) :
    ¬Applies (applyTeamCommandWithEffective codec mint final runId envelope effectiveCommand) := by
  intro applies
  have reaches := applies_iff.mp applies
  have room := hasCounterHeadroom_revision reaches.headroom
  have later := UInt64.le_iff_toNat_le.mp history.revision_mono
  have earlier := UInt64.le_iff_toNat_le.mp before
  rw [reaches.current] at earlier
  rcases UserAction.took_revision took with moved | ⟨full, stays⟩
  · have strict := UInt64.lt_iff_toNat_lt.mp moved
    omega
  · omega

/-- In a history in which no delivery wraps the revision, the revision never goes back, whatever
takes effect moves it up until the ceiling, where nothing applies, and no decision outlives a
user action. A delivery that applies moves it up exactly when it does not wrap it. -/
theorem revision_separates_decisions {first last : TeamRun}
    (history : TeamHistory codec runId (KeepsRoom codec) first last) :
    first.driverProgress.stateRevision ≤ last.driverProgress.stateRevision ∧
    (∀ event : TeamEvent, KeepsRoom codec last event → event.TakesEffect codec runId last →
      last.driverProgress.stateRevision < (event.run codec runId last).driverProgress.stateRevision ∨
        last.driverProgress.stateRevision.toNat = 2 ^ 64 - 1 ∧
          (event.run codec runId last).driverProgress.stateRevision.toNat = 2 ^ 64 - 1) ∧
    (last.driverProgress.stateRevision.toNat = 2 ^ 64 - 1 → ∀ mint envelope effectiveCommand,
      ¬Applies (applyTeamCommandWithEffective codec mint last runId envelope effectiveCommand)) ∧
    (∀ action : UserAction, action.took last = true →
      ∀ final, TeamHistory codec runId (KeepsRoom codec) (action.run last) final →
      ∀ mint envelope effectiveCommand, envelope.expectedRevision ≤ last.driverProgress.stateRevision →
        ¬Applies (applyTeamCommandWithEffective codec mint final runId envelope effectiveCommand)) ∧
    ∀ mint envelope effectiveCommand,
      Applies (applyTeamCommandWithEffective codec mint last runId envelope effectiveCommand) →
        (last.driverProgress.stateRevision <
            (applyTeamCommandWithEffective codec mint last runId envelope effectiveCommand).1.driverProgress.stateRevision ↔
          ¬Wraps codec last envelope effectiveCommand) := by
  refine ⟨history.revision_mono, ?_, ?_, ?_, ?_⟩
  · intro event room effect
    exact event.takesEffect_revision room effect
  · intro full mint envelope effectiveCommand
    exact not_applies_at_ceiling full
  · intro action took final later mint envelope effectiveCommand before
    exact decision_expires took later mint envelope effectiveCommand before
  · intro mint envelope effectiveCommand applies
    exact delivery_applied_lt_iff (applies_iff.mp applies)

end Separation

def runningRun : TeamRun :=
  { TeamRun.new with status := .running }

/-- A running run whose revision is the last but one. -/
def worn : TeamRun :=
  { runningRun with driverProgress :=
      { runningRun.driverProgress with stateRevision := 18446744073709551614 } }

/-- A pause and a resume give the status back, and a decision read before them is refused. -/
theorem pause_and_resume_expire_a_decision :
    (UserAction.settlePaused "stopped by the user" .user).took runningRun = true ∧
      ¬Applies (applyTeamCommandWithEffective sequenceCodec Nat.repr
        (UserAction.resume.run ((UserAction.settlePaused "stopped by the user" .user).run runningRun)) "run-1"
        (numbered 1 0 (.setPhase .design)) (.setPhase .design)) := by
  refine ⟨rfl, ?_⟩
  have history : TeamHistory sequenceCodec "run-1" (KeepsRoom sequenceCodec) runningRun runningRun := .start
  have afterPause := (revision_separates_decisions history).2.2.2.1
    (.settlePaused "stopped by the user" .user) rfl
  have resumes : KeepsRoom sequenceCodec ((UserAction.settlePaused "stopped by the user" .user).run runningRun)
      (.user .resume) := trivial
  exact afterPause _ (.next .start resumes) Nat.repr (numbered 1 0 (.setPhase .design)) (.setPhase .design) (by decide)

/-- The settlement of a run at the last but one revision applies and throws the revision back to
zero; after the user resumes the run, a decision read at revision one applies. -/
theorem settlement_wraps_the_revision :
    Applies (deliver worn (numbered 1 18446744073709551614 (.settleRun .paused "turn ended" .boundary))) ∧
      (deliver worn (numbered 1 18446744073709551614
        (.settleRun .paused "turn ended" .boundary))).1.driverProgress.stateRevision = 0 ∧
      UserAction.resume.took (deliver worn (numbered 1 18446744073709551614
        (.settleRun .paused "turn ended" .boundary))).1 = true ∧
      Applies (deliver (UserAction.resume.run (deliver worn (numbered 1 18446744073709551614
        (.settleRun .paused "turn ended" .boundary))).1) (numbered 2 1 (.setPhase .design))) := by
  refine ⟨⟨⟨_, rfl⟩, rfl⟩, by decide, by decide, ⟨_, rfl⟩, rfl⟩

end Sealwire.Team

import Sealwire.Team.ReducerSteps

namespace Sealwire.Team

/-- Over, or waiting for the user with no driver entitled to move it. -/
def Settled (run : TeamRun) : Prop :=
  run.status.isTerminal = true ∨ run.status.isSettledWithoutDriver = true

/-- The verdict of a run, as its card shows it. -/
structure SameVerdict (run next : TeamRun) : Prop where
  status : next.status = run.status
  pauseReason : next.pauseReason = run.pauseReason
  error : next.error = run.error

/-- The effective commands whose own method overrides a settled run: a block of one that is
not final, a cancellation of one that is not final, and a completion of one that is not done. -/
def Overrides (run : TeamRun) : TeamStateCommand → Prop
  | .blockRun error => run.status.isTerminal = false ∧ ¬(run.status = .blocked ∧ run.error = some error)
  | .settleRun .cancelled _ _ => run.status.isTerminal = false
  | .settleRun .done _ _ => run.status ≠ .done
  | _ => False

theorem SameVerdict.refl (run : TeamRun) : SameVerdict run run :=
  ⟨rfl, rfl, rfl⟩

theorem Settled.gate {run : TeamRun} (settled : Settled run) :
    (run.status.isTerminal || run.status.isSettledWithoutDriver) = true := by
  rcases settled with terminal | parked
  · rw [terminal, Bool.true_or]
  · rw [parked, Bool.or_true]

theorem Settled.setStatus {run : TeamRun} (settled : Settled run) (status : TeamRunStatus) :
    run.setStatus status = run := by
  unfold TeamRun.setStatus
  rw [if_pos settled.gate]

theorem Settled.fail {run : TeamRun} (settled : Settled run) (error : String) : run.fail error = run := by
  unfold TeamRun.fail
  rw [if_pos settled.gate]

theorem Settled.settlePaused {run : TeamRun} (settled : Settled run) (reason : String) (kind : TeamPauseKind) :
    (run.settlePaused reason kind).1 = run := by
  unfold TeamRun.settlePaused
  rw [if_pos settled.gate]

theorem block_keeps_iff (run : TeamRun) (error : String) :
    SameVerdict run (run.block error) ↔ ¬Overrides run (.blockRun error) := by
  unfold TeamRun.block Overrides
  split
  · rename_i terminal
    simp [terminal, SameVerdict.refl]
  · rename_i going
    have open' : run.status.isTerminal = false := by simpa using going
    constructor
    · rintro ⟨status, -, same⟩ ⟨-, differs⟩
      exact differs ⟨status.symm, same.symm⟩
    · intro harmless
      have already : run.status = .blocked ∧ run.error = some error := by
        by_contra differs
        exact harmless ⟨open', differs⟩
      exact ⟨already.1.symm, rfl, already.2.symm⟩

theorem cancel_keeps_iff (run : TeamRun) (reason : String) (pauseKind : TeamPauseKind) :
    SameVerdict run (run.cancel reason).1 ↔ ¬Overrides run (.settleRun .cancelled reason pauseKind) := by
  unfold TeamRun.cancel Overrides
  split
  · rename_i terminal
    simp [terminal, SameVerdict.refl]
  · rename_i going
    have open' : run.status.isTerminal = false := by simpa using going
    constructor
    · rintro ⟨status, -, -⟩ -
      have final : TeamRunStatus.cancelled.isTerminal = true := rfl
      rw [show TeamRunStatus.cancelled = run.status from status, open'] at final
      cases final
    · intro harmless
      exact absurd open' harmless

theorem forceMarkDone_keeps_iff (run : TeamRun) (reason : String) (pauseKind : TeamPauseKind) :
    SameVerdict run (run.forceMarkStatus .done).1 ↔ ¬Overrides run (.settleRun .done reason pauseKind) := by
  unfold TeamRun.forceMarkStatus Overrides
  rw [if_neg (by simp)]
  split
  · rename_i already
    simp [already, SameVerdict.refl]
  · rename_i other
    constructor
    · rintro ⟨status, -, -⟩ -
      exact other status.symm
    · intro harmless
      exact absurd other harmless

/-- The effects of a command keep the verdict of a settled run exactly when they do not override it. -/
theorem applyEffects_keeps_iff {run : TeamRun} (settled : Settled run) (mint : Nat → String) (commandId : String)
    (command : TeamStateCommand) :
    SameVerdict run (applyEffects mint run commandId command).1 ↔ ¬Overrides run command := by
  cases command with
  | setRunStatus status => simp [applyEffects, settled.setStatus, Overrides, SameVerdict.refl]
  | failRun error => simp [applyEffects, settled.fail, Overrides, SameVerdict.refl]
  | blockRun error => exact block_keeps_iff run error
  | settleRun status reason pauseKind =>
    cases status with
    | cancelled => exact cancel_keeps_iff run reason pauseKind
    | done => exact forceMarkDone_keeps_iff run reason pauseKind
    | paused => simp [applyEffects, settled.settlePaused, Overrides, SameVerdict.refl]
    | _ => simp [applyEffects, settled.setStatus, Overrides, SameVerdict.refl]
  | _ => exact iff_of_true ⟨rfl, rfl, rfl⟩ id

/-- A delivery to a settled run keeps its verdict exactly when it does not reach the effects
of a command that overrides it. -/
theorem delivery_keeps_settled_iff {run : TeamRun} (settled : Settled run) (codec : Codec) (mint : Nat → String)
    (runId : String) (envelope : TeamCommandEnvelope) (effectiveCommand : TeamStateCommand) :
    SameVerdict run (applyTeamCommandWithEffective codec mint run runId envelope effectiveCommand).1 ↔
      ¬(ReachesEffects codec run envelope effectiveCommand ∧ Overrides run effectiveCommand) := by
  rcases apply_cases codec mint run runId envelope effectiveCommand with
    ⟨reaches, result⟩ | ⟨-, -, refused, reason, result⟩ | ⟨refused, receipt, result⟩
  · obtain ⟨phase, mrVerdict, unresolved, journal, notes, frame⟩ :=
      applyAndJournal_frame mint run envelope (codec.fingerprint runId envelope) effectiveCommand
    have effects := applyEffects_keeps_iff settled mint envelope.commandId effectiveCommand
    rw [result, frame]
    constructor
    · rintro ⟨status, pauseReason, error⟩ ⟨-, overrides⟩
      exact effects.mp ⟨status, pauseReason, error⟩ overrides
    · intro harmless
      obtain ⟨status, pauseReason, error⟩ := effects.mpr fun overrides => harmless ⟨reaches, overrides⟩
      exact ⟨status, pauseReason, error⟩
  · obtain ⟨journal, notes, frame⟩ := rejectAndJournal_frame run envelope.commandId envelope.sequence
      envelope.command.kind (codec.fingerprint runId envelope) envelope.expectedRevision reason
    rw [result, frame]
    exact iff_of_true ⟨rfl, rfl, rfl⟩ fun both => refused both.1
  · rw [result]
    exact iff_of_true (.refl run) fun both => refused both.1

/-- A digest told by the sequence number, and small payloads. -/
def sequenceCodec : Codec where
  fingerprint := fun _ envelope => BitVec.ofNat 256 envelope.sequence.toNat
  payloadBytes := fun _ => some 64

def numbered (sequence revision : UInt64) (command : TeamStateCommand) : TeamCommandEnvelope where
  protocolVersion := 1
  commandId := "c" ++ sequence.toNat.repr
  sequence := sequence
  expectedRevision := revision
  command := command

def pausedRun : TeamRun :=
  { TeamRun.new with status := .paused, pauseReason := some "stopped by the user", pauseKind := some .user }

def cancelledRun : TeamRun :=
  { TeamRun.new with status := .cancelled, error := some "cancelled by the user" }

/-- What one delivery, with no other effective command, makes of a run. -/
def deliver (run : TeamRun) (envelope : TeamCommandEnvelope) : TeamRun × TeamCommandReceipt × Bool :=
  applyTeamCommandWithEffective sequenceCodec Nat.repr run "run-1" envelope envelope.command

/-- A driver cancels or blocks a run the user paused, and completes one the user cancelled. -/
theorem driver_overrides_settled_runs :
    (Settled pausedRun ∧
      (deliver pausedRun (numbered 1 0 (.settleRun .cancelled "over budget" .boundary))).1.status = .cancelled ∧
      (deliver pausedRun (numbered 1 0 (.blockRun "turn in flight"))).1.status = .blocked) ∧
    Settled cancelledRun ∧
      (deliver cancelledRun (numbered 1 0 (.settleRun .done "" .boundary))).1.status = .done ∧
      ¬SameVerdict cancelledRun (deliver cancelledRun (numbered 1 0 (.settleRun .done "" .boundary))).1 := by
  refine ⟨⟨.inr rfl, by decide, by decide⟩, .inl rfl, by decide, ?_⟩
  intro same
  exact absurd same.status (by decide)

/-- A late status write on a cancelled run reaches the effects and changes nothing there. -/
theorem late_status_write_is_harmless :
    Settled cancelledRun ∧
      SameVerdict cancelledRun (deliver cancelledRun (numbered 1 0 (.setRunStatus .running))).1 := by
  refine ⟨.inl rfl, ?_⟩
  have settled : Settled cancelledRun := .inl rfl
  refine (delivery_keeps_settled_iff settled sequenceCodec Nat.repr "run-1" (numbered 1 0 (.setRunStatus .running))
    (.setRunStatus .running)).mpr ?_
  rintro ⟨-, overrides⟩
  exact overrides

end Sealwire.Team

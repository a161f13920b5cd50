import Sealwire.Goals.Moves

namespace Sealwire.Goals

variable {desk : GoalDesk} {before after : Goal} {event : GoalEvent}

/-- A goal whose turns are all spent and that does not say so is set going again without a fresh budget. -/
def ReopensSpentBudget (desk : GoalDesk) (m : GoalMove) : Prop :=
  (∃ goal, desk.goal = some goal ∧ maxGoalTurns ≤ goal.turns ∧ goal.status ≠ .outOfTurns) ∧
    (m.event desk = .answered ∨ m.event desk = .written false)

/-- Every move is allowed. -/
def anyMove (_ : GoalDesk) (_ : GoalMove) : Prop := True

/-- The budget is kept, and a goal that is driven has a turn of it left. -/
def WithinBudget (desk : GoalDesk) : Prop :=
  ∀ goal, desk.goal = some goal → goal.turns ≤ maxGoalTurns ∧ (goal.status = .active → goal.turns < maxGoalTurns)

namespace Goal

@[simp] theorem closeDispatch_dispatchOpen (goal : Goal) : goal.closeDispatch.dispatchOpen = false := rfl
@[simp] theorem closeDispatch_turns (goal : Goal) : goal.closeDispatch.turns = goal.turns := rfl
@[simp] theorem closeDispatch_status (goal : Goal) : goal.closeDispatch.status = goal.status := rfl
@[simp] theorem closeDispatch_objective (goal : Goal) : goal.closeDispatch.objective = goal.objective := rfl

theorem settle_cancelled {goal : Goal} (cancelled : goal.status = .cancelled) (status : GoalStatus) (outcome : String) :
    goal.settle status outcome = goal := by
  unfold settle
  rw [if_pos cancelled]

theorem settle_status {goal : Goal} (live : goal.status ≠ .cancelled) (status : GoalStatus) (outcome : String) :
    (goal.settle status outcome).status = status := by
  unfold settle
  rw [if_neg live, closeDispatch_status]

theorem settle_dispatchOpen {goal : Goal} (live : goal.status ≠ .cancelled) (status : GoalStatus) (outcome : String) :
    (goal.settle status outcome).dispatchOpen = false := by
  unfold settle
  rw [if_neg live, closeDispatch_dispatchOpen]

@[simp] theorem settle_turns (goal : Goal) (status : GoalStatus) (outcome : String) :
    (goal.settle status outcome).turns = goal.turns := by
  unfold settle
  split <;> rfl

@[simp] theorem settle_objective (goal : Goal) (status : GoalStatus) (outcome : String) :
    (goal.settle status outcome).objective = goal.objective := by
  unfold settle
  split <;> rfl

theorem resumeOnReply_eq {goal : Goal} (waits : goal.status.awaitsReply = true) :
    goal.resumeOnReply.status = .active ∧ goal.resumeOnReply.dispatchOpen = false ∧
      goal.resumeOnReply.turns = goal.turns ∧ goal.resumeOnReply.objective = goal.objective := by
  unfold resumeOnReply
  rw [if_pos waits]
  exact ⟨rfl, rfl, rfl, rfl⟩

theorem restored_eq (goal : Goal) :
    goal.restored.status ≠ .active ∧ goal.restored.dispatchOpen = false ∧ goal.restored.turns = goal.turns ∧
      goal.restored.objective = goal.objective ∧ (goal.restored.status = .cancelled ↔ goal.status = .cancelled) := by
  unfold restored
  by_cases driving : goal.status = .active
  · rw [if_pos (GoalStatus.isDriving_iff.2 driving)]
    exact ⟨by simp, rfl, rfl, rfl, by simp [driving]⟩
  · rw [if_neg (by simpa using driving)]
    exact ⟨driving, rfl, rfl, rfl, Iff.rfl⟩

theorem settledBy_eq {goal : Goal} (status : GoalStatus) (settlement : GoalSettlement) (seq : Nat) :
    (GoalDesk.settledBy status settlement seq goal).status = (goal.settle status (trim settlement.outcome)).status ∧
      (GoalDesk.settledBy status settlement seq goal).dispatchOpen =
        (goal.settle status (trim settlement.outcome)).dispatchOpen ∧
      (GoalDesk.settledBy status settlement seq goal).turns = goal.turns ∧
      (GoalDesk.settledBy status settlement seq goal).objective = goal.objective :=
  ⟨rfl, rfl, settle_turns .., settle_objective ..⟩

theorem handOver_turns (goal : Goal) : goal.handOver.turns = saturatingNext 32 goal.turns := rfl

theorem lt_saturatingNext {bits n : Nat} (room : n < 2 ^ bits - 1) : n < saturatingNext bits n := by
  unfold saturatingNext
  omega

theorem le_saturatingNext_of_le {bits n bound : Nat} (below : n ≤ bound) (fits : bound ≤ 2 ^ bits - 1) :
    n ≤ saturatingNext bits n := by
  unfold saturatingNext
  omega

end Goal

namespace GoalEffect

/-- The turns a goal has spent are forgotten by a write alone: one that asks for it or finds the budget spent. -/
theorem turns_fall (effect : GoalEffect (some before) event (some after)) (small : before.turns ≤ 2 ^ 32 - 1)
    (fewer : after.turns < before.turns) :
    ∃ reset, event = .written reset ∧ (reset = true ∨ before.status = .outOfTurns) := by
  cases effect with
  | refused | planned | noted => exact absurd fewer (lt_irrefl _)
  | stopped | interrupted | gaveUp => exact absurd fewer (by simp)
  | settled opened report settlement seq =>
    exact absurd fewer (by rw [(Goal.settledBy_eq report.status settlement seq).2.2.1]; exact lt_irrefl _)
  | answered waits => exact absurd fewer (by rw [(Goal.resumeOnReply_eq waits).2.2.1]; exact lt_irrefl _)
  | restored => exact absurd fewer (by rw [(Goal.restored_eq before).2.2.1]; exact lt_irrefl _)
  | handedOver driving line =>
    have grown : before.turns ≤ saturatingNext 32 before.turns := Goal.le_saturatingNext_of_le small le_rfl
    exact absurd grown (not_le.2 fewer)
  | revised _ objective reset =>
    by_cases fresh : reset = true ∨ before.status = .outOfTurns
    · exact ⟨reset, rfl, fresh⟩
    · exact absurd fewer (by simp [Goal.revise, fresh])

theorem driving_regained (effect : GoalEffect (some before) event (some after)) (idle : before.status ≠ .active)
    (driving : after.status = .active) : event.authorizes = true := by
  cases effect with
  | revised | answered => rfl
  | refused | planned | noted => exact absurd driving idle
  | interrupted active | gaveUp active | handedOver active => exact absurd active idle
  | stopped _ outcome =>
    by_cases cancelled : before.status = .cancelled
    · rw [Goal.settle_cancelled cancelled] at driving
      exact absurd driving idle
    · rw [Goal.settle_status cancelled] at driving
      cases driving
  | settled opened report settlement seq =>
    rw [(Goal.settledBy_eq report.status settlement seq).1] at driving
    by_cases cancelled : before.status = .cancelled
    · rw [Goal.settle_cancelled cancelled] at driving
      exact absurd driving idle
    · rw [Goal.settle_status cancelled] at driving
      cases report <;> cases driving
  | restored => exact absurd driving (Goal.restored_eq before).1

theorem cancelled_left (effect : GoalEffect (some before) event (some after)) (cancelled : before.status = .cancelled)
    (live : after.status ≠ .cancelled) : ∃ reset, event = .written reset := by
  cases effect with
  | revised _ _ reset => exact ⟨reset, rfl⟩
  | refused | planned | noted => exact absurd cancelled live
  | interrupted active | gaveUp active | handedOver active =>
    rw [cancelled] at active
    cases active
  | answered waits =>
    rw [cancelled] at waits
    cases waits
  | stopped _ outcome =>
    rw [Goal.settle_cancelled cancelled] at live
    exact absurd cancelled live
  | settled opened report settlement seq =>
    rw [(Goal.settledBy_eq report.status settlement seq).1, Goal.settle_cancelled cancelled] at live
    exact absurd cancelled live
  | restored => exact absurd ((Goal.restored_eq before).2.2.2.2.2 cancelled) live

theorem objective_changed (effect : GoalEffect (some before) event (some after))
    (changed : after.objective ≠ before.objective) : ∃ reset, event = .written reset := by
  cases effect with
  | revised _ _ reset => exact ⟨reset, rfl⟩
  | refused | planned | noted | handedOver => exact absurd rfl changed
  | stopped | interrupted | gaveUp => exact absurd (Goal.settle_objective ..) changed
  | settled opened report settlement seq =>
    exact absurd (Goal.settledBy_eq report.status settlement seq).2.2.2 changed
  | answered waits => exact absurd (Goal.resumeOnReply_eq waits).2.2.2 changed
  | restored => exact absurd (Goal.restored_eq before).2.2.2.1 changed

/-- Only a driven goal is handed over. -/
theorem driven {left right : Option Goal} (effect : GoalEffect left event right) (handed : event = .handedOver) :
    ∃ goal, left = some goal ∧ goal.status = .active := by
  cases effect with
  | handedOver driving => exact ⟨_, rfl, driving⟩
  | _ => cases handed

theorem started_closed (effect : GoalEffect none event (some after)) : after.dispatchOpen = false := by
  cases effect
  rfl

theorem started_authorized (effect : GoalEffect none event (some after)) : event.authorizes = true := by
  cases effect
  rfl

theorem opened_of_report {left right : Option Goal} (effect : GoalEffect left event right)
    (report : event.isReport = true) : ∃ goal, left = some goal ∧ goal.dispatchOpen = true := by
  cases effect with
  | settled opened | planned opened => exact ⟨_, rfl, opened⟩
  | _ => cases report

/-- Only a hand-over opens the dispatch. -/
theorem stays_closed (effect : GoalEffect (some before) event (some after)) (closed : before.dispatchOpen = false)
    (quiet : event ≠ .handedOver) : after.dispatchOpen = false := by
  cases effect with
  | refused | planned | noted => exact closed
  | revised => rfl
  | handedOver => exact absurd rfl quiet
  | settled opened => rw [closed] at opened; cases opened
  | answered waits => exact (Goal.resumeOnReply_eq waits).2.1
  | restored => exact (Goal.restored_eq before).2.1
  | stopped _ outcome =>
    by_cases cancelled : before.status = .cancelled
    · rwa [Goal.settle_cancelled cancelled]
    · exact Goal.settle_dispatchOpen cancelled _ _
  | interrupted active outcome | gaveUp active outcome =>
    exact Goal.settle_dispatchOpen (by rw [active]; decide) _ _

/-- A settlement, a write and a stop all close it. -/
theorem closes (effect : GoalEffect (some before) event (some after))
    (sound : before.status = .cancelled → before.dispatchOpen = false)
    (ending : event = .settled ∨ event.takesOver = true) : after.dispatchOpen = false := by
  cases effect with
  | revised => rfl
  | stopped _ outcome =>
    by_cases cancelled : before.status = .cancelled
    · rw [Goal.settle_cancelled cancelled]
      exact sound cancelled
    · exact Goal.settle_dispatchOpen cancelled _ _
  | settled opened report settlement seq =>
    rw [(Goal.settledBy_eq report.status settlement seq).2.1]
    by_cases cancelled : before.status = .cancelled
    · rw [sound cancelled] at opened
      cases opened
    · exact Goal.settle_dispatchOpen cancelled _ _
  | _ => simp [GoalEvent.takesOver] at ending

end GoalEffect

/-- What every run keeps of the goal: a cancelled one is closed, and the counter fits its 32 bits. -/
def Sound (desk : GoalDesk) : Prop :=
  ∀ goal, desk.goal = some goal →
    (goal.status = .cancelled → goal.dispatchOpen = false) ∧ goal.turns ≤ 2 ^ 32 - 1

theorem GoalEffect.sound (effect : GoalEffect desk.goal event (some after)) (sound : Sound desk) :
    (after.status = .cancelled → after.dispatchOpen = false) ∧ after.turns ≤ 2 ^ 32 - 1 := by
  cases held : desk.goal with
  | none =>
    rw [held] at effect
    cases effect
    exact ⟨fun _ => rfl, Nat.zero_le _⟩
  | some before =>
    rw [held] at effect
    obtain ⟨closed, small⟩ := sound before held
    constructor
    · intro cancelled
      by_cases already : before.status = .cancelled
      · by_cases quiet : event = .handedOver
        · subst quiet
          cases effect with
          | handedOver driving => rw [already] at driving; cases driving
        · exact effect.stays_closed (closed already) quiet
      · -- the move that cancels it is a stop, and a stop closes the dispatch
        have stopped : event = .stopped := by
          cases effect with
          | stopped => rfl
          | refused | planned | noted => exact absurd cancelled already
          | revised => cases cancelled
          | answered waits => rw [(Goal.resumeOnReply_eq waits).1] at cancelled; cases cancelled
          | interrupted active | gaveUp active => rw [Goal.settle_status already] at cancelled; cases cancelled
          | settled opened report settlement seq =>
            rw [(Goal.settledBy_eq report.status settlement seq).1, Goal.settle_status already] at cancelled
            cases report <;> cases cancelled
          | handedOver driving =>
            dsimp only [Goal.handOver] at cancelled
            split at cancelled
            · cases cancelled
            · exact absurd cancelled already
          | restored => exact absurd ((Goal.restored_eq before).2.2.2.2.1 cancelled) already
        exact effect.closes closed (.inr (by rw [stopped]; rfl))
    · by_cases fewer : after.turns ≤ before.turns
      · exact fewer.trans small
      · cases effect with
        | handedOver => exact min_le_right _ _
        | refused | planned | noted => exact absurd le_rfl fewer
        | stopped | interrupted | gaveUp => exact absurd (Goal.settle_turns ..).le fewer
        | settled opened report settlement seq =>
          exact absurd (Goal.settledBy_eq report.status settlement seq).2.2.1.le fewer
        | answered waits => exact absurd (Goal.resumeOnReply_eq waits).2.2.1.le fewer
        | restored => exact absurd (Goal.restored_eq before).2.2.1.le fewer
        | revised => exact absurd (by dsimp only [Goal.revise]; split <;> simp) fewer

theorem Sound.run (sound : Sound desk) (m : GoalMove) : Sound (m.run desk) := by
  intro goal held
  have effect := m.run_effect desk
  rw [held] at effect
  exact effect.sound sound

theorem sound_of_reaches {may : GoalDesk → GoalMove → Prop} (reached : Reaches GoalMove.run may {} desk) :
    Sound desk :=
  reached.invariant (fun _ held => by cases held) (fun _ m sound _ => sound.run m)

/-- Nothing is handed over: the goal, if there is one, is not driven. -/
def Idle (desk : GoalDesk) : Prop := ∀ goal, desk.goal = some goal → goal.status ≠ .active

/-- No turn holds the goal. -/
def Closed (desk : GoalDesk) : Prop := ∀ goal, desk.goal = some goal → goal.dispatchOpen = false

namespace GoalMove

def handsOver (desk : GoalDesk) (m : GoalMove) : Bool := m.event desk = .handedOver

def settles (desk : GoalDesk) (m : GoalMove) : Bool := m.event desk = .settled

def reports (desk : GoalDesk) (m : GoalMove) : Bool := (m.event desk).isReport

theorem handsOver_idle (idle : Idle desk) (m : GoalMove) : m.handsOver desk = false := by
  unfold handsOver
  rw [decide_eq_false_iff_not]
  intro handed
  obtain ⟨goal, held, driving⟩ := (m.run_effect desk).driven handed
  exact idle goal held driving

theorem idle_run (idle : Idle desk) (m : GoalMove) (unauthorized : (m.event desk).authorizes = false) :
    Idle (m.run desk) := by
  intro goal held driving
  have effect := m.run_effect desk
  rw [held] at effect
  cases found : desk.goal with
  | none =>
    rw [found] at effect
    rw [effect.started_authorized] at unauthorized
    cases unauthorized
  | some before =>
    rw [found] at effect
    rw [effect.driving_regained (idle before found) driving] at unauthorized
    cases unauthorized

theorem closed_run (closed : Closed desk) (m : GoalMove) (quiet : m.event desk ≠ .handedOver) :
    Closed (m.run desk) := by
  intro goal held
  have effect := m.run_effect desk
  rw [held] at effect
  cases found : desk.goal with
  | none =>
    rw [found] at effect
    exact effect.started_closed
  | some before =>
    rw [found] at effect
    exact effect.stays_closed (closed before found) quiet

theorem reports_closed (closed : Closed desk) (m : GoalMove) : m.reports desk = false := by
  unfold reports
  by_contra reported
  rw [Bool.not_eq_false] at reported
  obtain ⟨goal, held, opened⟩ := (m.run_effect desk).opened_of_report reported
  rw [closed goal held] at opened
  cases opened

theorem closed_of_ending (sound : Sound desk) (m : GoalMove)
    (ending : m.event desk = .settled ∨ (m.event desk).takesOver = true) : Closed (m.run desk) := by
  intro goal held
  have effect := m.run_effect desk
  rw [held] at effect
  cases found : desk.goal with
  | none =>
    rw [found] at effect
    exact effect.started_closed
  | some before =>
    rw [found] at effect
    exact effect.closes (sound before found).1 ending

end GoalMove

/-- What a goal's life keeps to in every run, reopened budget or not. -/
structure AuthorityHolds (desk : GoalDesk) : Prop where
  turns_fall : ∀ (m : GoalMove) before after, desk.goal = some before → (m.run desk).goal = some after →
    after.turns < before.turns → ∃ reset, m.event desk = .written reset ∧ (reset = true ∨ before.status = .outOfTurns)
  idle_until_authorized : (∀ goal, desk.goal = some goal → goal.status ≠ .active) → ∀ moves,
    MayRun GoalMove.run (fun desk m => (m.event desk).authorizes = false) desk moves →
      countAlong GoalMove.run GoalMove.handsOver desk moves = 0
  cancelled_for_good : ∀ (m : GoalMove) before after, desk.goal = some before → (m.run desk).goal = some after →
    before.status = .cancelled → after.status ≠ .cancelled → ∃ reset, m.event desk = .written reset
  objective_stands : ∀ (m : GoalMove) before after, desk.goal = some before → (m.run desk).goal = some after →
    after.objective ≠ before.objective → ∃ reset, m.event desk = .written reset
  one_settlement : ∀ moves, MayRun GoalMove.run (fun desk m => m.event desk ≠ .handedOver) desk moves →
    countAlong GoalMove.run GoalMove.settles desk moves ≤ 1
  none_after_takeover : ∀ (m : GoalMove) moves, (m.event desk).takesOver = true →
    MayRun GoalMove.run (fun desk m => m.event desk ≠ .handedOver) (m.run desk) moves →
      countAlong GoalMove.run GoalMove.reports (m.run desk) moves = 0

theorem Sound.authority (sound : Sound desk) : AuthorityHolds desk where
  turns_fall m before after held next fewer := by
    have effect := m.run_effect desk
    rw [held, next] at effect
    exact effect.turns_fall (sound before held).2 fewer
  idle_until_authorized idle moves run :=
    countAlong_eq_zero (fun _ m idle quiet => m.idle_run idle quiet) (fun _ m idle _ => m.handsOver_idle idle) idle run
  cancelled_for_good m before after held next cancelled live := by
    have effect := m.run_effect desk
    rw [held, next] at effect
    exact effect.cancelled_left cancelled live
  objective_stands m before after held next changed := by
    have effect := m.run_effect desk
    rw [held, next] at effect
    exact effect.objective_changed changed
  one_settlement moves run := by
    refine countAlong_le_one (fun _ m sound _ => sound.run m) (fun _ m closed quiet => m.closed_run closed quiet)
      (fun desk m closed _ => ?_) (fun desk m sound settled => ?_) sound run
    · have unreported := m.reports_closed closed
      unfold GoalMove.reports at unreported
      unfold GoalMove.settles
      rw [decide_eq_false_iff_not]
      intro settled
      rw [settled] at unreported
      cases unreported
    · exact m.closed_of_ending sound (.inl (of_decide_eq_true settled))
  none_after_takeover m moves taken run :=
    countAlong_eq_zero (fun _ m closed quiet => m.closed_run closed quiet) (fun _ m closed _ => m.reports_closed closed)
      (m.closed_of_ending sound (.inr taken)) run

/-- The budget in one state: the turns spent, and the turn a continuation would be announced as. -/
structure BudgetHolds (desk : GoalDesk) : Prop where
  within : ∀ goal, desk.goal = some goal → goal.turns ≤ maxGoalTurns
  announced : ∀ facts line text generation, (desk.driveGoal facts line).2 = some (text, generation) →
    ∃ goal, desk.goal = some goal ∧ text = continuation goal maxGoalTurns ∧ goal.turns + 1 ≤ maxGoalTurns

theorem GoalEffect.within (effect : GoalEffect desk.goal event (some after)) (within : WithinBudget desk)
    (kept : (∃ goal, desk.goal = some goal ∧ maxGoalTurns ≤ goal.turns ∧ goal.status ≠ .outOfTurns) →
      event ≠ .answered ∧ event ≠ .written false) :
    after.turns ≤ maxGoalTurns ∧ (after.status = .active → after.turns < maxGoalTurns) := by
  cases held : desk.goal with
  | none =>
    rw [held] at effect
    cases effect
    exact ⟨Nat.zero_le _, fun _ => Nat.zero_lt_succ _⟩
  | some before =>
    rw [held] at effect
    obtain ⟨spent, left⟩ := within before held
    by_cases driving : after.status = .active
    · -- a goal driven from here has a turn left: it had one before, or the write or the reply found one
      have room : after.turns < maxGoalTurns := by
        by_cases idle : before.status = .active
        · have before_room := left idle
          cases effect with
          | refused | planned | noted => exact before_room
          | revised _ objective reset => exact lt_of_le_of_lt (by dsimp only [Goal.revise]; split <;> simp) before_room
          | answered waits => rw [idle] at waits; cases waits
          | handedOver _ line =>
            dsimp only [Goal.handOver] at driving ⊢
            split at driving
            · cases driving
            · omega
          | stopped | interrupted | gaveUp | settled =>
            first
              | rw [Goal.settle_turns]; exact before_room
              | rw [(Goal.settledBy_eq _ _ _).2.2.1]; exact before_room
          | restored => rw [(Goal.restored_eq before).2.2.1]; exact before_room
        · have authorized := effect.driving_regained idle driving
          by_cases exhausted : maxGoalTurns ≤ before.turns
          · cases effect with
            | answered waits =>
              refine absurd rfl (kept ⟨before, held, exhausted, ?_⟩).1
              intro out
              rw [out] at waits
              cases waits
            | revised _ objective reset =>
              by_cases fresh : reset = true ∨ before.status = .outOfTurns
              · simp only [Goal.revise, fresh, if_true]
                exact Nat.zero_lt_succ _
              · rw [not_or, Bool.not_eq_true] at fresh
                obtain ⟨rfl, live⟩ := fresh
                exact absurd rfl (kept ⟨before, held, exhausted, live⟩).2
            | _ => cases authorized
          · rw [not_le] at exhausted
            cases effect with
            | answered waits => rw [(Goal.resumeOnReply_eq waits).2.2.1]; exact exhausted
            | revised _ objective reset =>
              exact lt_of_le_of_lt (by dsimp only [Goal.revise]; split <;> simp) exhausted
            | _ => cases authorized
      exact ⟨room.le, fun _ => room⟩
    · refine ⟨?_, fun active => absurd active driving⟩
      cases effect with
      | refused | planned | noted => exact spent
      | revised => exact absurd rfl driving
      | answered waits => exact absurd (Goal.resumeOnReply_eq waits).1 driving
      | handedOver active line =>
        have room := left active
        dsimp only [Goal.handOver, saturatingNext]
        omega
      | stopped | interrupted | gaveUp => rw [Goal.settle_turns]; exact spent
      | settled opened report settlement seq => rw [(Goal.settledBy_eq report.status settlement seq).2.2.1]; exact spent
      | restored => rw [(Goal.restored_eq before).2.2.1]; exact spent

theorem within_of_reaches (reached : Reaches GoalMove.run (fun desk m => ¬ ReopensSpentBudget desk m) {} desk) :
    WithinBudget desk := by
  refine reached.invariant (fun _ held => by cases held) (fun desk m within kept goal held => ?_)
  have effect := m.run_effect desk
  rw [held] at effect
  refine effect.within within (fun spent => ?_)
  exact ⟨fun answered => kept ⟨spent, .inl answered⟩, fun written => kept ⟨spent, .inr written⟩⟩

theorem WithinBudget.holds (within : WithinBudget desk) : BudgetHolds desk where
  within goal held := (within goal held).1
  announced facts line text generation sent := by
    unfold GoalDesk.driveGoal at sent
    cases held : desk.goal with
    | none => simp [held] at sent
    | some goal =>
      simp only [held] at sent
      by_cases driving : goal.status = .active
      · rw [GoalStatus.isDriving_iff.2 driving] at sent
        cases refusal : GoalDesk.driveRefusal goal facts with
        | some reason => simp [refusal] at sent
        | none =>
          simp only [refusal, Bool.not_true, Bool.false_eq_true, if_false, Option.some.injEq, Prod.mk.injEq] at sent
          exact ⟨goal, rfl, sent.1.symm, (within goal held).2 driving⟩
      · rw [GoalStatus.not_isDriving_iff.2 driving] at sent
        cases sent

/-- A session that may be driven: unrestricted, nobody else's, lent to no one. -/
def ordinaryThread : ThreadFacts where
  inScope := true
  hasGoalTools := true
  isUnrestricted := true
  isOrchestrator := false
  isRetainedTeamSeat := false
  hasCompetingDriver := false
  isLentToReview := false

/-- The driver's next hand-over announces a turn past the last one and charges it. -/
def Overspends (desk : GoalDesk) : Prop :=
  ∃ goal next generation, (desk.driveGoal ordinaryThread 0).2 = some (continuation goal maxGoalTurns, generation) ∧
    maxGoalTurns < goal.turns + 1 ∧ (desk.driveGoal ordinaryThread 0).1.goal = some next ∧ maxGoalTurns < next.turns

theorem overspends_of_driven {goal : Goal} (held : desk.goal = some goal) (driving : goal.status = .active)
    (closed : goal.dispatchOpen = false) (spent : maxGoalTurns ≤ goal.turns) : Overspends desk := by
  have accepted : GoalDesk.driveRefusal goal ordinaryThread = none := by
    simp [GoalDesk.driveRefusal, Goal.dispatchNeverStarted, closed, ordinaryThread, ThreadFacts.canEndAGoal,
      ThreadFacts.hasNonOrdinaryIdentity]
  refine ⟨goal, { goal.handOver with turnSeq := some 0 }, goal.handOver.dispatchGeneration, ?_, ?_, ?_, ?_⟩
  · simp [GoalDesk.driveGoal, held, GoalStatus.isDriving_iff.2 driving, accepted]
  · omega
  · simp [GoalDesk.driveGoal, held, GoalStatus.isDriving_iff.2 driving, accepted]
  · have many : maxGoalTurns = 20 := rfl
    dsimp only [Goal.handOver, saturatingNext]
    omega

theorem overspends_of_reopened {m : GoalMove} (reopens : ReopensSpentBudget desk m) : Overspends (m.run desk) := by
  obtain ⟨⟨before, held, spent, live⟩, event⟩ := reopens
  have effect := m.run_effect desk
  rw [held] at effect
  generalize right : (m.run desk).goal = found at effect
  rcases event with answered | written
  · rw [answered] at effect
    cases effect with
    | answered waits =>
      obtain ⟨driving, closed, turns, _⟩ := Goal.resumeOnReply_eq waits
      exact overspends_of_driven right driving closed (by rw [turns]; exact spent)
  · rw [written] at effect
    cases effect with
    | revised _ objective _ =>
      refine overspends_of_driven right rfl rfl ?_
      simpa [Goal.revise, live] using spent

/-- The authority over a goal holds in every run, its budget in every run that reopens no spent one; and one that
does hands over a turn past the last. -/
theorem authority_holds_and_budget_unless_reopened (reached : Reaches GoalMove.run anyMove {} desk) :
    AuthorityHolds desk ∧
      (Reaches GoalMove.run (fun desk m => ¬ ReopensSpentBudget desk m) {} desk → BudgetHolds desk) ∧
      ∀ m, ReopensSpentBudget desk m → Overspends (m.run desk) :=
  ⟨(sound_of_reaches reached).authority, fun kept => (within_of_reaches kept).holds,
    fun _ reopens => overspends_of_reopened reopens⟩

/-- A goal is set and driven through its whole budget. -/
def wholeBudget : List GoalMove :=
  .write { objective := some "ship the mobile door", resetTurns := false } ordinaryThread "thread-1" "goal-1" 1 ::
    (List.range maxGoalTurns).flatMap (fun n => [.drive ordinaryThread n, .driveLanded (n + 1) (some "turn")])

theorem wholeBudget_spends_it :
    AuthorityHolds (wholeBudget.foldl GoalMove.run {}) ∧
      ((wholeBudget.foldl GoalMove.run {}).goal.map Goal.turns) = some maxGoalTurns :=
  ⟨(authority_holds_and_budget_unless_reopened (Reaches.foldl (MayRun.of_all (fun _ _ => trivial)))).1, by decide +kernel⟩

/-- On its last turn the agent asks the person, who answers, and the driver hands the goal over again. -/
def answeredOnTheLastTurn : List GoalMove :=
  wholeBudget ++ [.settle .needsYou { outcome := "which door?" } 1, .reply, .drive ordinaryThread 20]

theorem last_turn_question_overspends :
    ¬ ∀ desk, Reaches GoalMove.run anyMove {} desk → AuthorityHolds desk ∧ BudgetHolds desk := by
  intro claimed
  have reached : Reaches GoalMove.run anyMove {} (answeredOnTheLastTurn.foldl GoalMove.run {}) :=
    Reaches.foldl (MayRun.of_all (fun _ _ => trivial))
  have spent : (answeredOnTheLastTurn.foldl GoalMove.run {}).goal.map Goal.turns = some 21 := by decide +kernel
  obtain ⟨goal, held, turns⟩ := Option.map_eq_some_iff.1 spent
  have within := (claimed _ reached).2.within goal held
  rw [turns] at within
  exact absurd within (by decide)

end Sealwire.Goals

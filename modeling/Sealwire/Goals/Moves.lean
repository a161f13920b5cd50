import Sealwire.Goals.Actions
import Sealwire.Lib.Runs

namespace Sealwire.Goals

/-- How the agent's tools report on the goal. -/
inductive GoalReport
  | complete
  | blocked
  | needsYou
  deriving DecidableEq

def GoalReport.status : GoalReport → GoalStatus
  | complete => .completeClaimed
  | blocked => .blocked
  | needsYou => .awaitingUser

/-- Everything that changes one thread's goal, each under one hold of the relay's lock. -/
inductive GoalMove
  | write (write : GoalWrite) (facts : ThreadFacts) (threadId id : String) (nextIngress : Nat)
  | stop (card ingress : Option Nat) (facts : ThreadFacts) (nextIngress : Nat)
  | reply
  | interrupt
  | drive (facts : ThreadFacts) (line : Nat)
  | charge
  | landed (started : Option String)
  | driveLanded (generation : Nat) (started : Option String)
  | settle (report : GoalReport) (settlement : GoalSettlement) (seq : Nat)
  | plan (steps : List String)
  | moveStep (step : Int) (status : String) (note : Option String)
  | restore

/-- What a move came to at the desk it was made at. -/
inductive GoalEvent
  | written (reset : Bool)
  | stopped
  | answered
  | interrupted
  | gaveUp
  | handedOver
  | settled
  | planned
  | noted
  | restored
  | refused
  deriving DecidableEq

namespace GoalEvent

/-- The agent's own: a settlement, a plan or a step. -/
def isReport : GoalEvent → Bool
  | settled | planned => true
  | _ => false

/-- A person's, and it takes the goal away from the turn that had it. -/
def takesOver : GoalEvent → Bool
  | written _ | stopped => true
  | _ => false

/-- A person's, and it may set the goal going again. -/
def authorizes : GoalEvent → Bool
  | written _ | answered => true
  | _ => false

end GoalEvent

namespace GoalMove

def run (desk : GoalDesk) : GoalMove → GoalDesk
  | write w facts threadId id nextIngress => (desk.writeGoal w facts threadId id nextIngress).1
  | stop card ingress facts nextIngress => (desk.stopGoal card ingress facts nextIngress).1
  | reply => desk.resumeGoalOnReply
  | interrupt => desk.interruptGoalStoppedByUser
  | drive facts line => (desk.driveGoal facts line).1
  | charge => desk.chargeGoalForDrivenTurn.1
  | landed started => desk.goalDispatchLanded started
  | driveLanded generation started => (desk.driveLanded generation started).1
  | settle report settlement seq => (desk.settleGoal report.status settlement seq).1
  | plan steps => (desk.planGoal steps).1
  | moveStep step status note => (desk.moveGoalStep step status note).1
  | restore => desk.restoreGoals

def event (desk : GoalDesk) : GoalMove → GoalEvent
  | write w facts threadId id nextIngress =>
    match (desk.writeGoal w facts threadId id nextIngress).2 with
    | .ok (.revised _ _) | .ok .started => .written w.resetTurns
    | _ => .refused
  | stop card ingress facts nextIngress =>
    match (desk.stopGoal card ingress facts nextIngress).2 with
    | .ok (some _) => .stopped
    | _ => .refused
  | reply => bif desk.goal.any (fun goal => goal.status.awaitsReply) then .answered else .refused
  | interrupt => bif desk.goal.any (fun goal => goal.status.isDriving) then .interrupted else .refused
  | drive facts line =>
    bif (desk.driveGoal facts line).2.isSome then .handedOver
    else bif desk.goal.any (fun goal => goal.status.isDriving) then .gaveUp
    else .refused
  | charge => bif desk.chargeGoalForDrivenTurn.2 then .handedOver else .refused
  | landed _ | driveLanded _ _ => .noted
  | settle report settlement seq =>
    bif (desk.settleGoal report.status settlement seq).2.isOk then .settled else .refused
  | plan steps => bif (desk.planGoal steps).2.isOk then .planned else .refused
  | moveStep step status note => bif (desk.moveGoalStep step status note).2.isOk then .planned else .refused
  | restore => .restored

end GoalMove

/-- What each event does to the goal it finds. -/
inductive GoalEffect : Option Goal → GoalEvent → Option Goal → Prop
  | refused (goal : Option Goal) : GoalEffect goal .refused goal
  | started (reset : Bool) (id threadId objective : String) :
    GoalEffect none (.written reset) (some (Goal.new id threadId objective))
  | revised (before : Goal) (objective : String) (reset : Bool) :
    GoalEffect (some before) (.written reset) (some (before.revise objective reset))
  | stopped (before : Goal) (outcome : String) :
    GoalEffect (some before) .stopped (some (before.settle .cancelled outcome))
  | answered {before : Goal} (waits : before.status.awaitsReply = true) :
    GoalEffect (some before) .answered (some before.resumeOnReply)
  | interrupted {before : Goal} (driving : before.status = .active) (outcome : String) :
    GoalEffect (some before) .interrupted (some (before.settle .interrupted outcome))
  | gaveUp {before : Goal} (driving : before.status = .active) (outcome : String) :
    GoalEffect (some before) .gaveUp (some (before.settle .blocked outcome))
  | handedOver {before : Goal} (driving : before.status = .active) (line : Option Nat) :
    GoalEffect (some before) .handedOver (some { before.handOver with turnSeq := line })
  | settled {before : Goal} (opened : before.dispatchOpen = true) (report : GoalReport)
    (settlement : GoalSettlement) (seq : Nat) :
    GoalEffect (some before) .settled (some (GoalDesk.settledBy report.status settlement seq before))
  | planned {before : Goal} (opened : before.dispatchOpen = true) (steps : List GoalStep) :
    GoalEffect (some before) .planned (some { before with steps := steps })
  | noted (before : Goal) (landed : Bool) (turnId : Option String) :
    GoalEffect (some before) .noted (some { before with dispatchLanded := landed, dispatchTurnId := turnId })
  | unnoted : GoalEffect none .noted none
  | restored (goal : Option Goal) : GoalEffect goal .restored (goal.map Goal.restored)

namespace Goal

theorem plan_eq {goal planned : Goal} {titles : List String} (done : goal.plan titles = .ok planned) :
    ∃ steps, planned = { goal with steps := steps } := by
  unfold plan at done
  dsimp only at done
  split at done
  · cases done
  · split at done
    · cases done
    · split at done
      · cases done
      · cases done
        exact ⟨_, rfl⟩

theorem moveStep_eq {goal moved : Goal} {step : Int} {status : GoalStepStatus} {note : Option String}
    (done : goal.moveStep step status note = .ok moved) : ∃ steps, moved = { goal with steps := steps } := by
  unfold moveStep at done
  split at done
  · cases done
  · split at done
    · cases done
      exact ⟨_, rfl⟩
    · cases done

theorem noted_eq (goal : Goal) (generation : Nat) (started : Option String) :
    ∃ landed turnId, goal.landDispatch.noteDispatchTurn generation started =
      { goal with dispatchLanded := landed, dispatchTurnId := turnId } := by
  unfold landDispatch noteDispatchTurn
  split <;> split <;> exact ⟨_, _, rfl⟩

end Goal

namespace GoalDesk

@[simp] theorem claimGoalIngress_goal (desk : GoalDesk) (ingress : Option Nat) (nextIngress : Nat) :
    (desk.claimGoalIngress ingress nextIngress).1.goal = desk.goal := by
  unfold claimGoalIngress
  dsimp only
  split
  · split <;> rfl
  · rfl

/-- A report changes the goal only when the dispatch is open and the change itself is accepted. -/
theorem reportOnGoal_effect (desk : GoalDesk) (change : Goal → Except String Goal) :
    ((desk.reportOnGoal change).1.goal = desk.goal ∧ (desk.reportOnGoal change).2.isOk = false) ∨
      ∃ before after, desk.goal = some before ∧ before.dispatchOpen = true ∧ change before = .ok after ∧
        (desk.reportOnGoal change).1.goal = some after ∧ (desk.reportOnGoal change).2 = .ok after := by
  unfold reportOnGoal
  cases held : desk.goal with
  | none => exact .inl ⟨held, rfl⟩
  | some before =>
    cases opened : before.dispatchOpen with
    | false => exact .inl ⟨by simp [opened, held], by simp [opened]; rfl⟩
    | true =>
      cases changed : change before with
      | error refusal => exact .inl ⟨by simp [opened, held, changed], by simp [opened, changed]; rfl⟩
      | ok after => exact .inr ⟨before, after, rfl, opened, changed, by simp [opened, changed], by simp [opened, changed]⟩

theorem writeGoal_effect (desk : GoalDesk) (w : GoalWrite) (facts : ThreadFacts) (threadId id : String)
    (nextIngress : Nat) :
    GoalEffect desk.goal ((GoalMove.write w facts threadId id nextIngress).event desk)
      (desk.writeGoal w facts threadId id nextIngress).1.goal := by
  dsimp only [GoalMove.event, writeGoal]
  cases written : desk.writtenObjective w facts with
  | error refusal => exact .refused _
  | ok objective =>
    obtain ⟨claimed, first⟩ := desk.claimGoalIngress w.ingress nextIngress
    cases first with
    | false => exact .refused _
    | true =>
      cases held : desk.goal with
      | none => exact .started _ _ _ _
      | some goal => exact .revised _ _ _

theorem stopGoal_effect (desk : GoalDesk) (card ingress : Option Nat) (facts : ThreadFacts) (nextIngress : Nat) :
    GoalEffect desk.goal ((GoalMove.stop card ingress facts nextIngress).event desk)
      (desk.stopGoal card ingress facts nextIngress).1.goal := by
  dsimp only [GoalMove.event, stopGoal]
  cases scope : facts.inScope with
  | false => exact .refused _
  | true =>
    simp only [Bool.not_true, Bool.false_eq_true, if_false]
    cases onCard : desk.ensureGoalOnCard card with
    | error refusal => exact .refused _
    | ok =>
      have kept := desk.claimGoalIngress_goal ingress nextIngress
      generalize desk.claimGoalIngress ingress nextIngress = claim at kept ⊢
      obtain ⟨claimed, first⟩ := claim
      dsimp only at kept ⊢
      cases first with
      | false => exact .refused _
      | true =>
        cases held : desk.goal with
        | none =>
          rw [held] at kept
          rw [kept]
          exact .refused _
        | some goal =>
          rw [held] at kept
          simp only [updateGoal, kept, Option.map_some]
          exact .stopped _ _

theorem isOk_map {α β : Type} (f : α → β) (reply : Except String α) : (reply.map f).isOk = reply.isOk := by
  cases reply <;> rfl

theorem settleGoal_effect (desk : GoalDesk) (report : GoalReport) (settlement : GoalSettlement) (seq : Nat) :
    GoalEffect desk.goal ((GoalMove.settle report settlement seq).event desk)
      (desk.settleGoal report.status settlement seq).1.goal := by
  dsimp only [GoalMove.event]
  unfold settleGoal
  by_cases blank : trim settlement.outcome = ""
  · rw [if_pos blank]
    exact .refused _
  · rw [if_neg blank]
    dsimp only
    rw [isOk_map]
    rcases desk.reportOnGoal_effect (fun goal => .ok (settledBy report.status settlement seq goal)) with
      ⟨same, refused⟩ | ⟨before, after, held, opened, changed, next, done⟩
    · rw [same, refused]
      exact .refused _
    · cases changed
      rw [next, held, done]
      exact .settled opened report settlement seq

theorem planGoal_effect (desk : GoalDesk) (steps : List String) :
    GoalEffect desk.goal ((GoalMove.plan steps).event desk) (desk.planGoal steps).1.goal := by
  dsimp only [GoalMove.event, planGoal]
  rw [isOk_map]
  rcases desk.reportOnGoal_effect (fun goal => goal.plan steps) with
    ⟨same, refused⟩ | ⟨before, after, held, opened, changed, next, done⟩
  · rw [same, refused]
    exact .refused _
  · obtain ⟨written, rfl⟩ := Goal.plan_eq changed
    rw [next, held, done]
    exact .planned opened written

theorem moveGoalStep_effect (desk : GoalDesk) (step : Int) (status : String) (note : Option String) :
    GoalEffect desk.goal ((GoalMove.moveStep step status note).event desk)
      (desk.moveGoalStep step status note).1.goal := by
  dsimp only [GoalMove.event, moveGoalStep]
  cases GoalStepStatus.parse status with
  | none => exact .refused _
  | some status =>
    dsimp only
    rw [isOk_map]
    rcases desk.reportOnGoal_effect (fun goal => goal.moveStep step status note) with
      ⟨same, refused⟩ | ⟨before, after, held, opened, changed, next, done⟩
    · rw [same, refused]
      exact .refused _
    · obtain ⟨written, rfl⟩ := Goal.moveStep_eq changed
      rw [next, held, done]
      exact .planned opened written

theorem driveGoal_effect (desk : GoalDesk) (facts : ThreadFacts) (line : Nat) :
    GoalEffect desk.goal ((GoalMove.drive facts line).event desk) (desk.driveGoal facts line).1.goal := by
  dsimp only [GoalMove.event, driveGoal]
  cases held : desk.goal with
  | none =>
    dsimp only
    rw [held]
    exact .refused none
  | some goal =>
    by_cases driving : goal.status = .active
    · cases refusal : driveRefusal goal facts with
      | some reason =>
        simp only [driving, GoalStatus.isDriving, updateGoal, held, Bool.not_true, Bool.false_eq_true, if_false,
          Option.isSome_none, Option.any_some, cond_true, cond_false, Option.map_some, refusal]
        exact .gaveUp driving reason
      | none =>
        simp only [driving, GoalStatus.isDriving, Bool.not_true, Bool.false_eq_true, if_false, Option.isSome_some,
          cond_true, refusal]
        exact .handedOver driving (some line)
    · have idle : goal.status.isDriving = false := GoalStatus.not_isDriving_iff.2 driving
      simp only [idle, Bool.not_false, if_true, held, Option.isSome_none, cond_false, Option.any_some]
      exact .refused _

end GoalDesk

/-- Every move does to the goal what its event says. -/
theorem GoalMove.run_effect (desk : GoalDesk) (m : GoalMove) :
    GoalEffect desk.goal (m.event desk) (m.run desk).goal := by
  cases m with
  | write w facts threadId id nextIngress => exact desk.writeGoal_effect w facts threadId id nextIngress
  | stop card ingress facts nextIngress => exact desk.stopGoal_effect card ingress facts nextIngress
  | settle report settlement seq => exact desk.settleGoal_effect report settlement seq
  | plan steps => exact desk.planGoal_effect steps
  | moveStep step status note => exact desk.moveGoalStep_effect step status note
  | drive facts line => exact desk.driveGoal_effect facts line
  | reply =>
    dsimp only [event, run, GoalDesk.resumeGoalOnReply, GoalDesk.updateGoal]
    cases held : desk.goal with
    | none => exact .refused none
    | some goal =>
      cases waits : goal.status.awaitsReply with
      | true => simpa [waits] using GoalEffect.answered waits
      | false => simpa [waits, Goal.resumeOnReply] using GoalEffect.refused (some goal)
  | interrupt =>
    dsimp only [event, run, GoalDesk.interruptGoalStoppedByUser, GoalDesk.updateGoal]
    cases held : desk.goal with
    | none => simpa [held] using GoalEffect.refused none
    | some goal =>
      by_cases driving : goal.status = .active
      · simpa [driving, GoalStatus.isDriving] using GoalEffect.interrupted driving _
      · have idle : goal.status.isDriving = false := GoalStatus.not_isDriving_iff.2 driving
        simpa [idle, held] using GoalEffect.refused (some goal)
  | charge =>
    dsimp only [event, run, GoalDesk.chargeGoalForDrivenTurn, GoalDesk.updateGoal]
    cases held : desk.goal with
    | none => simpa [held] using GoalEffect.refused none
    | some goal =>
      by_cases driving : goal.status = .active
      · simpa [driving, GoalStatus.isDriving, Goal.handOver] using GoalEffect.handedOver driving none
      · have idle : goal.status.isDriving = false := GoalStatus.not_isDriving_iff.2 driving
        simpa [idle, held] using GoalEffect.refused (some goal)
  | landed started =>
    dsimp only [event, run, GoalDesk.goalDispatchLanded, GoalDesk.updateGoal]
    cases held : desk.goal with
    | none => exact .unnoted
    | some goal =>
      obtain ⟨landed, turnId, same⟩ := goal.noted_eq goal.landDispatch.dispatchGeneration started
      simp only [Option.map_some, Option.getD_some]
      rw [same]
      exact .noted goal landed turnId
  | driveLanded generation started =>
    dsimp only [event, run, GoalDesk.driveLanded, GoalDesk.updateGoal]
    cases held : desk.goal with
    | none => exact .unnoted
    | some goal =>
      obtain ⟨landed, turnId, same⟩ := goal.noted_eq generation started
      simp only [Option.map_some]
      rw [same]
      exact .noted goal landed turnId
  | restore => exact .restored desk.goal

end Sealwire.Goals

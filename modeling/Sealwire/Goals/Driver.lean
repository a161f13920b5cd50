import Sealwire.Goals.Budget

namespace Sealwire.Goals

/-- A hand-over whose send is still out: its number and the generation it was charged under. -/
structure Charge where
  ticket : Nat
  generation : Nat
  deriving DecidableEq

/-- Who holds the session slot. The driver and the wake keep it from before their charge until their send is over;
the person's stop of a running turn keeps it throughout. -/
inductive Slot
  | free
  | driver (charge : Option Charge)
  | wake (charge : Option Charge)
  | person
  deriving DecidableEq

/-- A send that came back: the hand-over it was for, the turn it answered with, whether a person acted on the goal
since the charge, and whether the thread was asked to stop. -/
structure Landing where
  ticket : Nat
  byDriver : Bool
  started : Option String
  overtaken : Bool
  stopAsked : Bool

structure DriverWorld where
  desk : GoalDesk := {}
  slot : Slot := .free
  handOvers : Nat := 0
  /-- A person stopped, interrupted or wrote the goal since the last charge. -/
  overtaken : Bool := false
  landings : List Landing := []

inductive DriverMove
  | driverTakesSlot
  | driverCharges (facts : ThreadFacts) (line : Nat)
  | driverSendReturns (started : Option String)
  | wakeTakesSlot
  | wakeCharges
  | wakeSendReturns (started : Option String)
  | stopTakesSlot
  /-- The driver passes the thread over, a send fails, or the stop is over. -/
  | slotReleased
  /-- A locked section of anybody else. -/
  | goal (m : GoalMove)

/-- A person's event that the turn being started does not know about. -/
def GoalEvent.overtakes : GoalEvent → Bool
  | written _ | stopped | interrupted => true
  | _ => false

namespace DriverMove

def run (w : DriverWorld) : DriverMove → DriverWorld
  | driverTakesSlot => if w.slot = .free then { w with slot := .driver none } else w
  | wakeTakesSlot => if w.slot = .free then { w with slot := .wake none } else w
  | stopTakesSlot => if w.slot = .free then { w with slot := .person } else w
  | slotReleased => { w with slot := .free }
  | driverCharges facts line =>
    match w.slot with
    | .driver none =>
      match w.desk.driveGoal facts line with
      | (desk, none) => { w with desk := desk, slot := .free }
      | (desk, some (_, generation)) =>
        { w with
          desk := desk
          slot := .driver (some ⟨w.handOvers + 1, generation⟩)
          handOvers := w.handOvers + 1
          overtaken := false }
    | _ => w
  | wakeCharges =>
    match w.slot with
    | .wake none =>
      match w.desk.chargeGoalForDrivenTurn with
      | (desk, false) => { w with desk := desk }
      | (desk, true) =>
        { w with
          desk := desk
          slot := .wake (some ⟨w.handOvers + 1, (desk.goal.map Goal.dispatchGeneration).getD 0⟩)
          handOvers := w.handOvers + 1
          overtaken := false }
    | _ => w
  | driverSendReturns started =>
    match w.slot with
    | .driver (some charge) =>
      let (desk, superseded) := w.desk.driveLanded charge.generation started
      { w with
        desk := desk
        slot := .free
        landings := ⟨charge.ticket, true, started, w.overtaken, superseded⟩ :: w.landings }
    | _ => w
  | wakeSendReturns started =>
    match w.slot with
    | .wake (some charge) =>
      { w with
        desk := w.desk.goalDispatchLanded started
        slot := .free
        landings := ⟨charge.ticket, false, started, w.overtaken, false⟩ :: w.landings }
    | _ => w
  | goal m => { w with desk := m.run w.desk, overtaken := w.overtaken || (m.event w.desk).overtakes }

/-- Interrupting is done by a stop that holds the slot. Writing and stopping the goal are let in anywhere, more than
the slot does. -/
def mayUnderSlot (w : DriverWorld) : DriverMove → Bool
  | goal .interrupt => w.slot = .person
  | goal (.write ..) | goal (.stop ..) => true
  | goal .reply | goal (.settle ..) | goal (.plan ..) | goal (.moveStep ..) => true
  | goal _ => false
  | _ => true

end DriverMove

namespace GoalEffect

variable {before after : Goal} {event : GoalEvent}

theorem stays {right : Option Goal} (effect : GoalEffect (some before) event right) : ∃ goal, right = some goal := by
  cases effect <;> exact ⟨_, rfl⟩

/-- The generation never falls, and a write moves it until the counter is exhausted. -/
theorem generation (effect : GoalEffect (some before) event (some after))
    (small : before.dispatchGeneration ≤ 2 ^ 64 - 1) :
    before.dispatchGeneration ≤ after.dispatchGeneration ∧ after.dispatchGeneration ≤ 2 ^ 64 - 1 ∧
      ∀ reset, event = .written reset →
        before.dispatchGeneration < after.dispatchGeneration ∨ after.dispatchGeneration = 2 ^ 64 - 1 := by
  have bumped : before.dispatchGeneration ≤ saturatingNext 64 before.dispatchGeneration ∧
      saturatingNext 64 before.dispatchGeneration ≤ 2 ^ 64 - 1 ∧
      (before.dispatchGeneration < saturatingNext 64 before.dispatchGeneration ∨
        saturatingNext 64 before.dispatchGeneration = 2 ^ 64 - 1) := by
    unfold saturatingNext
    omega
  have settled (status : GoalStatus) (outcome : String) :
      (before.settle status outcome).dispatchGeneration = before.dispatchGeneration := by
    unfold Goal.settle
    split <;> rfl
  cases effect with
  | refused | planned | noted => exact ⟨le_rfl, small, fun _ other => by cases other⟩
  | revised => exact ⟨bumped.1, bumped.2.1, fun _ _ => bumped.2.2⟩
  | handedOver => exact ⟨bumped.1, bumped.2.1, fun _ other => by cases other⟩
  | stopped | interrupted | gaveUp => rw [settled]; exact ⟨le_rfl, small, fun _ other => by cases other⟩
  | settled opened report settlement seq =>
    have same := settled report.status (trim settlement.outcome)
    exact ⟨same.ge, same.le.trans small, fun _ other => by cases other⟩
  | answered waits =>
    have same : before.resumeOnReply.dispatchGeneration = saturatingNext 64 before.dispatchGeneration := by
      unfold Goal.resumeOnReply
      rw [if_pos waits]
    rw [same]
    exact ⟨bumped.1, bumped.2.1, fun _ other => by cases other⟩
  | restored =>
    have same : before.restored.dispatchGeneration = before.dispatchGeneration := by
      unfold Goal.restored
      split <;> rfl
    rw [same]
    exact ⟨le_rfl, small, fun _ other => by cases other⟩

theorem started_fresh (effect : GoalEffect none event (some after)) :
    after.dispatchGeneration = 0 ∧ after.dispatchTurnId = none := by
  cases effect
  exact ⟨rfl, rfl⟩

theorem stopped_cancels (effect : GoalEffect (some before) event (some after)) (stopped : event = .stopped) :
    after.status = .cancelled := by
  cases effect with
  | stopped _ outcome =>
    by_cases cancelled : before.status = .cancelled
    · rwa [Goal.settle_cancelled cancelled]
    · exact Goal.settle_status cancelled _ _
  | _ => cases stopped

/-- Only noting it gives a goal the id of its turn. -/
theorem turn_kept (effect : GoalEffect (some before) event (some after)) (unnoted : event ≠ .noted) {id : String}
    (turn : after.dispatchTurnId = some id) : before.dispatchTurnId = some id := by
  have settled {status : GoalStatus} {outcome : String}
      (turn : (before.settle status outcome).dispatchTurnId = some id) : before.dispatchTurnId = some id := by
    unfold Goal.settle at turn
    split at turn
    · exact turn
    · cases turn
  cases effect with
  | refused | planned => exact turn
  | noted => exact absurd rfl unnoted
  | revised | handedOver => cases turn
  | stopped | interrupted | gaveUp => exact settled turn
  | settled opened report settlement seq => exact settled turn
  | answered waits =>
    unfold Goal.resumeOnReply at turn
    rw [if_pos waits] at turn
    cases turn
  | restored =>
    unfold Goal.restored Goal.closeDispatch at turn
    cases turn

end GoalEffect

/-- The generation counter of the goal is at its last value. -/
def Exhausted (desk : GoalDesk) : Prop :=
  ∃ goal, desk.goal = some goal ∧ goal.dispatchGeneration = 2 ^ 64 - 1

/-- The goal a charge was made on is there still, and shows whether it was overtaken: it is cancelled, or its
generation has moved. -/
def Shows (desk : GoalDesk) (generation : Nat) (overtaken : Bool) : Prop :=
  ∃ goal, desk.goal = some goal ∧ generation ≤ goal.dispatchGeneration ∧
    (overtaken = true → goal.status = .cancelled ∨ generation < goal.dispatchGeneration ∨
      goal.dispatchGeneration = 2 ^ 64 - 1)

/-- The turn noted on the goal is the one that the send of the latest hand-over answered with. -/
def NotedOwn (w : DriverWorld) : Prop :=
  ∀ goal id, w.desk.goal = some goal → goal.dispatchTurnId = some id →
    ∃ landing ∈ w.landings, landing.ticket = w.handOvers ∧ landing.started = some id

structure DriverSound (w : DriverWorld) : Prop where
  small : ∀ goal, w.desk.goal = some goal → goal.dispatchGeneration ≤ 2 ^ 64 - 1
  latest : ∀ charge, w.slot = .driver (some charge) ∨ w.slot = .wake (some charge) →
    charge.ticket = w.handOvers ∧ ∀ landing ∈ w.landings, landing.ticket < charge.ticket
  past : ∀ landing ∈ w.landings, landing.ticket ≤ w.handOvers
  distinct : (w.landings.map Landing.ticket).Nodup
  noted : NotedOwn w
  shows : ∀ charge, w.slot = .driver (some charge) → Shows w.desk charge.generation w.overtaken
  stopped : ∀ landing ∈ w.landings, landing.byDriver = true → landing.overtaken = true →
    landing.stopAsked = true ∨ Exhausted w.desk

/-- A move of the goal leaves the counter where it was or further on. -/
theorem GoalMove.run_generation {desk : GoalDesk} (m : GoalMove)
    (small : ∀ goal, desk.goal = some goal → goal.dispatchGeneration ≤ 2 ^ 64 - 1) :
    (∀ goal, (m.run desk).goal = some goal → goal.dispatchGeneration ≤ 2 ^ 64 - 1) ∧
      (Exhausted desk → Exhausted (m.run desk)) := by
  have effect := m.run_effect desk
  constructor
  · intro after next
    rw [next] at effect
    cases held : desk.goal with
    | none =>
      rw [held] at effect
      rw [effect.started_fresh.1]
      exact Nat.zero_le _
    | some before =>
      rw [held] at effect
      exact (effect.generation (small before held)).2.1
  · rintro ⟨before, held, last⟩
    rw [held] at effect
    obtain ⟨after, next⟩ := effect.stays
    rw [next] at effect
    obtain ⟨grown, bounded, _⟩ := effect.generation (small before held)
    exact ⟨after, next, by omega⟩

theorem Shows.run {desk : GoalDesk} {generation : Nat} {overtaken : Bool} (shows : Shows desk generation overtaken)
    (m : GoalMove) (small : ∀ goal, desk.goal = some goal → goal.dispatchGeneration ≤ 2 ^ 64 - 1)
    (guarded : m.event desk ≠ .interrupted) :
    Shows (m.run desk) generation (overtaken || (m.event desk).overtakes) := by
  obtain ⟨before, held, charged, seen⟩ := shows
  have effect := m.run_effect desk
  rw [held] at effect
  obtain ⟨after, next⟩ := effect.stays
  rw [next] at effect
  obtain ⟨grown, bounded, moved⟩ := effect.generation (small before held)
  refine ⟨after, next, charged.trans grown, fun marked => ?_⟩
  rw [Bool.or_eq_true] at marked
  rcases marked with already | now
  · rcases seen already with cancelled | later | last
    · by_cases live : after.status = .cancelled
      · exact .inl live
      · -- only a write brings a cancelled goal back, and it moves the generation
        obtain ⟨reset, written⟩ := effect.cancelled_left cancelled live
        rcases moved reset written with up | full
        · exact .inr (.inl (lt_of_le_of_lt charged up))
        · exact .inr (.inr full)
    · exact .inr (.inl (lt_of_lt_of_le later grown))
    · exact .inr (.inr (by omega))
  · cases event : m.event desk with
    | written reset =>
      rcases moved reset event with up | full
      · exact .inr (.inl (lt_of_le_of_lt charged up))
      · exact .inr (.inr full)
    | stopped => exact .inl (effect.stopped_cancels event)
    | interrupted => exact absurd event guarded
    | _ => rw [event] at now; cases now

namespace GoalDesk

theorem driveGoal_sent {desk : GoalDesk} {facts : ThreadFacts} {line : Nat} {next : GoalDesk} {text : String}
    {generation : Nat} (sent : desk.driveGoal facts line = (next, some (text, generation))) :
    ∃ goal, next.goal = some goal ∧ goal.dispatchGeneration = generation ∧ goal.dispatchTurnId = none := by
  unfold driveGoal at sent
  cases held : desk.goal with
  | none => simp [held] at sent
  | some goal =>
    simp only [held] at sent
    split at sent
    · simp at sent
    · split at sent
      · simp at sent
      · simp only [Prod.mk.injEq, Option.some.injEq] at sent
        obtain ⟨rfl, _, rfl⟩ := sent
        exact ⟨_, rfl, rfl, rfl⟩

theorem chargeGoal_turn {desk next : GoalDesk} (charged : desk.chargeGoalForDrivenTurn = (next, true)) {goal : Goal}
    (held : next.goal = some goal) : goal.dispatchTurnId = none := by
  unfold chargeGoalForDrivenTurn at charged
  split at charged
  · simp only [updateGoal, Prod.mk.injEq, and_true] at charged
    subst charged
    simp only [Option.map_eq_some_iff] at held
    obtain ⟨before, _, rfl⟩ := held
    rfl
  · simp at charged

/-- Noting a turn leaves the goal's turn as it was or makes it the one noted. -/
theorem noted_turn {desk : GoalDesk} {generation : Nat} {started : Option String} {goal : Goal}
    (held : ((desk.updateGoal Goal.landDispatch).updateGoal
      (fun goal => goal.noteDispatchTurn generation started)).goal = some goal) :
    ∃ before, desk.goal = some before ∧ goal.dispatchGeneration = before.dispatchGeneration ∧
      goal.status = before.status ∧
      (goal.dispatchTurnId = before.dispatchTurnId ∨ goal.dispatchTurnId = started) := by
  simp only [updateGoal, Option.map_eq_some_iff] at held
  obtain ⟨landed, ⟨before, found, rfl⟩, rfl⟩ := held
  refine ⟨before, found, ?_⟩
  unfold Goal.noteDispatchTurn Goal.landDispatch
  split <;> split <;> simp

end GoalDesk

namespace DriverSound

variable {w : DriverWorld}

theorem empty : DriverSound {} where
  small _ held := by cases held
  latest _ held := by rcases held with held | held <;> cases held
  past _ member := by cases member
  distinct := List.nodup_nil
  noted _ _ held := by cases held
  shows _ held := by cases held
  stopped _ member := by cases member

/-- The slot changes hands, with no send out afterwards. -/
theorem reslot (sound : DriverSound w) {slot : Slot}
    (quiet : ∀ charge, slot ≠ .driver (some charge) ∧ slot ≠ .wake (some charge)) :
    DriverSound { w with slot := slot } where
  small := sound.small
  latest charge held := by
    rcases held with held | held
    · exact absurd held (quiet charge).1
    · exact absurd held (quiet charge).2
  past := sound.past
  distinct := sound.distinct
  noted := sound.noted
  shows charge held := absurd held (quiet charge).1
  stopped := sound.stopped

/-- A locked section on the goal that is not a landing. -/
theorem goal (sound : DriverSound w) {m : GoalMove} (unnoted : m.event w.desk ≠ .noted)
    (guarded : w.slot ≠ .person → m.event w.desk ≠ .interrupted) :
    DriverSound { w with desk := m.run w.desk, overtaken := w.overtaken || (m.event w.desk).overtakes } where
  small := (m.run_generation sound.small).1
  latest := sound.latest
  past := sound.past
  distinct := sound.distinct
  noted after id next turn := by
    have effect := m.run_effect w.desk
    dsimp only at next
    rw [next] at effect
    cases held : w.desk.goal with
    | none =>
      rw [held] at effect
      rw [effect.started_fresh.2] at turn
      cases turn
    | some before =>
      rw [held] at effect
      exact sound.noted before id held (effect.turn_kept unnoted turn)
  shows charge held := by
    refine (sound.shows charge held).run m sound.small (guarded ?_)
    dsimp only at held
    rw [held]
    simp
  stopped landing member byDriver overtaken :=
    (sound.stopped landing member byDriver overtaken).imp_right (m.run_generation sound.small).2

/-- A turn is charged: the hand-over takes the next number and nothing has overtaken it yet. -/
theorem charged (sound : DriverSound w) (m : GoalMove) (charge : Charge) {slot : Slot}
    (holds : slot = .driver (some charge) ∨ slot = .wake (some charge)) (ticket : charge.ticket = w.handOvers + 1)
    (fresh : ∀ goal, (m.run w.desk).goal = some goal → goal.dispatchTurnId = none)
    (shows : slot = .driver (some charge) → Shows (m.run w.desk) charge.generation false) :
    DriverSound
      { w with desk := m.run w.desk, slot := slot, handOvers := w.handOvers + 1, overtaken := false } where
  small := (m.run_generation sound.small).1
  latest other held := by
    have same : other = charge := by
      rcases holds with rfl | rfl <;> rcases held with held | held <;> simp_all
    subst same
    refine ⟨ticket, fun landing member => ?_⟩
    have old := sound.past landing member
    omega
  past landing member := (sound.past landing member).trans (Nat.le_succ _)
  distinct := sound.distinct
  noted goal id held turn := by
    rw [fresh goal held] at turn
    cases turn
  shows other held := by
    have same : other = charge := by
      dsimp only at held
      rcases holds with rfl | rfl <;> simp_all
    subst same
    exact shows held
  stopped landing member byDriver overtaken :=
    (sound.stopped landing member byDriver overtaken).imp_right (m.run_generation sound.small).2

/-- A send comes back and its turn is noted. -/
theorem landed (sound : DriverSound w) {m : GoalMove} {charge : Charge} {started : Option String} {byDriver asked : Bool}
    (holds : w.slot = .driver (some charge) ∨ w.slot = .wake (some charge))
    (turn : ∀ goal, (m.run w.desk).goal = some goal →
      ∃ before, w.desk.goal = some before ∧
        (goal.dispatchTurnId = before.dispatchTurnId ∨ goal.dispatchTurnId = started))
    (seen : byDriver = true → w.overtaken = true → asked = true ∨ Exhausted (m.run w.desk)) :
    DriverSound
      { w with
        desk := m.run w.desk
        slot := .free
        landings := ⟨charge.ticket, byDriver, started, w.overtaken, asked⟩ :: w.landings } where
  small := (m.run_generation sound.small).1
  latest other held := by rcases held with held | held <;> cases held
  past landing member := by
    rcases List.mem_cons.1 member with rfl | old
    · exact (sound.latest charge holds).1.le
    · exact sound.past landing old
  distinct := by
    simp only [List.map_cons, List.nodup_cons]
    refine ⟨fun member => ?_, sound.distinct⟩
    obtain ⟨landing, old, same⟩ := List.mem_map.1 member
    have earlier := (sound.latest charge holds).2 landing old
    omega
  noted goal id held turned := by
    obtain ⟨before, found, kept | new⟩ := turn goal held
    · rw [kept] at turned
      obtain ⟨landing, old, number, answered⟩ := sound.noted before id found turned
      exact ⟨landing, List.mem_cons_of_mem _ old, number, answered⟩
    · rw [new] at turned
      exact ⟨_, List.mem_cons_self .., (sound.latest charge holds).1, turned⟩
  shows other held := by cases held
  stopped landing member driven overtaken := by
    rcases List.mem_cons.1 member with rfl | old
    · exact seen driven overtaken
    · exact (sound.stopped landing old driven overtaken).imp_right (m.run_generation sound.small).2

/-- The driver gives up on the goal or finds nothing to drive, and lets go of the slot. -/
theorem notDriven (sound : DriverSound w) {facts : ThreadFacts} {line : Nat} {desk : GoalDesk}
    (slot : w.slot = .driver none) (refused : w.desk.driveGoal facts line = (desk, none)) :
    DriverSound { w with desk := desk, slot := .free } := by
  have event : (GoalMove.drive facts line).event w.desk = .gaveUp ∨
      (GoalMove.drive facts line).event w.desk = .refused := by
    simp only [GoalMove.event, refused, Option.isSome_none, cond_false]
    cases w.desk.goal.any (fun goal => goal.status.isDriving)
    · exact .inr rfl
    · exact .inl rfl
  have quiet : ((GoalMove.drive facts line).event w.desk).overtakes = false := by
    rcases event with event | event <;> rw [event] <;> rfl
  have next := sound.goal (m := GoalMove.drive facts line)
    (by rcases event with event | event <;> rw [event] <;> decide)
    (by rcases event with event | event <;> rw [event] <;> simp)
  rw [quiet, Bool.or_false] at next
  have moved : (GoalMove.drive facts line).run w.desk = desk := by simp only [GoalMove.run, refused]
  rw [moved] at next
  exact next.reslot (fun _ => ⟨by simp, by simp⟩)

theorem driverCharges (sound : DriverSound w) (facts : ThreadFacts) (line : Nat) :
    DriverSound ((DriverMove.driverCharges facts line).run w) := by
  dsimp only [DriverMove.run]
  split
  · rename_i slot
    split
    · rename_i desk refused
      exact sound.notDriven slot refused
    · rename_i desk text generation sent
      have moved : (GoalMove.drive facts line).run w.desk = desk := by simp only [GoalMove.run, sent]
      obtain ⟨goal, held, same, unnoted⟩ := GoalDesk.driveGoal_sent sent
      have next := sound.charged (.drive facts line) ⟨w.handOvers + 1, generation⟩ (.inl rfl) rfl
        (by
          rw [moved]
          intro other found
          rw [held] at found
          cases found
          exact unnoted)
        (by
          rw [moved]
          exact fun _ => ⟨goal, held, same.ge, by simp⟩)
      rwa [moved] at next
  · exact sound

theorem wakeCharges (sound : DriverSound w) : DriverSound (DriverMove.wakeCharges.run w) := by
  dsimp only [DriverMove.run]
  split
  · split
    · rename_i desk uncharged
      have same : desk = w.desk := by
        unfold GoalDesk.chargeGoalForDrivenTurn at uncharged
        split at uncharged
        · simp at uncharged
        · simp only [Prod.mk.injEq, and_true] at uncharged
          exact uncharged.symm
      subst same
      exact sound
    · rename_i desk charged
      have moved : GoalMove.charge.run w.desk = desk := by simp only [GoalMove.run, charged]
      have next := sound.charged .charge
        ⟨w.handOvers + 1, (desk.goal.map Goal.dispatchGeneration).getD 0⟩ (.inr rfl) rfl
        (by
          rw [moved]
          exact fun goal held => GoalDesk.chargeGoal_turn charged held)
        (fun held => by cases held)
      rwa [moved] at next
  · exact sound

/-- The driver's send comes back: where the goal was overtaken the check sees it. -/
theorem driverSendReturns (sound : DriverSound w) (started : Option String) :
    DriverSound ((DriverMove.driverSendReturns started).run w) := by
  dsimp only [DriverMove.run]
  split
  · rename_i charge slot
    refine sound.landed (m := GoalMove.driveLanded charge.generation started) (.inl slot)
      (fun goal held => ?_) (fun _ overtaken => ?_)
    · obtain ⟨before, found, _, _, turn⟩ := GoalDesk.noted_turn held
      exact ⟨before, found, turn⟩
    · obtain ⟨before, held, charged, seen⟩ := sound.shows charge slot
      obtain ⟨after, next⟩ : ∃ after, ((w.desk.updateGoal Goal.landDispatch).updateGoal
          (fun goal => goal.noteDispatchTurn charge.generation started)).goal = some after := by
        simp [GoalDesk.updateGoal, held]
      obtain ⟨same, found, generation, status, _⟩ := GoalDesk.noted_turn next
      rw [held] at found
      cases found
      rcases seen overtaken with cancelled | later | last
      · left
        simp [GoalDesk.driveLanded, next, status, cancelled]
      · left
        have moved : after.dispatchGeneration ≠ charge.generation := by omega
        simp [GoalDesk.driveLanded, next, moved]
      · exact .inr ⟨after, next, by omega⟩
  · exact sound

theorem wakeSendReturns (sound : DriverSound w) (started : Option String) :
    DriverSound ((DriverMove.wakeSendReturns started).run w) := by
  dsimp only [DriverMove.run]
  split
  · rename_i charge slot
    refine sound.landed (m := GoalMove.landed started) (.inr slot) (fun goal held => ?_) (fun driver => by cases driver)
    obtain ⟨before, found, _, _, turn⟩ := GoalDesk.noted_turn held
    exact ⟨before, found, turn⟩
  · exact sound

theorem run (sound : DriverSound w) {m : DriverMove} (allowed : m.mayUnderSlot w = true) : DriverSound (m.run w) := by
  cases m with
  | driverTakesSlot | wakeTakesSlot | stopTakesSlot =>
    dsimp only [DriverMove.run]
    split
    · exact sound.reslot (fun _ => ⟨by simp, by simp⟩)
    · exact sound
  | slotReleased => exact sound.reslot (fun _ => ⟨by simp, by simp⟩)
  | driverCharges facts line => exact sound.driverCharges facts line
  | wakeCharges => exact sound.wakeCharges
  | driverSendReturns started => exact sound.driverSendReturns started
  | wakeSendReturns started => exact sound.wakeSendReturns started
  | goal m =>
    have outside : m.event w.desk ≠ .noted ∧ (w.slot ≠ .person → m.event w.desk ≠ .interrupted) := by
      cases m with
      | interrupt =>
        have person : w.slot = .person := by simpa [DriverMove.mayUnderSlot] using allowed
        refine ⟨?_, fun other => absurd person other⟩
        dsimp only [GoalMove.event]
        cases w.desk.goal.any (fun goal => goal.status.isDriving) <;> decide
      | drive | charge | landed | driveLanded | restore => cases allowed
      | write | stop =>
        dsimp only [GoalMove.event]
        split <;> simp
      | reply | settle | plan | moveStep =>
        dsimp only [GoalMove.event]
        unfold cond
        split <;> simp
    exact sound.goal outside.1 outside.2

end DriverSound

end Sealwire.Goals

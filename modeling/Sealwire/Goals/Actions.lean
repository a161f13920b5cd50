import Sealwire.Goals.Goal

namespace Sealwire.Goals

/-- What the relay keeps about one thread's goal: the goal and the last position of a frame that wrote it. -/
structure GoalDesk where
  goal : Option Goal := none
  goalIngress : Option Nat := none
  deriving DecidableEq

/-- What a locked section reads about the thread elsewhere in the relay. -/
structure ThreadFacts where
  inScope : Bool
  hasGoalTools : Bool
  isUnrestricted : Bool
  isOrchestrator : Bool
  isRetainedTeamSeat : Bool
  hasCompetingDriver : Bool
  isLentToReview : Bool

namespace ThreadFacts

def canEndAGoal (facts : ThreadFacts) : Bool := facts.hasGoalTools && facts.isUnrestricted

def hasNonOrdinaryIdentity (facts : ThreadFacts) : Bool := facts.isOrchestrator || facts.isRetainedTeamSeat

end ThreadFacts

/-- A person's write: no objective keeps the words already held, and a card is the settlement it was drawn on. -/
structure GoalWrite where
  objective : Option String
  resetTurns : Bool
  ingress : Option Nat := none
  card : Option Nat := none

/-- What a write did: lost to a later frame, or written over a turn that may still be running. -/
inductive Written
  | overtaken
  | revised (supersededTurn : Option String) (dispatchInFlight : Bool)
  | started
  deriving DecidableEq

namespace GoalDesk

def updateGoal (desk : GoalDesk) (update : Goal → Goal) : GoalDesk :=
  { desk with goal := desk.goal.map update }

def claimGoalIngress (desk : GoalDesk) (ingress : Option Nat) (nextIngress : Nat) : GoalDesk × Bool :=
  let position := ingress.getD nextIngress
  match desk.goalIngress with
  | some applied =>
    if position ≤ applied then (desk, false) else ({ desk with goalIngress := some position }, true)
  | none => ({ desk with goalIngress := some position }, true)

def ensureGoalOnCard (desk : GoalDesk) (card : Option Nat) : Except String Unit :=
  match card with
  | none => .ok ()
  | some seq =>
    if desk.goal.any (fun goal => goal.settlementSeq = some seq) then .ok ()
    else .error "this card is out of date — the goal has moved on since; act on it from the Agents panel"

/-- The checks of a write in the source's order, ending with the words that will be written. -/
def writtenObjective (desk : GoalDesk) (write : GoalWrite) (facts : ThreadFacts) : Except String String := do
  if !facts.inScope then throw "there is no such session"
  if !facts.hasGoalTools then
    throw "This provider does not expose the session tools required for Sealwire goals"
  if !facts.canEndAGoal then
    throw ("a goal runs this session on its own, so it needs a session that can stop itself — switch it to Full " ++
      "access (YOLO) and set it again")
  if facts.hasNonOrdinaryIdentity then
    throw (if facts.isRetainedTeamSeat then
        "this session belongs to a Task — give the goal to one of your own sessions"
      else "this session is the Orchestrator — give the goal to one of your own sessions")
  if facts.hasCompetingDriver || facts.isLentToReview then
    throw "this session is already being driven by something else — give the goal to one of your own sessions"
  desk.ensureGoalOnCard write.card
  let objective ←
    match write.objective, desk.goal with
    | some objective, _ => .ok objective
    | none, some goal => .ok goal.objective
    | none, none => .error "this session has no goal"
  let resumingSame := desk.goal.any (fun goal => goal.objective = objective)
  if !resumingSame && maxGoalObjectiveChars < objective.length then
    throw ("this goal is " ++ toString objective.length ++ " characters and " ++ toString maxGoalObjectiveChars ++
      " is the most it can be — trim " ++ toString (objective.length - maxGoalObjectiveChars) ++ " and send it again")
  return objective

def writeGoal (desk : GoalDesk) (write : GoalWrite) (facts : ThreadFacts) (threadId id : String)
    (nextIngress : Nat) : GoalDesk × Except String Written :=
  match desk.writtenObjective write facts with
  | .error refusal => (desk, .error refusal)
  | .ok objective =>
    match desk.claimGoalIngress write.ingress nextIngress with
    | (_, false) => (desk, .ok .overtaken)
    | (claimed, true) =>
      match desk.goal with
      | some goal =>
        ({ claimed with goal := some (goal.revise objective write.resetTurns) },
          .ok (.revised goal.dispatchTurnId (goal.dispatchOpen && goal.dispatchTurnId.isNone)))
      | none => ({ claimed with goal := some (Goal.new id threadId objective) }, .ok .started)

/-- Answers whether a turn was handed over and which turn it became; nothing when a later frame was first. -/
def stopGoal (desk : GoalDesk) (card ingress : Option Nat) (facts : ThreadFacts) (nextIngress : Nat) :
    GoalDesk × Except String (Option (Bool × Option String)) :=
  if !facts.inScope then (desk, .error "there is no such session")
  else
    match desk.ensureGoalOnCard card with
    | .error refusal => (desk, .error refusal)
    | .ok () =>
      match desk.claimGoalIngress ingress nextIngress with
      | (_, false) => (desk, .ok none)
      | (claimed, true) =>
        match desk.goal with
        -- the position is kept all the same, so that an older write cannot land after this stop
        | none => (claimed, .error "this session has no goal")
        | some goal =>
          (claimed.updateGoal (fun goal => goal.settle .cancelled "stopped by the user"),
            .ok (some (goal.dispatchOpen, goal.dispatchTurnId)))

def notHandedToYou : String :=
  "you have not been given this goal to work on — wait until it is handed to you"

/-- A change that only the turn the goal was handed to may make. -/
def reportOnGoal (desk : GoalDesk) (change : Goal → Except String Goal) : GoalDesk × Except String Goal :=
  match desk.goal with
  | none => (desk, .error "this session has no goal")
  | some goal =>
    if !goal.dispatchOpen then (desk, .error notHandedToYou)
    else
      match change goal with
      | .error refusal => (desk, .error refusal)
      | .ok changed => ({ desk with goal := some changed }, .ok changed)

def planGoal (desk : GoalDesk) (steps : List String) : GoalDesk × Except String Nat :=
  let (next, reply) := desk.reportOnGoal (fun goal => goal.plan steps)
  (next, reply.map (fun planned => planned.steps.length))

def moveGoalStep (desk : GoalDesk) (step : Int) (status : String) (note : Option String) :
    GoalDesk × Except String Unit :=
  match GoalStepStatus.parse status with
  | none => (desk, .error "status must be active, done or pending")
  | some status =>
    let (next, reply) := desk.reportOnGoal (fun goal => goal.moveStep step status note)
    (next, reply.map (fun _ => ()))

/-- The settlement an agent's report writes; `seq` is the card it is drawn on. -/
def settledBy (status : GoalStatus) (settlement : GoalSettlement) (seq : Nat) (goal : Goal) : Goal :=
  { goal.settle status (trim settlement.outcome) with
    leftForYou := cleanList settlement.leftForYou maxGoalLeftForYou
    options := cleanList settlement.options maxGoalOptions
    settlementSeq := some seq }

def settleGoal (desk : GoalDesk) (status : GoalStatus) (settlement : GoalSettlement) (seq : Nat) :
    GoalDesk × Except String (String × Nat) :=
  if trim settlement.outcome = "" then (desk, .error "say why — a bare status tells the user nothing")
  else
    let (next, reply) := desk.reportOnGoal (fun goal => .ok (settledBy status settlement seq goal))
    (next, reply.map (fun goal => (goal.id, seq)))

def resumeGoalOnReply (desk : GoalDesk) : GoalDesk := desk.updateGoal Goal.resumeOnReply

def interruptGoalStoppedByUser (desk : GoalDesk) : GoalDesk :=
  if desk.goal.any (fun goal => goal.status.isDriving) then
    desk.updateGoal (fun goal =>
      goal.settle .interrupted "you stopped it — press keep going when you want it to carry on")
  else desk

/-- Charge a turn the relay started on its own; answers whether anything was charged. -/
def chargeGoalForDrivenTurn (desk : GoalDesk) : GoalDesk × Bool :=
  if desk.goal.any (fun goal => goal.status.isDriving) then (desk.updateGoal Goal.handOver, true)
  else (desk, false)

/-- A charged turn reached the provider: noted under the generation that is current now. -/
def goalDispatchLanded (desk : GoalDesk) (started : Option String) : GoalDesk :=
  let landed := desk.updateGoal Goal.landDispatch
  let generation := (landed.goal.map Goal.dispatchGeneration).getD 0
  landed.updateGoal (fun goal => goal.noteDispatchTurn generation started)

/-- Why the driver gives up on a goal rather than hand it over. -/
def driveRefusal (goal : Goal) (facts : ThreadFacts) : Option String :=
  if goal.dispatchNeverStarted then
    some "the relay could not hand this session the goal — see the runtime log for why, then set it again"
  else if !facts.canEndAGoal then
    some ("this session's permissions were narrowed while the goal was running, so it can no longer report back — " ++
      "restore them and set the goal again")
  else if facts.hasNonOrdinaryIdentity then
    some (if facts.isRetainedTeamSeat then
        "this session belongs to a Task now, so the goal cannot keep driving it — " ++
          "give the goal to one of your own sessions"
      else
        "this session became the Orchestrator while the goal was running — " ++
          "give the goal to one of your own sessions")
  else if facts.hasCompetingDriver then
    some ("something else took over driving this session while the goal was running — " ++
      "set the goal again once it is free")
  else none

/-- The driver's charge: the words to send and the generation they are sent under, when a turn is handed over;
`line` is the turn line the prompt is drawn as. -/
def driveGoal (desk : GoalDesk) (facts : ThreadFacts) (line : Nat) : GoalDesk × Option (String × Nat) :=
  match desk.goal with
  | none => (desk, none)
  | some goal =>
    if !goal.status.isDriving then (desk, none)
    else
      match driveRefusal goal facts with
      | some reason => (desk.updateGoal (fun goal => goal.settle .blocked reason), none)
      | none =>
        ({ desk with goal := some { goal.handOver with turnSeq := some line } },
          some (continuation goal maxGoalTurns, goal.handOver.dispatchGeneration))

/-- The driver's send came back: the turn is noted, and the answer says whether the goal was overtaken meanwhile. -/
def driveLanded (desk : GoalDesk) (generation : Nat) (started : Option String) : GoalDesk × Bool :=
  let noted := (desk.updateGoal Goal.landDispatch).updateGoal (fun goal => goal.noteDispatchTurn generation started)
  (noted,
    match noted.goal with
    | some goal => goal.status = .cancelled || goal.dispatchGeneration ≠ generation
    | none => true)

def restoreGoals (desk : GoalDesk) : GoalDesk := { goal := desk.goal.map Goal.restored }

end GoalDesk

end Sealwire.Goals

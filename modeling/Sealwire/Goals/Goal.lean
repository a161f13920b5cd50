import Mathlib.Algebra.Group.Nat.Defs
import Sealwire.Lib.Text

namespace Sealwire.Goals

/-- `saturating_add(1)` on an unsigned integer of so many bits. -/
def saturatingNext (bits n : Nat) : Nat := min (n + 1) (2 ^ bits - 1)

/-- Where a goal has got to. -/
inductive GoalStatus
  | active
  | awaitingUser
  | completeClaimed
  | blocked
  | outOfTurns
  | interrupted
  | cancelled
  deriving DecidableEq

namespace GoalStatus

/-- Whether the relay should keep driving this thread. -/
def isDriving : GoalStatus → Bool
  | active => true
  | _ => false

def asStr : GoalStatus → String
  | active => "active"
  | awaitingUser => "awaiting_user"
  | completeClaimed => "complete_claimed"
  | blocked => "blocked"
  | outOfTurns => "out_of_turns"
  | interrupted => "interrupted"
  | cancelled => "cancelled"

/-- The goal waits for the person's answer, so that a reply is one. -/
def awaitsReply : GoalStatus → Bool
  | awaitingUser | blocked => true
  | _ => false

@[simp] theorem isDriving_iff {status : GoalStatus} : status.isDriving = true ↔ status = active := by
  cases status <;> simp [isDriving]

@[simp] theorem not_isDriving_iff {status : GoalStatus} : status.isDriving = false ↔ status ≠ active := by
  cases status <;> simp [isDriving]

end GoalStatus

/-- How many continuation turns one goal may drive. -/
def maxGoalTurns : Nat := 20
def maxGoalObjectiveChars : Nat := 8000
def maxGoalSteps : Nat := 12
def maxGoalStepTitleChars : Nat := 120
def maxGoalStepNoteChars : Nat := 200
def maxGoalLeftForYou : Nat := 6
def maxGoalOptions : Nat := 4
def maxGoalListItemChars : Nat := 300
def usizeMax : Nat := 2 ^ 64 - 1

inductive GoalStepStatus
  | pending
  | active
  | done
  deriving DecidableEq

namespace GoalStepStatus

def asStr : GoalStepStatus → String
  | pending => "pending"
  | active => "active"
  | done => "done"

def parse (value : String) : Option GoalStepStatus :=
  if value = "pending" then some pending
  else if value = "active" then some active
  else if value = "done" then some done
  else none

end GoalStepStatus

/-- What a settling call hands over besides its status. -/
structure GoalSettlement where
  outcome : String
  leftForYou : List String := []
  options : List String := []

/-- One line of the agent's plan. -/
structure GoalStep where
  title : String := ""
  status : GoalStepStatus := .pending
  note : Option String := none
  turn : Option Nat := none
  deriving DecidableEq

/-- `str::split_whitespace`. -/
def splitWhitespace (text : String) : List String :=
  ((text.toList.splitOnP isWhitespace).filter (fun word => !word.isEmpty)).map String.ofList

def clipChars (text : String) (limit : Nat) : String :=
  if limit < text.length then String.ofList (text.toList.take limit) ++ "…" else text

def cleanLine (text : String) (limit : Nat) : String :=
  clipChars (String.intercalate " " (splitWhitespace text)) limit

/-- Blank items dropped, each clipped, the list capped. -/
def cleanList (items : List String) (maxItems : Nat) : List String :=
  ((items.map (fun item => cleanLine item maxGoalListItemChars)).filter (fun item => item ≠ "")).take maxItems

structure Goal where
  id : String
  threadId : String
  objective : String
  status : GoalStatus
  turns : Nat := 0
  outcome : Option String := none
  dispatchOpen : Bool := false
  dispatchLanded : Bool := false
  dispatchTurnId : Option String := none
  dispatchGeneration : Nat := 0
  steps : List GoalStep := []
  leftForYou : List String := []
  options : List String := []
  settlementSeq : Option Nat := none
  turnSeq : Option Nat := none
  deriving DecidableEq

namespace Goal

def new (id threadId objective : String) : Goal :=
  { id := id, threadId := threadId, objective := objective, status := .active }

def closeDispatch (goal : Goal) : Goal :=
  { goal with dispatchOpen := false, dispatchLanded := false, dispatchTurnId := none }

def settle (goal : Goal) (status : GoalStatus) (outcome : String) : Goal :=
  if goal.status = .cancelled then goal
  else
    closeDispatch
      { goal with
        status := status
        outcome := some outcome
        leftForYou := []
        options := []
        settlementSeq := none }

/-- The steps of a new plan: a title the old plan held takes its step out of it. -/
def planned : List GoalStep → List String → List GoalStep
  | _, [] => []
  | previous, title :: rest =>
    match previous.findIdx? (fun step => step.title = title) with
    | some index => previous.getD index { title := title } :: planned (previous.eraseIdx index) rest
    | none => { title := title } :: planned previous rest

def plan (goal : Goal) (titles : List String) : Except String Goal :=
  let titles := (titles.map (fun title => cleanLine title usizeMax)).filter (fun title => title ≠ "")
  if titles = [] then .error "give at least one step"
  else if maxGoalSteps < titles.length then
    .error ("that is " ++ toString titles.length ++ " steps and " ++ toString maxGoalSteps ++
      " is the most — merge some; a step is a milestone, not a task")
  else
    match titles.find? (fun title => decide (maxGoalStepTitleChars < title.length)) with
    | some long =>
      .error ("each step is one line of at most " ++ toString maxGoalStepTitleChars ++
        " characters — shorten \"" ++ clipChars long 40 ++ "\"")
    | none => .ok { goal with steps := planned goal.steps titles }

/-- Move one step, counted from 1 as the agent was shown it. -/
def moveStep (goal : Goal) (step : Int) (status : GoalStepStatus) (note : Option String) : Except String Goal :=
  if goal.steps = [] then .error "there is no plan yet — write one with goal_plan first"
  else if 1 ≤ step ∧ step ≤ goal.steps.length then
    let moved (entry : GoalStep) : GoalStep :=
      if entry.status = status then entry else { entry with status := status, turn := some goal.turns }
    let noted (entry : GoalStep) : GoalStep :=
      match note with
      | none => entry
      | some text =>
        let line := cleanLine text maxGoalStepNoteChars
        { entry with note := if line = "" then none else some line }
    .ok { goal with steps := goal.steps.modify (step.toNat - 1) (fun entry => noted (moved entry)) }
  else .error ("step must be between 1 and " ++ toString goal.steps.length)

def resumeOnReply (goal : Goal) : Goal :=
  if goal.status.awaitsReply then
    { closeDispatch
        { goal with
          status := .active
          outcome := none
          leftForYou := []
          options := []
          settlementSeq := none } with
      dispatchGeneration := saturatingNext 64 goal.dispatchGeneration }
  else goal

def revise (goal : Goal) (objective : String) (resetTurns : Bool) : Goal :=
  { closeDispatch
      { goal with
        turns := if resetTurns ∨ goal.status = .outOfTurns then 0 else goal.turns
        steps := if objective ≠ goal.objective then [] else goal.steps
        objective := objective
        status := .active
        outcome := none
        leftForYou := []
        options := []
        settlementSeq := none } with
    dispatchGeneration := saturatingNext 64 goal.dispatchGeneration }

/-- Charge a turn and open the dispatch it pays for. -/
def handOver (goal : Goal) : Goal :=
  let turns := saturatingNext 32 goal.turns
  { goal with
    turns := turns
    turnSeq := none
    dispatchOpen := true
    dispatchLanded := false
    dispatchTurnId := none
    dispatchGeneration := saturatingNext 64 goal.dispatchGeneration
    status := if maxGoalTurns ≤ turns then .outOfTurns else goal.status }

def landDispatch (goal : Goal) : Goal :=
  if goal.dispatchOpen then { goal with dispatchLanded := true } else goal

def noteDispatchTurn (goal : Goal) (generation : Nat) (turnId : Option String) : Goal :=
  if goal.dispatchGeneration = generation ∧ goal.dispatchOpen = true then { goal with dispatchTurnId := turnId }
  else goal

/-- Charged for and never a turn. -/
def dispatchNeverStarted (goal : Goal) : Bool := goal.dispatchOpen && !goal.dispatchLanded

/-- What a restart makes of a saved goal: never running, nothing in flight. -/
def restored (goal : Goal) : Goal :=
  closeDispatch (if goal.status.isDriving then { goal with status := .interrupted } else goal)

end Goal

def planText (goal : Goal) : String :=
  if goal.steps = [] then
    "Before you start, write your plan with `goal_plan`: 3–7 milestone steps the user can follow at a glance. " ++
      "Then mark each with `goal_step` — active when you start it, done with a one-line note when it is."
  else
    let line (entry : Nat × GoalStep) : String :=
      toString (entry.1 + 1) ++ ". [" ++ entry.2.status.asStr ++ "] " ++ entry.2.title ++
        (match entry.2.note with
          | some note => " — " ++ note
          | none => "")
    "Your plan so far (yours to change with `goal_plan`):\n" ++
      String.intercalate "\n" ((goal.steps.zipIdx.map (fun entry => line (entry.2, entry.1)))) ++
      "\nKeep it current with `goal_step`: active when you start a step, done with a one-line note when it is."

/-- The turn the relay sends to keep a goal moving: the whole objective, every time. -/
def continuation (goal : Goal) (maxTurns : Nat) : String :=
  "This session is working toward a goal the user set. It is theirs, not yours to change or narrow:\n\n" ++
    goal.objective ++
    "\n\nThat is still the whole of it. Look at where things actually stand against every part of it, and carry on — " ++
    "bring in another agent if that helps.\n\n" ++ planText goal ++
    "\n\nThe user set this goal in Sealwire and wants it run through Sealwire's tools, not a goal tool of your own " ++
    "such as `create_goal`. Stop only by calling one of `goal_complete` (with what you did and how you know, and " ++
    "anything left for the user), `goal_blocked` (with what stopped you), or `goal_needs_you` (with the decision " ++
    "you need). Saying you are done in prose does not end it. Turn " ++ toString (goal.turns + 1) ++ " of " ++
    toString maxTurns ++ "."

end Sealwire.Goals

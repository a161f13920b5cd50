import Mathlib.Data.List.Sort
import Sealwire.Lib.Text

namespace Sealwire.Asks

/-- Where one ask has got to. -/
inductive AskStatus
  | working
  | done
  | failed
  | cancelled
  deriving DecidableEq, Repr

def AskStatus.isTerminal : AskStatus → Bool
  | done | failed | cancelled => true
  | working => false

@[simp] theorem AskStatus.isTerminal_done : AskStatus.done.isTerminal = true := rfl

@[simp] theorem AskStatus.isTerminal_failed : AskStatus.failed.isTerminal = true := rfl

@[simp] theorem AskStatus.isTerminal_cancelled : AskStatus.cancelled.isTerminal = true := rfl

@[simp] theorem AskStatus.isTerminal_working : AskStatus.working.isTerminal = false := rfl

/-- Who set a piece of work going. -/
inductive StartedBy
  | person
  | agent
  deriving DecidableEq, Repr

def StartedBy.isAgent : StartedBy → Bool
  | agent => true
  | person => false

inductive ModelDecision
  | pending
  | allowed
  | switched
  | declined
  deriving DecidableEq, Repr

structure ModelChoiceView where
  model : String
  displayName : String
  flagship : Bool
  isDefault : Bool
  deriving DecidableEq, Repr

/-- An agent named a flagship: what it asked for, and what a person decided. -/
structure ModelRequest where
  provider : String
  model : String
  family : String
  decision : ModelDecision
  chosenModel : Option String
  decidedAt : Option Nat
  options : List ModelChoiceView
  deriving DecidableEq, Repr

def nonEmpty (text : String) : Option String :=
  bif text.isEmpty then none else some text

/-- One session handed another a message and is waiting for the answer. -/
structure Ask where
  id : String
  askerThreadId : String
  askerProvider : Option String
  /-- Empty until a peer is started. -/
  peerThreadId : String
  peerProvider : String
  peerModel : Option String
  peerEffort : Option String
  message : String
  /-- The peer's last assistant message at the moment it was asked. -/
  baselineItemId : Option String
  startedBy : StartedBy
  /-- The turn this ask dispatched. -/
  turnId : Option String
  nudged : Bool
  answer : Option String
  cited : List String
  status : AskStatus
  error : Option String
  delivered : Bool
  cwd : String
  askedAt : Nat
  updatedAt : Nat
  finishedAt : Option Nat
  /-- Answered through `report_back` rather than taken from its last reply. -/
  answeredWithTool : Bool
  /-- When the peer was handed the task. -/
  sentAt : Option Nat
  modelRequest : Option ModelRequest
  deriving DecidableEq, Repr

namespace Ask

def new (id askerThreadId peerThreadId peerProvider : String) (peerModel peerEffort : Option String)
    (message cwd : String) (baselineItemId : Option String) (startedBy : StartedBy) (now : Nat) : Ask where
  id := id
  askerThreadId := askerThreadId
  askerProvider := none
  peerThreadId := peerThreadId
  peerProvider := peerProvider
  peerModel := peerModel
  peerEffort := peerEffort
  message := message
  baselineItemId := baselineItemId
  startedBy := startedBy
  turnId := none
  nudged := false
  answer := none
  cited := []
  status := .working
  error := none
  delivered := false
  cwd := cwd
  askedAt := now
  updatedAt := now
  finishedAt := none
  answeredWithTool := false
  sentAt := none
  modelRequest := none

def awaitingModelDecision (ask : Ask) : Bool :=
  !ask.status.isTerminal && ask.modelRequest.any (fun request => decide (request.decision = .pending))

/-- Settled and not yet handed back to the asker. -/
def owedToAsker (ask : Ask) : Bool :=
  ask.status.isTerminal && !ask.delivered

def setStatus (ask : Ask) (status : AskStatus) (now : Nat) : Ask :=
  bif ask.status.isTerminal then ask
  else { ask with
    status := status
    updatedAt := now
    finishedAt := bif status.isTerminal then some now else ask.finishedAt }

def finish (ask : Ask) (answer : String) (now : Nat) : Ask :=
  bif ask.status.isTerminal then ask
  else { ask with answer := some answer }.setStatus .done now

def fail (ask : Ask) (error : String) (now : Nat) : Ask :=
  bif ask.status.isTerminal then ask
  else { ask with error := some error }.setStatus .failed now

section Terminal

variable {ask : Ask} (terminal : ask.status.isTerminal = true) (now : Nat)
include terminal

theorem setStatus_terminal (status : AskStatus) : ask.setStatus status now = ask := by
  simp [setStatus, terminal]

theorem finish_terminal (answer : String) : ask.finish answer now = ask := by
  simp [finish, terminal]

theorem fail_terminal (error : String) : ask.fail error now = ask := by
  simp [fail, terminal]

end Terminal

section Live

variable {ask : Ask} (live : ask.status.isTerminal = false) (now : Nat)
include live

theorem finish_live (answer : String) :
    ask.finish answer now =
      { ask with answer := some answer, status := .done, updatedAt := now, finishedAt := some now } := by
  simp [finish, setStatus, live]

theorem fail_live (error : String) :
    ask.fail error now =
      { ask with error := some error, status := .failed, updatedAt := now, finishedAt := some now } := by
  simp [fail, setStatus, live]

end Live

end Ask

namespace ModelRequest

/-- Deciding is not starting: set only once the peer has been handed the task. -/
def startedModel (request : ModelRequest) (ask : Ask) : Option String :=
  bif ask.sentAt.isSome && (decide (request.decision = .allowed) || decide (request.decision = .switched)) then
    ask.peerModel
  else none

/-- One line for the woken asker: what was decided, and what actually ran. -/
def outcomeLine (request : ModelRequest) (ask : Ask) : Option String :=
  let chosen := request.chosenModel.getD "another model"
  let line :=
    match request.decision, request.startedModel ask with
    | .pending, _ => none
    | .declined, _ => some "the user declined, so nothing ran"
    | .allowed, some _ => some "the user allowed it"
    | .allowed, none => some "the user allowed it, but it never started"
    | .switched, some ran =>
      some (bif ran == chosen then "the user ran it on " ++ ran ++ " instead"
        else "the user picked " ++ chosen ++ ", which ran as " ++ ran)
    | .switched, none => some ("the user picked " ++ chosen ++ ", but it never started")
  line.map fun line => "You asked for " ++ request.model ++ "; " ++ line ++ "."

end ModelRequest

/-- A row of a transcript, as the sweep reads it. -/
inductive EntryKind
  | agentText
  | error
  | other
  deriving DecidableEq, Repr

structure EntryView where
  kind : EntryKind
  rowId : Option String
  itemId : Option String
  turnId : Option String
  text : Option String
  deriving DecidableEq, Repr

/-- What one assistant row said, and the turn it was said in. -/
structure Reply where
  itemId : String
  text : String
  turnId : Option String
  deriving DecidableEq, Repr

namespace EntryView

/-- The trimmed text of an assistant row that says anything. -/
def said (entry : EntryView) : Option String :=
  bif decide (entry.kind = .agentText) then (entry.text.map trim).filter (· ≠ "") else none

/-- The row id first, and the provider's own id where there is none. -/
def knownAs (entry : EntryView) : Option String :=
  (entry.rowId.or entry.itemId).filter (· ≠ "")

def bears (entry : EntryView) (id : String) : Bool :=
  entry.rowId == some id || entry.itemId == some id

theorem bears_of_knownAs {entry : EntryView} {id : String} (known : entry.knownAs = some id) :
    entry.bears id = true := by
  obtain ⟨chosen, _⟩ := Option.filter_eq_some_iff.mp known
  cases row : entry.rowId with
  | none =>
    rw [row, Option.none_or] at chosen
    simp [bears, row, chosen]
  | some own =>
    rw [row, Option.some_or] at chosen
    simp [bears, row, Option.some.inj chosen]

end EntryView

def latestAgentEntry (views : List EntryView) : Option (String × String) :=
  views.zipIdx.reverse.findSome? fun (entry, index) =>
    entry.said.map fun text =>
      let missing := ((entry.turnId.filter (· ≠ "")).map ("__relay_missing_item_turn__:" ++ ·)).getD
        ("__relay_missing_item_index__:" ++ toString index)
      (entry.knownAs.getD missing, text)

def latestAgentEntryWithTurn (views : List EntryView) : Option Reply :=
  (latestAgentEntry views).map fun (itemId, text) =>
    { itemId := itemId
      text := text
      -- The turn comes off the same row as the text.
      turnId := (views.reverse.find? fun entry => decide (entry.kind = .agentText) && entry.bears itemId).bind
        (·.turnId) }

/-- The last assistant row the turn wrote. -/
def agentEntryForTurn (views : List EntryView) (turnId : String) : Option Reply :=
  latestAgentEntryWithTurn (views.filter fun entry => entry.turnId == some turnId)

def failedPeerTurnReason (entries : List EntryView) (turnId : String) : Option String :=
  (entries.find? fun entry => decide (entry.kind = .error) && entry.turnId == some turnId).map fun entry =>
    (entry.text.filter (· ≠ "")).getD "the agent's turn failed"

/-- The reply that preceded the reminder, for a reminder's turn that came to nothing. -/
def nudgedBaselineAnswer (ask : Ask) (entries : List EntryView) : Option (String × String) :=
  (ask.baselineItemId.filter fun _ => ask.nudged).bind fun baseline =>
    entries.reverse.findSome? fun entry =>
      bif entry.bears baseline then entry.said.map (baseline, ·) else none

/-- Newer than the baseline, and where both name a turn, the turn this ask dispatched. -/
def replyAnswersAsk (ask : Ask) (itemId : String) (replyTurn : Option String) : Bool :=
  bif ask.baselineItemId == some itemId then false
  else
    match ask.turnId, replyTurn with
    | some want, some got => want == got
    | _, _ => true

/-- Which askers have something to hear and nothing left to wait for. -/
def askersReadyToWake (asks : List Ask) : List String :=
  let blocked := (asks.filter fun ask => !ask.status.isTerminal).map (·.askerThreadId)
  let ready := asks.foldl
    (fun ready ask =>
      bif ask.owedToAsker && !blocked.contains ask.askerThreadId && !ready.contains ask.askerThreadId then
        ready ++ [ask.askerThreadId]
      else ready)
    []
  ready.mergeSort fun a b => decide (a ≤ b)

namespace Wake

def opening : String :=
  "The agents you asked have finished. You were not waiting, so here is what they said.\n"

def closing : String :=
  "\nDecide what to do next: carry on with one of them, ask someone else, tell the user, or stop."

/-- What the message says of one ask: the question first, then what came back. -/
def part (ask : Ask) : String :=
  "\n---\nYou asked " ++ (bif ask.peerThreadId.isEmpty then "for a new agent" else ask.peerThreadId) ++ ":\n"
    ++ trim ask.message
    ++ (((ask.modelRequest.bind fun request => request.outcomeLine ask).map ("\n\n" ++ ·)).getD "")
    ++ "\n\nIt said:\n"
    ++ (match ask.answer, ask.error with
      | some answer, _ => trim answer
      | none, some error => "(nothing — it ended with: " ++ error ++ ")"
      | none, none => "(nothing)")
    ++ "\n"

end Wake

/-- The one message an asker is woken with. -/
def wakeMessage (answered : List Ask) : String :=
  answered.foldl (fun out ask => out ++ Wake.part ask) Wake.opening ++ Wake.closing

end Sealwire.Asks

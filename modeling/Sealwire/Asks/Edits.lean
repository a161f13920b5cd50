import Sealwire.Asks.Ask
import Sealwire.Lib.Table

namespace Sealwire.Asks

/-- Every edit that some holder of the relay's lock makes to one ask. -/
inductive AskEdit
  /-- A reply is taken as the answer. -/
  | finish (answer : String)
  | fail (error : String)
  /-- The peer answered through its tool. -/
  | reportBack (cited : List String) (answer : String)
  /-- A request's record is filled in, just before its task is sent. -/
  | fillIn (peerThreadId peerProvider : String) (peerModel : Option String) (message : String)
    (baselineItemId : Option String) (askerProvider : String)
  /-- A request is held until a person decides on its model. -/
  | hold (peerThreadId peerProvider message : String) (request : ModelRequest)
  | decide (decision : ModelDecision) (chosen : Option String)
  /-- The task was handed over. -/
  | sent (turnId : Option String)
  /-- The reminder was handed over. -/
  | nudged (turnId : Option String) (baselineItemId : String)
  | deliver
  deriving DecidableEq, Repr

namespace AskEdit

def apply (now : Nat) (ask : Ask) : AskEdit → Ask
  | finish answer => ask.finish answer now
  | fail error => ask.fail error now
  | reportBack cited answer => { ask with answeredWithTool := true, cited := cited }.finish answer now
  | fillIn peerThreadId peerProvider peerModel message baselineItemId askerProvider =>
    { ask with
      peerThreadId := peerThreadId
      peerProvider := peerProvider
      peerModel := peerModel
      message := message
      baselineItemId := baselineItemId
      askerProvider := ask.askerProvider.or (nonEmpty askerProvider) }
  | hold peerThreadId peerProvider message request =>
    { ask with
      peerThreadId := peerThreadId
      peerProvider := peerProvider
      message := message
      modelRequest := some request }
  | decide decision chosen =>
    let decided := { ask with
      modelRequest := ask.modelRequest.map fun request =>
        { request with decision := decision, chosenModel := chosen, decidedAt := some now } }
    bif chosen.isNone then { decided with error := some "the user declined it" }.setStatus .cancelled now
    else decided
  | sent turnId => { ask with turnId := turnId, sentAt := some now }
  | nudged turnId baselineItemId =>
    { ask with nudged := true, turnId := turnId, baselineItemId := some baselineItemId }
  | deliver => { ask with delivered := true }

end AskEdit

/-- What a settled ask says of itself: all but whether it was handed back. -/
structure Settlement where
  status : AskStatus
  answer : Option String
  error : Option String
  cited : List String
  answeredWithTool : Bool
  peerThreadId : String
  decision : Option ModelDecision
  deriving DecidableEq, Repr

def Ask.settlement (ask : Ask) : Settlement where
  status := ask.status
  answer := ask.answer
  error := ask.error
  cited := ask.cited
  answeredWithTool := ask.answeredWithTool
  peerThreadId := ask.peerThreadId
  decision := ask.modelRequest.map (·.decision)

namespace AskEdit

/-- The edits that leave a settled ask's settlement as it is, by a test of their own. -/
def guarded : AskEdit → Bool
  | finish _ | fail _ | sent _ | nudged _ _ | deliver => true
  | reportBack _ _ | fillIn _ _ _ _ _ _ | hold _ _ _ _ | decide _ _ => false

variable {ask : Ask} {edit : AskEdit} (now : Nat)

theorem settlement_of_guarded (guarded : edit.guarded = true) (terminal : ask.status.isTerminal = true) :
    (edit.apply now ask).settlement = ask.settlement := by
  cases edit with
  | finish answer => exact congrArg Ask.settlement (Ask.finish_terminal terminal now answer)
  | fail error => exact congrArg Ask.settlement (Ask.fail_terminal terminal now error)
  | sent turnId => rfl
  | nudged turnId baselineItemId => rfl
  | deliver => rfl
  | reportBack cited answer => cases guarded
  | fillIn peerThreadId peerProvider peerModel message baselineItemId askerProvider => cases guarded
  | hold peerThreadId peerProvider message request => cases guarded
  | decide decision chosen => cases guarded

@[simp] theorem id_finish (ask : Ask) (answer : String) : (ask.finish answer now).id = ask.id := by
  unfold Ask.finish Ask.setStatus
  cases ask.status.isTerminal <;> rfl

end AskEdit

/-- Bounds the records kept; an answer not yet handed back may take it past that. -/
def maxAsks : Nat := 64

abbrev AskTable := Table String Ask

namespace AskTable

def pruneAsks (asks : AskTable) : AskTable :=
  bif decide (asks.len < maxAsks) then asks
  else
    let terminal := (asks.pairs.filter fun entry => entry.2.status.isTerminal && entry.2.delivered).mergeSort
      fun a b => decide (a.2.updatedAt ≤ b.2.updatedAt)
    terminal.foldl (fun asks entry => bif decide (asks.len < maxAsks) then asks else asks.drop entry.1) asks

def insertAsk (asks : AskTable) (ask : Ask) : AskTable :=
  asks.pruneAsks.put ask.id ask

def updateAsk (asks : AskTable) (now : Nat) (id : String) (edit : AskEdit) : AskTable :=
  asks.modify id (edit.apply now)

def asksOfAsker (asks : AskTable) (askerThreadId : String) : List Ask :=
  (asks.pairs.map (·.2)).filter fun ask => ask.askerThreadId == askerThreadId

def values (asks : AskTable) : List Ask :=
  asks.pairs.map (·.2)

end AskTable

end Sealwire.Asks

import Sealwire.Asks.Sweep
import Sealwire.Lib.Runs

namespace Sealwire.Asks

/-- One section under the relay's lock, or a turn or a row of somebody's own. -/
inductive AskMove
  | delegate (k : Nat) (asker : String) (request : AskRequest) (detached : Bool)
  | decide (k : Nat) (id decision : String) (model scopeDevice : Option String) (facts : AskFacts)
  | task (k : Nat) (facts : AskFacts)
  | reportBack (k : Nat) (peer answer : String) (cited : List String)
  | stopPeer (k : Nat) (peer : String)
  | sweep (facts : AskFacts)
  /-- A turn that a person, or anything but an ask, starts. -/
  | turnStarts (turnId : String)
  | rowWritten (row : AgentRow)

namespace AskMove

def run (w : AskWorld) : AskMove → AskWorld
  | delegate k asker request detached => w.delegate k asker request detached
  | decide k id decision model scopeDevice facts => (w.decideModelRequest k id decision model scopeDevice facts).1
  | task k facts =>
    match w.tasks.get k with
    | some stage => w.runTask k facts stage
    | none => w
  | reportBack k peer answer cited => w.reportBack k peer answer cited
  | stopPeer k peer => w.stopPeer k peer
  | sweep facts => w.runSweep facts w.sweep
  | turnStarts turnId => { w with turns := turnId :: w.turns }
  | rowWritten row => { w with rows := row :: w.rows }

end AskMove

/-- A provider's row carries its turn and a name of its own, and no name stands for two turns of a thread. -/
def AgentRow.sound (rows : List AgentRow) (turns : List String) (row : AgentRow) : Bool :=
  row.view.kind != .agentText ||
    (row.view.turnId.any turns.contains && row.view.knownAs.isSome &&
      rows.all fun other =>
        other.threadId != row.threadId || other.view.kind != .agentText || other.view.turnId == row.view.turnId ||
          [row.view.rowId, row.view.itemId].all fun name => name.all fun id => !other.view.bears id)

namespace AskFacts

/-- New names are new, and what is read of a thread was written there. -/
def Possible (facts : AskFacts) (w : AskWorld) (reads : Option String) : Prop :=
  facts.freshId ∉ w.issued ∧
    (∀ peer ∈ facts.freshThread.toOption, peer ≠ "" ∧ ∀ brought ∈ w.brought, brought.peer ≠ peer) ∧
    (∀ turnId ∈ facts.dispatched.toOption.join, turnId ∉ w.turns) ∧
    ∀ peer ∈ reads, ∀ view ∈ facts.views, { threadId := peer, view := view } ∈ w.rows

instance (facts : AskFacts) (w : AskWorld) (reads : Option String) : Decidable (facts.Possible w reads) := by
  unfold Possible
  infer_instance

end AskFacts

/-- Whose transcript a call reads next. -/
def AskTask.reads : AskTask → Option String
  | reading _ peer => some peer.threadId
  | stopping peer _ => some peer
  | _ => none

def SweepStage.reads : SweepStage → Option String
  | reading round | turnFailed round _ | coldReading round _ _ | judging round _ _ _ => some round.ask.peerThreadId
  | _ => none

namespace AskMove

/-- What the rest of the program leaves open. -/
def May (w : AskWorld) : AskMove → Prop
  | delegate k _ _ _ | reportBack k _ _ _ | stopPeer k _ => w.tasks.get k = none
  | decide k _ _ _ _ facts => w.tasks.get k = none ∧ facts.Possible w none
  | task k facts => facts.Possible w ((w.tasks.get k).bind AskTask.reads)
  | sweep facts => facts.Possible w w.sweep.reads
  | turnStarts turnId => turnId ∉ w.turns
  | rowWritten row => row.sound w.rows w.turns = true

instance (w : AskWorld) : (move : AskMove) → Decidable (move.May w)
  | delegate k _ _ _ | reportBack k _ _ _ | stopPeer k _ => inferInstanceAs (Decidable (w.tasks.get k = none))
  | decide k _ _ _ _ facts => inferInstanceAs (Decidable (w.tasks.get k = none ∧ facts.Possible w none))
  | task k facts => inferInstanceAs (Decidable (facts.Possible w ((w.tasks.get k).bind AskTask.reads)))
  | sweep facts => inferInstanceAs (Decidable (facts.Possible w w.sweep.reads))
  | turnStarts turnId => inferInstanceAs (Decidable (turnId ∉ w.turns))
  | rowWritten row => inferInstanceAs (Decidable (row.sound w.rows w.turns = true))

end AskMove

end Sealwire.Asks

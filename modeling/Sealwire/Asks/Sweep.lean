import Sealwire.Asks.Requests

namespace Sealwire.Asks

/-- How long a peer may hold an ask before it is given up on. -/
def askTimeoutSecs : Nat := 4 * 60 * 60

/-- The providers whose sessions can be given the answering tool. -/
def supportsSessionMcp (provider : String) : Bool :=
  ["codex", "claude", "claude_code", "cursor", "opencode", "pi", "fake"].contains provider

namespace AskWorld

def resume (w : AskWorld) (stage : SweepStage) : AskWorld :=
  { w with sweep := stage }

def liveAsks (w : AskWorld) : List LiveAsk :=
  w.asks.values.filterMap fun ask =>
    (ask.sentAt.filter fun _ => !ask.status.isTerminal).map fun sentAt =>
      { id := ask.id, peerThreadId := ask.peerThreadId, sentAt := sentAt }

/-- The salvaged reply is taken, or the ask fails. -/
def salvage (w : AskWorld) (now : Nat) (id : String) (salvaged : Option (String × String)) (reason : String) :
    AskWorld :=
  match salvaged with
  | some (itemId, text) => w.take now id itemId text
  | none => w.update now id (.fail reason)

/-- A peer with work of its own under way, or an answer of its own still to come. -/
def stillBusy (w : AskWorld) (peer : String) (facts : AskFacts) : Bool :=
  facts.working || (w.asks.asksOfAsker peer).any fun ask => !ask.status.isTerminal || ask.owedToAsker

/-- What is to be done with an ask, once its turn and its reply have been read. -/
def afterReading (w : AskWorld) (round : SweepRound) (ask : Ask) (terminal : Option TurnOutcome)
    (reply : Option Reply) : SweepStage :=
  bif decide (terminal = some .failed) && reply.isNone then .turnFailed round ask.turnId
  else
    match bif terminal.isNone && reply.isNone then ask.turnId else none with
    | none => .judging round ask.peerProvider reply false
    | some turnId =>
      -- A cold history cannot answer for every provider.
      bif ask.peerProvider == "claude_code" then .judging round ask.peerProvider reply true
      else bif ask.peerProvider == "cursor" then .judging round ask.peerProvider reply false
      else bif w.coldChecked.get round.ask.id == some turnId then .judging round ask.peerProvider reply true
      else .coldReading round ask.peerProvider turnId

/-- The history its provider reads back, for a turn the relay knows nothing of. -/
def readCold (w : AskWorld) (round : SweepRound) (provider turnId : String) (facts : AskFacts) : AskWorld :=
  match facts.historyStatus with
  | none => w.resume (.judging round provider none false)
  | some status =>
    let reply := agentEntryForTurn facts.views turnId
    match failedPeerTurnReason facts.views turnId, reply with
    | some reason, none => w.resume (.coldFailed round facts.views reason)
    | _, _ =>
      let settledStatus := !(["active", "running", "streaming", "unknown"].contains status.toLower)
      { w with
        coldChecked :=
          bif reply.isNone && settledStatus then w.coldChecked.put round.ask.id turnId else w.coldChecked }.resume
        (.judging round provider reply reply.isNone)

def judge (round : SweepRound) (provider : String) (reply : Option Reply) (coldQuiet : Bool)
    (facts : AskFacts) : SweepStage :=
  let latest := reply.or (latestAgentEntryWithTurn facts.views)
  bif decide (askTimeoutSecs ≤ round.now - round.ask.sentAt) then .expiring round latest
  else bif coldQuiet then .looking round.now round.todo
  else
    match latest with
    | none => .looking round.now round.todo
    | some reply => .matching round provider reply

def matchReply (w : AskWorld) (round : SweepRound) (provider : String) (reply : Reply) : SweepStage :=
  match w.asks.get round.ask.id with
  | none => .looking round.now round.todo
  | some ask =>
    bif ask.status.isTerminal || !replyAnswersAsk ask reply.itemId reply.turnId then .looking round.now round.todo
    -- Ask once; a peer that ignores it twice is not going to start.
    else bif !ask.nudged && supportsSessionMcp provider then .nudging round reply
    else .finishing round reply

/-- The sweep takes its next section under the relay's lock. -/
def runSweep (w : AskWorld) (facts : AskFacts) : SweepStage → AskWorld
  | .idle =>
    let live := w.liveAsks
    { w with coldChecked := w.coldChecked.retain fun id _ => live.any fun ask => ask.id == id }.resume
      (.looking facts.now live)
  | .looking _ [] => w.resume .gathering
  | .looking now (ask :: todo) =>
    bif w.stillBusy ask.peerThreadId facts then w.resume (.looking now todo)
    else w.resume (.reading { now := now, ask := ask, todo := todo })
  | .reading round =>
    match w.asks.get round.ask.id with
    | none => w.resume (.looking round.now round.todo)
    | some ask =>
      w.resume (w.afterReading round ask (ask.turnId.bind fun _ => facts.terminal)
        (ask.turnId.bind (agentEntryForTurn facts.views)))
  | .turnFailed round _ =>
    w.resume (.turnSettling round (facts.failureReason.getD "the agent's turn failed")
      ((w.asks.get round.ask.id).bind (nudgedBaselineAnswer · facts.views)))
  | .turnSettling round reason salvaged =>
    (w.salvage facts.now round.ask.id salvaged reason).resume (.looking round.now round.todo)
  | .coldReading round provider turnId => w.readCold round provider turnId facts
  | .coldFailed round views reason =>
    (w.salvage facts.now round.ask.id ((w.asks.get round.ask.id).bind (nudgedBaselineAnswer · views)) reason).resume
      (.looking round.now round.todo)
  | .judging round provider reply coldQuiet => w.resume (judge round provider reply coldQuiet facts)
  | .expiring round latest =>
    -- Only from its own turn: a reply the person prompted meanwhile is theirs.
    (w.salvage facts.now round.ask.id
      ((latest.filter fun reply =>
        (w.asks.get round.ask.id).any fun ask => replyAnswersAsk ask reply.itemId reply.turnId).map
        fun reply => (reply.itemId, reply.text))
      "it stopped without answering").resume (.looking round.now round.todo)
  | .matching round provider reply => w.resume (w.matchReply round provider reply)
  | .nudging round reply =>
    match facts.dispatched with
    | .ok turnId => (w.handOver round.ask.id turnId).resume (.nudgeLanded round reply turnId)
    | .error _ => w.resume (.finishing round reply)
  | .nudgeLanded round reply turnId =>
    (w.update facts.now round.ask.id (.nudged turnId reply.itemId)).resume (.looking round.now round.todo)
  | .finishing round reply =>
    (w.take facts.now round.ask.id reply.itemId reply.text).resume (.looking round.now round.todo)
  | .gathering => w.resume (.calling w.asks.values (askersReadyToWake w.asks.values))
  | .calling _ [] => w.resume .idle
  | .calling found (asker :: askers) =>
    bif facts.working then w.resume (.calling found askers) else w.resume (.composing found asker askers)
  | .composing found asker askers =>
    match ((w.asks.asksOfAsker asker).filter Ask.owedToAsker).mergeSort fun a b => decide (a.askedAt ≤ b.askedAt) with
    | [] => w.resume (.calling found askers)
    | mine => w.resume (.marking found { asker := asker, mine := mine } askers)
  | .marking found wake askers =>
    bif facts.slotFree then
      -- Marked before it is sent, so that nothing is handed back twice.
      (wake.askIds.foldl (fun w id => w.update facts.now id .deliver) w).resume (.waking found wake askers)
    else w.resume (.calling found askers)
  | .waking found wake askers =>
    { w with wakes := { wake := wake, found := found } :: w.wakes }.resume (.calling found askers)

end AskWorld

end Sealwire.Asks

import Sealwire.Asks.World

namespace Sealwire.Asks

/-- The peers an asker's records name. Records with no peer yet share the empty name. -/
def distinctPeers (asks : AskTable) (asker : String) (skip : Option String) : Nat :=
  (((asks.asksOfAsker asker).filter fun ask => some ask.id != skip).map (·.peerThreadId)).dedup.length

def precheckAsk (asks : AskTable) (asker : String) (request : AskRequest) (skip : Option String)
    (facts : AskFacts) : Except AskError PrecheckedAsk :=
  let message := trim request.message
  bif message.isEmpty then
    .error (.failed "say what you want done — an agent starting from nothing cannot guess")
  else
    match facts.askerCwd with
    | none => .error .noSuchAsker
    | some cwd =>
      match request.deviceId.bind fun _ => facts.deviceRefusal with
      | some refusal => .error (.failed refusal)
      | none =>
        let peers := distinctPeers asks asker skip
        bif request.peerThreadId.isNone && decide (maxPeersPerAsker ≤ peers) then
          .error (.limitReached ("you already have " ++ toString peers ++ " agents working, which is the limit. "
            ++ "Carry on with one of those instead of bringing in another."))
        else
          match bif request.peerThreadId.isNone then facts.providerRefusal else none with
          | some refusal => .error (.failed refusal)
          | none =>
            .ok { askerThreadId := asker, message := message, askerCwd := cwd, askerProvider := facts.askerProvider }

inductive ModelSelected
  | selected (model : String)
  | needsApproval (model family : String)
  | noDefault (reason : String)

def selectDefault (facts : AskFacts) : ModelSelected :=
  match facts.defaultModel with
  | .ok model => .selected model
  | .error reason => .noDefault reason

def selectModel (requested inherited : Option String) (chooser : ModelChooser) (facts : AskFacts) : ModelSelected :=
  let inherited := inherited.bind nonEmpty
  match requested.bind nonEmpty with
  | some model =>
    bif model == "default" then selectDefault facts
    else
      match bif decide (chooser = .agent) && inherited != some model then facts.flagship else none with
      | some family => .needsApproval model family
      | none => .selected model
  | none =>
    match inherited with
    | some model => bif model == "default" then selectDefault facts else .selected model
    | none => selectDefault facts

/-- A request that ends in an error reports it on its record, where it has one. -/
def refused (existing : Option String) (error : AskError) : Option AskTask :=
  existing.map fun id => .failing id error.message

/-- What becomes of a request whose message is ready: the peer's checks and its model. -/
def choosePeer (held : HeldAsk) (chooser : ModelChooser) (facts : AskFacts) : Option AskTask :=
  let hold (provider model family : String) : AskTask :=
    .holding held provider
      { provider := provider, model := model, family := family, decision := .pending, chosenModel := none,
        decidedAt := none, options := facts.options }
  match held.request.peerThreadId with
  | some existing =>
    match facts.peerRefusal with
    | some refusal => refused held.existing refusal
    | none =>
      match held.request.model with
      -- Carrying on keeps the model the peer already runs.
      | none =>
        some (.reading held
          { threadId := existing, provider := facts.peerProvider, model := facts.peerModel.bind nonEmpty })
      | some model =>
        match selectModel (some model) facts.peerModel chooser facts with
        | .selected model =>
          some (.reading held { threadId := existing, provider := facts.peerProvider, model := some model })
        | .needsApproval model family => some (hold facts.peerProvider model family)
        | .noDefault reason => refused held.existing (.failed reason)
  | none =>
    match facts.providerRefusal with
    | some refusal => refused held.existing (.failed refusal)
    | none =>
      match selectModel held.request.model none chooser facts with
      | .selected model => some (.ensuring held facts.peerProvider model)
      | .needsApproval model family => some (hold facts.peerProvider model family)
      | .noDefault reason => refused held.existing (.failed reason)

def settledBeforeSent : AskError :=
  .failed "it was settled before its task could be sent"

namespace PrecheckedAsk

/-- The record written when a request is accepted. -/
def acceptedAsk (checked : PrecheckedAsk) (request : AskRequest) (facts : AskFacts) : Ask :=
  let existing := request.peerThreadId.filter fun _ => facts.peerKnown
  { Ask.new facts.freshId checked.askerThreadId (existing.getD "")
      (bif existing.isSome then facts.peerProvider else request.provider.getD "")
      (request.model.or (existing.bind fun _ => facts.peerModel.bind nonEmpty)) request.effort checked.message
      checked.askerCwd none request.startedBy facts.now with
    askerProvider := nonEmpty checked.askerProvider }

end PrecheckedAsk

namespace HeldAsk

/-- The record of a request that had none when its peer was settled. -/
def newAsk (held : HeldAsk) (id : String) (peer : ChosenPeer) (baseline : Option String) (now : Nat) : Ask :=
  { Ask.new id held.checked.askerThreadId peer.threadId peer.provider peer.model held.request.effort held.message
      held.checked.askerCwd baseline held.request.startedBy now with
    askerProvider := nonEmpty held.checked.askerProvider }

def heldAsk (held : HeldAsk) (id provider : String) (request : ModelRequest) (now : Nat) : Ask :=
  { Ask.new id held.checked.askerThreadId (held.request.peerThreadId.getD "") provider none held.request.effort
      held.message held.checked.askerCwd none held.request.startedBy now with
    askerProvider := nonEmpty held.checked.askerProvider
    modelRequest := some request }

end HeldAsk

namespace AskWorld

def proceed (w : AskWorld) (k : Nat) : Option AskTask → AskWorld
  | some task => { w with tasks := w.tasks.put k task }
  | none => { w with tasks := w.tasks.drop k }

def update (w : AskWorld) (now : Nat) (id : String) (edit : AskEdit) : AskWorld :=
  { w with asks := w.asks.updateAsk now id edit }

def insert (w : AskWorld) (ask : Ask) : AskWorld :=
  { w with asks := w.asks.insertAsk ask, issued := ask.id :: w.issued }

def isLive (w : AskWorld) (id : String) : Bool :=
  (w.asks.get id).any fun ask => !ask.status.isTerminal

/-- A reply is taken as an ask's answer, where the ask still waits for one. -/
def take (w : AskWorld) (now : Nat) (id itemId text : String) : AskWorld :=
  { w.update now id (.finish text) with
    taken := bif w.isLive id then { askId := id, itemId := itemId, text := text } :: w.taken else w.taken }

/-- A turn was started with a task or a reminder of an ask. -/
def handOver (w : AskWorld) (id : String) (turnId : Option String) : AskWorld :=
  { w with
    handed := { askId := id, turnId := turnId, before := w.rows } :: w.handed
    turns := turnId.toList ++ w.turns }

/-- The asks a peer was handed and has not answered. -/
def waitingOn (w : AskWorld) (peer : String) : List Ask :=
  w.asks.values.filter fun ask => ask.peerThreadId == peer && !ask.status.isTerminal && ask.sentAt.isSome

/-- A reply ends the asks it answers, and a user stop the rest. -/
def endStopped (w : AskWorld) (now : Nat) (latest : Option Reply) (ask : Ask) : AskWorld :=
  match latest.filter fun reply => replyAnswersAsk ask reply.itemId reply.turnId with
  | some reply => w.take now ask.id reply.itemId reply.text
  | none => w.update now ask.id (.fail "you stopped it before it answered")

/-- One call takes its next section under the relay's lock. -/
def runTask (w : AskWorld) (k : Nat) (facts : AskFacts) : AskTask → AskWorld
  | .prechecking asker request =>
    match precheckAsk w.asks asker request none facts with
    | .error _ => w.proceed k none
    | .ok checked => w.proceed k (some (.accepting checked request))
  | .accepting checked request =>
    (w.insert (checked.acceptedAsk request facts)).proceed k
      (some (.filling checked.askerThreadId request (some facts.freshId) (chooserFor request.startedBy)))
  | .filling asker request existing chooser =>
    match precheckAsk w.asks asker request existing facts with
    | .error error => w.proceed k (refused existing error)
    | .ok checked => w.proceed k (some (.choosing checked request existing chooser))
  | .choosing checked request existing chooser =>
    -- A person's one-liner becomes a brief first; an agent wrote its own message.
    match bif decide (request.startedBy = .person) then facts.brief else .ok checked.message with
    | .error reason => w.proceed k (refused existing (.failed reason))
    | .ok message =>
      w.proceed k (choosePeer { checked := checked, request := request, existing := existing, message := message }
        chooser facts)
  | .holding held provider request =>
    match held.existing with
    | some id =>
      (w.update facts.now id (.hold (held.request.peerThreadId.getD "") provider held.message request)).proceed k none
    | none => (w.insert (held.heldAsk facts.freshId provider request facts.now)).proceed k none
  | .ensuring held provider model =>
    bif held.existing.any fun id => (w.asks.get id).any fun ask => ask.status.isTerminal then
      w.proceed k (refused held.existing settledBeforeSent)
    else w.proceed k (some (.bringing held provider model))
  | .bringing held provider model =>
    match facts.freshThread with
    | .error reason => w.proceed k (refused held.existing (.failed reason))
    | .ok peer =>
      { w with brought := { asker := held.checked.askerThreadId, peer := peer } :: w.brought }.proceed k
        (some (.reading held { threadId := peer, provider := provider, model := some model }))
  | .reading held peer =>
    w.proceed k (some (.recording held peer ((latestAgentEntry facts.views).map (·.1))))
  | .recording held peer baseline =>
    let askId := held.existing.getD facts.freshId
    bif (w.asks.get askId).any fun ask => ask.status.isTerminal then
      w.proceed k (refused held.existing settledBeforeSent)
    else
      let recorded :=
        match held.existing with
        | some id =>
          w.update facts.now id
            (.fillIn peer.threadId peer.provider peer.model held.message baseline held.checked.askerProvider)
        | none => w.insert (held.newAsk facts.freshId peer baseline facts.now)
      recorded.proceed k (some (.sending held.existing askId peer))
  | .sending existing askId _ =>
    match facts.dispatched with
    | .ok turnId => (w.handOver askId turnId).proceed k (some (.landing askId turnId))
    | .error reason => w.proceed k (some (.unsent existing askId reason))
  | .landing askId turnId => (w.update facts.now askId (.sent turnId)).proceed k none
  | .unsent existing askId reason =>
    (w.update facts.now askId (.fail reason)).proceed k (refused existing (.failed reason))
  | .failing askId reason => (w.update facts.now askId (.fail reason)).proceed k none
  | .committing askId _ answer cited =>
    { w.update facts.now askId (.reportBack cited answer) with
      reported := { askId := askId, answer := answer, found := w.asks.get askId } :: w.reported }.proceed k none
  | .stopping peer asks => w.proceed k (some (.stopped peer asks (latestAgentEntryWithTurn facts.views)))
  | .stopped _ asks latest => (asks.foldl (fun w ask => w.endStopped facts.now latest ask) w).proceed k none

/-- `delegate_detached`, or `delegate_request`: a person's request goes on record first. -/
def delegate (w : AskWorld) (k : Nat) (asker : String) (request : AskRequest) (detached : Bool) : AskWorld :=
  w.proceed k (some (bif detached || decide (request.startedBy = .person) then .prechecking asker request
    else .filling asker request none (chooserFor request.startedBy)))

/-- Bounds what `report_back` may cite. -/
def maxCited : Nat := 8

def maxCitedChars : Nat := 160

def clipChars (text : String) (limit : Nat) : String :=
  bif decide (limit < text.toList.length) then String.ofList (text.toList.take limit) ++ "…" else text

/-- `report_back` up to the ask it picks: the one its caller has kept waiting longest. -/
def reportBack (w : AskWorld) (k : Nat) (peer answer : String) (cited : List String) : AskWorld :=
  let answer := trim answer
  bif answer.isEmpty then w
  else
    match ((w.waitingOn peer).mergeSort fun a b => decide (a.askedAt ≤ b.askedAt)).head? with
    | none => w
    | some ask =>
      w.proceed k (some (.committing ask.id peer answer ((cited.take maxCited).map (clipChars · maxCitedChars))))

/-- `settle_asks_stopped_by_user` up to the asks it copies. -/
def stopPeer (w : AskWorld) (k : Nat) (peer : String) : AskWorld :=
  match w.waitingOn peer with
  | [] => w
  | asks => w.proceed k (some (.stopping peer asks))

/-- What a person's decision says: the model to run on, or none. -/
def readDecision (pending : ModelRequest) (decision : String) (model : Option String) :
    Except String (ModelDecision × Option String) :=
  match trim decision with
  | "allow" => .ok (.allowed, some pending.model)
  | "switch" =>
    match (model.map trim).bind nonEmpty with
    | some model => .ok (.switched, some model)
    | none => .error "pick the model to start instead"
  | "decline" => .ok (.declined, none)
  | other => .error ("unknown decision `" ++ other ++ "` — allow, switch or decline")

/-- The request a decision to run hands on. -/
def retryOf (ask : Ask) (pending : ModelRequest) (model : String) (scopeDevice : Option String) : AskRequest where
  peerThreadId := nonEmpty ask.peerThreadId
  provider := some pending.provider
  model := some model
  effort := ask.peerEffort
  message := ask.message
  deviceId := scopeDevice
  startedBy := ask.startedBy

def decideModelRequest (w : AskWorld) (k : Nat) (id decision : String) (model scopeDevice : Option String)
    (facts : AskFacts) : AskWorld × Except String Unit :=
  match w.asks.get id with
  | none => (w, .error "that request is gone")
  | some ask =>
    match facts.deviceRefusal with
    | some refusal => (w, .error refusal)
    | none =>
      match ask.modelRequest.filter fun _ => ask.awaitingModelDecision with
      | none => (w, .error "that request has already been decided")
      | some pending =>
        match readDecision pending decision model with
        | .error reason => (w, .error reason)
        | .ok (decision, chosen) =>
          let decided := w.update facts.now id (.decide decision chosen)
          match chosen with
          | none => (decided, .ok ())
          | some model =>
            (decided.proceed k (some (.filling ask.askerThreadId (retryOf ask pending model scopeDevice) (some id)
              .person)), .ok ())

end AskWorld

end Sealwire.Asks

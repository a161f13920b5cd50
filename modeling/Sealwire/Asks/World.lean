import Sealwire.Asks.Edits

namespace Sealwire.Asks

/-- Who picked the model. Only an agent's own pick of a flagship waits for a person. -/
inductive ModelChooser
  | person
  | agent
  deriving DecidableEq, Repr

def chooserFor : StartedBy → ModelChooser
  | .person => .person
  | .agent => .agent

structure AskRequest where
  peerThreadId : Option String := none
  provider : Option String := none
  model : Option String := none
  effort : Option String := none
  message : String
  deviceId : Option String := none
  startedBy : StartedBy
  deriving DecidableEq, Repr

inductive AskError
  | noSuchAsker
  | noSuchPeer
  | workspaceGone
  | limitReached (reason : String)
  | failed (reason : String)
  deriving DecidableEq, Repr

def AskError.message : AskError → String
  | noSuchAsker => "that session can no longer ask for help"
  | noSuchPeer => "that agent is not one you started"
  | workspaceGone => "the directory this session ran in no longer exists"
  | limitReached reason => reason
  | failed reason => reason

/-- How many peers one session may have brought in. -/
def maxPeersPerAsker : Nat := 5

/-- What `precheckAsk` established. -/
structure PrecheckedAsk where
  askerThreadId : String
  message : String
  askerCwd : String
  askerProvider : String
  deriving DecidableEq, Repr

/-- A request past its check, with the message its peer will be handed. -/
structure HeldAsk where
  checked : PrecheckedAsk
  request : AskRequest
  existing : Option String
  message : String
  deriving DecidableEq, Repr

/-- The peer a request settled on. -/
structure ChosenPeer where
  threadId : String
  provider : String
  model : Option String
  deriving DecidableEq, Repr

/-- Where a call stands that has let go of the relay's lock, with what it took along. -/
inductive AskTask
  /-- A request that is put on record before its slow half. -/
  | prechecking (asker : String) (request : AskRequest)
  | accepting (checked : PrecheckedAsk) (request : AskRequest)
  /-- `delegate_filling` before its own check. -/
  | filling (asker : String) (request : AskRequest) (existing : Option String) (chooser : ModelChooser)
  /-- The brief, the peer's checks and the model are yet to come. -/
  | choosing (checked : PrecheckedAsk) (request : AskRequest) (existing : Option String) (chooser : ModelChooser)
  | holding (held : HeldAsk) (provider : String) (request : ModelRequest)
  | ensuring (held : HeldAsk) (provider model : String)
  | bringing (held : HeldAsk) (provider model : String)
  | reading (held : HeldAsk) (peer : ChosenPeer)
  | recording (held : HeldAsk) (peer : ChosenPeer) (baseline : Option String)
  | sending (existing : Option String) (askId : String) (peer : ChosenPeer)
  | landing (askId : String) (turnId : Option String)
  | unsent (existing : Option String) (askId reason : String)
  | failing (askId reason : String)
  /-- `report_back` has picked the ask its answer is for. -/
  | committing (askId peer answer : String) (cited : List String)
  /-- A user stop has copied the asks it ends. -/
  | stopping (peer : String) (asks : List Ask)
  | stopped (peer : String) (asks : List Ask) (latest : Option Reply)
  deriving DecidableEq, Repr

/-- An ask as the sweep's first look listed it. -/
structure LiveAsk where
  id : String
  peerThreadId : String
  sentAt : Nat
  deriving DecidableEq, Repr

/-- One round of the sweep's loop: the ask it is at, and those still to come. -/
structure SweepRound where
  now : Nat
  ask : LiveAsk
  todo : List LiveAsk
  deriving DecidableEq, Repr

/-- Answers on their way to one asker. -/
structure WakeBatch where
  asker : String
  mine : List Ask
  deriving DecidableEq, Repr

namespace WakeBatch

def message (wake : WakeBatch) : String := wakeMessage wake.mine

def askIds (wake : WakeBatch) : List String := wake.mine.map (·.id)

end WakeBatch

/-- Where the sweep stands each time it has let go of the relay's lock. -/
inductive SweepStage
  | idle
  | looking (now : Nat) (todo : List LiveAsk)
  | reading (round : SweepRound)
  | turnFailed (round : SweepRound) (turnId : Option String)
  | turnSettling (round : SweepRound) (reason : String) (salvaged : Option (String × String))
  | coldReading (round : SweepRound) (provider turnId : String)
  | coldFailed (round : SweepRound) (views : List EntryView) (reason : String)
  | judging (round : SweepRound) (provider : String) (reply : Option Reply) (coldQuiet : Bool)
  | expiring (round : SweepRound) (latest : Option Reply)
  | matching (round : SweepRound) (provider : String) (reply : Reply)
  | nudging (round : SweepRound) (reply : Reply)
  | nudgeLanded (round : SweepRound) (reply : Reply) (turnId : Option String)
  | finishing (round : SweepRound) (reply : Reply)
  /-- The asks are settled; the askers are next. -/
  | gathering
  | calling (found : List Ask) (askers : List String)
  | composing (found : List Ask) (asker : String) (askers : List String)
  | marking (found : List Ask) (wake : WakeBatch) (askers : List String)
  | waking (found : List Ask) (wake : WakeBatch) (askers : List String)
  deriving DecidableEq, Repr

inductive TurnOutcome
  | completed
  | failed
  | stopped
  deriving DecidableEq, Repr

/-- What the providers and the rest of the relay answer while one section runs. -/
structure AskFacts where
  /-- The clock. -/
  now : Nat := 0
  askerCwd : Option String := some ""
  askerProvider : String := ""
  /-- Why the asking device may not reach one of the threads. -/
  deviceRefusal : Option String := none
  /-- Why the peer's provider cannot be used. -/
  providerRefusal : Option String := none
  peerKnown : Bool := true
  peerProvider : String := ""
  peerModel : Option String := none
  /-- The brief the asker wrote, for a person's request. -/
  brief : Except String String := .ok ""
  /-- Why the existing peer may not be asked. -/
  peerRefusal : Option AskError := none
  /-- The family of the model that was named, where it is a flagship's. -/
  flagship : Option String := none
  defaultModel : Except String String := .ok ""
  options : List ModelChoiceView := []
  /-- A new ask id, and a new thread. -/
  freshId : String := ""
  freshThread : Except String String := .ok ""
  /-- What a send came to: the turn it started, where the provider told one. -/
  dispatched : Except String (Option String) := .ok none
  /-- The rows a read of the peer's transcript came back with. -/
  views : List EntryView := []
  working : Bool := false
  terminal : Option TurnOutcome := none
  failureReason : Option String := none
  /-- The status of the thread as its provider reads it back, where it can. -/
  historyStatus : Option String := none
  slotFree : Bool := true

/-- A row of one thread's transcript. -/
structure AgentRow where
  threadId : String
  view : EntryView
  deriving DecidableEq, Repr

/-- A task or a reminder that was handed over, and what its peer had written by then. -/
structure Handed where
  askId : String
  turnId : Option String
  before : List AgentRow
  deriving DecidableEq, Repr

/-- A reply that was taken as an ask's answer. -/
structure Taken where
  askId : String
  itemId : String
  text : String
  deriving DecidableEq, Repr

/-- A `report_back` that came back Ok, and the ask as it found it under the write lock. -/
structure Reported where
  askId : String
  answer : String
  found : Option Ask
  deriving DecidableEq, Repr

structure Brought where
  asker : String
  peer : String
  deriving DecidableEq, Repr

/-- A wake that was sent, and the asks among which its asker was found ready. -/
structure SentWake where
  wake : WakeBatch
  found : List Ask
  deriving DecidableEq, Repr

structure AskWorld where
  asks : AskTable
  coldChecked : Table String String
  tasks : Table Nat AskTask
  sweep : SweepStage
  /-- The ids given out, the turns started, and the rows written so far. -/
  issued : List String
  turns : List String
  rows : List AgentRow
  handed : List Handed
  taken : List Taken
  reported : List Reported
  brought : List Brought
  wakes : List SentWake

def AskWorld.start : AskWorld where
  asks := ∅
  coldChecked := ∅
  tasks := ∅
  sweep := .idle
  issued := []
  turns := []
  rows := []
  handed := []
  taken := []
  reported := []
  brought := []
  wakes := []

end Sealwire.Asks

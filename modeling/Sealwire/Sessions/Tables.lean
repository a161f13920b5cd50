import Sealwire.Attention.States
import Sealwire.Sessions.Bindings

namespace Sealwire.Sessions

open Attention (threadStatusIsWorking)

/-- What the relay carries for a session without looking inside. -/
structure Payloads where
  Settings : Type
  Goal : Type
  Approval : Type
  Question : Type
  Handover : Type
  RuntimeRest : Type
  Row : Type
  ApplyState : Type

structure ThreadSummaryView where
  id : String
  name : Option String := none
  preview : String := ""
  cwd : String := ""
  updatedAt : UInt64 := 0
  workspaceTrusted : Bool := false
  source : String := ""
  status : String := ""
  modelProvider : String := ""
  provider : String := ""
  forkedFrom : Option String := none
  renamed : Bool := false
  flagged : Bool := false
  deriving DecidableEq

structure ThreadHistoryWorkspace where
  cwd : String
  repositories : List String
  deriving DecidableEq

/-- Pin and proven tree of a session; absent is the directory it was born in. -/
structure ThreadWorkspace where
  pinned : Option String := none
  proven : Option String := none
  provenAt : Option UInt64 := none
  history : Option ThreadHistoryWorkspace := none
  deriving DecidableEq

/-- A request that waits for an answer. -/
structure Pending (Body : Type) where
  threadId : String
  body : Body

structure ThreadRuntime (P : Payloads) where
  summary : Option ThreadSummaryView
  activeTurnId : Option String
  currentStatus : String
  currentCwd : String
  pendingApprovals : Table String (Pending P.Approval)
  pendingAskUserQuestions : Table String (Pending P.Question)
  rest : P.RuntimeRest

structure HandoverRecord (P : Payloads) where
  sourceThreadId : String
  body : P.Handover

/-- Search-only routing hints, with the order they came in. -/
structure SearchRoutingHints where
  hints : Table String ThreadSummaryView
  order : List String
  listed : ∀ id, id ∈ order ↔ hints.has id = true

namespace SearchRoutingHints

def empty : SearchRoutingHints := ⟨∅, [], fun _ => by simp [Table.has]⟩

def forget (routing : SearchRoutingHints) (threadId : String) : SearchRoutingHints :=
  if (routing.hints.get threadId).isSome then
    { hints := routing.hints.drop threadId
      order := routing.order.filter (· ≠ threadId)
      listed := fun id => by
        rw [List.mem_filter, routing.listed, Table.has_drop, decide_eq_true_iff, and_comm] }
  else routing

end SearchRoutingHints

/-- The view of the active session that clients without a session of their own see. -/
structure SelectedMirror (P : Payloads) where
  activeControllerDeviceId : Option String := none
  activeControllerLastSeenAt : Option UInt64 := none
  activeTurnId : Option String := none
  currentStatus : String := "idle"
  currentPhase : Option String := none
  currentTool : Option String := none
  lastProgressAt : Option UInt64 := none
  activeFlags : List String := []
  transcriptRevision : UInt64 := 0
  transcript : List P.Row := []
  applyStates : Table String P.ApplyState := ∅

/-- The tables of a relay that hold something for a session, and what the deletion of one looks at. -/
structure RelayState (P : Payloads) where
  activeThreadId : Option String := none
  mirror : SelectedMirror P := {}
  transcriptClock : UInt64 := 0
  threads : List ThreadSummaryView := []
  threadSettings : Table String P.Settings := ∅
  threadForkedFrom : Table String String := ∅
  sessionBindings : { registry : SessionBindingRegistry // registry.Sound } := ⟨.empty, SessionBindingRegistry.empty_sound⟩
  threadWorkspace : Table String ThreadWorkspace := ∅
  threadLastTurnBaseSha : Table String String := ∅
  threadLastTurnBaseCwd : Table String String := ∅
  threadLastActivityAt : Table String UInt64 := ∅
  threadProjectId : Table String String := ∅
  projectsRevision : UInt64 := 0
  threadCustomName : Table String String := ∅
  threadFlagged : Table String Unit := ∅
  goals : Table String P.Goal := ∅
  searchRouting : SearchRoutingHints := .empty
  locallyDeletedThreadIds : List String := []
  pendingApprovals : Table String (Pending P.Approval) := ∅
  pendingAskUserQuestions : Table String (Pending P.Question) := ∅
  runtimes : Table String (ThreadRuntime P) := ∅
  handovers : Table String (HandoverRecord P) := ∅
  /-- A reviewer's session, with the session it reviews. -/
  reviewerThreads : Table String String := ∅

/-- What a row is read with from outside the relay's state. -/
structure RowReading where
  normalizeCwd : String → String
  /-- The worktrees of the repository at a normalized directory. -/
  linkedWorktreeRoots : String → List String
  intentTitleLine : String → Option String

namespace RowReading

variable (reading : RowReading)

def capture (cwd : String) : ThreadHistoryWorkspace where
  cwd := reading.normalizeCwd cwd
  repositories := reading.linkedWorktreeRoots (reading.normalizeCwd cwd)

def historyMatches (history : ThreadHistoryWorkspace) (cwd : String) : Bool :=
  history.cwd = cwd || history.cwd = reading.normalizeCwd cwd

def threadSummaryTitle (thread : ThreadSummaryView) : Option String :=
  ((thread.name.map trim).filter (· ≠ "")).or (reading.intentTitleLine thread.preview)

end RowReading

namespace RelayState

variable {P : Payloads}

section Deletion

variable (relay : RelayState P)

def clearActiveSession : RelayState P :=
  { relay with
    runtimes :=
      match relay.activeThreadId with
      | some threadId => relay.runtimes.drop threadId
      | none => relay.runtimes
    activeThreadId := none
    mirror := { transcriptRevision := relay.transcriptClock }
    pendingApprovals := ∅
    pendingAskUserQuestions := ∅ }

def dropPendingRequestsForThread (threadId : String) : RelayState P :=
  { relay with
    pendingApprovals := relay.pendingApprovals.retain fun _ pending => pending.threadId ≠ threadId
    pendingAskUserQuestions := relay.pendingAskUserQuestions.retain fun _ pending => pending.threadId ≠ threadId
    runtimes := relay.runtimes.modify threadId fun runtime =>
      { runtime with pendingApprovals := ∅, pendingAskUserQuestions := ∅ } }

def retireHandoversForThread (threadId : String) : RelayState P :=
  { relay with handovers := relay.handovers.retain fun _ handover => handover.sourceThreadId ≠ threadId }

/-- The part of a deletion that archiving shares. -/
def removeThread (threadId : String) : RelayState P :=
  let removed : RelayState P :=
    { relay with
      threads := relay.threads.filter (·.id ≠ threadId)
      threadSettings := relay.threadSettings.drop threadId
      threadLastActivityAt := relay.threadLastActivityAt.drop threadId
      goals := relay.goals.drop threadId
      threadCustomName := relay.threadCustomName.drop threadId
      threadFlagged := relay.threadFlagged.drop threadId
      threadWorkspace := relay.threadWorkspace.drop threadId
      threadLastTurnBaseSha := relay.threadLastTurnBaseSha.drop threadId
      threadLastTurnBaseCwd := relay.threadLastTurnBaseCwd.drop threadId
      searchRouting := relay.searchRouting.forget threadId
      sessionBindings := ⟨(relay.sessionBindings.1.remove threadId).1, relay.sessionBindings.2.remove threadId⟩
      runtimes := relay.runtimes.drop threadId }
  (removed.dropPendingRequestsForThread threadId).retireHandoversForThread threadId

def markThreadDeleted (threadId : String) : RelayState P :=
  let marked : RelayState P :=
    { relay with
      locallyDeletedThreadIds := threadId :: relay.locallyDeletedThreadIds
      threadProjectId := relay.threadProjectId.drop threadId
      -- The clients' cache key wraps.
      projectsRevision :=
        if (relay.threadProjectId.get threadId).isSome then relay.projectsRevision + 1 else relay.projectsRevision }
  marked.removeThread threadId

def forgetReviewerThread (reviewerId : String) : RelayState P :=
  { relay with reviewerThreads := relay.reviewerThreads.drop reviewerId }

/-- What is written once the provider has deleted the session. Whether it was the active one was
asked before that. -/
def deleteThreadInner (deletedActiveThread : Bool) (threadId : String) : RelayState P :=
  let cleared := if deletedActiveThread then relay.clearActiveSession else relay
  (cleared.markThreadDeleted threadId).forgetReviewerThread threadId

end Deletion

section Rows

variable (reading : RowReading) (relay : RelayState P)

def applyCustomThreadName (thread : ThreadSummaryView) : ThreadSummaryView :=
  match relay.threadCustomName.get thread.id with
  | some name => { thread with name := some name, renamed := true }
  | none => { thread with name := reading.threadSummaryTitle thread, renamed := false }

def applyThreadFlag (thread : ThreadSummaryView) : ThreadSummaryView :=
  { thread with flagged := relay.threadFlagged.has thread.id }

/-- What a row says by itself, else what the row before it said. -/
def fillFrom (existing thread : ThreadSummaryView) : ThreadSummaryView :=
  { thread with
    name := thread.name.or existing.name
    preview := if thread.preview = "" then existing.preview else thread.preview
    cwd := if thread.cwd = "" then existing.cwd else thread.cwd
    source := if thread.source = "" then existing.source else thread.source
    modelProvider := if thread.modelProvider = "" then existing.modelProvider else thread.modelProvider }

def knownProvider (threadId : String) : Option String :=
  let named := fun provider : String => provider ≠ ""
  (((relay.runtimes.get threadId).bind (·.summary)).map (·.provider) |>.filter named).or
    ((relay.threads.find? (·.id = threadId)).map (·.provider) |>.filter named)

def rememberHistory (thread : ThreadSummaryView) : Table String ThreadWorkspace :=
  if thread.cwd = "" then relay.threadWorkspace
  else
    let workspace := (relay.threadWorkspace.get thread.id).getD {}
    if workspace.history.any (reading.historyMatches · thread.cwd) then relay.threadWorkspace.put thread.id workspace
    else relay.threadWorkspace.put thread.id { workspace with history := some (reading.capture thread.cwd) }

/-- A list or read row is no sign of life: a working status needs a turn in flight. -/
def summarized (thread : ThreadSummaryView) (runtime : ThreadRuntime P) : ThreadRuntime P :=
  { runtime with
    summary := some thread
    currentStatus :=
      if runtime.activeTurnId.isSome || !threadStatusIsWorking thread.status then thread.status else "idle"
    currentCwd := if runtime.currentCwd = "" then thread.cwd else runtime.currentCwd }

def placeRow (thread : ThreadSummaryView) : List ThreadSummaryView :=
  match relay.threads.findIdx? (·.id = thread.id) with
  | some index => relay.threads.set index thread
  | none => thread :: relay.threads

def upsertThread (thread : ThreadSummaryView) : RelayState P :=
  if thread.id ∈ relay.locallyDeletedThreadIds then relay
  else
    let threadWorkspace := relay.rememberHistory reading thread
    let thread := relay.applyThreadFlag (relay.applyCustomThreadName reading thread)
    let thread := ((relay.threads.find? (·.id = thread.id)).map (fillFrom · thread)).getD thread
    let thread :=
      if thread.provider = "" then { thread with provider := (relay.knownProvider thread.id).getD thread.provider }
      else thread
    { relay with
      threadWorkspace
      runtimes := relay.runtimes.modify thread.id (summarized thread)
      threads := relay.placeRow thread }

def upsertThreads (calls : List ThreadSummaryView) : RelayState P :=
  calls.foldl (fun relay thread => relay.upsertThread reading thread) relay

end Rows

end RelayState

end Sealwire.Sessions

import Sealwire.Lib.InsertionMap
import Sealwire.Tabs.Layout

namespace Sealwire.Tabs

/-- A screen, with what it is about. Of these the full-area ones show no tabs. -/
inductive Context
  | sessions
  | project (projectId : Id)
  | tasks (teamRunId : Option Id)
  | teams (teamId : Option Id)
  | usage
  | editor
  | review (teamRunId : Id)
  | ticket (teamRunId : Id)
  deriving DecidableEq, Repr

/-- A context as a command or a history entry has it. -/
structure RawContext where
  kind : Option String := none
  projectId : Option String := none
  teamRunId : Option String := none
  teamId : Option String := none
  deriving DecidableEq, Repr

def normalizeSessionViewContext (context : RawContext) : Context :=
  match context.kind with
  | some "project" => (stringId context.projectId).elim .sessions .project
  | some "tasks" => .tasks (stringId context.teamRunId)
  | some "teams" => .teams (stringId context.teamId)
  | some "usage" => .usage
  | some "editor" => .editor
  | some "review" => (stringId context.teamRunId).elim (.tasks none) .review
  | some "ticket" => (stringId context.teamRunId).elim (.tasks none) .ticket
  | _ => .sessions

def isFullAreaContext : Context → Bool
  | .sessions | .project _ => false
  | .tasks _ | .teams _ | .usage | .editor | .review _ | .ticket _ => true

def sessionsKey : String := "__sessions__"

def tasksKey : String := "__tasks__"

def teamsKey : String := "__teams__"

def usageKey : String := "__usage__"

def editorKey : String := "__editor__"

def reviewKey : String := "__review__"

def ticketKey : String := "__ticket__"

def sessionViewContextKey : Context → String
  | .sessions => sessionsKey
  | .tasks (some teamRunId) => tasksKey ++ ":" ++ teamRunId.1
  | .tasks none => tasksKey
  | .teams (some teamId) => teamsKey ++ ":" ++ teamId.1
  | .teams none => teamsKey
  | .usage => usageKey
  | .editor => editorKey
  | .review teamRunId => reviewKey ++ ":" ++ teamRunId.1
  | .ticket teamRunId => ticketKey ++ ":" ++ teamRunId.1
  | .project projectId => projectId.1

def contextThatCanHoldTabs (context : Context) : Context := if isFullAreaContext context then .sessions else context

/-- A context worth returning to. -/
def returnableContext (context : Context) : Option Context := if isFullAreaContext context then none else some context

inductive ProjectIds
  | missing
  | array (ids : List String)
  | set (ids : List String)
  deriving DecidableEq, Repr

def ProjectIds.ids : ProjectIds → List String
  | missing => []
  | array ids => ids
  | set ids => ids

/-- What the controller knows from outside when a command runs. -/
structure Facts where
  projectIds : ProjectIds := .missing
  projectIdsComplete : Bool := true
  unavailableThreadIds : List String := []
  deriving DecidableEq, Repr

def stringSet (values : List String) : List Id := (values.filterMap fun value => stringId (some value)).eraseDups

/-- The remembered context, or the sessions if its project is provably gone. -/
def availableReturnContext (context : Context) (facts : Facts) : Context :=
  match context, facts.projectIds with
  | .project projectId, .array ids => if facts.projectIdsComplete ∧ projectId.1 ∉ ids then .sessions else context
  | _, _ => context

def sameContext (left right : Context) : Bool := sessionViewContextKey left == sessionViewContextKey right

abbrev Workspaces := InsertionMap String TabWorkspace

namespace Workspaces

def under (workspaces : Workspaces) (key : String) : TabWorkspace := (workspaces.get key).getD {}

def workspaceFor (workspaces : Workspaces) (context : Context) : TabWorkspace :=
  createTabWorkspace (workspaces.under (sessionViewContextKey context))

def withWorkspace (workspaces : Workspaces) (context : Context) (workspace : TabWorkspace) : Workspaces :=
  workspaces.set (sessionViewContextKey context) (createTabWorkspace workspace)

end Workspaces

def focusedThreadId (workspace : TabWorkspace) : Option Id :=
  (focusedTab workspace).bind fun tab => (layoutThreadIds tab.layout).head?

structure Location where
  context : Context
  threadId : Option Id
  deriving DecidableEq, Repr

structure SessionViewState where
  location : Location
  returnContext : Context
  workspaces : Workspaces

/-- A routed thread is opened and focused in its context. -/
def createSessionViewState (location : Location) (returnContext : Option Context) (workspaces : Workspaces) :
    SessionViewState :=
  let workspaces : Workspaces := workspaces.mapValues createTabWorkspace
  let current := workspaces.workspaceFor location.context
  { location
    returnContext := (returnContext.bind returnableContext).getD (contextThatCanHoldTabs location.context)
    workspaces := workspaces.withWorkspace location.context
      (location.threadId.elim current fun threadId => openThreadTab current threadId false) }

namespace SessionViewState

/-- The state of a snapshot without anything. -/
def initial : SessionViewState := createSessionViewState ⟨.sessions, none⟩ none .empty

def removeTarget (state : SessionViewState) (target : Id) : SessionViewState :=
  let workspaces : Workspaces := state.workspaces.mapValues fun workspace =>
    let normalized := createTabWorkspace workspace
    match normalized.findTabByThread target with
    | some owning => closeTab normalized owning.id
    | none => normalized
  let location :=
    if state.location.threadId = some target then
      ⟨state.location.context, focusedThreadId (workspaces.workspaceFor state.location.context)⟩
    else state.location
  createSessionViewState location (some state.returnContext) workspaces

def removeThread (state : SessionViewState) (threadId : Option String) : SessionViewState :=
  (stringId threadId).elim state state.removeTarget

def sweepUnavailableThreads (state : SessionViewState) (unavailable : List String) : SessionViewState :=
  (stringSet unavailable).foldl removeTarget state

end SessionViewState

def historyVersion : Nat := 1

structure HistoryEntry where
  version : Option Nat := none
  context : Option RawContext := none
  viewMode : Option String := none
  projectId : Option String := none
  deriving DecidableEq, Repr

def contextFromHistory (entry : Option HistoryEntry) (current : Context) (facts : Facts) : Context :=
  let known := stringSet facts.projectIds.ids
  match entry with
  | none => current
  | some entry =>
    match entry.version == some historyVersion, entry.context with
    | true, some raw =>
      match normalizeSessionViewContext raw with
      | .project projectId => if facts.projectIdsComplete ∧ projectId ∉ known then .sessions else .project projectId
      | context => context
    | _, _ =>
      if entry.viewMode = some "sessions" then .sessions
      else if entry.viewMode = some "projects" then
        match stringId entry.projectId with
        | some projectId => if !facts.projectIdsComplete ∨ projectId ∈ known then .project projectId else .sessions
        | none => .sessions
      else current

inductive Action
  | openThread (threadId : Option String) (context : Option RawContext) (preview : Option Bool)
  | promoteTab (context : Option RawContext) (tabId threadId : Option String)
  | returnToSessions
  | switchContext (context : RawContext)
  | showOverview (context : Option RawContext)
  | closeTab (context : Option RawContext) (tabId : Option String)
  | closeTabs (context : Option RawContext) (tabIds : List (Option String)) (keepTabId : Option String)
  | pinTab (context : Option RawContext) (tabId : Option String) (pinned : Bool)
  | moveTab (context : Option RawContext) (tabId : Option String) (toIndex : JsNumber)
  | removeThread (threadId : Option String)
  | restoreHistory (entry : Option HistoryEntry) (urlThreadId : Option String) (preview : Bool)
  | other
  deriving DecidableEq, Repr

/-- The context a command is about. -/
def actionContext (raw : Option RawContext) (state : SessionViewState) : Context :=
  raw.elim state.location.context normalizeSessionViewContext

namespace SessionViewState

variable (state : SessionViewState)

/-- A thread of the workspace is on screen. -/
def showsOneOf (context : Context) (closing : List Tab) : Bool :=
  sameContext context state.location.context &&
    state.location.threadId.any fun threadId => closing.any fun tab => layoutHasThread tab.layout threadId

/-- The state whose workspace of the context has become `workspace`. -/
def settle (context : Context) (workspace : TabWorkspace) : SessionViewState :=
  createSessionViewState state.location none (state.workspaces.withWorkspace context workspace)

/-- The state after tabs of the context were closed. -/
def settleClosed (context : Context) (closing : List Tab) (closed : TabWorkspace) : SessionViewState :=
  createSessionViewState
    (if state.showsOneOf context closing then ⟨state.location.context, focusedThreadId closed⟩ else state.location)
    none (state.workspaces.withWorkspace context closed)

/-- The screen of the context, with its remembered tab. -/
def enter (context : Context) : SessionViewState :=
  createSessionViewState ⟨context, focusedThreadId (state.workspaces.workspaceFor context)⟩ none state.workspaces

end SessionViewState

open SessionViewState in
def reduceCase (state : SessionViewState) (facts : Facts) : Action → SessionViewState
  | .openThread threadId raw preview =>
    match stringId threadId with
    | none => state
    | some threadId =>
      if threadId ∈ stringSet facts.unavailableThreadIds then state.removeTarget threadId
      else
        let context := contextThatCanHoldTabs (actionContext raw state)
        let opened := openThreadTab (state.workspaces.workspaceFor context) threadId (preview == some true)
        let owning := if preview = some false then opened.findTabByThread threadId else none
        createSessionViewState ⟨context, some threadId⟩ none
          (state.workspaces.withWorkspace context (owning.elim opened fun tab => promoteTab opened tab.id))
  | .promoteTab raw tabId threadId =>
    let context := actionContext raw state
    let current := state.workspaces.workspaceFor context
    match (stringId tabId).or (((stringId threadId).bind current.findTabByThread).map (·.id)) with
    | none => state
    | some tabId => state.settle context (promoteTab current tabId)
  | .returnToSessions =>
    state.enter (availableReturnContext ((returnableContext state.returnContext).getD .sessions) facts)
  | .switchContext raw => state.enter (normalizeSessionViewContext raw)
  | .showOverview raw => createSessionViewState ⟨actionContext raw state, none⟩ none state.workspaces
  | .closeTab raw tabId =>
    match stringId tabId with
    | none => state
    | some tabId =>
      let context := actionContext raw state
      let current := state.workspaces.workspaceFor context
      state.settleClosed context (current.findTab tabId).toList (closeTab current tabId)
  | .closeTabs raw tabIds keepTabId =>
    let context := actionContext raw state
    let current := state.workspaces.workspaceFor context
    let closing := (tabIds.filterMap stringId).eraseDups.filterMap current.findTab
    if closing.isEmpty then state
    else
      let closed := closing.foldl (fun workspace tab => closeTab workspace tab.id) current
      let keep := if state.showsOneOf context closing then (stringId keepTabId).bind closed.findTab else none
      state.settleClosed context closing (keep.elim closed fun tab => focusTab closed tab.id)
  | .pinTab raw tabId pinned =>
    match stringId tabId with
    | none => state
    | some tabId =>
      let context := actionContext raw state
      state.settle context (setTabPinned (state.workspaces.workspaceFor context) tabId pinned)
  | .moveTab raw tabId toIndex =>
    match stringId tabId with
    | none => state
    | some tabId =>
      let context := actionContext raw state
      state.settle context (moveTab (state.workspaces.workspaceFor context) tabId toIndex)
  | .removeThread threadId => state.removeThread threadId
  | .restoreHistory entry urlThreadId preview =>
    let context := contextFromHistory entry state.location.context facts
    match stringId urlThreadId with
    | none => createSessionViewState ⟨context, none⟩ none state.workspaces
    | some urlThreadId =>
      if urlThreadId ∈ stringSet facts.unavailableThreadIds then state.enter context
      else
        -- The second place where a tab is made, with the same floor.
        let tabContext := contextThatCanHoldTabs context
        let opened := openThreadTab (state.workspaces.workspaceFor tabContext) urlThreadId preview
        createSessionViewState ⟨tabContext, some urlThreadId⟩ none (state.workspaces.withWorkspace tabContext opened)
  | .other => state

def reduceSessionViewCases (snapshot : SessionViewState) (action : Action) (facts : Facts) : SessionViewState :=
  let state := createSessionViewState snapshot.location (some snapshot.returnContext) snapshot.workspaces
  reduceCase (state.sweepUnavailableThreads facts.unavailableThreadIds) facts action

/-- The place to return to is carried on; a screen with tabs replaces it. -/
def reduceSessionView (snapshot : SessionViewState) (action : Action) (facts : Facts) : SessionViewState :=
  let next := reduceSessionViewCases snapshot action facts
  { next with
    returnContext := ((returnableContext next.location.context).or (returnableContext snapshot.returnContext)).getD .sessions }

def sessionViewInvariantErrors (snapshot : SessionViewState) : List String :=
  let context := snapshot.location.context
  let key := sessionViewContextKey context
  let workspaces : Workspaces := snapshot.workspaces.mapValues createTabWorkspace
  let current := workspaces.workspaceFor context
  let shown :=
    match snapshot.location.threadId with
    | none => []
    | some threadId =>
      if isFullAreaContext context then ["context " ++ key ++ " cannot hold a thread tab"]
      else
        match current.findTabByThread threadId with
        | none => ["visible thread " ++ threadId.1 ++ " is not open in " ++ key]
        | some owning =>
          if current.focusedTabId ≠ some owning.id then
            ["visible thread " ++ threadId.1 ++ " is not the remembered focus in " ++ key]
          else []
  let returning := if isFullAreaContext snapshot.returnContext then ["returnContext cannot be a full-area context"] else []
  let missing := workspaces.pairs.filterMap fun (key, workspace) =>
    let normalized := createTabWorkspace workspace
    if normalized.focusedTabId.any fun tabId => (normalized.findTab tabId).isNone then
      some ("workspace " ++ key ++ " focuses a missing tab")
    else none
  shown ++ returning ++ missing

end Sealwire.Tabs

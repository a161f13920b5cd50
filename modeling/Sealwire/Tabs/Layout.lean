import Mathlib.Algebra.Order.Floor.Defs
import Mathlib.Data.List.Nodup
import Mathlib.Data.Rat.Floor

namespace Sealwire.Tabs

/-- What `stringId` lets through: a text that is not empty. -/
abbrev Id := { text : String // text ≠ "" }

def stringId : Option String → Option Id
  | some text => if named : text ≠ "" then some ⟨text, named⟩ else none
  | none => none

inductive Layout
  | leaf (threadId : Id)
  | split (children : List Layout)

mutual

/-- Every thread id in a layout tree, in visual order. -/
def layoutThreadIds : Layout → List Id
  | .leaf threadId => [threadId]
  | .split children => childThreadIds children

def childThreadIds : List Layout → List Id
  | [] => []
  | child :: rest => layoutThreadIds child ++ childThreadIds rest

end

def layoutHasThread (layout : Layout) (threadId : Id) : Bool := (layoutThreadIds layout).contains threadId

structure Tab where
  id : Id
  pinned : Bool
  /-- The one slot for threads that are only looked at. -/
  preview : Bool
  layout : Layout

/-- Pinned wins over preview. -/
def normalizeTab (tab : Tab) : Tab := { tab with preview := !tab.pinned && tab.preview }

structure TabWorkspace where
  tabs : List Tab := []
  focusedTabId : Option Id := none

/-- Pinned tabs first, each part in its own order. -/
def partitionPinned (tabs : List Tab) : List Tab := tabs.filter (·.pinned) ++ tabs.filter (! ·.pinned)

def createTabWorkspace (workspace : TabWorkspace) : TabWorkspace :=
  let normalized := partitionPinned (workspace.tabs.map normalizeTab)
  let focusExists := normalized.any fun tab => workspace.focusedTabId == some tab.id
  { tabs := normalized
    focusedTabId := if focusExists then workspace.focusedTabId else normalized.head?.map (·.id) }

namespace TabWorkspace

variable (workspace : TabWorkspace)

def findTabByThread (threadId : Id) : Option Tab := workspace.tabs.find? fun tab => layoutHasThread tab.layout threadId

def findTab (tabId : Id) : Option Tab := workspace.tabs.find? fun tab => tab.id == tabId

end TabWorkspace

def tabIdForThread (threadId : Id) : Id :=
  ⟨"tab-" ++ threadId.1, fun empty => by
    have texts := congrArg String.toList empty
    simp at texts⟩

def openThreadTab (workspace : TabWorkspace) (threadId : Id) (preview : Bool) : TabWorkspace :=
  let base := createTabWorkspace workspace
  match base.findTabByThread threadId with
  | some existing => { base with focusedTabId := some existing.id }
  | none =>
    let tab := normalizeTab { id := tabIdForThread threadId, pinned := false, preview, layout := .leaf threadId }
    match if preview then base.tabs.findIdx? (·.preview) else none with
    | some replacing => { tabs := partitionPinned (base.tabs.set replacing tab), focusedTabId := some tab.id }
    | none => { tabs := partitionPinned (base.tabs ++ [tab]), focusedTabId := some tab.id }

def promoteTab (workspace : TabWorkspace) (tabId : Id) : TabWorkspace :=
  let base := createTabWorkspace workspace
  if (base.findTab tabId).any (·.preview) then
    { base with tabs := base.tabs.map fun tab => if tab.id = tabId then { tab with preview := false } else tab }
  else base

/-- The focus goes to the right-hand neighbour, else to the left-hand one. -/
def closeTab (workspace : TabWorkspace) (tabId : Id) : TabWorkspace :=
  let base := createTabWorkspace workspace
  match base.tabs.findIdx? fun tab => tab.id == tabId with
  | none => base
  | some index =>
    let tabs := base.tabs.filter fun tab => tab.id ≠ tabId
    if base.focusedTabId ≠ some tabId then { base with tabs }
    else
      let left := if index = 0 then none else tabs[index - 1]?
      { tabs, focusedTabId := (tabs[index]?.or left).map (·.id) }

def focusTab (workspace : TabWorkspace) (tabId : Id) : TabWorkspace :=
  let base := createTabWorkspace workspace
  if (base.findTab tabId).isSome then { base with focusedTabId := some tabId } else base

def setTabPinned (workspace : TabWorkspace) (tabId : Id) (pinned : Bool) : TabWorkspace :=
  let base := createTabWorkspace workspace
  if (base.findTab tabId).isSome then
    { base with
      tabs := partitionPinned
        (base.tabs.map fun tab => if tab.id = tabId then normalizeTab { tab with pinned } else tab) }
  else base

/-- What `Number` makes of an index. -/
inductive JsNumber
  | nan
  | minusInfinity
  | infinity
  | finite (value : ℚ)
  deriving DecidableEq, Repr

/-- `Math.min(Math.max(index, lower), upper)`, where it is finite. -/
def clampIndex (index : JsNumber) (lower upper : Nat) : Option ℚ :=
  match index with
  | .nan => none
  | .minusInfinity => some (min lower upper)
  | .infinity => some upper
  | .finite value => some (min (max value lower) upper)

/-- `tabs.splice(index, 0, tab)`. -/
def spliceIn (tabs : List Tab) (index : Nat) (tab : Tab) : List Tab := tabs.insertIdx (min index tabs.length) tab

def moveTab (workspace : TabWorkspace) (tabId : Id) (toIndex : JsNumber) : TabWorkspace :=
  let base := createTabWorkspace workspace
  match base.tabs.findIdx? fun tab => tab.id == tabId with
  | none => base
  | some start =>
    match base.tabs[start]? with
    | none => base
    | some found =>
      -- A tab that is placed by hand is kept.
      let moving := normalizeTab { found with preview := false }
      let pinnedCount := (base.tabs.filter (·.pinned)).length
      let lowerBound := if moving.pinned then 0 else pinnedCount
      let upperBound := if moving.pinned then pinnedCount - 1 else base.tabs.length - 1
      match clampIndex toIndex lowerBound upperBound with
      | none => base
      | some target =>
        if target = start then base
        else { base with tabs := spliceIn (base.tabs.eraseIdx start) ⌊target⌋.toNat moving }

def focusedTab (workspace : TabWorkspace) : Option Tab :=
  workspace.tabs.find? fun tab => workspace.focusedTabId == some tab.id

end Sealwire.Tabs

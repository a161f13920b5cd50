import Sealwire.Attention.States
import Mathlib.Data.Finset.Basic
import Mathlib.Data.List.Nodup
import Mathlib.Data.String.Basic

namespace Sealwire.Attention

inductive PushKind
  | needsInput
  | completed
  | error
  deriving DecidableEq, Repr

structure PushJob where
  kind : PushKind
  threadId : String
  threadName : Option String := none
  reason : Option String := none
  deriving DecidableEq, Repr

structure PushAttentionTracker where
  prev : Option ThreadStates := none
  /-- Threads whose next completed transition an error push has already told of. -/
  suppressed : Finset String := ∅

namespace PushAttentionTracker

def suppressCompleted (tracker : PushAttentionTracker) (threadId : String) : PushAttentionTracker :=
  { tracker with suppressed := insert threadId tracker.suppressed }

/-- One thread's share of the diff. -/
def diffThread (prev next : ThreadStates) (found : Finset String × List PushJob) (id : String) :
    Finset String × List PushJob :=
  let before := prev.stateFor id
  let after := next.stateFor id
  -- A new turn drops a suppression that never met its edge.
  let suppressed := if !before.working && after.working then found.1.erase id else found.1
  if after.needsInput && !before.needsInput then
    (suppressed, found.2 ++ [{ kind := .needsInput, threadId := id }])
  else if before.working && !after.working && !after.needsInput then
    if id ∈ suppressed then (suppressed.erase id, found.2)
    else (suppressed, found.2 ++ [{ kind := .completed, threadId := id }])
  else (suppressed, found.2)

/-- The ids of both maps, sorted. -/
def sortedIds (prev next : ThreadStates) : List String :=
  ((prev.keys ++ next.keys).dedup).mergeSort fun a b => decide (a ≤ b)

def ingestStates (tracker : PushAttentionTracker) (next : ThreadStates) : PushAttentionTracker × List PushJob :=
  match tracker.prev with
  | none => ({ tracker with prev := some next }, [])
  | some prev =>
    let (suppressed, jobs) := (sortedIds prev next).foldl (diffThread prev next) (tracker.suppressed, [])
    ({ prev := some next, suppressed }, jobs)

def ingest (tracker : PushAttentionTracker) (snapshot : SessionSnapshot) : PushAttentionTracker × List PushJob :=
  tracker.ingestStates snapshot.computeThreadStates

end PushAttentionTracker

inductive AttentionKind
  | needsInput
  | completed
  deriving DecidableEq, Repr

structure AttentionEvent where
  threadId : String
  kind : AttentionKind
  notify : Bool
  deriving DecidableEq, Repr

/-- The transition that is worth an event. -/
def transitionKind (before after : ThreadState) : Option AttentionKind :=
  if after.needsInput && !before.needsInput then some .needsInput
  else if before.working && !after.working && !after.needsInput then some .completed
  else none

/-- The badges with whether one of them changed. -/
structure Badges where
  attention : InsertionMap String AttentionKind
  changed : Bool := false

namespace Badges

def setKind (badges : Badges) (id : String) (kind : AttentionKind) : Badges :=
  if badges.attention.get id ≠ some kind then ⟨badges.attention.set id kind, true⟩ else badges

def dropKind (badges : Badges) (id : String) : Badges :=
  if badges.attention.has id then ⟨badges.attention.delete id, true⟩ else badges

/-- The badge of a waiting thread is there as long as it waits. -/
def liveInput (badges : Badges) (thread : String × ThreadState) : Badges :=
  if thread.2.needsInput then badges.setKind thread.1 .needsInput
  else if badges.attention.get thread.1 = some .needsInput then badges.dropKind thread.1
  else badges

def dropGone (next : ThreadStates) (badges : Badges) (badge : String × AttentionKind) : Badges :=
  if badge.2 = .needsInput ∧ ¬ (next.get badge.1).any (·.needsInput) then badges.dropKind badge.1 else badges

/-- The badge of a finished thread stays, unless it waits. -/
def stickyCompleted (badges : Badges) (event : AttentionEvent) : Badges :=
  if event.kind = .completed ∧ event.notify ∧ badges.attention.get event.threadId ≠ some .needsInput then
    badges.setKind event.threadId .completed
  else badges

def resumed (badges : Badges) (thread : String × ThreadState) : Badges :=
  if thread.2.working ∧ ¬ thread.2.needsInput ∧ badges.attention.get thread.1 = some .completed then
    badges.dropKind thread.1
  else badges

end Badges

structure ThreadAttentionTracker where
  prev : Option ThreadStates := none
  attention : InsertionMap String AttentionKind := .empty
  lastViewed : Option String := none
  version : Nat := 0

namespace ThreadAttentionTracker

/-- The keys of both maps, each at its first place. -/
def bothKeys (prev next : ThreadStates) : List String :=
  prev.keys ++ next.keys.filter fun id => id ∉ prev.keys

/-- What the reader looks at while a snapshot comes in. -/
structure Viewing where
  viewedThreadId : Option String := none
  isForeground : Bool := true
  deriving DecidableEq, Repr

def Viewing.away (viewing : Viewing) (id : String) : Bool :=
  !(viewing.isForeground && viewing.viewedThreadId == some id)

def eventsFor (prev next : ThreadStates) (viewing : Viewing) : List AttentionEvent :=
  (bothKeys prev next).filterMap fun threadId =>
    (transitionKind (prev.stateFor threadId) (next.stateFor threadId)).map fun kind =>
      { threadId, kind, notify := viewing.away threadId }

def ingest (tracker : ThreadAttentionTracker) (snapshot : SessionSnapshot) (viewing : Viewing) :
    ThreadAttentionTracker × List AttentionEvent :=
  let next := snapshot.pageThreadStates
  let events :=
    match tracker.prev with
    | none => []
    | some prev => eventsFor prev next viewing
  let badges : Badges := { attention := tracker.attention }
  let badges := next.pairs.foldl Badges.liveInput badges
  let badges := badges.attention.pairs.foldl (Badges.dropGone next) badges
  let badges := events.foldl Badges.stickyCompleted badges
  let badges := next.pairs.foldl Badges.resumed badges
  let viewed := viewing.viewedThreadId.filter (· ≠ "")
  let badges :=
    match viewed with
    | some id =>
      if viewing.isForeground ∧ badges.attention.get id = some AttentionKind.completed then badges.dropKind id else badges
    | none => badges
  ({ prev := some next, attention := badges.attention, lastViewed := viewed.or tracker.lastViewed,
     version := if badges.changed then tracker.version + 1 else tracker.version }, events)

end ThreadAttentionTracker

end Sealwire.Attention

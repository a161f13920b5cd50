import Sealwire.Transcript.OrderKeys
import Sealwire.Transcript.Pages

namespace Sealwire.Transcript

/-- Provider pages one older-page request may read through when they add no rows. -/
def maxProviderHistoryPagesPerRequest : Nat := 32

/-- What a round of `read_provider_history_below` finds before it asks the provider. -/
inductive HistoryLook
  | held
  | repeated
  | unread (position : Nat)

/-- `positions` are those the request has read so far. -/
def LoadedRuntime.lookBelow (loaded : LoadedRuntime) (cursor : TranscriptCursor) (positions : List Nat) : HistoryLook :=
  if loaded.holdsRowsOlderThan cursor then .held
  else
    match loaded.unreadProviderHistory with
    | none => .held
    | some position => if position ∈ positions then .repeated else .unread position

/-- A provider page that came back: another request may have read it first, and its prepend already covered it. -/
def LoadedRuntime.landProviderPage (loaded : LoadedRuntime) (position : Nat)
    (entries : List ProviderTranscriptEntry) (prevCursor : Option Nat) : Option LoadedRuntime :=
  if loaded.unreadProviderHistory = some position then
    (loaded.runtime.prependProviderHistory entries (some position) prevCursor).map fun prepended =>
      { loaded with runtime := prepended.1 }
  else some loaded

/-- The client's token is its last `prev_cursor`. A request that fails leaves the client where it was. -/
inductive WalkPhase
  | start
  | between (token : String)
  | reading (token : String) (cursor : TranscriptCursor) (rounds : Nat) (positions : List Nat)
  | awaiting (token : String) (cursor : TranscriptCursor) (rounds : Nat) (positions : List Nat) (position : Nat)
  | ready (cursor : TranscriptCursor)
  | done

/-- A transcript being walked back. `pages` are the pages served, the last one first, so the oldest rows come first.
`held` are the rows held when the walk began, `prepended` those prepended since, and `appended` those appended since
a page with a row was served. -/
structure Walk where
  loaded : LoadedRuntime
  phase : WalkPhase
  pages : List ThreadTranscriptResponse
  held : List String
  prepended : List String
  appended : List String

def ThreadTranscript.rowIds (t : ThreadTranscript) : List String :=
  t.rows.map (·.rowId)

/-- The rows of `t` that `s` does not have. -/
def newRows (s t : ThreadTranscript) : List String :=
  t.rowIds.filter fun rowId => rowId ∉ s.rowIds

namespace Walk

/-- The pages so far, oldest first. -/
def entries (walk : Walk) : List TranscriptEntryView :=
  walk.pages.flatMap (·.entries)

/-- No page so far has a row. -/
def Rowless (walk : Walk) : Prop :=
  walk.entries = []

instance (walk : Walk) : Decidable walk.Rowless :=
  inferInstanceAs (Decidable (walk.entries = []))

/-- The page is served and its `prev_cursor` is what the client passes back, or the walk is over. -/
def receive (walk : Walk) (page : ThreadTranscriptResponse) : Walk :=
  { walk with
    pages := page :: walk.pages
    phase := match page.prevCursor with
      | some token => .between token
      | none => .done }

/-- A provider page landed. -/
def prepend (walk : Walk) (loaded : LoadedRuntime) : Walk :=
  { walk with
    loaded := loaded
    prepended := walk.prepended ++ newRows walk.loaded.runtime.transcript loaded.runtime.transcript }

/-- A live call ran. -/
def append (walk : Walk) (runtime : ThreadRuntime) : Walk :=
  { walk with
    loaded := { walk.loaded with runtime := runtime }
    appended :=
      if walk.Rowless then walk.appended
      else walk.appended ++ newRows walk.loaded.runtime.transcript runtime.transcript }

end Walk

/-- Live appends and row updates; reads and older pages have calls of their own. -/
def RuntimeCall.isLive : RuntimeCall → Bool
  | .prependPage .. | .mergeHistory .. => false
  | .upsert .. | .agentDelta .. | .commandDelta .. | .reconcile .. | .beginCodex .. | .bindCodex .. | .failCodex ..
  | .finishCodex .. | .setActiveTurn .. => true

/-- A step of the walk, or of the relay around it. `readElsewhere` is a provider page that another request read. -/
inductive WalkEvent
  | live (call : RuntimeCall)
  | setApplyStates (applyStates : Table String FileChangeApplyState)
  | readElsewhere (position : Nat) (entries : List ProviderTranscriptEntry) (prevCursor : Option Nat)
  | latestPage (marks : ThreadInjections)
  | ask
  | look
  | providerPage (entries : List ProviderTranscriptEntry) (prevCursor : Option Nat)
  | providerFails
  | olderPage (marks : ThreadInjections)

def WalkEvent.run (encoding : PageEncoding) (threadId : String) (walk : Walk) : WalkEvent → Option Walk
  | .live call => if call.isLive then (call.run walk.loaded.runtime).map walk.append else none
  | .setApplyStates applyStates => some { walk with loaded := { walk.loaded with applyStates := applyStates } }
  | .readElsewhere position entries prevCursor =>
    (walk.loaded.landProviderPage position entries prevCursor).map walk.prepend
  | .latestPage marks =>
    match walk.phase with
    | .start =>
      let begun := { walk with held := walk.loaded.runtime.transcript.rowIds }
      some (begun.receive (walk.loaded.transcriptPage encoding threadId none marks))
    | _ => none
  | .ask =>
    match walk.phase with
    | .between token =>
      match walk.loaded.transcriptKeySpace.decode token with
      | .ok cursor => some { walk with phase := .reading token cursor maxProviderHistoryPagesPerRequest [] }
      | .error _ => none
    | _ => none
  | .look =>
    match walk.phase with
    | .reading token _ 0 _ => some { walk with phase := .between token }
    | .reading token cursor (rounds + 1) positions =>
      match walk.loaded.lookBelow cursor positions with
      | .held => some { walk with phase := .ready cursor }
      | .repeated => some { walk with phase := .between token }
      | .unread position =>
        some { walk with phase := .awaiting token cursor rounds (position :: positions) position }
    | _ => none
  | .providerPage entries prevCursor =>
    match walk.phase with
    | .awaiting token cursor rounds positions position =>
      (walk.loaded.landProviderPage position entries prevCursor).map fun loaded =>
        { walk.prepend loaded with phase := .reading token cursor rounds positions }
    | _ => none
  | .providerFails =>
    match walk.phase with
    | .awaiting token .. => some { walk with phase := .between token }
    | _ => none
  | .olderPage marks =>
    match walk.phase with
    | .ready cursor => some (walk.receive (walk.loaded.transcriptPage encoding threadId (some cursor) marks))
    | _ => none

/-- A runtime as a relay comes to hold it, with whatever its provider said of the history below. -/
structure Walk.Starts (walk : Walk) : Prop where
  reached : ∃ first, FreshRuntime first ∧ ∃ last, RuntimeRun (fun _ _ => True) first last ∧
    ∃ cursor, walk.loaded.runtime = { last with providerHistoryCursor := cursor }
  phase : walk.phase = .start
  pages : walk.pages = []
  prepended : walk.prepended = []
  appended : walk.appended = []
  held : walk.held = []

inductive WalkRun (encoding : PageEncoding) (threadId : String) (first : Walk) : Walk → Prop
  | start : WalkRun encoding threadId first first
  | next {walk after : Walk} (run : WalkRun encoding threadId first walk) {event : WalkEvent}
      (step : event.run encoding threadId walk = some after) : WalkRun encoding threadId first after

end Sealwire.Transcript

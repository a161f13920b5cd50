import Sealwire.Transcript.Runtime
import Sealwire.Transcript.StoreRuns

namespace Sealwire.Transcript

/-- The transcript operations of a runtime. A revision is one the relay's clock gave. -/
inductive RuntimeCall
  | upsert (itemId : String) (space : IdSpace) (kind : TranscriptEntryKind) (text : Option String) (status : String)
      (turnId : Option String) (tool : Option ToolCallView) (revision : UInt64)
  | agentDelta (space : IdSpace) (itemId delta turnId : String) (revision : UInt64)
  | commandDelta (itemId delta : String) (revision : UInt64)
  | prependPage (entries : List ProviderTranscriptEntry) (requestedCursor prevCursor : Option Nat)
  | mergeHistory (records : List TranscriptRecord) (readStartedAtRevision : Option UInt64)
  | reconcile (providerItemId text turnId : String) (revision : UInt64)
  | beginCodex (generation threadId text : String) (revision : UInt64)
  | bindCodex (reservationId turnId : String) (revision : UInt64)
  | failCodex (reservationId : String) (revision : UInt64)
  | finishCodex (turnId : String)
  | setActiveTurn (turnId : Option String)

def RuntimeCall.run (runtime : ThreadRuntime) : RuntimeCall → Option ThreadRuntime
  | .upsert itemId space kind text status turnId tool revision =>
    (runtime.upsertItem itemId space kind text status turnId tool revision).map Prod.fst
  | .agentDelta space itemId delta turnId revision =>
    (runtime.appendAgentDelta space itemId delta turnId revision).map Prod.fst
  | .commandDelta itemId delta revision => (runtime.appendCommandDelta itemId delta revision).map Prod.fst
  | .prependPage entries requestedCursor prevCursor =>
    (runtime.prependProviderHistory entries requestedCursor prevCursor).map Prod.fst
  | .mergeHistory records readStartedAtRevision =>
    (runtime.mergeTranscriptRecordsAfterReadStart records readStartedAtRevision).map Prod.fst
  | .reconcile providerItemId text turnId revision =>
    some (runtime.reconcileCodexUserReservation providerItemId text turnId revision).1
  | .beginCodex generation threadId text revision =>
    (runtime.beginCodexUserTurn generation threadId text revision).map Prod.fst
  | .bindCodex reservationId turnId revision => some (runtime.bindCodexUserReservation reservationId turnId revision)
  | .failCodex reservationId revision => some (runtime.failCodexUserTurnDefinitive reservationId revision)
  | .finishCodex turnId => some (runtime.finishCodexStartReservation turnId)
  | .setActiveTurn turnId => some { runtime with activeTurnId := turnId }

/-- A run of calls, each allowed in the state it meets and none of them aborting. -/
inductive RuntimeRun (allowed : ThreadRuntime → RuntimeCall → Prop) (first : ThreadRuntime) : ThreadRuntime → Prop
  | start : RuntimeRun allowed first first
  | next {s t : ThreadRuntime} (run : RuntimeRun allowed first s) {c : RuntimeCall} (permitted : allowed s c)
      (step : c.run s = some t) : RuntimeRun allowed first t

theorem RuntimeRun.induct {allowed : ThreadRuntime → RuntimeCall → Prop} {first last : ThreadRuntime}
    {holds : ThreadRuntime → Prop} (run : RuntimeRun allowed first last) (at_start : holds first)
    (keeps : ∀ s t c, holds s → allowed s c → c.run s = some t → holds t) : holds last := by
  induction run with
  | start => exact at_start
  | @next s t _ c permitted step ih => exact keeps s t c ih permitted step

def plainEntry (itemId : Option String) : TranscriptEntryView where
  rowId := none
  itemId := itemId
  orderSeq := none
  withdrawn := false
  kind := .agentText
  text := none
  status := "completed"
  turnId := none
  tool := none
  contentState := .full

end Sealwire.Transcript

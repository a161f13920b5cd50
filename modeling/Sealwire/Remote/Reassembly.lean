import Sealwire.Lib.Table
import Sealwire.Remote.Chunks

namespace Sealwire.Remote

/-- An answer that the relay split: who it is for, and the payloads made from its own text. -/
structure Train {Result Envelope : Type} (wire : Wire Result Envelope) where
  header : ReplyHeader
  plaintext : Result
  payloads : List (ChunkPayload Envelope)
  built : buildEncryptedRemoteActionResultChunkPayloads wire header plaintext = .ok payloads

inductive EncryptedReply (Envelope : Type)
  | result (payload : ResultPayload Envelope)
  | chunk (payload : ChunkPayload Envelope)
  deriving DecidableEq

/-- The pieces of an answer that have arrived. -/
structure PendingChunks where
  action : String
  chunkCount : Nat
  chunks : List (Option String)
  receivedCount : Nat
  deriving DecidableEq

namespace PendingChunks

def new (action : String) (chunkCount : Nat) : PendingChunks where
  action := action
  chunkCount := chunkCount
  chunks := .replicate chunkCount none
  receivedCount := 0

def advances (pending : PendingChunks) (chunkIndex : Nat) : Bool :=
  pending.chunks.getD chunkIndex none = none

def receive (pending : PendingChunks) (chunkIndex : Nat) (data : String) : PendingChunks :=
  { pending with
    receivedCount := if pending.advances chunkIndex then pending.receivedCount + 1 else pending.receivedCount
    chunks := pending.chunks.set chunkIndex (some data) }

end PendingChunks

/-- The loop of `reassembleRemoteActionResultChunks`. -/
def reassembleFrom (index : Nat) (serialized : String) : List (Option String) → Except String String
  | [] => .ok serialized
  | none :: _ => .error ("remote action result chunk " ++ toString (index + 1) ++ " is missing")
  | some chunk :: chunks => reassembleFrom (index + 1) (serialized ++ chunk) chunks

def reassembleRemoteActionResultChunks {Result Envelope : Type} (wire : Wire Result Envelope)
    (chunks : List (Option String)) : Except String Result :=
  reassembleFrom 0 "" chunks >>= wire.parse

/-- How the promise of an action was settled: by a whole reply, by chunks, or by an error. -/
inductive Settlement (Result : Type)
  | whole (result : Result)
  | chunks (result : Result)
  | rejected (error : String)
  deriving DecidableEq

/-- What the phone holds for the replies it waits for. `opening` are the frames it accepted and is decrypting; `settled`
has every action that was settled, latest first. -/
structure Replies (Result Envelope : Type) where
  socketPeerId : Option String
  deviceId : Option String
  opening : List (EncryptedReply Envelope)
  pendingActions : List String
  pendingActionChunks : Table String PendingChunks
  settled : List (String × Settlement Result)

inductive ReplyEvent (Envelope : Type)
  | bind (socketPeerId deviceId : Option String)
  | register (actionId : String)
  | receive (reply : EncryptedReply Envelope)
  | opened (k : Nat)
  | reject (actionId error : String)
  | rejectAll (error : String)

namespace Replies

variable {Result Envelope : Type}

def new : Replies Result Envelope where
  socketPeerId := none
  deviceId := none
  opening := []
  pendingActions := []
  pendingActionChunks := ∅
  settled := []

def clearPendingActionChunks (w : Replies Result Envelope) (actionId : String) : Replies Result Envelope :=
  if actionId = "" then w else { w with pendingActionChunks := w.pendingActionChunks.drop actionId }

def settle (w : Replies Result Envelope) (actionId : String) (how : Settlement Result) : Replies Result Envelope :=
  { w with pendingActions := w.pendingActions.filter (· ≠ actionId), settled := (actionId, how) :: w.settled }

def rejectPendingAction (w : Replies Result Envelope) (actionId error : String) : Replies Result Envelope :=
  if actionId = "" then w
  else if actionId ∈ w.pendingActions then (w.clearPendingActionChunks actionId).settle actionId (.rejected error)
  else w.clearPendingActionChunks actionId

def settlePendingAction (w : Replies Result Envelope) (actionId : String) (how : Settlement Result) :
    Replies Result Envelope :=
  if actionId = "" then w
  else if actionId ∈ w.pendingActions then (w.clearPendingActionChunks actionId).settle actionId how
  else w

def handleRemoteActionResult (w : Replies Result Envelope) (actionId : String) (how : Settlement Result) :
    Replies Result Envelope :=
  (w.clearPendingActionChunks actionId).settlePendingAction actionId how

def handleRemoteActionResultChunk (wire : Wire Result Envelope) (w : Replies Result Envelope) (actionId : String)
    (chunk : RemoteActionResultChunkPlaintext) : Replies Result Envelope :=
  if actionId = "" ∨ actionId ∉ w.pendingActions then w.clearPendingActionChunks actionId
  else if chunk.chunkCount = 0 ∨ chunk.chunkIndex ≥ chunk.chunkCount then
    w.rejectPendingAction actionId "remote action chunk is malformed"
  else
    let pending := (w.pendingActionChunks.get actionId).getD (.new chunk.action chunk.chunkCount)
    if pending.chunkCount ≠ chunk.chunkCount then
      w.rejectPendingAction actionId "remote action chunk count changed mid-stream"
    else
      let pending := pending.receive chunk.chunkIndex chunk.data
      if pending.receivedCount ≠ chunk.chunkCount then
        { w with pendingActionChunks := w.pendingActionChunks.put actionId pending }
      else
        let w := w.clearPendingActionChunks actionId
        match reassembleRemoteActionResultChunks wire pending.chunks with
        | .ok result => w.handleRemoteActionResult actionId (.chunks result)
        | .error error => w.rejectPendingAction actionId error

def handleEncryptedRemoteActionResult (wire : Wire Result Envelope) (w : Replies Result Envelope)
    (payload : ResultPayload Envelope) : Replies Result Envelope :=
  match wire.decryptResult payload.envelope with
  | some result => w.handleRemoteActionResult payload.actionId (.whole result)
  | none => w

def handleEncryptedRemoteActionResultChunk (wire : Wire Result Envelope) (w : Replies Result Envelope)
    (payload : ChunkPayload Envelope) : Replies Result Envelope :=
  match wire.decrypt payload.envelope with
  | some chunk =>
    if chunk.actionId ≠ payload.actionId ∨ chunk.action ≠ payload.action ∨ chunk.chunkIndex ≠ payload.chunkIndex ∨
        chunk.chunkCount ≠ payload.chunkCount then
      w.rejectPendingAction payload.actionId "remote action chunk metadata mismatch"
    else w.handleRemoteActionResultChunk wire payload.actionId chunk
  | none => w

def handle (wire : Wire Result Envelope) (w : Replies Result Envelope) : EncryptedReply Envelope → Replies Result Envelope
  | .result payload => w.handleEncryptedRemoteActionResult wire payload
  | .chunk payload => w.handleEncryptedRemoteActionResultChunk wire payload

/-- A frame for another surface is ignored. -/
def accepts (w : Replies Result Envelope) : EncryptedReply Envelope → Bool
  | .result payload => some payload.targetPeerId = w.socketPeerId ∧ some payload.deviceId = w.deviceId
  | .chunk payload => some payload.targetPeerId = w.socketPeerId ∧ some payload.deviceId = w.deviceId

def rejectPendingActions (w : Replies Result Envelope) (error : String) : Replies Result Envelope :=
  { w.pendingActions.foldl (fun w actionId => w.rejectPendingAction actionId error) w with pendingActionChunks := ∅ }

def step (wire : Wire Result Envelope) (w : Replies Result Envelope) : ReplyEvent Envelope → Replies Result Envelope
  | .bind socketPeerId deviceId => { w with socketPeerId := socketPeerId, deviceId := deviceId }
  | .register actionId =>
    -- `makeActionId` never makes an empty name.
    if actionId = "" ∨ actionId ∈ w.pendingActions then w
    else { w with pendingActions := w.pendingActions ++ [actionId] }
  | .receive reply => if w.accepts reply then { w with opening := w.opening ++ [reply] } else w
  | .opened k =>
    match w.opening[k]? with
    | some reply => handle wire { w with opening := w.opening.eraseIdx k } reply
    | none => w
  | .reject actionId error => w.rejectPendingAction actionId error
  | .rejectAll error => w.rejectPendingActions error

/-- What the relay sends: chunks come from its trains. -/
def FromRelay {wire : Wire Result Envelope} (trains : List (Train wire)) : ReplyEvent Envelope → Prop
  | .receive (.chunk payload) => ∃ train ∈ trains, payload ∈ train.payloads
  | _ => True

end Replies

/-- The piece of the text at this place. -/
def Train.piece {Result Envelope : Type} {wire : Wire Result Envelope} (train : Train wire) (k : Nat) : Option String :=
  train.payloads[k]?.bind fun payload => (wire.decrypt payload.envelope).map fun chunk => chunk.data

/-- Every place but this one holds the piece of this train. -/
def PendingChunks.RestOf {Result Envelope : Type} {wire : Wire Result Envelope} (pending : PendingChunks)
    (train : Train wire) (chunkIndex : Nat) : Prop :=
  ∀ k < pending.chunkCount, k ≠ chunkIndex → pending.chunks[k]? = some (train.piece k)

/-- The pieces kept for the action of a chunk are as many as its train has, and where it fills the last place that is
open, those at the other places were last delivered by its train. -/
def Replies.ChunkMeets {Result Envelope : Type} {wire : Wire Result Envelope} (trains : List (Train wire))
    (w : Replies Result Envelope) (payload : ChunkPayload Envelope) : Prop :=
  ∀ pending ∈ w.pendingActionChunks.get payload.actionId,
    pending.chunkCount = payload.chunkCount ∧
      (pending.receivedCount + 1 = pending.chunkCount → pending.advances payload.chunkIndex = true →
        ∃ train ∈ trains, payload ∈ train.payloads ∧ pending.RestOf train payload.chunkIndex)

/-- The condition on a step: it is one on the chunks of actions that are pending. -/
def Replies.Meets {Result Envelope : Type} {wire : Wire Result Envelope} (trains : List (Train wire))
    (w : Replies Result Envelope) : ReplyEvent Envelope → Prop
  | .opened k => ∀ payload, w.opening[k]? = some (.chunk payload) → payload.actionId ∈ w.pendingActions →
    w.ChunkMeets trains payload
  | _ => True

/-- The step neither fails the action nor brings a whole reply to it. -/
def Replies.LeavesToChunks {Result Envelope : Type} (actionId : String) (w : Replies Result Envelope) :
    ReplyEvent Envelope → Prop
  | .reject other _ => other ≠ actionId
  | .rejectAll _ => False
  | .opened k => ∀ payload, w.opening[k]? = some (.result payload) → payload.actionId ≠ actionId
  | _ => True

section Runs

variable {Result Envelope : Type} {wire : Wire Result Envelope}

/-- The runs of the phone, with chunks from these trains only. -/
inductive ReplyRuns (trains : List (Train wire)) (allowed : Replies Result Envelope → ReplyEvent Envelope → Prop) :
    Replies Result Envelope → Prop
  | start : ReplyRuns trains allowed .new
  | step {w : Replies Result Envelope} (run : ReplyRuns trains allowed w) (event : ReplyEvent Envelope)
      (sent : Replies.FromRelay trains event) (is : allowed w event) : ReplyRuns trains allowed (w.step wire event)

/-- Every step along these events is allowed. -/
def RepliesAllowed (trains : List (Train wire)) (allowed : Replies Result Envelope → ReplyEvent Envelope → Prop)
    (w : Replies Result Envelope) : List (ReplyEvent Envelope) → Prop
  | [] => True
  | event :: events =>
    (Replies.FromRelay trains event ∧ allowed w event) ∧ RepliesAllowed trains allowed (w.step wire event) events

theorem ReplyRuns.along {trains : List (Train wire)} {allowed : Replies Result Envelope → ReplyEvent Envelope → Prop}
    {w : Replies Result Envelope} (run : ReplyRuns trains allowed w) (events : List (ReplyEvent Envelope))
    (all : RepliesAllowed trains allowed w events) : ReplyRuns trains allowed (events.foldl (Replies.step wire) w) := by
  induction events generalizing w with
  | nil => exact run
  | cons event events ih => exact ih (run.step event all.1.1 all.1.2) all.2

def Replies.handled (w : Replies Result Envelope) : ReplyEvent Envelope → List (EncryptedReply Envelope)
  | .opened k => w.opening[k]?.toList
  | _ => []

/-- The frames that are handled along these events. -/
def handledAlong (wire : Wire Result Envelope) (w : Replies Result Envelope) :
    List (ReplyEvent Envelope) → List (EncryptedReply Envelope)
  | [] => []
  | event :: events => w.handled event ++ handledAlong wire (w.step wire event) events

end Runs

end Sealwire.Remote

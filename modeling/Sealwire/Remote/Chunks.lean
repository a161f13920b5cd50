import Mathlib.Algebra.Group.Nat.Defs
import Mathlib.Data.List.Basic

namespace Sealwire.Remote

def remoteActionResultChunkTargetChars : Nat := 32768

def remoteActionResultChunkMinChars : Nat := 1024

def maxBrokerTextFrameBytes : Nat := 65536

def usizeMax : Nat := 2 ^ 64 - 1

structure RemoteActionResultChunkPlaintext where
  actionId : String
  action : String
  chunkIndex : Nat
  chunkCount : Nat
  data : String
  deriving DecidableEq

/-- `encrypted_remote_action_result_chunk`. -/
structure ChunkPayload (Envelope : Type) where
  actionId : String
  targetPeerId : String
  deviceId : String
  action : String
  chunkIndex : Nat
  chunkCount : Nat
  envelope : Envelope
  deriving DecidableEq

/-- `encrypted_remote_action_result`. -/
structure ResultPayload (Envelope : Type) where
  actionId : String
  targetPeerId : String
  deviceId : String
  envelope : Envelope
  deriving DecidableEq

/-- What the relay and the phone share: the JSON text of a result, and the encryption of a result or of a piece of its
text under the secret of the device. -/
structure Wire (Result Envelope : Type) where
  serialized : Result → Except String String
  parse : String → Except String Result
  parses {result : Result} {text : String} : serialized result = .ok text → parse text = .ok result
  encrypt : RemoteActionResultChunkPlaintext → Except String Envelope
  decrypt : Envelope → Option RemoteActionResultChunkPlaintext
  decrypts {chunk : RemoteActionResultChunkPlaintext} {envelope : Envelope} :
    encrypt chunk = .ok envelope → decrypt envelope = some chunk
  decryptResult : Envelope → Option Result
  frameBytes : ChunkPayload Envelope → Nat

/-- The finished pieces and the one that is being filled. -/
def splitStep (maxChars : Nat) (pieces : List (List Char) × List Char) (c : Char) : List (List Char) × List Char :=
  if pieces.2.length = maxChars then (pieces.1 ++ [pieces.2], [c]) else (pieces.1, pieces.2 ++ [c])

def splitOnCharBoundaries (value : String) (maxChars : Nat) : List String :=
  let (pieces, piece) := value.toList.foldl (splitStep (max maxChars 1)) ([], [])
  (pieces ++ [piece]).map String.ofList

/-- The size of a piece's frame, or the most there is where it could not be measured, with the first error so far. -/
def measureStep (frameBytes : String → Nat → Nat → Except String Nat) (chunkCount : Nat) (largest : Nat × Option String)
    (piece : String) : Nat × Option String :=
  match frameBytes piece (chunkCount - 1) chunkCount with
  | .ok bytes => (max largest.1 bytes, largest.2)
  | .error error => (max largest.1 usizeMax, largest.2.or (some error))

def measure (frameBytes : String → Nat → Nat → Except String Nat) (pieces : List String) (fitError : Option String) :
    Nat × Option String :=
  pieces.foldl (measureStep frameBytes pieces.length) (0, fitError)

/-- The loop of `fit_chunks`. -/
def fitChunksFrom (serialized : String) (frameBytes : String → Nat → Nat → Except String Nat) (chunkChars : Nat)
    (fitError : Option String) : Option (List String) × Option String :=
  let pieces := splitOnCharBoundaries serialized chunkChars
  let (largest, fitError) := measure frameBytes pieces fitError
  if largest ≤ maxBrokerTextFrameBytes then (some pieces, fitError)
  else if chunkChars ≤ remoteActionResultChunkMinChars then (none, fitError)
  else fitChunksFrom serialized frameBytes (max (chunkChars / 2) remoteActionResultChunkMinChars) fitError
termination_by chunkChars
decreasing_by
  simp only [remoteActionResultChunkMinChars] at *
  omega

def fitChunks (serialized : String) (targetChars : Nat) (frameBytes : String → Nat → Nat → Except String Nat) :
    Option (List String) × Option String :=
  let totalChars := serialized.toList.length
  fitChunksFrom serialized frameBytes (max (min totalChars targetChars) 1) none

/-- Who asked for what: the fields that every piece of an answer repeats. -/
structure ReplyHeader where
  actionId : String
  targetPeerId : String
  deviceId : String
  action : String
  deriving DecidableEq

namespace ReplyHeader

def plaintext (header : ReplyHeader) (chunkIndex chunkCount : Nat) (piece : String) : RemoteActionResultChunkPlaintext where
  actionId := header.actionId
  action := header.action
  chunkIndex := chunkIndex
  chunkCount := chunkCount
  data := piece

def payload {Envelope : Type} (header : ReplyHeader) (chunkIndex chunkCount : Nat) (envelope : Envelope) :
    ChunkPayload Envelope where
  actionId := header.actionId
  targetPeerId := header.targetPeerId
  deviceId := header.deviceId
  action := header.action
  chunkIndex := chunkIndex
  chunkCount := chunkCount
  envelope := envelope

end ReplyHeader

section Build

variable {Result Envelope : Type} (wire : Wire Result Envelope)

def chunkPayload (header : ReplyHeader) (chunkIndex chunkCount : Nat) (piece : String) :
    Except String (ChunkPayload Envelope) := do
  let envelope ← wire.encrypt (header.plaintext chunkIndex chunkCount piece)
  pure (header.payload chunkIndex chunkCount envelope)

def chunkPayloads (header : ReplyHeader) (chunkCount : Nat) : Nat → List String →
    Except String (List (ChunkPayload Envelope))
  | _, [] => pure []
  | chunkIndex, piece :: pieces => do
    let payload ← chunkPayload wire header chunkIndex chunkCount piece
    let payloads ← chunkPayloads header chunkCount (chunkIndex + 1) pieces
    pure (payload :: payloads)

def buildEncryptedRemoteActionResultChunkPayloads (header : ReplyHeader) (plaintext : Result) :
    Except String (List (ChunkPayload Envelope)) := do
  let serialized ← wire.serialized plaintext
  let (pieces, fitError) := fitChunks serialized remoteActionResultChunkTargetChars fun piece chunkIndex chunkCount =>
    (chunkPayload wire header chunkIndex chunkCount piece).map wire.frameBytes
  match fitError with
  | some error => throw error
  | none =>
    match pieces with
    | none => throw "encrypted remote action result chunk payload still exceeds broker frame limit"
    | some pieces => chunkPayloads wire header pieces.length 0 pieces

end Build

theorem splitStep_joins (maxChars : Nat) (chars : List Char) (pieces : List (List Char) × List Char) :
    (chars.foldl (splitStep maxChars) pieces).1.flatten ++ (chars.foldl (splitStep maxChars) pieces).2 =
      pieces.1.flatten ++ pieces.2 ++ chars := by
  induction chars generalizing pieces with
  | nil => simp
  | cons c chars ih =>
    rw [List.foldl_cons, ih]
    unfold splitStep
    split <;> simp

theorem join_ofList (pieces : List (List Char)) : String.join (pieces.map String.ofList) = String.ofList pieces.flatten := by
  induction pieces with
  | nil => rfl
  | cons piece pieces ih => simp [String.join_cons, ih, String.ofList_append]

/-- The pieces make up the text again. -/
theorem splitOnCharBoundaries_join (value : String) (maxChars : Nat) :
    String.join (splitOnCharBoundaries value maxChars) = value := by
  unfold splitOnCharBoundaries
  rw [join_ofList]
  simp [splitStep_joins]

theorem splitOnCharBoundaries_ne_nil (value : String) (maxChars : Nat) : splitOnCharBoundaries value maxChars ≠ [] := by
  simp [splitOnCharBoundaries]

theorem fitChunksFrom_split {serialized : String} {frameBytes : String → Nat → Nat → Except String Nat} {chunkChars : Nat}
    {fitError : Option String} {pieces : List String}
    (fits : (fitChunksFrom serialized frameBytes chunkChars fitError).1 = some pieces) :
    ∃ maxChars, pieces = splitOnCharBoundaries serialized maxChars := by
  fun_induction fitChunksFrom serialized frameBytes chunkChars fitError with
  | case1 chunkChars fitError split largest error measured small =>
    exact ⟨chunkChars, (Option.some.inj fits).symm⟩
  | case2 => cases fits
  | case3 chunkChars fitError split largest error measured large above ih => exact ih fits

/-- The first pieces of a text fill up one after the other. -/
theorem splitStep_fill {maxChars : Nat} {pieces : List (List Char)} {piece chars : List Char}
    (room : piece.length + chars.length ≤ maxChars) :
    chars.foldl (splitStep maxChars) (pieces, piece) = (pieces, piece ++ chars) := by
  induction chars generalizing piece with
  | nil => simp
  | cons c chars ih =>
    have more : piece.length ≠ maxChars := by simp only [List.length_cons] at room; omega
    rw [List.foldl_cons, splitStep, if_neg more, ih (by simp only [List.length_append, List.length_cons, List.length_nil] at *; omega)]
    simp

end Sealwire.Remote

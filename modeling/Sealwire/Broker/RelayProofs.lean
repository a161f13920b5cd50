import Mathlib.Data.Finmap
import Sealwire.Broker.ProofMessages
import Sealwire.Lib.Json
import Sealwire.Lib.RowStore
import Sealwire.Lib.Runs
import Sealwire.Lib.Text
import Sealwire.Lib.Word

namespace Sealwire.Broker

structure RelayProofIdentity where
  refreshTokenHash : String
  relayId : String
  brokerRoomId : String
  brokerOrigin : String
  relayVerifyKey : String
  deriving DecidableEq

inductive RelayProofTarget
  | wsTicket (peerId : String)
  | control (operation requestSha256 : String)
  deriving DecidableEq

inductive RelayProofFamily
  | wsTicket
  | control
  deriving DecidableEq

namespace RelayProofTarget

def family : RelayProofTarget → RelayProofFamily
  | .wsTicket _ => .wsTicket
  | .control .. => .control

def label : RelayProofTarget → String
  | .wsTicket _ => "relay ws ticket"
  | .control .. => "relay control"

end RelayProofTarget

def RelayProofFamily.idPrefix : RelayProofFamily → String
  | .wsTicket => "wch"
  | .control => "cch"

def RelayProofFamily.noncePrefix : RelayProofFamily → String
  | .wsTicket => "wt"
  | .control => "ct"

/-- How many challenges of a family one relay may have pending. -/
def RelayProofFamily.capacity : RelayProofFamily → Nat
  | .wsTicket => 64
  | .control => 64

structure RelayProofContext where
  identity : RelayProofIdentity
  target : RelayProofTarget
  deriving DecidableEq

namespace RelayProofContext

def message (context : RelayProofContext) (id nonce : String) : Except String (List UInt8) :=
  let identity := context.identity
  match context.target with
  | .wsTicket peerId =>
    relayWsTicketMessage identity.brokerOrigin id nonce identity.relayId identity.brokerRoomId peerId
      identity.refreshTokenHash
  | .control operation requestSha256 =>
    relayControlMessage identity.brokerOrigin id nonce operation identity.relayId identity.brokerRoomId
      identity.refreshTokenHash requestSha256

/-- The fields the message is about. -/
def signedMessage (context : RelayProofContext) (id nonce : String) : SignedMessage :=
  let identity := context.identity
  match context.target with
  | .wsTicket peerId =>
    .relayWsTicket identity.brokerOrigin id nonce identity.relayId identity.brokerRoomId peerId
      identity.refreshTokenHash
  | .control operation requestSha256 =>
    .relayControl identity.brokerOrigin id nonce operation identity.relayId identity.brokerRoomId
      identity.refreshTokenHash requestSha256

theorem message_eq (context : RelayProofContext) (id nonce : String) :
    context.message id nonce = (context.signedMessage id nonce).bytes := by
  obtain ⟨identity, target⟩ := context
  cases target <;> rfl

end RelayProofContext

structure PendingRelayProofChallenge where
  context : RelayProofContext
  challenge : String
  expiresAt : UInt64

/-- What the proofs read of a relay's registration. -/
structure RelayRegistration where
  relayId : String
  brokerRoomId : String
  relayVerifyKey : Option String

/-- The code outside the repository, and the broker's settings: SHA-256 in hex, whether a
key parses, whether a signature in base64 verifies under a key, whether a bearer has the shape of
a relay credential, and the JSON parser. -/
structure ProofEnvironment where
  sha256Hex : List UInt8 → String
  validKey : String → Bool
  verifies : String → List UInt8 → String → Bool
  knownBearer : String → Bool
  parseJson : List UInt8 → Option Json
  ticketOrigin : String
  challengeTtlSecs : UInt64

def trimmedOptionString (value : String) : Option String :=
  if trim value = "" then none else some (trim value)

def maxIdBytes : Nat := 128

def checkIdLength (name value : String) : Except String Unit :=
  if maxIdBytes < value.utf8ByteSize then .error (name ++ " is too long") else .ok ()

section Calls

variable (env : ProofEnvironment)

def enrolledRelayVerifyKey (registration : RelayRegistration) : Except String String :=
  match registration.relayVerifyKey.bind trimmedOptionString with
  | none => .error "relay registration has no enrolled verify key"
  | some verifyKey => if env.validKey verifyKey then .ok verifyKey else .error "relay verify key is invalid"

def authenticateRelay (registrations : Table String RelayRegistration) (bearer relayId brokerRoomId : String) :
    Except String RelayRegistration :=
  if env.knownBearer bearer then
    match registrations.get (env.sha256Hex (utf8Bytes (trim bearer))) with
    | none => .error "relay refresh token is invalid"
    | some registration =>
      if registration.relayId ≠ relayId then .error "relay refresh token does not match relay_id"
      else if registration.brokerRoomId ≠ brokerRoomId then
        .error "relay refresh token does not match broker_room_id"
      else .ok registration
  else .error "relay refresh token is invalid"

def relayProofIdentity (registrations : Table String RelayRegistration) (bearer relayId room : String) :
    Except String RelayProofIdentity := do
  let registration ← authenticateRelay env registrations bearer relayId room
  let relayVerifyKey ← enrolledRelayVerifyKey env registration
  .ok
    { refreshTokenHash := env.sha256Hex (utf8Bytes (trim bearer))
      relayId := registration.relayId
      brokerRoomId := registration.brokerRoomId
      brokerOrigin := env.ticketOrigin
      relayVerifyKey := relayVerifyKey }

/-- `str::strip_prefix` then `str::strip_suffix`. -/
def between (before after text : String) : Option String :=
  if before.toList <+: text.toList then
    let rest := text.toList.drop before.toList.length
    if after.toList <:+ rest then some (String.ofList (rest.take (rest.length - after.toList.length))) else none
  else none

def exactOperations : List String :=
  ["POST /api/public/devices", "POST /api/public/clients/grants", "POST /api/public/pairing/ws-token",
    "POST /api/public/devices/revoke-others", "POST /api/public/relay/access/release"]

def validateRelayControlOperation (operation : String) : Except String Unit :=
  if exactOperations.contains operation then .ok ()
  else
    match between "POST /api/public/devices/" "/revoke" operation with
    | none => .error "relay control operation is not allowed"
    | some deviceId =>
      if deviceId = "" ∨ deviceId.toList.contains '/' then .error "relay control operation is not allowed"
      else checkIdLength "device id" deviceId

def isAsciiHexdigit (c : Char) : Bool :=
  ('0' ≤ c && c ≤ '9') || ('a' ≤ c && c ≤ 'f') || ('A' ≤ c && c ≤ 'F')

/-- The four calls, with what the request carries. -/
inductive RelayProofCall
  | createWsTicketChallenge (bearer relayId brokerRoomId relayPeerId : String)
  | issueWsToken (bearer relayId brokerRoomId relayPeerId challengeId challengeSignature : String)
  | createControlChallenge (bearer relayId brokerRoomId operation requestSha256 : String)
  | consumeControlProof (bearer operation : String) (body : List UInt8) (challengeId signature : String)
  deriving DecidableEq

/-- What is left of a call once its relay was read: the section under the challenges' lock. -/
inductive RelayProofSection
  | create (context : RelayProofContext)
  | consume (context : RelayProofContext) (challengeId signature : String)
  deriving DecidableEq

def required (value : Option String) (error : String) : Except String String :=
  match value with
  | some text => .ok text
  | none => .error error

def bodyText (body : Json) (name : String) : String :=
  trim (((body.field name).bind Json.asStr).getD "")

/-- A call up to the challenges' lock. It reads the registrations once. -/
def RelayProofCall.prepare (registrations : Table String RelayRegistration) :
    RelayProofCall → Except String RelayProofSection
  | .createWsTicketChallenge bearer relayId brokerRoomId relayPeerId => do
    let identity ← relayProofIdentity env registrations bearer relayId brokerRoomId
    let peerId ← required (trimmedOptionString relayPeerId) "relay peer id is required"
    checkIdLength "relay peer id" peerId
    .ok (.create ⟨identity, .wsTicket peerId⟩)
  | .issueWsToken bearer relayId brokerRoomId relayPeerId challengeId challengeSignature => do
    let identity ← relayProofIdentity env registrations bearer relayId brokerRoomId
    let challengeId ← required (trimmedOptionString challengeId) "relay ws ticket challenge id is required"
    let signature ← required (trimmedOptionString challengeSignature)
      "relay ws ticket challenge signature is required"
    let peerId ← required (trimmedOptionString relayPeerId) "relay peer id is required"
    checkIdLength "relay peer id" peerId
    checkIdLength "relay ws ticket challenge id" challengeId
    .ok (.consume ⟨identity, .wsTicket peerId⟩ challengeId signature)
  | .createControlChallenge bearer relayId brokerRoomId operation requestSha256 => do
    let operation := trim operation
    validateRelayControlOperation operation
    let hash := trim requestSha256
    if hash.utf8ByteSize ≠ 64 ∨ ¬ hash.toList.all isAsciiHexdigit then
      .error "relay control request hash is required"
    else do
      let identity ← relayProofIdentity env registrations bearer relayId brokerRoomId
      .ok (.create ⟨identity, .control operation (String.ofList (hash.toList.map Char.toLower))⟩)
  | .consumeControlProof bearer operation body challengeId signature => do
    match env.parseJson body with
    | none => .error "relay control body is not json"
    | some value => do
      let identity ← relayProofIdentity env registrations bearer (bodyText value "relay_id")
        (bodyText value "broker_room_id")
      let challengeId := trim challengeId
      let signature := trim signature
      if challengeId = "" ∨ signature = "" then .error "relay control proof is required"
      else do
        let operation := trim operation
        validateRelayControlOperation operation
        .ok (.consume ⟨identity, .control operation (env.sha256Hex body)⟩ challengeId signature)

structure IssuedRelayProofChallenge where
  challengeId : String
  challenge : String
  expiresAt : UInt64

/-- How many pending challenges a relay has. -/
def pendingOf (pending : Table String PendingRelayProofChallenge) (relayId : String) : Nat :=
  (pending.pairs.filter fun entry => entry.2.context.identity.relayId = relayId).length

/-- The clock was read before the lock was taken. -/
def createRelayProofChallenge (pending : Table String PendingRelayProofChallenge) (context : RelayProofContext)
    (now : UInt64) (issued : IssuedRelayProofChallenge) :
    Table String PendingRelayProofChallenge × Except String IssuedRelayProofChallenge :=
  let live := pending.retain fun _ item => now < item.expiresAt
  if context.target.family.capacity ≤ pendingOf live context.identity.relayId then
    (live, .error ("too many pending " ++ context.target.label ++ " challenges; retry shortly"))
  else
    (live.put issued.challengeId
      { context := context, challenge := issued.challenge, expiresAt := issued.expiresAt }, .ok issued)

def consumeRelayProofChallenge (pending : Table String PendingRelayProofChallenge) (expected : RelayProofContext)
    (now : UInt64) (challengeId signature : String) :
    Table String PendingRelayProofChallenge × Except String Unit :=
  let label := expected.target.label
  match pending.get challengeId with
  | none => (pending, .error (label ++ " challenge was not found"))
  | some held =>
    if held.expiresAt ≤ now then (pending.drop challengeId, .error (label ++ " challenge has expired"))
    else if held.context ≠ expected then
      (pending, .error (label ++ " challenge was not issued for this request"))
    else
      match held.context.message challengeId held.challenge with
      | .error error => (pending, .error error)
      | .ok message =>
        -- an invalid proof leaves the challenge usable
        if env.verifies expected.identity.relayVerifyKey message signature then
          (pending.drop challengeId, .ok ())
        else (pending, .error (label ++ " proof was rejected"))

end Calls

/-- A challenge that was given out, with the call that asked for it. -/
structure GivenChallenge where
  call : RelayProofCall
  context : RelayProofContext
  issued : IssuedRelayProofChallenge

/-- A proof that was accepted. -/
structure AcceptedProof where
  call : RelayProofCall
  context : RelayProofContext
  challengeId : String
  signature : String
  acceptedAt : UInt64

/-- The broker's proofs between two lock sections. `given` and `accepted` are the history. -/
structure ProofWorld where
  registrations : Table String RelayRegistration
  wsTicketChallenges : Table String PendingRelayProofChallenge
  controlChallenges : Table String PendingRelayProofChallenge
  now : UInt64
  waiting : List (RelayProofCall × RelayProofSection)
  timed : List (RelayProofCall × RelayProofContext × UInt64)
  given : List GivenChallenge
  accepted : List AcceptedProof

namespace ProofWorld

def start (registrations : Table String RelayRegistration) (now : UInt64) : ProofWorld where
  registrations := registrations
  wsTicketChallenges := ∅
  controlChallenges := ∅
  now := now
  waiting := []
  timed := []
  given := []
  accepted := []

def challenges (w : ProofWorld) : RelayProofFamily → Table String PendingRelayProofChallenge
  | .wsTicket => w.wsTicketChallenges
  | .control => w.controlChallenges

def setChallenges (w : ProofWorld) (family : RelayProofFamily)
    (pending : Table String PendingRelayProofChallenge) : ProofWorld :=
  match family with
  | .wsTicket => { w with wsTicketChallenges := pending }
  | .control => { w with controlChallenges := pending }

end ProofWorld

/-- One lock section of one call, or the world going on around them. -/
inductive ProofMove
  | rotate (registrations : Table String RelayRegistration)
  | tick (now : UInt64)
  | authenticate (call : RelayProofCall)
  | readClock (call : RelayProofCall) (context : RelayProofContext)
  | create (call : RelayProofCall) (context : RelayProofContext) (readAt : UInt64) (idToken nonceToken : String)
  | consume (call : RelayProofCall) (context : RelayProofContext) (challengeId signature : String)

/-- The challenge a create call gives out, from its two random tokens. -/
def freshChallenge (env : ProofEnvironment) (context : RelayProofContext) (readAt : UInt64)
    (idToken nonceToken : String) : IssuedRelayProofChallenge where
  challengeId := context.target.family.idPrefix ++ "-" ++ idToken
  challenge := context.target.family.noncePrefix ++ "-" ++ nonceToken
  expiresAt := saturatingAdd readAt env.challengeTtlSecs

/-- A call goes on where it stopped, the clock does not go back, and random tokens are new. -/
def ProofMove.may (env : ProofEnvironment) (w : ProofWorld) : ProofMove → Prop
  | .rotate _ => True
  | .tick now => w.now ≤ now
  | .authenticate _ => True
  | .readClock call context => (call, .create context) ∈ w.waiting
  | .create call context readAt idToken nonceToken =>
    (call, context, readAt) ∈ w.timed ∧ ∀ given ∈ w.given,
      given.issued.challengeId ≠ (freshChallenge env context readAt idToken nonceToken).challengeId ∧
        given.issued.challenge ≠ (freshChallenge env context readAt idToken nonceToken).challenge
  | .consume call context challengeId signature => (call, .consume context challengeId signature) ∈ w.waiting

instance (env : ProofEnvironment) (w : ProofWorld) : (m : ProofMove) → Decidable (m.may env w)
  | .rotate _ | .authenticate _ => .isTrue trivial
  | .tick now => inferInstanceAs (Decidable (w.now ≤ now))
  | .readClock call context => inferInstanceAs (Decidable ((call, .create context) ∈ w.waiting))
  | .create call context readAt idToken nonceToken =>
    inferInstanceAs (Decidable ((call, context, readAt) ∈ w.timed ∧ ∀ given ∈ w.given,
      given.issued.challengeId ≠ (freshChallenge env context readAt idToken nonceToken).challengeId ∧
        given.issued.challenge ≠ (freshChallenge env context readAt idToken nonceToken).challenge))
  | .consume call context challengeId signature =>
    inferInstanceAs (Decidable ((call, .consume context challengeId signature) ∈ w.waiting))

def ProofWorld.step (env : ProofEnvironment) (w : ProofWorld) : ProofMove → ProofWorld
  | .rotate registrations => { w with registrations := registrations }
  | .tick now => { w with now := now }
  | .authenticate call =>
    match call.prepare env w.registrations with
    | .ok rest => { w with waiting := (call, rest) :: w.waiting }
    | .error _ => w
  | .readClock call context =>
    { w with
      waiting := w.waiting.erase (call, .create context)
      timed := (call, context, w.now) :: w.timed }
  | .create call context readAt idToken nonceToken =>
    let done := { w with timed := w.timed.erase (call, context, readAt) }
    match createRelayProofChallenge (w.challenges context.target.family) context readAt
        (freshChallenge env context readAt idToken nonceToken) with
    | (pending, .ok issued) =>
      { done.setChallenges context.target.family pending with given := ⟨call, context, issued⟩ :: w.given }
    | (pending, .error _) => done.setChallenges context.target.family pending
  | .consume call context challengeId signature =>
    let done := { w with waiting := w.waiting.erase (call, .consume context challengeId signature) }
    match consumeRelayProofChallenge env (w.challenges context.target.family) context w.now challengeId signature with
    | (pending, .ok _) =>
      { done.setChallenges context.target.family pending with
        accepted := ⟨call, context, challengeId, signature, w.now⟩ :: w.accepted }
    | (pending, .error _) => done.setChallenges context.target.family pending

theorem pendingOf_sublist {s t : Table String PendingRelayProofChallenge} (fewer : s.entries.Sublist t.entries)
    (relayId : String) : pendingOf s relayId ≤ pendingOf t relayId :=
  ((fewer.map _).filter _).length_le

theorem pendingOf_retain_le (pending : Table String PendingRelayProofChallenge)
    (keep : String → PendingRelayProofChallenge → Bool) (relayId : String) :
    pendingOf (pending.retain keep) relayId ≤ pendingOf pending relayId :=
  pendingOf_sublist List.filter_sublist relayId

theorem pendingOf_drop_le (pending : Table String PendingRelayProofChallenge) (challengeId relayId : String) :
    pendingOf (pending.drop challengeId) relayId ≤ pendingOf pending relayId :=
  pendingOf_sublist (List.kerase_sublist challengeId pending.entries) relayId

theorem pendingOf_put_le (pending : Table String PendingRelayProofChallenge) (challengeId : String)
    (new : PendingRelayProofChallenge) (relayId : String) :
    pendingOf (pending.put challengeId new) relayId ≤
      pendingOf pending relayId + if new.context.identity.relayId = relayId then 1 else 0 := by
  have rest := pendingOf_drop_le pending challengeId relayId
  have shape : pendingOf (pending.put challengeId new) relayId =
      pendingOf (pending.drop challengeId) relayId + if new.context.identity.relayId = relayId then 1 else 0 := by
    unfold pendingOf Table.pairs Table.put Table.drop
    rw [AList.entries_insert, List.map_cons, List.filter_cons]
    by_cases mine : new.context.identity.relayId = relayId
    · simp [mine, AList.erase]
    · simp [mine, AList.erase]
  omega

section Specs

variable (env : ProofEnvironment) (pending : Table String PendingRelayProofChallenge)
variable (context : RelayProofContext) (now : UInt64)

/-- A creation drops the expired challenges, and adds its own when the relay has room. -/
theorem create_cases (issued : IssuedRelayProofChallenge) :
    (∃ error, createRelayProofChallenge pending context now issued =
        (pending.retain fun _ item => now < item.expiresAt, .error error)) ∨
      createRelayProofChallenge pending context now issued =
          ((pending.retain fun _ item => now < item.expiresAt).put issued.challengeId
            ⟨context, issued.challenge, issued.expiresAt⟩, .ok issued) ∧
        pendingOf (pending.retain fun _ item => now < item.expiresAt) context.identity.relayId <
          context.target.family.capacity := by
  unfold createRelayProofChallenge
  dsimp only
  split
  · exact .inl ⟨_, rfl⟩
  · rename_i room
    exact .inr ⟨rfl, by omega⟩

/-- A proof is refused and changes nothing, finds its challenge expired and drops it, or is accepted. -/
theorem consume_cases (challengeId signature : String) :
    (∃ error, consumeRelayProofChallenge env pending context now challengeId signature = (pending, .error error)) ∨
      (∃ held error, pending.get challengeId = some held ∧ held.expiresAt ≤ now ∧
        consumeRelayProofChallenge env pending context now challengeId signature =
          (pending.drop challengeId, .error error)) ∨
      ∃ held message, pending.get challengeId = some held ∧ now < held.expiresAt ∧ held.context = context ∧
        context.message challengeId held.challenge = .ok message ∧
        env.verifies context.identity.relayVerifyKey message signature = true ∧
        consumeRelayProofChallenge env pending context now challengeId signature =
          (pending.drop challengeId, .ok ()) := by
  unfold consumeRelayProofChallenge
  dsimp only
  split
  · exact .inl ⟨_, rfl⟩
  rename_i held found
  split
  · rename_i expired
    exact .inr (.inl ⟨held, _, found, expired, rfl⟩)
  rename_i live
  split
  · exact .inl ⟨_, rfl⟩
  rename_i same
  have equal := not_not.mp same
  split
  · exact .inl ⟨_, rfl⟩
  rename_i message built
  split
  · rename_i verified
    rw [equal] at built
    exact .inr (.inr ⟨held, message, found, UInt64.not_le.mp live, equal, built, verified, rfl⟩)
  · exact .inl ⟨_, rfl⟩

end Specs

/-- An accepted proof was given a challenge, unexpired, for the same relay and target, and its
signature verifies under the enrolled key over exactly those fields. -/
structure Authorised (env : ProofEnvironment) (given : GivenChallenge) (proof : AcceptedProof) : Prop where
  challenge : given.issued.challengeId = proof.challengeId
  context : given.context = proof.context
  unexpired : proof.acceptedAt < given.issued.expiresAt
  asked : ∃ registrations, given.call.prepare env registrations = .ok (.create given.context)
  answered : ∃ registrations, proof.call.prepare env registrations =
    .ok (.consume proof.context proof.challengeId proof.signature)
  signature : ∃ message, (proof.context.signedMessage proof.challengeId given.issued.challenge).bytes = .ok message ∧
    env.verifies proof.context.identity.relayVerifyKey message proof.signature = true

/-- What holds between two lock sections. -/
structure ProofWorld.Sound (env : ProofEnvironment) (w : ProofWorld) : Prop where
  waiting : ∀ call rest, (call, rest) ∈ w.waiting → ∃ registrations, call.prepare env registrations = .ok rest
  timed : ∀ call context readAt, (call, context, readAt) ∈ w.timed →
    ∃ registrations, call.prepare env registrations = .ok (.create context)
  given : ∀ given ∈ w.given, ∃ registrations, given.call.prepare env registrations = .ok (.create given.context)
  givenOnce : (w.given.map fun given => given.issued.challengeId).Nodup
  pending : ∀ family challengeId held, (w.challenges family).get challengeId = some held →
    held.context.target.family = family ∧ ∃ given ∈ w.given, given.context = held.context ∧
      given.issued = ⟨challengeId, held.challenge, held.expiresAt⟩
  accepted : ∀ proof ∈ w.accepted, ∃ given ∈ w.given, Authorised env given proof
  acceptedOnce : (w.accepted.map fun proof => proof.challengeId).Nodup
  spent : ∀ proof ∈ w.accepted, ∀ family, (w.challenges family).get proof.challengeId = none
  capacity : ∀ family relayId, pendingOf (w.challenges family) relayId ≤ family.capacity

namespace ProofWorld

theorem challenges_setChallenges (w : ProofWorld) (family other : RelayProofFamily)
    (pending : Table String PendingRelayProofChallenge) :
    (w.setChallenges family pending).challenges other = if other = family then pending else w.challenges other := by
  cases family <;> cases other <;> rfl

theorem setChallenges_twice (w : ProofWorld) (family : RelayProofFamily)
    (first second : Table String PendingRelayProofChallenge) :
    (w.setChallenges family first).setChallenges family second = w.setChallenges family second := by
  cases family <;> rfl

theorem given_setChallenges (w : ProofWorld) (family : RelayProofFamily)
    (pending : Table String PendingRelayProofChallenge) : (w.setChallenges family pending).given = w.given := by
  cases family <;> rfl

theorem accepted_setChallenges (w : ProofWorld) (family : RelayProofFamily)
    (pending : Table String PendingRelayProofChallenge) : (w.setChallenges family pending).accepted = w.accepted := by
  cases family <;> rfl

/-- Two worlds with the same history and the same challenges. -/
structure SameProofs (w v : ProofWorld) : Prop where
  given : v.given = w.given
  accepted : v.accepted = w.accepted
  challenges : ∀ family, v.challenges family = w.challenges family

theorem Sound.unmoved {env : ProofEnvironment} {w v : ProofWorld} (sound : w.Sound env) (same : SameProofs w v)
    (waiting : ∀ call rest, (call, rest) ∈ v.waiting → ∃ registrations, call.prepare env registrations = .ok rest)
    (timed : ∀ call context readAt, (call, context, readAt) ∈ v.timed →
      ∃ registrations, call.prepare env registrations = .ok (.create context)) : v.Sound env where
  waiting := waiting
  timed := timed
  given := by rw [same.given]; exact sound.given
  givenOnce := by rw [same.given]; exact sound.givenOnce
  pending := by
    intro family challengeId held found
    rw [same.challenges] at found
    rw [same.given]
    exact sound.pending family challengeId held found
  accepted := by rw [same.accepted, same.given]; exact sound.accepted
  acceptedOnce := by rw [same.accepted]; exact sound.acceptedOnce
  spent := by
    rw [same.accepted]
    intro proof member family
    rw [same.challenges]
    exact sound.spent proof member family
  capacity := by
    intro family relayId
    rw [same.challenges]
    exact sound.capacity family relayId

/-- Challenges of one family went away. -/
theorem Sound.fewer {env : ProofEnvironment} {w : ProofWorld} (sound : w.Sound env) (family : RelayProofFamily)
    {pending : Table String PendingRelayProofChallenge}
    (held : ∀ challengeId item, pending.get challengeId = some item → (w.challenges family).get challengeId = some item)
    (count : ∀ relayId, pendingOf pending relayId ≤ pendingOf (w.challenges family) relayId) :
    (w.setChallenges family pending).Sound env where
  waiting := by cases family <;> exact sound.waiting
  timed := by cases family <;> exact sound.timed
  given := by cases family <;> exact sound.given
  givenOnce := by cases family <;> exact sound.givenOnce
  pending := by
    intro other challengeId item found
    have before : (w.challenges other).get challengeId = some item := by
      rw [challenges_setChallenges] at found
      split at found
      · rename_i here
        rw [here]
        exact held challengeId item found
      · exact found
    cases family <;> exact sound.pending other challengeId item before
  accepted := by cases family <;> exact sound.accepted
  acceptedOnce := by cases family <;> exact sound.acceptedOnce
  spent := by
    intro proof member other
    have before : proof ∈ w.accepted := by cases family <;> exact member
    rw [challenges_setChallenges]
    split
    · rename_i here
      have absent := sound.spent proof before family
      cases found : pending.get proof.challengeId with
      | none => rfl
      | some item =>
        rw [held _ _ found] at absent
        cases absent
    · exact sound.spent proof before other
  capacity := by
    intro other relayId
    rw [challenges_setChallenges]
    split
    · rename_i here
      rw [here]
      exact Nat.le_trans (count relayId) (sound.capacity family relayId)
    · exact sound.capacity other relayId

theorem Sound.drop {env : ProofEnvironment} {w : ProofWorld} (sound : w.Sound env) (family : RelayProofFamily)
    (challengeId : String) : (w.setChallenges family ((w.challenges family).drop challengeId)).Sound env :=
  sound.fewer family (fun _ _ => Table.get_of_get_drop) (pendingOf_drop_le _ challengeId)

theorem Sound.retain {env : ProofEnvironment} {w : ProofWorld} (sound : w.Sound env) (family : RelayProofFamily)
    (keep : String → PendingRelayProofChallenge → Bool) :
    (w.setChallenges family ((w.challenges family).retain keep)).Sound env :=
  sound.fewer family (fun _ _ => Table.get_of_get_retain) (pendingOf_retain_le _ keep)

/-- A new challenge, under an id that was never given before. -/
theorem Sound.give {env : ProofEnvironment} {w : ProofWorld} (sound : w.Sound env) {call : RelayProofCall}
    {context : RelayProofContext} {issued : IssuedRelayProofChallenge}
    (asked : ∃ registrations, call.prepare env registrations = .ok (.create context))
    (fresh : ∀ given ∈ w.given, given.issued.challengeId ≠ issued.challengeId)
    (room : pendingOf (w.challenges context.target.family) context.identity.relayId < context.target.family.capacity) :
    ({ w.setChallenges context.target.family ((w.challenges context.target.family).put issued.challengeId
        ⟨context, issued.challenge, issued.expiresAt⟩) with
      given := ⟨call, context, issued⟩ :: w.given } : ProofWorld).Sound env := by
  have tables (other : RelayProofFamily) :
      ({ w.setChallenges context.target.family ((w.challenges context.target.family).put issued.challengeId
          ⟨context, issued.challenge, issued.expiresAt⟩) with
        given := ⟨call, context, issued⟩ :: w.given } : ProofWorld).challenges other =
        if other = context.target.family then (w.challenges context.target.family).put issued.challengeId
          ⟨context, issued.challenge, issued.expiresAt⟩ else w.challenges other := by
    rw [← challenges_setChallenges]
    cases other <;> rfl
  have accepted : (w.setChallenges context.target.family ((w.challenges context.target.family).put issued.challengeId
      ⟨context, issued.challenge, issued.expiresAt⟩)).accepted = w.accepted := by
    cases context.target.family <;> rfl
  refine ⟨?_, ?_, ?_, ?_, ?_, ?_, ?_, ?_, ?_⟩
  · cases context.target.family <;> exact sound.waiting
  · cases context.target.family <;> exact sound.timed
  · intro given member
    rcases List.mem_cons.mp member with rfl | before
    · exact asked
    · exact sound.given given before
  · refine List.nodup_cons.mpr ⟨fun repeated => ?_, sound.givenOnce⟩
    obtain ⟨given, member, same⟩ := List.mem_map.mp repeated
    exact fresh given member same
  · intro family challengeId held found
    rw [tables] at found
    have old (before : (w.challenges family).get challengeId = some held) :
        held.context.target.family = family ∧ ∃ given ∈ ⟨call, context, issued⟩ :: w.given,
          given.context = held.context ∧ given.issued = ⟨challengeId, held.challenge, held.expiresAt⟩ := by
      obtain ⟨here, given, member, shape⟩ := sound.pending family challengeId held before
      exact ⟨here, given, List.mem_cons_of_mem _ member, shape⟩
    split at found
    · rename_i here
      rw [Table.get_put] at found
      split at found
      · rename_i same
        obtain rfl := Option.some.inj found
        subst same
        exact ⟨here.symm, ⟨call, context, issued⟩, List.mem_cons_self .., rfl, rfl⟩
      · rw [← here] at found
        exact old found
    · exact old found
  · intro proof member
    obtain ⟨given, before, authorised⟩ := sound.accepted proof (accepted ▸ member)
    exact ⟨given, List.mem_cons_of_mem _ before, authorised⟩
  · change ((w.setChallenges _ _).accepted.map _).Nodup
    rw [accepted]
    exact sound.acceptedOnce
  · intro proof member family
    have before : proof ∈ w.accepted := accepted ▸ member
    obtain ⟨given, there, authorised⟩ := sound.accepted proof before
    have apart : proof.challengeId ≠ issued.challengeId := by
      rw [← authorised.challenge]
      exact fresh given there
    rw [tables]
    split
    · rw [Table.get_put_ne _ _ apart]
      exact sound.spent proof before _
    · exact sound.spent proof before family
  · intro family relayId
    rw [tables]
    split
    · rename_i here
      subst here
      have added := pendingOf_put_le (w.challenges context.target.family) issued.challengeId
        ⟨context, issued.challenge, issued.expiresAt⟩ relayId
      have before := sound.capacity context.target.family relayId
      split at added
      · rename_i mine
        dsimp only at mine
        rw [mine] at room
        omega
      · omega
    · exact sound.capacity family relayId

/-- A challenge that answers a proof is spent. -/
theorem Sound.accept {env : ProofEnvironment} {w : ProofWorld} (sound : w.Sound env) {call : RelayProofCall}
    {context : RelayProofContext} {challengeId signature : String} {held : PendingRelayProofChallenge}
    {message : List UInt8}
    (answered : ∃ registrations, call.prepare env registrations = .ok (.consume context challengeId signature))
    (found : (w.challenges context.target.family).get challengeId = some held) (live : w.now < held.expiresAt)
    (same : held.context = context) (built : context.message challengeId held.challenge = .ok message)
    (verified : env.verifies context.identity.relayVerifyKey message signature = true) :
    ({ w.setChallenges context.target.family ((w.challenges context.target.family).drop challengeId) with
      accepted := ⟨call, context, challengeId, signature, w.now⟩ :: w.accepted } : ProofWorld).Sound env := by
  have dropped := sound.drop context.target.family challengeId
  obtain ⟨_, given, member, context_same, issued⟩ := sound.pending _ challengeId held found
  have given_same : (w.setChallenges context.target.family
      ((w.challenges context.target.family).drop challengeId)).given = w.given := by
    cases context.target.family <;> rfl
  have accepted : (w.setChallenges context.target.family
      ((w.challenges context.target.family).drop challengeId)).accepted = w.accepted := by
    cases context.target.family <;> rfl
  have tables (other : RelayProofFamily) :
      ({ w.setChallenges context.target.family ((w.challenges context.target.family).drop challengeId) with
        accepted := ⟨call, context, challengeId, signature, w.now⟩ :: w.accepted } : ProofWorld).challenges other =
        if other = context.target.family then (w.challenges context.target.family).drop challengeId
        else w.challenges other := by
    rw [← challenges_setChallenges]
    cases other <;> rfl
  have authorised : Authorised env given ⟨call, context, challengeId, signature, w.now⟩ :=
    { challenge := by rw [issued]
      context := context_same.trans same
      unexpired := by
        rw [issued]
        exact live
      asked := sound.given given member
      answered := answered
      signature := by
        refine ⟨message, ?_, verified⟩
        rw [issued]
        rw [RelayProofContext.message_eq] at built
        exact built }
  refine ⟨dropped.waiting, dropped.timed, dropped.given, dropped.givenOnce, ?_, ?_, ?_, ?_, ?_⟩
  · intro family id item there
    exact dropped.pending family id item (by
      rw [challenges_setChallenges]
      rw [tables] at there
      exact there)
  · intro proof there
    rw [show ({ w.setChallenges context.target.family ((w.challenges context.target.family).drop challengeId) with
        accepted := ⟨call, context, challengeId, signature, w.now⟩ :: w.accepted } : ProofWorld).given = w.given
      from given_same]
    rcases List.mem_cons.mp there with rfl | before
    · exact ⟨given, member, authorised⟩
    · exact sound.accepted proof before
  · refine List.nodup_cons.mpr ⟨fun repeated => ?_, sound.acceptedOnce⟩
    obtain ⟨proof, before, spent_before⟩ := List.mem_map.mp repeated
    have absent := sound.spent proof before context.target.family
    rw [spent_before, found] at absent
    cases absent
  · intro proof there family
    rw [tables]
    rcases List.mem_cons.mp there with rfl | before
    · split
      · rw [Table.get_drop, if_pos rfl]
      · rename_i elsewhere
        -- the id was given once, in this family
        cases other : (w.challenges family).get challengeId with
        | none => rfl
        | some item =>
          obtain ⟨in_family, given', member', context', issued'⟩ := sound.pending family challengeId item other
          have one : given' = given :=
            List.inj_on_of_nodup_map sound.givenOnce member' member (by rw [issued, issued'])
          exact absurd (by rw [← in_family, ← context', one, context_same, same]) elsewhere
    · split
      · rw [Table.get_drop]
        split
        · rfl
        · exact sound.spent proof before _
      · exact sound.spent proof before family
  · intro family relayId
    rw [tables, ← challenges_setChallenges]
    exact dropped.capacity family relayId

/-- Forgetting a call in flight leaves the proofs alone. -/
theorem Sound.done {env : ProofEnvironment} {w : ProofWorld} (sound : w.Sound env)
    (waiting : List (RelayProofCall × RelayProofSection)) (timed : List (RelayProofCall × RelayProofContext × UInt64))
    (fewer : waiting ⊆ w.waiting) (fewer' : timed ⊆ w.timed) :
    ({ w with waiting := waiting, timed := timed } : ProofWorld).Sound env :=
  sound.unmoved ⟨rfl, rfl, fun family => by cases family <;> rfl⟩
    (fun call rest member => sound.waiting call rest (fewer member))
    (fun call context readAt member => sound.timed call context readAt (fewer' member))

theorem Sound.step {env : ProofEnvironment} {w : ProofWorld} (sound : w.Sound env) {m : ProofMove}
    (allowed : m.may env w) : (w.step env m).Sound env := by
  cases m with
  | rotate registrations =>
    exact sound.unmoved ⟨rfl, rfl, fun family => by cases family <;> rfl⟩ sound.waiting sound.timed
  | tick now => exact sound.unmoved ⟨rfl, rfl, fun family => by cases family <;> rfl⟩ sound.waiting sound.timed
  | authenticate call =>
    simp only [ProofWorld.step]
    split
    · rename_i rest prepared
      refine sound.unmoved ⟨rfl, rfl, fun family => by cases family <;> rfl⟩ (fun other section' member => ?_) sound.timed
      rcases List.mem_cons.mp member with same | before
      · obtain ⟨rfl, rfl⟩ := Prod.mk.inj same
        exact ⟨w.registrations, prepared⟩
      · exact sound.waiting other section' before
    · exact sound
  | readClock call context =>
    refine sound.unmoved ⟨rfl, rfl, fun family => by cases family <;> rfl⟩
      (fun other rest member => sound.waiting other rest (List.mem_of_mem_erase member)) fun other context' readAt member => ?_
    rcases List.mem_cons.mp member with same | before
    · obtain ⟨rfl, same'⟩ := Prod.mk.inj same
      obtain ⟨rfl, -⟩ := Prod.mk.inj same'
      exact sound.waiting other _ allowed
    · exact sound.timed other context' readAt before
  | create call context readAt idToken nonceToken =>
    obtain ⟨there, fresh⟩ := allowed
    have done := sound.done w.waiting (w.timed.erase (call, context, readAt)) (List.Subset.refl _) List.erase_subset
    have asked := sound.timed call context readAt there
    have tables (family : RelayProofFamily) : ({ w with timed := w.timed.erase (call, context, readAt) } :
        ProofWorld).challenges family = w.challenges family := by cases family <;> rfl
    simp only [ProofWorld.step]
    rcases create_cases (w.challenges context.target.family) context readAt
      (freshChallenge env context readAt idToken nonceToken) with ⟨error, refused⟩ | ⟨given, room⟩
    · rw [refused]
      have kept := done.retain context.target.family fun _ item => readAt < item.expiresAt
      rw [tables] at kept
      exact kept
    · rw [given]
      have kept := done.retain context.target.family fun _ item => readAt < item.expiresAt
      rw [tables] at kept
      have new := @Sound.give _ _ kept _ _ (freshChallenge env context readAt idToken nonceToken) asked
      rw [given_setChallenges, challenges_setChallenges, if_pos rfl, setChallenges_twice] at new
      exact new (fun given member => (fresh given member).1) room
  | consume call context challengeId signature =>
    have answered := sound.waiting call _ allowed
    have done := sound.done (w.waiting.erase (call, .consume context challengeId signature)) w.timed
      List.erase_subset (List.Subset.refl _)
    have tables (family : RelayProofFamily) : ({ w with waiting := w.waiting.erase (call, .consume context challengeId
        signature) } : ProofWorld).challenges family = w.challenges family := by cases family <;> rfl
    simp only [ProofWorld.step]
    rcases consume_cases env (w.challenges context.target.family) context w.now challengeId signature with
      ⟨error, refused⟩ | ⟨held, error, _, _, expired⟩ | ⟨held, message, found, live, same, built, verified, accepted⟩
    · rw [refused]
      have kept := done.fewer context.target.family (fun _ _ found => found) fun _ => Nat.le_refl _
      rw [tables] at kept
      exact kept
    · rw [expired]
      have kept := done.drop context.target.family challengeId
      rw [tables] at kept
      exact kept
    · rw [accepted]
      have new := done.accept answered (by rw [tables]; exact found) live same built verified
      rw [tables] at new
      exact new

end ProofWorld

/-- How many unexpired challenges of a family a relay has. -/
def ProofWorld.unexpired (w : ProofWorld) (family : RelayProofFamily) (relayId : String) : Nat :=
  pendingOf ((w.challenges family).retain fun _ item => w.now < item.expiresAt) relayId

section Witness

end Witness

end Sealwire.Broker

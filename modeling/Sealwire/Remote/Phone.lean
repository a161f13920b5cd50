import Sealwire.Requests.AtMostOnce

namespace Sealwire.Remote

open Requests

def writeRetryWindowMs : Nat := 5 * 60 * 1000

def maxReauthorizations : Nat := 2

/-- A session claim: the relay's clock when it was issued, and the phone's when it arrived. -/
structure SessionClaim where
  sid : String
  boot : String
  relayMs : Nat
  receivedAt : Nat
  expiresAt : Option Nat
  deriving DecidableEq

/-- The identity of an operation. -/
structure Op where
  boot : String
  t0 : Nat
  deriving DecidableEq

/-- An action that is waited for. `op` is fixed by its first signed attempt; `deadline` says whether its
deadline is armed. -/
structure Pending where
  actionType : String
  request : String
  op : Option Op
  firstSentAt : Option Nat
  signedSid : Option String
  reauthorizations : Nat
  deadline : Bool
  deriving DecidableEq

/-- A signed attempt on the channel. -/
structure Frame where
  peerId : String
  sid : String
  boot : String
  seq : Nat
  time : Nat
  actionId : String
  actionType : String
  request : String
  op : Op
  deriving DecidableEq

/-- Who waits for an attempt: the dispatch, a resend pass with the actions it has left, or a
re-authorization. -/
inductive Caller
  | dispatch
  | resend (rest : List String)
  | reauthorize
  deriving DecidableEq

/-- An attempt while it is signed. `held` says whether its action was pending when it started; the peer and
the sequence number are read once its request is encrypted. -/
structure Signing where
  actionId : String
  actionType : String
  request : String
  held : Bool
  op : Op
  claim : SessionClaim
  time : Nat
  socket : Nat
  caller : Caller
  fields : Option (String × Nat)
  deriving DecidableEq

/-- The phone. `pendingActions` is the map of pending actions in its order; `objects` has every pending action
there ever was, since those who hold one keep it after it left the map. `now` is the monotonic clock
and `wall` the wall clock. -/
structure Phone where
  now : Nat
  wall : Nat
  socket : Option Nat
  socketPeerId : Option String
  bound : Bool
  claim : Option SessionClaim
  objects : Table String Pending
  pendingActions : List String
  signing : List Signing
  claiming : List String
  requestSeq : Option (String × Nat)
  sent : List Frame

def Signing.frame (s : Signing) (peerId : String) (seq : Nat) : Frame where
  peerId := peerId
  sid := s.claim.sid
  boot := s.claim.boot
  seq := seq
  time := s.time
  actionId := s.actionId
  actionType := s.actionType
  request := s.request
  op := s.op

/-- The first attempt that is sent fixes the operation. -/
def Pending.attempted (object : Pending) (s : Signing) (now : Nat) : Pending :=
  { object with
    signedSid := some s.claim.sid
    op := object.op.or (some s.op)
    firstSentAt := if object.op = none then some now else object.firstSentAt }

namespace Phone

def new : Phone where
  now := 0
  wall := 0
  socket := none
  socketPeerId := none
  bound := true
  claim := none
  objects := ∅
  pendingActions := []
  signing := []
  claiming := []
  requestSeq := none
  sent := []

/-- The claim, if a request can be signed under it now. -/
def usableClaim (p : Phone) : Option SessionClaim :=
  p.claim.filter fun claim => claim.expiresAt.all fun expiresAt => p.wall < expiresAt * 1000

def setSessionClaim (p : Phone) (grant : RequestSessionGrant) : Phone :=
  let claim : SessionClaim :=
    { sid := grant.sid, boot := grant.bootId, relayMs := grant.relayMs.toNat, receivedAt := p.now
      expiresAt := if grant.expiresAt = 0 then none else some grant.expiresAt.toNat }
  { p with claim := some claim }

/-- The claim's relay-clock stamp plus the time since it arrived. -/
def relayClockNow (p : Phone) (claim : SessionClaim) : Nat :=
  claim.relayMs + (p.now - claim.receivedAt)

def nextRequestSeq (p : Phone) (sid : String) : Nat :=
  match p.requestSeq with
  | some (session, seq) => if session = sid then seq + 1 else 1
  | none => 1

/-- The pending action in the map. -/
def pending (p : Phone) (actionId : String) : Option Pending :=
  if actionId ∈ p.pendingActions then p.objects.get actionId else none

def rejectPendingAction (p : Phone) (actionId : String) : Phone :=
  { p with pendingActions := p.pendingActions.filter (· ≠ actionId) }

def extendPendingActionDeadline (p : Phone) (actionId : String) : Phone :=
  if actionId ∈ p.pendingActions then
    { p with objects := p.objects.modify actionId fun object => { object with deadline := true } }
  else p

/-- Start an attempt: everything up to the point where its request is encrypted. -/
def sendRemoteActionFrame (p : Phone) (actionId actionType request : String) (caller : Caller) : Except String Phone :=
  match p.socket with
  | none => .error "broker socket is not connected"
  | some socket =>
    match p.usableClaim with
    | none => .error "device is not claimed yet"
    | some claim =>
      if !p.bound then .error "the relay identity is not pinned on this phone; pair it again"
      else if p.socketPeerId = none then .error "broker peer id is not ready yet"
      else
        let time := p.relayClockNow claim
        let op := ((p.pending actionId).bind Pending.op).getD { boot := claim.boot, t0 := time }
        let attempt : Signing :=
          { actionId := actionId, actionType := actionType, request := request, held := (p.pending actionId).isSome
            op := op, claim := claim, time := time, socket := socket, caller := caller, fields := none }
        .ok { p with signing := p.signing ++ [attempt] }

/-- The action was first sent too long ago to be sent again. -/
def retryWindowOver (p : Phone) (actionId : String) : Bool :=
  match (p.objects.get actionId).bind Pending.firstSentAt with
  | some firstSentAt => writeRetryWindowMs < p.now - firstSentAt
  | none => false

/-- A resend pass with these actions left, up to the first attempt it has to wait for. The pass holds on to the
actions it started with, whatever the map has become. -/
def resendPendingActions (p : Phone) : List String → Phone
  | [] => p
  | actionId :: rest =>
    match p.objects.get actionId with
    | none => p.resendPendingActions rest
    | some object =>
      if p.retryWindowOver actionId then (p.rejectPendingAction actionId).resendPendingActions rest
      else
        match p.sendRemoteActionFrame actionId object.actionType object.request (.resend rest) with
        | .ok p => p
        | .error _ => (p.rejectPendingAction actionId).resendPendingActions rest

/-- What follows an attempt that was sent. -/
def resolved (p : Phone) (actionId : String) : Caller → Phone
  | .dispatch => p
  | .resend rest => (p.extendPendingActionDeadline actionId).resendPendingActions rest
  | .reauthorize => p.extendPendingActionDeadline actionId

/-- What follows an attempt that was not. -/
def thrown (p : Phone) (actionId : String) : Caller → Phone
  | .dispatch => p.rejectPendingAction actionId
  | .resend rest => (p.rejectPendingAction actionId).resendPendingActions rest
  | .reauthorize => p.rejectPendingAction actionId

/-- The request is encrypted: the attempt takes its peer and its number. -/
def encrypted (p : Phone) (k : Nat) : Phone :=
  match p.signing[k]? with
  | some s =>
    if s.fields = none then
      let seq := p.nextRequestSeq s.claim.sid
      { p with
        signing := p.signing.set k { s with fields := some (p.socketPeerId.getD "", seq) }
        requestSeq := some (s.claim.sid, seq) }
    else p
  | none => p

/-- The attempt is signed: it goes to the socket it was started for, if that is still the one. -/
def signed (p : Phone) (k : Nat) : Phone :=
  match p.signing[k]? with
  | some s =>
    match s.fields with
    | some (peerId, seq) =>
      let p := { p with signing := p.signing.eraseIdx k }
      if p.socket = some s.socket then
        let p := { p with sent := p.sent ++ [s.frame peerId seq] }
        let p := if s.held then
            { p with objects := p.objects.modify s.actionId fun object => object.attempted s p.now }
          else p
        p.resolved s.actionId s.caller
      else p.thrown s.actionId s.caller
    | none => p
  | none => p

/-- Encrypting or signing failed. -/
def failed (p : Phone) (k : Nat) : Phone :=
  match p.signing[k]? with
  | some s => { p with signing := p.signing.eraseIdx k }.thrown s.actionId s.caller
  | none => p

/-- An action id is never drawn twice. -/
def dispatchRemoteAction (p : Phone) (actionId actionType request : String) : Phone :=
  if p.socket = none ∨ p.objects.has actionId then p
  else
    let object : Pending :=
      { actionType := actionType, request := request, op := none, firstSentAt := none, signedSid := none
        reauthorizations := 0, deadline := true }
    let p := { p with objects := p.objects.put actionId object, pendingActions := p.pendingActions ++ [actionId] }
    match p.sendRemoteActionFrame actionId actionType request .dispatch with
    | .ok p => p
    | .error _ => p.rejectPendingAction actionId

/-- The relay asks for the action under a new claim. -/
def reauthorizePendingAction (p : Phone) (actionId : String) : Phone :=
  match p.pending actionId with
  | none => p
  | some object =>
    if maxReauthorizations ≤ object.reauthorizations then p.rejectPendingAction actionId
    else
      { p with
        objects := p.objects.put actionId { object with reauthorizations := object.reauthorizations + 1 }
        claiming := p.claiming ++ [actionId] }

/-- The claim a re-authorization waited for is there. -/
def reauthorized (p : Phone) (actionId : String) : Phone :=
  if actionId ∈ p.claiming then
    let p := { p with claiming := p.claiming.erase actionId }
    match p.pending actionId with
    | none => p
    | some object =>
      match p.sendRemoteActionFrame actionId object.actionType object.request .reauthorize with
      | .ok p => p
      | .error _ => p.rejectPendingAction actionId
  else p

def deadlinePassed (p : Phone) (actionId : String) : Phone :=
  match p.pending actionId with
  | some object => if object.deadline then p.rejectPendingAction actionId else p
  | none => p

def suspendPendingActionDeadlines (p : Phone) : Phone :=
  let disarm (objects : Table String Pending) (actionId : String) : Table String Pending :=
    objects.modify actionId fun object => { object with deadline := false }
  { p with objects := p.pendingActions.foldl disarm p.objects }

end Phone

/-- What can happen on the phone. -/
inductive PhoneEvent
  | tick (elapsed : Nat)
  | wall (time : Nat)
  | connect (socket : Option Nat) (peerId : Option String)
  | bind (bound : Bool)
  | claimed (grant : RequestSessionGrant)
  | clearClaim
  | dispatch (actionId actionType request : String)
  | encrypted (k : Nat)
  | signed (k : Nat)
  | failed (k : Nat)
  | settle (actionId : String)
  | pendingNotice (actionId : String)
  | deadline (actionId : String)
  | suspend
  | rejectAll
  | resend
  | reauthorize (actionId : String)
  | reauthorized (actionId : String)
  | claimFailed (actionId : String)

def Phone.step (p : Phone) : PhoneEvent → Phone
  | .tick elapsed => { p with now := p.now + elapsed }
  | .wall time => { p with wall := time }
  | .connect socket peerId => { p with socket := socket, socketPeerId := peerId }
  | .bind bound => { p with bound := bound }
  | .claimed grant => p.setSessionClaim grant
  | .clearClaim => { p with claim := none }
  | .dispatch actionId actionType request => p.dispatchRemoteAction actionId actionType request
  | .encrypted k => p.encrypted k
  | .signed k => p.signed k
  | .failed k => p.failed k
  | .settle actionId => p.rejectPendingAction actionId
  | .pendingNotice actionId => p.extendPendingActionDeadline actionId
  | .deadline actionId => p.deadlinePassed actionId
  | .suspend => p.suspendPendingActionDeadlines
  | .rejectAll => { p with pendingActions := [] }
  | .resend => p.resendPendingActions p.pendingActions
  | .reauthorize actionId => p.reauthorizePendingAction actionId
  | .reauthorized actionId => p.reauthorized actionId
  | .claimFailed actionId =>
    if actionId ∈ p.claiming then { p with claiming := p.claiming.erase actionId }.rejectPendingAction actionId else p

end Sealwire.Remote

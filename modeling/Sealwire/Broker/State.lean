import Sealwire.Lib.Table
import Sealwire.Lib.Word
import Sealwire.Broker.Payload

namespace Sealwire.Broker

inductive PeerRole
  | relay
  | surface
  deriving DecidableEq

structure PeerSummary where
  peerId : String
  role : PeerRole
  deviceId : Option String
  deriving DecidableEq

inductive PresenceKind
  | joined
  | left
  deriving DecidableEq

/-- The messages that a room queues. The others are sent by the socket task itself. -/
inductive ServerMessage
  | presence (channelId : String) (kind : PresenceKind) (peer : PeerSummary)
  | message (channelId fromPeerId : String) (fromRole : PeerRole) (payload : Json)
  | error (code message : String)

/-- A seat. `tx` is the number of its outbound queue. -/
structure PeerHandle where
  connectionId : UInt64
  role : PeerRole
  deviceId : Option String
  pairingId : Option String
  tx : Nat
  deriving DecidableEq

def PeerHandle.summary (handle : PeerHandle) (peerId : String) : PeerSummary where
  peerId := peerId
  role := handle.role
  deviceId := handle.deviceId

/-- What happens to an outbound queue: a message is queued, or its seat is taken away. -/
inductive Event
  | queued (message : ServerMessage)
  | unseated

def outboundQueueCapacity : Nat := 256
def outboundQueueBytes : Nat := 8 * 1024 * 1024

/-- The outbound queue of one connection: the messages waiting in it, the bytes held by messages
that are not dropped yet, whether its receiver is gone and whether its overflow was notified.
The rest is its history: the answer to its join, and whether a message was ever refused. -/
structure Outbound where
  connectionId : UInt64
  existingPeers : List PeerSummary
  waiting : Nat
  used : Nat
  closed : Bool
  overflow : Bool
  log : List Event
  failed : Bool

namespace Outbound

def new (connectionId : UInt64) (existingPeers : List PeerSummary) : Outbound where
  connectionId := connectionId
  existingPeers := existingPeers
  waiting := 0
  used := 0
  closed := false
  overflow := false
  log := []
  failed := false

/-- `PeerHandle::enqueue`, with the length of the message's text. -/
def enqueue (length : ServerMessage → Nat) (message : ServerMessage) (queue : Outbound) : Outbound :=
  if outboundQueueBytes < length message then { queue with overflow := true, failed := true }
  else if outboundQueueBytes < queue.used + length message then { queue with overflow := true, failed := true }
  else if queue.closed then { queue with failed := true }
  else if outboundQueueCapacity ≤ queue.waiting then { queue with overflow := true, failed := true }
  else
    { queue with
      waiting := queue.waiting + 1
      used := queue.used + length message
      log := queue.log ++ [.queued message] }

def unseat (queue : Outbound) : Outbound :=
  { queue with log := queue.log ++ [.unseated] }

/-- The socket task takes messages from the queue and drops those it has sent. -/
def drain (waiting used : Nat) (queue : Outbound) : Outbound :=
  { queue with waiting := min queue.waiting waiting, used := min queue.used used }

/-- The socket task ends. -/
def close (queue : Outbound) : Outbound :=
  { queue with closed := true }

/-- The peers a connection knows of after an event. -/
def see (peers : List String) : Event → List String
  | .queued (.presence _ .joined peer) => peer.peerId :: peers
  | .queued (.presence _ .left peer) => peers.filter fun id => id ≠ peer.peerId
  | _ => peers

/-- The peers a connection knows of: those it was told at its join, with its presence messages applied. -/
def view (queue : Outbound) : List String :=
  queue.log.foldl see (queue.existingPeers.map PeerSummary.peerId)

end Outbound

abbrev RoomState := Table String PeerHandle

/-- The broker's state, and the outbound queue of every connection there ever was. -/
structure Inner where
  rooms : Table String RoomState
  nextConnectionId : UInt64
  accessEpoch : UInt64
  outbound : List Outbound

namespace Inner

def start : Inner where
  rooms := ∅
  nextConnectionId := 0
  accessEpoch := 0
  outbound := []

/-- The peers of a room; none where there is no room. -/
def room (s : Inner) (channelId : String) : RoomState :=
  (s.rooms.get channelId).getD ∅

def setRoom (s : Inner) (channelId : String) (room : RoomState) : Inner :=
  { s with rooms := s.rooms.put channelId room }

/-- Do something with one outbound queue. -/
def onQueue (s : Inner) (tx : Nat) (f : Outbound → Outbound) : Inner :=
  { s with outbound := s.outbound.modify tx f }

/-- Do the same with the outbound queues of several seats. -/
def onQueues (s : Inner) (seats : List (String × PeerHandle)) (f : Outbound → Outbound) : Inner :=
  seats.foldl (fun s seat => s.onQueue seat.2.tx f) s

/-- The seat that an insertion replaces, when there is one, is gone. -/
def dropHandle (s : Inner) (replaced : Option PeerHandle) : Inner :=
  match replaced with
  | some handle => s.onQueue handle.tx .unseat
  | none => s

/-- A room without peers is not kept. -/
def dropEmpty (s : Inner) (channelId : String) : Inner :=
  if (s.room channelId).pairs = [] then { s with rooms := s.rooms.drop channelId } else s

end Inner

structure JoinResult where
  connectionId : UInt64
  existingPeers : List PeerSummary
  receiver : Nat

section Calls

variable (length : ServerMessage → Nat)

/-- Take a seat away and tell the others in the room. -/
def unseat (s : Inner) (channelId peerId : String) : Option (PeerHandle × Inner) :=
  match (s.room channelId).get peerId with
  | none => none
  | some handle =>
    let room := (s.room channelId).drop peerId
    let s := (s.setRoom channelId room).onQueue handle.tx .unseat
    some (handle, s.onQueues room.pairs (.enqueue length (.presence channelId .left (handle.summary peerId))))

/-- Take a seat away and tell it why. -/
def evict (channelId code message : String) (s : Inner) (peerId : String) : Inner :=
  match unseat length s channelId peerId with
  | none => s
  | some (handle, s) => s.onQueue handle.tx (.enqueue length (.error code message))

/-- The other seats that the same pairing ticket admitted. -/
def supersededPeers (room : RoomState) (peerId : String) : Option String → List String
  | none => []
  | some pairingId =>
    (room.pairs.filter fun seat => seat.1 ≠ peerId ∧ seat.2.pairingId = some pairingId).map Prod.fst

/-- Announce a peer to the others in the room and seat it; a seat of the same id is replaced. -/
def seat (s : Inner) (channelId peerId : String) (role : PeerRole) (deviceId pairingId : Option String)
    (connectionId : UInt64) : Inner × JoinResult :=
  let tx := s.outbound.length
  let room := s.room channelId
  let others := room.pairs.filter fun seat => seat.1 ≠ peerId
  let existingPeers := others.map fun seat => seat.2.summary seat.1
  let joinedPeer : PeerSummary := { peerId := peerId, role := role, deviceId := deviceId }
  let s := (s.onQueues others (.enqueue length (.presence channelId .joined joinedPeer))).dropHandle (room.get peerId)
  let handle : PeerHandle :=
    { connectionId := connectionId, role := role, deviceId := deviceId, pairingId := pairingId, tx := tx }
  ({ s.setRoom channelId (room.put peerId handle) with outbound := s.outbound ++ [.new connectionId existingPeers] },
    { connectionId := connectionId, existingPeers := existingPeers, receiver := tx })

/-- Count the connection up, past zero. -/
def countConnection (s : Inner) : Inner :=
  { s with nextConnectionId := max (s.nextConnectionId + 1) 1 }

/-- `join_with_access_epoch`. -/
def join (s : Inner) (channelId peerId : String) (role : PeerRole) (deviceId pairingId : Option String)
    (expectedEpoch : Option UInt64) : Inner × Except String JoinResult :=
  if ∃ epoch ∈ expectedEpoch, s.accessEpoch ≠ epoch then (s, .error "access epoch changed; join rejected")
  else
    let s := countConnection s
    if ∃ existing ∈ (s.room channelId).get peerId, ¬(existing.role = .relay ∧ role = .relay) then
      (s, .error ("peer `" ++ peerId ++ "` is already connected to channel `" ++ channelId ++ "`"))
    else
      let superseded := supersededPeers (s.room channelId) peerId pairingId
      let s := superseded.foldl
        (evict length channelId "pairing_ticket_superseded" "another client joined with this pairing ticket") s
      let (s, result) := seat length s channelId peerId role deviceId pairingId s.nextConnectionId
      (s, .ok result)

/-- Close every seat of a room. -/
def forceCloseRoom (s : Inner) (channelId code message : String) : Inner × Nat :=
  let s := { s with accessEpoch := saturatingAdd s.accessEpoch 1 }
  match s.rooms.get channelId with
  | none => (s, 0)
  | some room =>
    let s := { s with rooms := s.rooms.drop channelId }.onQueues room.pairs .unseat
    (s.onQueues room.pairs (.enqueue length (.error code message)), room.pairs.length)

def leaveInner (s : Inner) (channelId peerId : String) (expectedConnectionId : Option UInt64) : Inner :=
  match (s.room channelId).get peerId with
  | none => s
  | some handle =>
    if ∃ connectionId ∈ expectedConnectionId, handle.connectionId ≠ connectionId then s
    else
      match unseat length s channelId peerId with
      | none => s
      | some (_, s) => s.dropEmpty channelId

def leave (s : Inner) (channelId peerId : String) : Inner :=
  leaveInner length s channelId peerId none

def leaveConnection (s : Inner) (channelId peerId : String) (connectionId : UInt64) : Inner :=
  leaveInner length s channelId peerId (some connectionId)

/-- The surfaces of a room that belong to revoked devices. -/
def revokedPeers (room : RoomState) (isRevokedDevice : String → Bool) : List String :=
  (room.pairs.filter fun seat => seat.2.role = .surface ∧ seat.2.deviceId.any isRevokedDevice).map Prod.fst

def closeRevokedSurfaces (s : Inner) (channelId : String) (isRevokedDevice : String → Bool) : Inner × Nat :=
  let s := { s with accessEpoch := saturatingAdd s.accessEpoch 1 }
  match s.rooms.get channelId with
  | none => (s, 0)
  | some room =>
    let revoked := revokedPeers room isRevokedDevice
    let s := revoked.foldl (evict length channelId "device_revoked" "this device was revoked") s
    (s.dropEmpty channelId, revoked.length)

/-- Deliver one message of a batch. An approval of the seat's own pairing also names its device. -/
def deliver (channelId fromPeerId : String) (senderRole : PeerRole) (s : Inner) (message : TargetedMessage) : Inner :=
  match (s.room channelId).get message.targetPeerId with
  | none => s
  | some handle =>
    let approved := if senderRole = .relay ∧ handle.deviceId = none then
        approvedPairingDevice message.payload handle.pairingId
      else none
    let s := match approved with
      | some deviceId =>
        s.setRoom channelId ((s.room channelId).put message.targetPeerId { handle with deviceId := some deviceId })
      | none => s
    s.onQueue handle.tx (.enqueue length (.message channelId fromPeerId senderRole message.payload))

def publishInner (s : Inner) (channelId fromPeerId : String) (expectedConnectionId : Option UInt64) (payload : Json) :
    Inner × Except String Unit :=
  match s.rooms.get channelId with
  | none => (s, .error ("channel `" ++ channelId ++ "` is not active"))
  | some room =>
    match room.get fromPeerId with
    | none => (s, .error ("peer `" ++ fromPeerId ++ "` is not connected to channel `" ++ channelId ++ "`"))
    | some sender =>
      if ∃ connectionId ∈ expectedConnectionId, sender.connectionId ≠ connectionId then
        (s, .error ("peer `" ++ fromPeerId ++ "` connection has been replaced in channel `" ++ channelId ++ "`"))
      else if sender.role = .surface ∧ isTargetedMessagesPayload payload then
        (s, .error "surfaces must publish a single payload to a relay")
      else
        match parseTargetedMessagesPayload payload with
        | .error error => (s, .error error)
        | .ok messages =>
          if messages.any fun message => (room.get message.targetPeerId).any fun handle => handle.role = sender.role then
            (s, .error "broker payload must target the opposite peer role")
          else (messages.foldl (deliver length channelId fromPeerId sender.role) s, .ok ())

def publish (s : Inner) (channelId fromPeerId : String) (payload : Json) : Inner × Except String Unit :=
  publishInner length s channelId fromPeerId none payload

def publishConnection (s : Inner) (channelId fromPeerId : String) (connectionId : UInt64) (payload : Json) :
    Inner × Except String Unit :=
  publishInner length s channelId fromPeerId (some connectionId) payload

end Calls

/-- What can happen to the broker: a call under its lock, a socket task at its queue, or a hash
map that changes the order it is iterated in. -/
inductive Call
  | join (channelId peerId : String) (role : PeerRole) (deviceId pairingId : Option String)
      (expectedEpoch : Option UInt64)
  | leave (channelId peerId : String)
  | leaveConnection (channelId peerId : String) (connectionId : UInt64)
  | closeRevokedSurfaces (channelId : String) (isRevokedDevice : String → Bool)
  | forceCloseRoom (channelId code message : String)
  | publish (channelId fromPeerId : String) (payload : Json)
  | publishConnection (channelId fromPeerId : String) (connectionId : UInt64) (payload : Json)
  | drain (tx waiting used : Nat)
  | close (tx : Nat)
  | reorder (channelId : String) (room : RoomState)

/-- The same room in another order. -/
def reorderRoom (s : Inner) (channelId : String) (room : RoomState) : Inner :=
  match s.rooms.get channelId with
  | none => s
  | some old => if room.entries.Perm old.entries then s.setRoom channelId room else s

def step (length : ServerMessage → Nat) (s : Inner) : Call → Inner
  | .join channelId peerId role deviceId pairingId expectedEpoch =>
    (join length s channelId peerId role deviceId pairingId expectedEpoch).1
  | .leave channelId peerId => leave length s channelId peerId
  | .leaveConnection channelId peerId connectionId => leaveConnection length s channelId peerId connectionId
  | .closeRevokedSurfaces channelId isRevokedDevice => (closeRevokedSurfaces length s channelId isRevokedDevice).1
  | .forceCloseRoom channelId code message => (forceCloseRoom length s channelId code message).1
  | .publish channelId fromPeerId payload => (publish length s channelId fromPeerId payload).1
  | .publishConnection channelId fromPeerId connectionId payload =>
    (publishConnection length s channelId fromPeerId connectionId payload).1
  | .drain tx waiting used => s.onQueue tx (.drain waiting used)
  | .close tx => s.onQueue tx .close
  | .reorder channelId room => reorderRoom s channelId room

/-- The state after any calls in any order. -/
def run (length : ServerMessage → Nat) (calls : List Call) : Inner :=
  calls.foldl (step length) .start

end Sealwire.Broker

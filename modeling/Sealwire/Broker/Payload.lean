import Sealwire.Lib.Json
import Sealwire.Lib.Text

namespace Sealwire.Broker

def payloadKind (payload : Json) : String :=
  ((payload.field "kind").bind Json.asStr).getD "-"

def isTargetedMessagesPayload (payload : Json) : Bool :=
  (payload.field "kind").bind Json.asStr = some "targeted_messages"

structure TargetedMessage where
  targetPeerId : String
  payload : Json

def targetVisitor : Visitor String where
  expecting := "a string"
  visitStr := .ok

def TargetedMessage.visitor : Visitor TargetedMessage where
  expecting := "struct TargetedMessagePayload"
  visitSeq := fun
    | [target, payload] => do .ok { targetPeerId := ← targetVisitor.deserializeAny target, payload := payload }
    | items => .error (.custom ("invalid length " ++ toString items.length ++
        ", expected struct TargetedMessagePayload with 2 elements"))
  visitMap := fun fields =>
    match fields.reverse.lookup "target_peer_id", fields.reverse.lookup "payload" with
    | some target, some payload => do .ok { targetPeerId := ← targetVisitor.deserializeAny target, payload := payload }
    | some _, none => .error (.custom "missing field `payload`")
    | none, _ => .error (.custom "missing field `target_peer_id`")

def messagesVisitor : Visitor (List TargetedMessage) where
  expecting := "a sequence"
  visitSeq := fun items => items.mapM TargetedMessage.visitor.deserializeAny

def targetedMessagesOfValue (payload : Json) : Except DecodeError (List TargetedMessage) :=
  match payload.field "messages" with
  | some messages => messagesVisitor.deserializeAny messages
  | none => .error (.custom "missing field `messages`")

def maxTargetedMessagesPerPublish : Nat := 128

/-- The checks on a batch, message by message; `targets` are the targets seen so far. -/
def checkTargets (targets : List String) : List TargetedMessage → Except String Unit
  | [] => .ok ()
  | message :: rest =>
    if trim message.targetPeerId = "" then .error "broker payload target_peer_id is empty"
    else if message.targetPeerId ∈ targets then .error "targeted_messages repeats a target_peer_id"
    else
      match message.payload.field "target_peer_id" with
      | some innerTarget =>
        if innerTarget.asStr = some message.targetPeerId then checkTargets (message.targetPeerId :: targets) rest
        else .error "targeted message target_peer_id does not match payload"
      | none => checkTargets (message.targetPeerId :: targets) rest

def parseTargetedMessagesPayload (payload : Json) : Except String (List TargetedMessage) := do
  let targeted ←
    if isTargetedMessagesPayload payload then
      (targetedMessagesOfValue payload).mapError fun error =>
        "invalid targeted_messages payload: " ++ error.text
    else
      match (payload.field "target_peer_id").bind Json.asStr with
      | some target => .ok [{ targetPeerId := target, payload := payload }]
      | none => .error "broker payload target_peer_id is required"
  if maxTargetedMessagesPerPublish < targeted.length then
    .error ("targeted_messages exceeds " ++ toString maxTargetedMessagesPerPublish ++ " messages")
  else
    checkTargets [] targeted
    .ok targeted

/-- The device that a relay's approval of a pairing names, when the seat joined with that pairing. -/
def approvedPairingDevice (payload : Json) (pairingId : Option String) : Option String :=
  if payloadKind payload ≠ "encrypted_pairing_result" then none
  else
    match (payload.field "pairing_id").bind Json.asStr with
    | some approved =>
      if pairingId = some approved then
        ((payload.field "device_id").bind Json.asStr).filter fun deviceId => deviceId ≠ ""
      else none
    | none => none

end Sealwire.Broker

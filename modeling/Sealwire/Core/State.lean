import Sealwire.Core.Rows
import Sealwire.Lib.Json
import Sealwire.Lib.Word

namespace Sealwire.Core

/-- How a type is turned into a JSON value and read back. -/
structure Codec (α : Type) where
  toValue : α → Except String Json
  ofValue : Json → Except String α

namespace Codec

variable {α : Type}

/-- Every value is written, and what is written reads back as it. -/
def RoundTrips (codec : Codec α) : Prop :=
  ∀ value, ∃ json, codec.toValue value = .ok json ∧ codec.ofValue json = .ok value

def string : Codec String where
  toValue := fun text => .ok (.string text)
  ofValue := fun
    | .string text => .ok text
    | _ => .error "invalid type: expected a string"

def bool : Codec Bool where
  toValue := fun value => .ok (.bool value)
  ofValue := fun
    | .bool value => .ok value
    | _ => .error "invalid type: expected a boolean"

def u64 : Codec UInt64 where
  toValue := fun n => .ok (.number (.posInt n))
  ofValue := fun
    | .number (.posInt n) => .ok n
    | _ => .error "invalid type: expected u64"

def u32 : Codec UInt32 where
  toValue := fun n => .ok (.number (.posInt n.toUInt64))
  ofValue := fun
    | .number (.posInt n) =>
      match u32OfU64 n with
      | some n => .ok n
      | none => .error "invalid value: expected u32"
    | _ => .error "invalid type: expected u32"

def option (codec : Codec α) : Codec (Option α) where
  toValue := fun
    | some value => codec.toValue value
    | none => .ok .null
  ofValue := fun
    | .null => .ok none
    | json => (codec.ofValue json).map some

def list (codec : Codec α) : Codec (List α) where
  toValue := fun values => (values.mapM codec.toValue).map .array
  ofValue := fun
    | .array items => items.mapM codec.ofValue
    | _ => .error "invalid type: expected a sequence"

end Codec

/-- A field that has to be there. -/
def requiredField {α : Type} (fields : List (String × Json)) (name : String) (codec : Codec α) : Except String α :=
  match fields.lookup name with
  | some value => codec.ofValue value
  | none => .error ("missing field `" ++ name ++ "`")

/-- A field with a default for when it is not there. -/
def defaultedField {α : Type} (fields : List (String × Json)) (name : String) (codec : Codec α) (absent : α) :
    Except String α :=
  match fields.lookup name with
  | some value => codec.ofValue value
  | none => .ok absent

structure PairingBroker where
  brokerUrl : String
  brokerRoomId : String
  relayPeerId : String
  relayVerifyKey : String
  deriving DecidableEq

/-- The fields of an object are in the order of their names, as in every JSON value the relay builds. -/
def PairingBroker.codec : Codec PairingBroker where
  toValue := fun broker => .ok (.object
    [("broker_room_id", .string broker.brokerRoomId), ("broker_url", .string broker.brokerUrl),
      ("relay_peer_id", .string broker.relayPeerId), ("relay_verify_key", .string broker.relayVerifyKey)])
  ofValue := fun
    | .object fields => do
      .ok { brokerUrl := ← requiredField fields "broker_url" .string
            brokerRoomId := ← requiredField fields "broker_room_id" .string
            relayPeerId := ← requiredField fields "relay_peer_id" .string
            relayVerifyKey := ← requiredField fields "relay_verify_key" .string }
    | _ => .error "invalid type: expected struct PairingBroker"

structure PairedDevice where
  deviceId : String
  label : String
  payloadSecret : String
  deviceVerifyKey : String
  createdAt : UInt64
  lastSeenAt : Option UInt64
  lastPeerId : Option String
  brokerJoinTicketExpiresAt : Option UInt64
  pathScope : List String
  pairingBroker : Option PairingBroker
  deriving DecidableEq

def payloadSecretField : String := "payload_secret"

def PairedDevice.codec : Codec PairedDevice where
  toValue := fun device => do
    let pairingBroker ← match device.pairingBroker with
      | some broker => do
        let broker ← PairingBroker.codec.toValue broker
        .ok [("pairing_broker", broker)]
      | none => .ok []
    .ok (.object (
      [("broker_join_ticket_expires_at", ← Codec.u64.option.toValue device.brokerJoinTicketExpiresAt),
        ("created_at", ← Codec.u64.toValue device.createdAt), ("device_id", ← Codec.string.toValue device.deviceId),
        ("device_verify_key", ← Codec.string.toValue device.deviceVerifyKey),
        ("label", ← Codec.string.toValue device.label),
        ("last_peer_id", ← Codec.string.option.toValue device.lastPeerId),
        ("last_seen_at", ← Codec.u64.option.toValue device.lastSeenAt)] ++
      pairingBroker ++
      [("path_scope", ← Codec.string.list.toValue device.pathScope),
        (payloadSecretField, ← Codec.string.toValue device.payloadSecret)]))
  ofValue := fun
    | .object fields => do
      .ok { deviceId := ← requiredField fields "device_id" .string
            label := ← requiredField fields "label" .string
            payloadSecret := ← requiredField fields payloadSecretField .string
            deviceVerifyKey := ← defaultedField fields "device_verify_key" .string ""
            createdAt := ← requiredField fields "created_at" .u64
            lastSeenAt := ← defaultedField fields "last_seen_at" Codec.u64.option none
            lastPeerId := ← defaultedField fields "last_peer_id" Codec.string.option none
            brokerJoinTicketExpiresAt :=
              ← defaultedField fields "broker_join_ticket_expires_at" Codec.u64.option none
            pathScope := ← defaultedField fields "path_scope" Codec.string.list []
            pairingBroker := ← defaultedField fields "pairing_broker" PairingBroker.codec.option none }
    | _ => .error "invalid type: expected struct PairedDevice"

/-- The kinds of entity whose own encoding is not looked into. -/
inductive EntityKind
  | threadSessionSettings
  | sessionBinding
  | threadWorkspace
  | deviceRecord
  | reviewerThread
  | reviewJob
  | ask
  | handover
  | goal
  | workflowRun
  | teamRun
  | orchestratorProposalView
  | pushSubscription
  | apnsToken
  | projectView
  deriving DecidableEq

/-- The entity types, how each is encoded, and the id of a proposal card. -/
structure Entities where
  Entity : EntityKind → Type
  codec : ∀ kind, Codec (Entity kind)
  proposalId : Entity .orchestratorProposalView → String

/-- A vector cannot hold more elements than fit in the address space. -/
def maxVecLen : Nat := 2 ^ 63 - 1

/-- The relay's durable state. A map or a set is a table. -/
structure PersistedRelayState (E : Entities) where
  schemaVersion : UInt32
  activeThreadId : Option String
  activeControllerDeviceId : Option String
  activeControllerLastSeenAt : Option UInt64
  currentStatus : String
  activeFlags : List String
  currentCwd : String
  model : String
  approvalPolicy : String
  sandbox : String
  reasoningEffort : String
  providerName : String
  threadSettings : Table String (E.Entity .threadSessionSettings)
  threadForkedFrom : Table String String
  sessionBindings : Table String (E.Entity .sessionBinding)
  threadWorkspace : Table String (E.Entity .threadWorkspace)
  threadLastTurnBaseSha : Table String String
  threadLastTurnBaseCwd : Table String String
  threadLastActivityAt : Table String UInt64
  allowedRoots : List String
  usageDailyCap : Option UInt64
  usageBudgetPolicy : String
  trustedWorkspaces : List String
  allowedRootsTrustMigrated : Bool
  deviceRecords : Table String (E.Entity .deviceRecord)
  pairedDevices : Table String PairedDevice
  reviewerThreads : Table String (E.Entity .reviewerThread)
  reviewJobs : Table String (E.Entity .reviewJob)
  asks : Table String (E.Entity .ask)
  handovers : Table String (E.Entity .handover)
  goals : Table String (E.Entity .goal)
  workflowJobs : Table String (E.Entity .workflowRun)
  teamRuns : Table String (E.Entity .teamRun)
  orchestratorThreadId : Option String
  orchestratorDeviceId : Option String
  orchestratorSystemPrompt : Option String
  orchestratorSystemPromptVersion : Option UInt32
  orchestratorProposals : List (E.Entity .orchestratorProposalView)
  proposalsFit : orchestratorProposals.length ≤ maxVecLen
  pushSubscriptions : Table String (List (E.Entity .pushSubscription))
  apnsTokens : Table String (E.Entity .apnsToken)
  projects : Table String (E.Entity .projectView)
  threadProjectId : Table String String
  threadCustomName : Table String String
  threadFlagged : Table String Unit
  projectsRevision : UInt64
  transcriptClock : UInt64

end Sealwire.Core

import Sealwire.Core.State
import Sealwire.Lib.Text
import Sealwire.Requests.Book

namespace Sealwire.Devices

open Sealwire.Core (PairedDevice PairingBroker)
open Sealwire.Requests (RemoteRequestBook CachedRemoteActionState NotifyId)

def claimChallengeTtlSecs : UInt64 := 60

def defaultPairingTtlSecs : UInt64 := 180

def maxPairingTtlSecs : UInt64 := 600

def maxPairingStartsPerMinute : Nat := 10

def pairingReplacedError : String := "this pairing QR was replaced by a newer one; scan the new QR"

def pairingTakenError : String :=
  "another device already used this pairing QR; make a new QR and scan that"

/-- What the pairing code takes from other libraries: the hash, the ASCII origin of a broker's
URL (the URL itself where it has none), the fingerprint shown for a key, and which push
endpoints are public https URLs. -/
structure PairingWorld where
  sha256Hex : String → String
  brokerOrigin : String → String
  deviceFingerprint : String → Option String
  isAcceptablePushEndpoint : String → Bool

inductive DeviceLifecycleState
  | pending
  | approved
  | rejected
  | revoked
  deriving DecidableEq

structure PendingPairing where
  pairingId : String
  pairingSecret : String
  secretHash : String
  createdAt : UInt64
  expiresAt : UInt64
  pathScope : List String
  pairingBroker : Option PairingBroker
  deriving DecidableEq

structure DeviceRecord where
  deviceId : String
  label : String
  lifecycleState : DeviceLifecycleState
  createdAt : UInt64
  stateChangedAt : UInt64
  lastSeenAt : Option UInt64
  lastPeerId : Option String
  deviceVerifyKey : String
  brokerJoinTicketExpiresAt : Option UInt64
  pathScope : List String
  brokerRevokePending : Bool
  deriving DecidableEq

structure PairedDeviceView where
  deviceId : String
  label : String
  lifecycleState : DeviceLifecycleState
  createdAt : UInt64
  lastSeenAt : Option UInt64
  lastPeerId : Option String
  brokerJoinTicketExpiresAt : Option UInt64
  fingerprint : Option String
  pathScope : List String
  deriving DecidableEq

structure PendingPairingRequest where
  pairingId : String
  deviceId : String
  label : String
  requestedAt : UInt64
  expiresAt : UInt64
  brokerPeerId : String
  deviceVerifyKey : String
  pathScope : List String
  deriving DecidableEq

structure ClaimChallenge where
  challengeId : String
  deviceId : String
  peerId : String
  challenge : String
  expiresAt : UInt64
  deriving DecidableEq

/-- The answer kept for a pairing that was decided or replaced. -/
structure CompletedPairing where
  pairingId : String
  pairingSecret : String
  expiresAt : UInt64
  deviceVerifyKey : String
  device : Option PairedDeviceView
  payloadSecret : Option String
  relayId : Option String
  relayLabel : Option String
  clientClaimId : Option String
  clientClaimNonce : Option String
  clientClaimExpiresAt : Option UInt64
  deviceRefreshToken : Option String
  deviceJoinTicket : Option String
  deviceJoinTicketExpiresAt : Option UInt64
  error : Option String
  pathScope : List String
  deriving DecidableEq

/-- What is sent to the phone that asked. -/
structure PendingPairingResult where
  pairingId : String
  targetPeerId : String
  pairingSecret : String
  device : Option PairedDeviceView
  payloadSecret : Option String
  relayId : Option String
  relayLabel : Option String
  clientClaimId : Option String
  clientClaimNonce : Option String
  clientClaimExpiresAt : Option UInt64
  deviceRefreshToken : Option String
  deviceJoinTicket : Option String
  deviceJoinTicketExpiresAt : Option UInt64
  error : Option String
  deriving DecidableEq

structure PreparedPairingTicket where
  pairingId : String
  pairingSecret : String
  expiresAt : UInt64
  pathScope : List String
  generation : UInt64
  deriving DecidableEq

structure WatchedSurface where
  deviceId : String
  threadIds : Finset String
  generation : UInt64
  deriving DecidableEq

structure PushSubscription where
  endpoint : String
  p256dh : String
  auth : String
  deviceId : String
  createdAt : UInt64
  deriving DecidableEq

structure PushSubscriptionInput where
  deviceId : Option String
  endpoint : String
  p256dh : String
  auth : String

inductive ApnsEnvironment
  | development
  | production
  deriving DecidableEq

structure ApnsToken where
  token : String
  environment : ApnsEnvironment
  topic : String
  deviceId : String
  relayId : String
  deriving DecidableEq

structure ApnsTokenInput where
  token : String
  environment : ApnsEnvironment
  topic : String
  relayId : String
  deviceId : Option String

/-- What the device operations read and write of the relay's state. -/
structure RelayState where
  pairingStarts : List UInt64
  pairingGeneration : UInt64
  pendingPairings : Table String PendingPairing
  pendingPairingRequests : Table String PendingPairingRequest
  claimedPairingRequests : Finset String
  retiredPairings : Table String PendingPairing
  completedPairings : Table String CompletedPairing
  pairedDevices : Table String PairedDevice
  deviceRecords : Table String DeviceRecord
  brokerRevokesInFlight : Finset String
  pendingClaimChallenges : Table String ClaimChallenge
  surfaceLeases : Table String UInt64
  onlineSurfacePeerDevices : Table String String
  watchedThreads : Table String WatchedSurface
  pushSubscriptions : Table String (List PushSubscription)
  apnsTokens : Table String ApnsToken
  activeControllerDeviceId : Option String
  activeControllerLastSeenAt : Option UInt64
  orchestratorThreadId : Option String
  orchestratorDeviceId : Option String
  orchestratorSystemPrompt : Option String
  orchestratorSystemPromptVersion : Option UInt64
  recentRemoteActions : Table String CachedRemoteActionState
  remoteRequests : RemoteRequestBook
  nextNotify : NotifyId
  woken : List NotifyId

def PairedDevice.toView (world : PairingWorld) (device : PairedDevice) : PairedDeviceView where
  deviceId := device.deviceId
  label := device.label
  lifecycleState := .approved
  createdAt := device.createdAt
  lastSeenAt := device.lastSeenAt
  lastPeerId := device.lastPeerId
  brokerJoinTicketExpiresAt := device.brokerJoinTicketExpiresAt
  fingerprint := world.deviceFingerprint device.deviceVerifyKey
  pathScope := device.pathScope

def DeviceRecord.approvedFrom (device : PairedDevice) : DeviceRecord where
  deviceId := device.deviceId
  label := device.label
  lifecycleState := .approved
  createdAt := device.createdAt
  stateChangedAt := device.createdAt
  lastSeenAt := device.lastSeenAt
  lastPeerId := device.lastPeerId
  deviceVerifyKey := device.deviceVerifyKey
  brokerJoinTicketExpiresAt := device.brokerJoinTicketExpiresAt
  pathScope := device.pathScope
  brokerRevokePending := false

def nonEmpty (value : Option String) : Option String :=
  value.bind fun item => if trim item = "" then none else some (trim item)

def normalizeDeviceLabel (value : Option String) (fallback : String) : String :=
  let label := (nonEmpty value).getD (trim fallback)
  let normalized := trim label
  let normalized := if normalized = "" then "Remote Device" else normalized
  if 80 < normalized.length then (normalized.take 80).toString else normalized

def keyDeviceId (world : PairingWorld) (deviceVerifyKey : String) (broker : Option PairingBroker) : String :=
  let brokerOrigin := (broker.map fun broker => world.brokerOrigin broker.brokerUrl).getD ""
  "mobile-" ++ world.sha256Hex (deviceVerifyKey ++ "\n" ++ brokerOrigin)

def refusedPairingResult (pairingId targetPeerId pairingSecret error : String) : PendingPairingResult where
  pairingId := pairingId
  targetPeerId := targetPeerId
  pairingSecret := pairingSecret
  device := none
  payloadSecret := none
  relayId := none
  relayLabel := none
  clientClaimId := none
  clientClaimNonce := none
  clientClaimExpiresAt := none
  deviceRefreshToken := none
  deviceJoinTicket := none
  deviceJoinTicketExpiresAt := none
  error := some error

def replacedPairingResult (pairingId targetPeerId pairingSecret : String) : PendingPairingResult :=
  refusedPairingResult pairingId targetPeerId pairingSecret pairingReplacedError

/-- A pairing answered with an error and nothing else. -/
def CompletedPairing.refused (pairing : PendingPairing) (deviceVerifyKey error : String) : CompletedPairing where
  pairingId := pairing.pairingId
  pairingSecret := pairing.pairingSecret
  expiresAt := pairing.expiresAt
  deviceVerifyKey := deviceVerifyKey
  device := none
  payloadSecret := none
  relayId := none
  relayLabel := none
  clientClaimId := none
  clientClaimNonce := none
  clientClaimExpiresAt := none
  deviceRefreshToken := none
  deviceJoinTicket := none
  deviceJoinTicketExpiresAt := none
  error := some error
  pathScope := pairing.pathScope

end Sealwire.Devices

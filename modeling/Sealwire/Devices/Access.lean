import Sealwire.Devices.Pairing
import Sealwire.Lib.Runs

namespace Sealwire.Devices

open Sealwire.Core (PairedDevice PairingBroker)

namespace RelayState

/-- The relay's state as the request book sees it. -/
def book (s : RelayState) : Requests.RelayState where
  pairedDevices := (s.pairedDevices.pairs.map Prod.fst).toFinset
  recentRemoteActions := s.recentRemoteActions
  remoteRequests := s.remoteRequests
  nextNotify := s.nextNotify
  woken := s.woken

def setBook (s : RelayState) (book : Requests.RelayState) : RelayState :=
  { s with
    recentRemoteActions := book.recentRemoteActions
    remoteRequests := book.remoteRequests
    nextNotify := book.nextNotify
    woken := book.woken }

def clearWatchedThreadsForDevice (s : RelayState) (deviceId : String) : RelayState :=
  { s with watchedThreads := s.watchedThreads.retain fun _ watched => watched.deviceId ≠ deviceId }

/-- Drop the Orchestrator pin when its acting device is revoked. -/
def clearOrchestratorPinIfDevice (s : RelayState) (deviceId : String) : RelayState :=
  if s.orchestratorDeviceId ≠ some deviceId then s
  else { s with
    orchestratorThreadId := none
    orchestratorDeviceId := none
    orchestratorSystemPrompt := none
    orchestratorSystemPromptVersion := none }

/-- The device is taken off the paired devices, the push lists, the watch sets and the request sessions. -/
def dropDeviceAccess (s : RelayState) (deviceId : String) : RelayState :=
  let s := { s with
    pairedDevices := s.pairedDevices.drop deviceId
    pushSubscriptions := s.pushSubscriptions.drop deviceId
    apnsTokens := s.apnsTokens.drop deviceId }
  let s := s.clearWatchedThreadsForDevice deviceId
  s.setBook (s.book.forgetRemoteRequestsForDevice deviceId)

def releaseControllerIfDevice (s : RelayState) (deviceId : String) : RelayState :=
  if s.activeControllerDeviceId = some deviceId then
    { s with activeControllerDeviceId := none, activeControllerLastSeenAt := none }
  else s

def revokePairedDevice (s : RelayState) (deviceId : String) (now : UInt64) : RelayState × Bool :=
  match s.pairedDevices.get deviceId with
  | none => (s, false)
  | some device =>
    let s := (s.dropDeviceAccess deviceId).recordRevokedDevice device now
    ((s.releaseControllerIfDevice deviceId).clearOrchestratorPinIfDevice deviceId, true)

/-- A revoked or rejected record goes, unless a broker revoke of its device is still owed. -/
def isHistory (s : RelayState) (record : DeviceRecord) : Bool :=
  (record.lifecycleState = .revoked || record.lifecycleState = .rejected) && !record.brokerRevokePending &&
    !(record.deviceId ∈ s.brokerRevokesInFlight)

def clearedIds (s : RelayState) : List String :=
  ((s.deviceRecords.pairs.filter fun entry => s.isHistory entry.2).map fun entry => entry.2.deviceId).mergeSort

def forgetRecord (s : RelayState) (deviceId : String) : RelayState :=
  ({ s with deviceRecords := s.deviceRecords.drop deviceId }).clearOrchestratorPinIfDevice deviceId

/-- Forget revoked and rejected devices, and with a revoked one the limit of its accepted work. -/
def clearDeviceHistory (s : RelayState) : RelayState × List String :=
  (s.clearedIds.foldl forgetRecord s, s.clearedIds)

def revokeAllOtherPairedDevices (s : RelayState) (keepDeviceId : String) (now : UInt64) :
    RelayState × Except String (List String) :=
  if s.pairedDevices.has keepDeviceId then
    let revoked := (s.pairedDevices.pairs.map Prod.fst).filter fun deviceId => deviceId ≠ keepDeviceId
    (revoked.foldl (fun s deviceId => (s.revokePairedDevice deviceId now).1) s, .ok revoked)
  else (s, .error "device is not paired")

def pruneExpiredClaimChallenges (s : RelayState) (now : UInt64) : RelayState :=
  { s with pendingClaimChallenges := s.pendingClaimChallenges.retain fun _ challenge => now < challenge.expiresAt }

def pruneClaimChallengesForPeer (s : RelayState) (deviceId peerId : String) : RelayState :=
  { s with pendingClaimChallenges := s.pendingClaimChallenges.retain fun _ challenge =>
      challenge.deviceId ≠ deviceId || challenge.peerId ≠ peerId }

/-- `challengeId` and `challenge` are the random texts the relay draws. -/
def issueClaimChallenge (s : RelayState) (deviceId peerId challengeId challenge : String) (now : UInt64) :
    RelayState × Except String ClaimChallenge :=
  let s := (s.pruneExpiredClaimChallenges now).pruneClaimChallengesForPeer deviceId peerId
  if s.pairedDevices.has deviceId then
    let issued : ClaimChallenge :=
      { challengeId := challengeId, deviceId := deviceId, peerId := peerId, challenge := challenge,
        expiresAt := saturatingAdd now claimChallengeTtlSecs }
    ({ s with pendingClaimChallenges := s.pendingClaimChallenges.put challengeId issued }, .ok issued)
  else (s, .error "device is not paired")

def claimChallenge (s : RelayState) (deviceId challengeId peerId : String) (now : UInt64) :
    RelayState × Except String ClaimChallenge :=
  let s := s.pruneExpiredClaimChallenges now
  match s.pendingClaimChallenges.get challengeId with
  | none => (s, .error "claim challenge is missing or expired")
  | some challenge =>
    if challenge.deviceId ≠ deviceId then (s, .error "claim challenge does not belong to this device")
    else if challenge.peerId ≠ peerId then (s, .error "claim challenge does not belong to this broker peer")
    else if s.pairedDevices.has deviceId then (s, .ok challenge)
    else (s, .error "device is not paired")

/-- What a paired device's new connection changes: when and where it was seen. -/
def stampSeen (s : RelayState) (device : PairedDevice) (deviceId peerId : String) (now : UInt64) : RelayState :=
  let seen := { device with lastSeenAt := some now, lastPeerId := some peerId }
  let s := { s with pairedDevices := s.pairedDevices.put deviceId seen }
  (s.bindSurfacePeerToDevice deviceId peerId).syncDeviceRecordFromApprovedDevice seen now

def completeRemoteClaim (s : RelayState) (deviceId challengeId peerId : String) (now : UInt64) :
    RelayState × Except String Unit :=
  match s.claimChallenge deviceId challengeId peerId now with
  | (s, .error error) => (s, .error error)
  | (s, .ok _) =>
    let s := { s with pendingClaimChallenges := s.pendingClaimChallenges.drop challengeId }
    match s.pairedDevices.get deviceId with
    | none => (s, .error "device is not paired")
    | some device => ((s.stampSeen device deviceId peerId now).pruneClaimChallengesForPeer deviceId peerId, .ok ())

def surfaceLeaseIsCurrent (s : RelayState) (peerId : String) (lease : UInt64) : Bool :=
  s.surfaceLeases.get peerId = some lease

def markPairedDeviceSeen (s : RelayState) (deviceId peerId : String) (lease : Option UInt64) (now : UInt64) :
    RelayState × Except String Unit :=
  if lease.any fun lease => !s.surfaceLeaseIsCurrent peerId lease then (s, .ok ())
  else
    match s.pairedDevices.get deviceId with
    | none => (s, .error "device is not paired")
    | some device => (s.stampSeen device deviceId peerId now, .ok ())

/-- Empty means no limit of its own. A revoked device keeps its limit for the work accepted before. -/
def deviceFolderLimit (s : RelayState) (deviceId : String) : List String :=
  match s.pairedDevices.get deviceId with
  | some device => device.pathScope
  | none =>
    match (s.deviceRecords.get deviceId).filter fun record => record.lifecycleState = .revoked with
    | some record => record.pathScope
    | none => []

/-- The start of a broker's revoke of credentials, made after the devices were revoked here. -/
def beginBrokerRevoke (s : RelayState) (deviceIds : List String) : RelayState :=
  { s with brokerRevokesInFlight := s.brokerRevokesInFlight ∪ deviceIds.toFinset }

def settleOne (failed : Bool) (s : RelayState) (deviceId : String) : RelayState :=
  { s with
    brokerRevokesInFlight := s.brokerRevokesInFlight.erase deviceId
    deviceRecords := s.deviceRecords.modify deviceId fun record => { record with brokerRevokePending := failed } }

/-- Marks each device with whether the broker still accepts its credential. -/
def settleBrokerRevoke (s : RelayState) (deviceIds : List String) (failed : Bool) : RelayState :=
  deviceIds.foldl (settleOne failed) s

def registerPushSubscription (world : PairingWorld) (s : RelayState) (input : PushSubscriptionInput) (now : UInt64) :
    RelayState × Except String Unit :=
  match input.deviceId with
  | none => (s, .error "push subscription is missing a device id")
  | some deviceId =>
    if !s.pairedDevices.has deviceId then (s, .error "device is not paired")
    else if input.endpoint = "" ∨ input.p256dh = "" ∨ input.auth = "" then
      (s, .error "push subscription is incomplete")
    else if !world.isAcceptablePushEndpoint input.endpoint then
      (s, .error "push endpoint must be a public https URL")
    else
      let existing := (s.pushSubscriptions.get deviceId).getD []
      if existing.any fun sub => sub.endpoint = input.endpoint && sub.p256dh = input.p256dh && sub.auth = input.auth then
        (s, .ok ())
      else
        let subscription : PushSubscription :=
          { endpoint := input.endpoint, p256dh := input.p256dh, auth := input.auth, deviceId := deviceId,
            createdAt := now }
        let others := existing.filter fun sub => sub.endpoint ≠ subscription.endpoint
        ({ s with pushSubscriptions := s.pushSubscriptions.put deviceId (others ++ [subscription]) }, .ok ())

def apnsTopic : String := "dev.sealwire.mobile"

def isAsciiHexDigit (c : Char) : Bool :=
  ('0' ≤ c && c ≤ '9') || ('a' ≤ c && c ≤ 'f') || ('A' ≤ c && c ≤ 'F')

def registerApnsToken (s : RelayState) (input : ApnsTokenInput) : RelayState × Except String Unit :=
  match input.deviceId with
  | none => (s, .error "APNs token is missing a device id")
  | some deviceId =>
    if !s.pairedDevices.has deviceId then (s, .error "device is not paired")
    else if input.token = "" ∨ 1024 < input.token.utf8ByteSize ∨ input.token.utf8ByteSize % 2 ≠ 0 ∨
        !input.token.toList.all isAsciiHexDigit then
      (s, .error "APNs token must be a hexadecimal device token")
    else if input.topic ≠ apnsTopic then (s, .error "APNs topic must be dev.sealwire.mobile")
    else if trim input.relayId = "" ∨ 512 < input.relayId.utf8ByteSize then
      (s, .error "APNs token is missing a valid relay id")
    else
      let token : ApnsToken :=
        { token := String.ofList (input.token.toList.map Char.toLower), environment := input.environment,
          topic := input.topic, deviceId := deviceId, relayId := input.relayId }
      if s.apnsTokens.get deviceId = some token then (s, .ok ())
      else
        ({ s with
            apnsTokens := s.apnsTokens.put deviceId token
            pushSubscriptions := s.pushSubscriptions.drop deviceId }, .ok ())

end RelayState

/-- One operation on the relay's devices, each done under the relay's lock. -/
inductive DeviceMove
  | prepare (requestedTtlSecs : Option UInt64) (pathScope : List String) (pairingId pairingSecret : String)
      (now : UInt64)
  | install (prepared : PreparedPairingTicket) (now : UInt64)
  | issueView (prepared : PreparedPairingTicket) (broker : PairingBroker)
  | register (pairingId : String) (requestedDeviceId deviceLabel : Option String) (peerId deviceVerifyKey : String)
      (now : UInt64)
  | claimRequest (pairingId : String) (now : UInt64)
  | restoreRequest (request : PendingPairingRequest)
  | decide (pairingId : String) (approved : Bool) (deviceJoinTicketExpiresAt : Option UInt64)
      (payloadSecret : String) (now : UInt64)
  | prune (now : UInt64)
  | attachCredential (pairingId : String) (deviceRefreshToken : Option String) (deviceJoinTicket : String)
      (deviceJoinTicketExpiresAt : Option UInt64) (now : UInt64)
  | attachGrant (pairingId : String) (relayId relayLabel clientClaimId clientClaimNonce : Option String)
      (clientClaimExpiresAt : Option UInt64)
  | revoke (deviceId : String) (now : UInt64)
  | revokeOthers (keepDeviceId : String) (now : UInt64)
  | beginBrokerRevoke (deviceIds : List String)
  | settleBrokerRevoke (deviceIds : List String) (failed : Bool)
  | clearHistory
  | issueChallenge (deviceId peerId challengeId challenge : String) (now : UInt64)
  | claimChallenge (deviceId challengeId peerId : String) (now : UInt64)
  | completeClaim (deviceId challengeId peerId : String) (now : UInt64)
  | markSeen (deviceId peerId : String) (lease : Option UInt64) (now : UInt64)
  | openSession (boot deviceId peerId sid : String) (nowMs nowSecs : UInt64)
  | registerPush (input : PushSubscriptionInput) (now : UInt64)
  | registerApns (input : ApnsTokenInput)

def DeviceMove.run (world : PairingWorld) (s : RelayState) : DeviceMove → RelayState
  | .prepare requestedTtlSecs pathScope pairingId pairingSecret now =>
    (s.preparePairingTicket requestedTtlSecs pathScope pairingId pairingSecret now).1
  | .install prepared now => (s.installPairingTicket world prepared now).1
  | .issueView prepared broker => s.issuePairingTicketView prepared broker
  | .register pairingId requestedDeviceId deviceLabel peerId deviceVerifyKey now =>
    (s.registerPairingRequest world pairingId requestedDeviceId deviceLabel peerId deviceVerifyKey now).1
  | .claimRequest pairingId now => (s.claimPairingRequest pairingId now).1
  | .restoreRequest request => s.restorePairingRequest request
  | .decide pairingId approved deviceJoinTicketExpiresAt payloadSecret now =>
    (s.decidePairingRequest world pairingId approved deviceJoinTicketExpiresAt payloadSecret now).1
  | .prune now => s.pruneExpiredPairings now
  | .attachCredential pairingId deviceRefreshToken deviceJoinTicket deviceJoinTicketExpiresAt now =>
    (s.attachPairingBrokerCredential pairingId deviceRefreshToken deviceJoinTicket deviceJoinTicketExpiresAt now).1
  | .attachGrant pairingId relayId relayLabel clientClaimId clientClaimNonce clientClaimExpiresAt =>
    (s.attachPairingClientGrant pairingId relayId relayLabel clientClaimId clientClaimNonce clientClaimExpiresAt).1
  | .revoke deviceId now => (s.revokePairedDevice deviceId now).1
  | .revokeOthers keepDeviceId now => (s.revokeAllOtherPairedDevices keepDeviceId now).1
  | .beginBrokerRevoke deviceIds => s.beginBrokerRevoke deviceIds
  | .settleBrokerRevoke deviceIds failed => s.settleBrokerRevoke deviceIds failed
  | .clearHistory => s.clearDeviceHistory.1
  | .issueChallenge deviceId peerId challengeId challenge now =>
    (s.issueClaimChallenge deviceId peerId challengeId challenge now).1
  | .claimChallenge deviceId challengeId peerId now => (s.claimChallenge deviceId challengeId peerId now).1
  | .completeClaim deviceId challengeId peerId now => (s.completeRemoteClaim deviceId challengeId peerId now).1
  | .markSeen deviceId peerId lease now => (s.markPairedDeviceSeen deviceId peerId lease now).1
  | .openSession boot deviceId peerId sid nowMs nowSecs =>
    s.setBook (s.book.openRequestSession boot deviceId peerId sid nowMs nowSecs).1
  | .registerPush input now => (s.registerPushSubscription world input now).1
  | .registerApns input => (s.registerApnsToken input).1

end Sealwire.Devices

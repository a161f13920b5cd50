import Mathlib.Data.Finset.Basic
import Sealwire.Devices.State

namespace Sealwire.Devices

open Sealwire.Core (PairedDevice PairingBroker)

namespace RelayState

def pruneExpiredPairings (s : RelayState) (now : UInt64) : RelayState :=
  let pendingPairings := s.pendingPairings.retain fun _ pairing => now < pairing.expiresAt
  { s with
    pendingPairings := pendingPairings
    pendingPairingRequests := s.pendingPairingRequests.retain fun pairingId _ => pendingPairings.has pairingId
    claimedPairingRequests := s.claimedPairingRequests.filter fun pairingId => pendingPairings.has pairingId
    retiredPairings := s.retiredPairings.retain fun _ pairing => now < pairing.expiresAt
    completedPairings := s.completedPairings.retain fun _ pairing => now < pairing.expiresAt }

/-- `pairingId` and `pairingSecret` are the random names the relay draws. -/
def preparePairingTicket (s : RelayState) (requestedTtlSecs : Option UInt64) (pathScope : List String)
    (pairingId pairingSecret : String) (now : UInt64) : RelayState × Except String PreparedPairingTicket :=
  let s := s.pruneExpiredPairings now
  let windowStart := saturatingSub now 60
  let starts := s.pairingStarts.dropWhile fun started => started ≤ windowStart
  let s := { s with pairingStarts := starts }
  match starts.head?.filter fun _ => maxPairingStartsPerMinute ≤ starts.length with
  | some oldest =>
    let retryIn := max (saturatingSub (saturatingAdd oldest 60) now) 1
    (s, .error ("Too many new pairing QRs: at most " ++ maxPairingStartsPerMinute.repr ++
      " a minute. Try again in " ++ retryIn.toNat.repr ++ "s; a QR already on screen still works."))
  | none =>
    let ttlSecs := min (max (requestedTtlSecs.getD defaultPairingTtlSecs) 30) maxPairingTtlSecs
    let generation := s.pairingGeneration + 1
    ({ s with pairingStarts := starts ++ [now], pairingGeneration := generation },
      .ok { pairingId := pairingId, pairingSecret := pairingSecret, expiresAt := saturatingAdd now ttlSecs,
            pathScope := pathScope, generation := generation })

/-- Answers a phone waiting on a replaced QR the way a rejection does, minus the device record. -/
def retirePairingRequest (s : RelayState) (pairing : PendingPairing) (request : PendingPairingRequest) :
    RelayState × PendingPairingResult :=
  ({ s with
      retiredPairings := s.retiredPairings.put pairing.pairingId pairing
      completedPairings := s.completedPairings.put pairing.pairingId
        (.refused pairing request.deviceVerifyKey pairingReplacedError) },
    replacedPairingResult pairing.pairingId request.brokerPeerId pairing.pairingSecret)

/-- One round of retiring the pairings that a newer one replaces. -/
def retireOne (retiring : RelayState × List PendingPairingResult) (pairing : String × PendingPairing) :
    RelayState × List PendingPairingResult :=
  let (s, owed) := retiring
  match s.pendingPairingRequests.get pairing.1 with
  | some request =>
    let (s, result) := { s with pendingPairingRequests := s.pendingPairingRequests.drop pairing.1 }.retirePairingRequest
      pairing.2 request
    (s, owed ++ [result])
  | none => ({ s with retiredPairings := s.retiredPairings.put pairing.1 pairing.2 }, owed)

/-- Makes `prepared` the only live pairing, and returns the answers owed to the phones that
wait on the ones it retires. -/
def installPairingTicket (world : PairingWorld) (s : RelayState) (prepared : PreparedPairingTicket) (now : UInt64) :
    RelayState × Except String (List PendingPairingResult) :=
  if prepared.generation ≠ s.pairingGeneration then
    (s, .error "a newer pairing QR was requested; use that one")
  else if prepared.expiresAt ≤ now then
    (s, .error "the pairing QR expired before it could be issued")
  else
    let (s, owed) := s.pendingPairings.pairs.foldl retireOne ({ s with pendingPairings := ∅ }, [])
    ({ s with
        pendingPairingRequests := ∅
        pendingPairings := s.pendingPairings.put prepared.pairingId
          { pairingId := prepared.pairingId, pairingSecret := prepared.pairingSecret,
            secretHash := world.sha256Hex prepared.pairingSecret, createdAt := now,
            expiresAt := prepared.expiresAt, pathScope := prepared.pathScope, pairingBroker := none } },
      .ok owed)

/-- The broker that a pairing's QR names is recorded with it; the QR itself is drawn elsewhere. -/
def issuePairingTicketView (s : RelayState) (prepared : PreparedPairingTicket) (broker : PairingBroker) : RelayState :=
  { s with pendingPairings := s.pendingPairings.modify prepared.pairingId fun pending =>
      { pending with pairingBroker := some broker } }

def bindSurfacePeerToDevice (s : RelayState) (deviceId peerId : String) : RelayState :=
  { s with onlineSurfacePeerDevices := s.onlineSurfacePeerDevices.put peerId deviceId }

def syncDeviceRecordFromApprovedDevice (s : RelayState) (device : PairedDevice) (now : UInt64) : RelayState :=
  let record := (s.deviceRecords.get device.deviceId).getD (.approvedFrom device)
  { s with
    deviceRecords := s.deviceRecords.put device.deviceId
      { record with
        label := device.label
        lifecycleState := .approved
        lastSeenAt := device.lastSeenAt
        lastPeerId := device.lastPeerId
        deviceVerifyKey := device.deviceVerifyKey
        brokerJoinTicketExpiresAt := device.brokerJoinTicketExpiresAt
        pathScope := device.pathScope
        stateChangedAt := now
        brokerRevokePending := false } }

def recordRejectedDevice (s : RelayState) (deviceId label deviceVerifyKey lastPeerId : String)
    (createdAt now : UInt64) : RelayState :=
  let revoked := (s.deviceRecords.get deviceId).any fun record => record.lifecycleState = .revoked
  if revoked || s.pairedDevices.has deviceId then s
  else
    let record := (s.deviceRecords.get deviceId).getD
      { deviceId := deviceId, label := label, lifecycleState := .rejected, createdAt := createdAt,
        stateChangedAt := now, lastSeenAt := none, lastPeerId := some lastPeerId,
        deviceVerifyKey := deviceVerifyKey, brokerJoinTicketExpiresAt := none, pathScope := [],
        brokerRevokePending := false }
    { s with
      deviceRecords := s.deviceRecords.put deviceId
        { record with
          label := label
          lifecycleState := .rejected
          stateChangedAt := now
          lastPeerId := some lastPeerId
          deviceVerifyKey := deviceVerifyKey
          brokerJoinTicketExpiresAt := none } }

def recordRevokedDevice (s : RelayState) (device : PairedDevice) (now : UInt64) : RelayState :=
  let record := (s.deviceRecords.get device.deviceId).getD (.approvedFrom device)
  { s with
    deviceRecords := s.deviceRecords.put device.deviceId
      { record with
        label := device.label
        lifecycleState := .revoked
        stateChangedAt := now
        lastSeenAt := device.lastSeenAt
        lastPeerId := device.lastPeerId
        deviceVerifyKey := device.deviceVerifyKey
        brokerJoinTicketExpiresAt := device.brokerJoinTicketExpiresAt
        pathScope := device.pathScope } }

/-- A paired device is written back, with the peer it was seen on, and its record follows. -/
def storeSeenDevice (s : RelayState) (deviceId : String) (device : PairedDevice) (peerId : String) (now : UInt64) :
    RelayState :=
  let s := { s with pairedDevices := s.pairedDevices.put deviceId device }
  (s.bindSurfacePeerToDevice device.deviceId peerId).syncDeviceRecordFromApprovedDevice device now

/-- The device an approval pairs: the one already held under its id, or a new one. -/
def approvedDevice (existing : Option PairedDevice) (pending : PendingPairing) (deviceId label deviceVerifyKey : String)
    (brokerJoinTicketExpiresAt : Option UInt64) (peerId payloadSecret : String) (now : UInt64) : PairedDevice where
  deviceId := (existing.map (·.deviceId)).getD deviceId
  label := label
  payloadSecret := payloadSecret
  deviceVerifyKey := deviceVerifyKey
  createdAt := (existing.map (·.createdAt)).getD now
  lastSeenAt := some now
  lastPeerId := some peerId
  brokerJoinTicketExpiresAt := brokerJoinTicketExpiresAt
  pathScope := pending.pathScope
  pairingBroker := pending.pairingBroker

/-- `payloadSecret` is the token the relay draws for the device. -/
def consumePairingTicket (world : PairingWorld) (s : RelayState) (pairingId pairingSecret deviceId : String)
    (deviceLabel : Option String) (deviceVerifyKey : String) (brokerJoinTicketExpiresAt : Option UInt64)
    (peerId payloadSecret : String) (now : UInt64) : RelayState × Except String (PairedDeviceView × String) :=
  let s := s.pruneExpiredPairings now
  match s.pendingPairings.get pairingId with
  | none => (s, .error "pairing request is missing or expired")
  | some pending =>
    if pending.secretHash ≠ world.sha256Hex pairingSecret then (s, .error "pairing secret is invalid")
    else
      let s := { s with pendingPairings := s.pendingPairings.drop pairingId }
      let device := approvedDevice (s.pairedDevices.get deviceId) pending deviceId
        (normalizeDeviceLabel deviceLabel deviceId) deviceVerifyKey brokerJoinTicketExpiresAt peerId payloadSecret now
      (s.storeSeenDevice deviceId device peerId now, .ok (PairedDevice.toView world device, payloadSecret))

/-- The answer for a second device on a pairing another one waits on or was decided for. -/
def takenPairingRefusal (s : RelayState) (pairingId deviceVerifyKey peerId : String) : Option PendingPairingResult := do
  let (holderKey, pairingSecret) ← match s.pendingPairingRequests.get pairingId with
    | some waiting =>
      (s.pendingPairings.get pairingId).map fun pairing => (waiting.deviceVerifyKey, pairing.pairingSecret)
    | none =>
      (s.completedPairings.get pairingId).map fun decided => (decided.deviceVerifyKey, decided.pairingSecret)
  if holderKey = deviceVerifyKey then none
  else some (refusedPairingResult pairingId peerId pairingSecret pairingTakenError)

def registerPairingRequest (world : PairingWorld) (s : RelayState) (pairingId : String)
    (requestedDeviceId deviceLabel : Option String) (peerId deviceVerifyKey : String) (now : UInt64) :
    RelayState × Except String PendingPairingRequest :=
  let s := s.pruneExpiredPairings now
  match s.pendingPairings.get pairingId with
  | none => (s, .error "pairing request is missing or expired")
  | some ticket =>
    if pairingId ∈ s.claimedPairingRequests then
      (s, .error "an approval for this pairing is already in progress; wait for its result")
    else
      let label := normalizeDeviceLabel deviceLabel (requestedDeviceId.getD peerId)
      match s.pendingPairingRequests.get pairingId with
      | some existing =>
        -- A retry over a new peer must come from the key that registered first.
        if existing.deviceVerifyKey ≠ deviceVerifyKey then (s, .error pairingTakenError)
        else
          let rebound := { existing with label := label, brokerPeerId := peerId, pathScope := ticket.pathScope }
          ({ s with pendingPairingRequests := s.pendingPairingRequests.put pairingId rebound }, .ok rebound)
      | none =>
        let request : PendingPairingRequest :=
          { pairingId := pairingId, deviceId := keyDeviceId world deviceVerifyKey ticket.pairingBroker,
            label := label, requestedAt := now, expiresAt := ticket.expiresAt, brokerPeerId := peerId,
            deviceVerifyKey := deviceVerifyKey, pathScope := ticket.pathScope }
        ({ s with pendingPairingRequests := s.pendingPairingRequests.put pairingId request }, .ok request)

def claimPairingRequest (s : RelayState) (pairingId : String) (now : UInt64) :
    RelayState × Except String PendingPairingRequest :=
  let s := s.pruneExpiredPairings now
  match s.pendingPairingRequests.get pairingId with
  | none => (s, .error "pairing request is not waiting for approval")
  | some request =>
    ({ s with
        pendingPairingRequests := s.pendingPairingRequests.drop pairingId
        claimedPairingRequests := insert pairingId s.claimedPairingRequests }, .ok request)

/-- Put a claimed request back; its pairing may have expired or been replaced meanwhile. -/
def restorePairingRequest (s : RelayState) (request : PendingPairingRequest) : RelayState :=
  let s := { s with claimedPairingRequests := s.claimedPairingRequests.erase request.pairingId }
  if s.pendingPairings.has request.pairingId then
    { s with pendingPairingRequests := s.pendingPairingRequests.put request.pairingId request }
  else s

def rejectedOnRelayError : String := "pairing request was rejected on the local relay"

def decidePairingRequest (world : PairingWorld) (s : RelayState) (pairingId : String) (approved : Bool)
    (deviceJoinTicketExpiresAt : Option UInt64) (payloadSecret : String) (now : UInt64) :
    RelayState × Except String PendingPairingResult :=
  let s := s.pruneExpiredPairings now
  match s.pendingPairingRequests.get pairingId with
  | none => (s, .error "pairing request is not waiting for approval")
  | some request =>
    let s := { s with pendingPairingRequests := s.pendingPairingRequests.drop pairingId }
    match s.pendingPairings.get pairingId with
    | none => (s, .error "pairing request is missing or expired")
    | some pending =>
      if approved then
        match s.consumePairingTicket world pairingId pending.pairingSecret request.deviceId (some request.label)
            request.deviceVerifyKey deviceJoinTicketExpiresAt request.brokerPeerId payloadSecret now with
        | (s, .error error) => (s, .error error)
        | (s, .ok (device, token)) =>
          let completed : CompletedPairing :=
            { CompletedPairing.refused pending request.deviceVerifyKey "" with
              pairingId := pairingId
              device := some device
              payloadSecret := some token
              deviceJoinTicketExpiresAt := deviceJoinTicketExpiresAt
              error := none }
          ({ s with completedPairings := s.completedPairings.put pairingId completed },
            .ok { refusedPairingResult pairingId request.brokerPeerId pending.pairingSecret "" with
                  device := some device
                  payloadSecret := some token
                  deviceJoinTicketExpiresAt := deviceJoinTicketExpiresAt
                  error := none })
      else
        let s := { s with pendingPairings := s.pendingPairings.drop pairingId }
        let s := s.recordRejectedDevice request.deviceId request.label request.deviceVerifyKey request.brokerPeerId
          request.requestedAt now
        ({ s with
            completedPairings := s.completedPairings.put pairingId
              { CompletedPairing.refused pending request.deviceVerifyKey rejectedOnRelayError with
                pairingId := pairingId } },
          .ok (refusedPairingResult pairingId request.brokerPeerId pending.pairingSecret rejectedOnRelayError))

def completedPairingResult (s : RelayState) (pairingId deviceVerifyKey peerId : String) (now : UInt64) :
    RelayState × Except String (Option PendingPairingResult) :=
  let s := s.pruneExpiredPairings now
  match s.completedPairings.get pairingId with
  | none => (s, .ok none)
  | some completed =>
    if completed.deviceVerifyKey ≠ deviceVerifyKey then
      (s, .error "pairing request does not match the approved device")
    else
      (s, .ok (some
        { pairingId := completed.pairingId, targetPeerId := peerId, pairingSecret := completed.pairingSecret,
          device := completed.device, payloadSecret := completed.payloadSecret, relayId := completed.relayId,
          relayLabel := completed.relayLabel, clientClaimId := completed.clientClaimId,
          clientClaimNonce := completed.clientClaimNonce, clientClaimExpiresAt := completed.clientClaimExpiresAt,
          deviceRefreshToken := completed.deviceRefreshToken, deviceJoinTicket := completed.deviceJoinTicket,
          deviceJoinTicketExpiresAt := completed.deviceJoinTicketExpiresAt, error := completed.error }))

/-- The "replaced" answer for a phone reaching a retired pairing. -/
def retiredPairingResult (s : RelayState) (pairingId peerId : String) (now : UInt64) :
    RelayState × Option PendingPairingResult :=
  let s := s.pruneExpiredPairings now
  (s, (s.retiredPairings.get pairingId).map fun pairing =>
    replacedPairingResult pairing.pairingId peerId pairing.pairingSecret)

def pendingPairingSecret (s : RelayState) (pairingId : String) (now : UInt64) :
    RelayState × Except String String :=
  let s := s.pruneExpiredPairings now
  let secret := ((s.pendingPairings.get pairingId).map (·.pairingSecret)).or
    (((s.completedPairings.get pairingId).map (·.pairingSecret)).or
      ((s.retiredPairings.get pairingId).map (·.pairingSecret)))
  match secret with
  | some secret => (s, .ok secret)
  | none => (s, .error "pairing request is missing or expired")

def attachPairingBrokerCredential (s : RelayState) (pairingId : String) (deviceRefreshToken : Option String)
    (deviceJoinTicket : String) (deviceJoinTicketExpiresAt : Option UInt64) (now : UInt64) :
    RelayState × Except String Unit :=
  match s.completedPairings.get pairingId with
  | none => (s, .error "completed pairing result is missing")
  | some completed =>
    let completed := { completed with
      deviceRefreshToken := deviceRefreshToken
      deviceJoinTicket := some deviceJoinTicket
      deviceJoinTicketExpiresAt := deviceJoinTicketExpiresAt }
    let s := { s with completedPairings := s.completedPairings.put pairingId completed }
    match completed.device with
    | none => (s, .ok ())
    | some view =>
      match s.pairedDevices.get view.deviceId with
      | none => (s, .error "device is not paired")
      | some device =>
        let approvedDevice := { device with brokerJoinTicketExpiresAt := deviceJoinTicketExpiresAt }
        let s := { s with pairedDevices := s.pairedDevices.put view.deviceId approvedDevice }
        (s.syncDeviceRecordFromApprovedDevice approvedDevice now, .ok ())

def attachPairingClientGrant (s : RelayState) (pairingId : String) (relayId relayLabel clientClaimId
    clientClaimNonce : Option String) (clientClaimExpiresAt : Option UInt64) : RelayState × Except String Unit :=
  match s.completedPairings.get pairingId with
  | none => (s, .error "completed pairing result is missing")
  | some completed =>
    ({ s with
        completedPairings := s.completedPairings.put pairingId
          { completed with
            relayId := relayId
            relayLabel := relayLabel
            clientClaimId := clientClaimId
            clientClaimNonce := clientClaimNonce
            clientClaimExpiresAt := clientClaimExpiresAt } }, .ok ())

end RelayState

end Sealwire.Devices

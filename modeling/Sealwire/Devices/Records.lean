import Mathlib.Logic.Relation
import Sealwire.Devices.Access

namespace Sealwire.Devices

open Sealwire.Core (PairedDevice PairingBroker)

/-- Nothing of the relay's access lists is held by the device. -/
structure CutOff (s : RelayState) (deviceId : String) : Prop where
  controller : s.activeControllerDeviceId ≠ some deviceId
  pin : s.orchestratorDeviceId ≠ some deviceId
  push : s.pushSubscriptions.get deviceId = none
  apns : s.apnsTokens.get deviceId = none
  watched : ∀ surface watched, s.watchedThreads.get surface = some watched → watched.deviceId ≠ deviceId
  sessions : ∀ sid session, s.remoteRequests.sessions.get sid = some session → session.deviceId ≠ deviceId

/-- The record of a paired device says what the device says. -/
def Matches (device : PairedDevice) (record : DeviceRecord) : Prop :=
  record.lifecycleState = .approved ∧ record.pathScope = device.pathScope ∧
    record.deviceVerifyKey = device.deviceVerifyKey ∧ record.label = device.label

/-- The two tables agree, and what is revoked is cut off. -/
structure DevicesAgree (s : RelayState) : Prop where
  deviceIds : ∀ deviceId device, s.pairedDevices.get deviceId = some device → device.deviceId = deviceId
  recordIds : ∀ deviceId record, s.deviceRecords.get deviceId = some record → record.deviceId = deviceId
  approved : ∀ deviceId device, s.pairedDevices.get deviceId = some device →
    ∃ record, s.deviceRecords.get deviceId = some record ∧ Matches device record
  paired : ∀ deviceId record, s.deviceRecords.get deviceId = some record → record.lifecycleState = .approved →
    s.pairedDevices.has deviceId = true
  cutOff : ∀ deviceId record, s.deviceRecords.get deviceId = some record → record.lifecycleState = .revoked →
    CutOff s deviceId

/-- The access lists are the same. -/
structure SameAccess (s t : RelayState) : Prop where
  controller : t.activeControllerDeviceId = s.activeControllerDeviceId
  pin : t.orchestratorDeviceId = s.orchestratorDeviceId
  push : t.pushSubscriptions = s.pushSubscriptions
  apns : t.apnsTokens = s.apnsTokens
  watched : t.watchedThreads = s.watchedThreads
  sessions : t.remoteRequests.sessions = s.remoteRequests.sessions

theorem SameAccess.refl (s : RelayState) : SameAccess s s :=
  ⟨rfl, rfl, rfl, rfl, rfl, rfl⟩

theorem SameAccess.trans {s t u : RelayState} (first : SameAccess s t) (second : SameAccess t u) : SameAccess s u :=
  ⟨second.controller.trans first.controller, second.pin.trans first.pin, second.push.trans first.push,
    second.apns.trans first.apns, second.watched.trans first.watched, second.sessions.trans first.sessions⟩

theorem CutOff.same {s t : RelayState} {deviceId : String} (cut : CutOff s deviceId) (access : SameAccess s t) :
    CutOff t deviceId := by
  constructor
  · rw [access.controller]
    exact cut.controller
  · rw [access.pin]
    exact cut.pin
  · rw [access.push]
    exact cut.push
  · rw [access.apns]
    exact cut.apns
  · rw [access.watched]
    exact cut.watched
  · rw [access.sessions]
    exact cut.sessions

/-- Entries of the access lists that `t` has and `s` has not are the device's. -/
structure OnlyGrants (deviceId : String) (s t : RelayState) : Prop where
  controller : t.activeControllerDeviceId = s.activeControllerDeviceId
  pin : t.orchestratorDeviceId = s.orchestratorDeviceId
  push : ∀ other, other ≠ deviceId → t.pushSubscriptions.get other = s.pushSubscriptions.get other
  apns : ∀ other, other ≠ deviceId → t.apnsTokens.get other = s.apnsTokens.get other
  watched : t.watchedThreads = s.watchedThreads
  sessions : ∀ sid session, t.remoteRequests.sessions.get sid = some session →
    session.deviceId = deviceId ∨ s.remoteRequests.sessions.get sid = some session

/-- All that one operation can do to the two device tables and the access lists, in steps.
Devices for which `changing` fails are neither approved nor forgotten in it. -/
inductive DeviceEffect (changing : String → Prop) : RelayState → RelayState → Prop
  | quiet {s t : RelayState} (paired : t.pairedDevices = s.pairedDevices) (records : t.deviceRecords = s.deviceRecords)
      (access : SameAccess s t) : DeviceEffect changing s t
  | flagged {s t : RelayState} (deviceId : String) (failed : Bool) (paired : t.pairedDevices = s.pairedDevices)
      (records : t.deviceRecords =
        s.deviceRecords.modify deviceId fun record => { record with brokerRevokePending := failed })
      (access : SameAccess s t) : DeviceEffect changing s t
  | synced {s t : RelayState} (device : PairedDevice) (now : UInt64)
      (keeps : (∃ old, s.pairedDevices.get device.deviceId = some old ∧ device.pathScope = old.pathScope) ∨
        changing device.deviceId)
      (paired : t.pairedDevices = s.pairedDevices.put device.deviceId device)
      (records : t.deviceRecords = (s.syncDeviceRecordFromApprovedDevice device now).deviceRecords)
      (access : SameAccess s t) : DeviceEffect changing s t
  | rejected {s t : RelayState} (deviceId label deviceVerifyKey lastPeerId : String) (createdAt now : UInt64)
      (paired : t.pairedDevices = s.pairedDevices)
      (records : t.deviceRecords =
        (s.recordRejectedDevice deviceId label deviceVerifyKey lastPeerId createdAt now).deviceRecords)
      (access : SameAccess s t) : DeviceEffect changing s t
  | revoked (s : RelayState) (deviceId : String) (now : UInt64) :
      DeviceEffect changing s (s.revokePairedDevice deviceId now).1
  | forgotten (s : RelayState) (deviceId : String) (changes : changing deviceId)
      (settled : ∀ record, s.deviceRecords.get deviceId = some record → record.lifecycleState ≠ .approved) :
      DeviceEffect changing s (s.forgetRecord deviceId)
  | granted {s t : RelayState} (deviceId : String) (held : s.pairedDevices.has deviceId = true)
      (paired : t.pairedDevices = s.pairedDevices) (records : t.deviceRecords = s.deviceRecords)
      (only : OnlyGrants deviceId s t) : DeviceEffect changing s t

theorem syncRecord_get (s : RelayState) (device : PairedDevice) (now : UInt64) (deviceId : String) :
    ∃ record, (s.syncDeviceRecordFromApprovedDevice device now).deviceRecords.get deviceId =
        (if deviceId = device.deviceId then some record else s.deviceRecords.get deviceId) ∧
      Matches device record ∧ (DevicesAgree s → record.deviceId = device.deviceId) := by
  refine ⟨_, Table.get_put _ _ _ _, ⟨rfl, rfl, rfl, rfl⟩, ?_⟩
  intro agree
  cases known : s.deviceRecords.get device.deviceId with
  | none => rfl
  | some record =>
    simp only [Option.getD_some]
    exact agree.recordIds _ _ known

section Effects

variable {s t : RelayState} {changing : String → Prop}

theorem DevicesAgree.same (agree : DevicesAgree s) (paired : t.pairedDevices = s.pairedDevices)
    (records : t.deviceRecords = s.deviceRecords) (access : SameAccess s t) : DevicesAgree t := by
  constructor
  · rw [paired]
    exact agree.deviceIds
  · rw [records]
    exact agree.recordIds
  · rw [paired, records]
    exact agree.approved
  · rw [paired, records]
    exact agree.paired
  · rw [records]
    exact fun deviceId record known revoked => (agree.cutOff deviceId record known revoked).same access

theorem DevicesAgree.flagged (agree : DevicesAgree s) {deviceId : String} {failed : Bool}
    (paired : t.pairedDevices = s.pairedDevices)
    (records : t.deviceRecords =
      s.deviceRecords.modify deviceId fun record => { record with brokerRevokePending := failed })
    (access : SameAccess s t) : DevicesAgree t := by
  have origin (id : String) (record : DeviceRecord) (known : t.deviceRecords.get id = some record) :
      ∃ old, s.deviceRecords.get id = some old ∧ record.deviceId = old.deviceId ∧
        record.lifecycleState = old.lifecycleState := by
    rw [records, Table.get_modify] at known
    split at known
    · rename_i same
      obtain ⟨old, there, rfl⟩ := Option.map_eq_some_iff.mp known
      exact ⟨old, same ▸ there, rfl, rfl⟩
    · exact ⟨record, known, rfl, rfl⟩
  constructor
  · rw [paired]
    exact agree.deviceIds
  · intro id record known
    obtain ⟨old, there, ids, -⟩ := origin id record known
    exact ids.trans (agree.recordIds id old there)
  · intro id device held
    rw [paired] at held
    obtain ⟨old, there, same⟩ := agree.approved id device held
    rw [records, Table.get_modify]
    by_cases flagged : id = deviceId
    · subst flagged
      rw [if_pos rfl, there]
      exact ⟨_, rfl, same⟩
    · rw [if_neg flagged]
      exact ⟨old, there, same⟩
  · intro id record known approved
    obtain ⟨old, there, -, state⟩ := origin id record known
    rw [paired]
    exact agree.paired id old there (state ▸ approved)
  · intro id record known revoked
    obtain ⟨old, there, -, state⟩ := origin id record known
    exact (agree.cutOff id old there (state ▸ revoked)).same access

theorem DevicesAgree.synced (agree : DevicesAgree s) {device : PairedDevice} {now : UInt64}
    (paired : t.pairedDevices = s.pairedDevices.put device.deviceId device)
    (records : t.deviceRecords = (s.syncDeviceRecordFromApprovedDevice device now).deviceRecords)
    (access : SameAccess s t) : DevicesAgree t := by
  constructor
  · intro id held known
    rw [paired, Table.get_put] at known
    split at known
    · rename_i same
      obtain rfl := Option.some.inj known
      exact same.symm
    · exact agree.deviceIds id held known
  · intro id record known
    obtain ⟨fresh, found, -, ids⟩ := syncRecord_get s device now id
    rw [records, found] at known
    split at known
    · rename_i same
      obtain rfl := Option.some.inj known
      rw [same]
      exact ids agree
    · exact agree.recordIds id record known
  · intro id held known
    obtain ⟨fresh, found, same, -⟩ := syncRecord_get s device now id
    rw [paired, Table.get_put] at known
    rw [records, found]
    split at known
    · rename_i this
      obtain rfl := Option.some.inj known
      rw [if_pos this]
      exact ⟨fresh, rfl, same⟩
    · rename_i other
      rw [if_neg other]
      exact agree.approved id held known
  · intro id record known approved
    obtain ⟨fresh, found, -, -⟩ := syncRecord_get s device now id
    rw [records, found] at known
    rw [paired, Table.has_put]
    split at known
    · rename_i same
      exact .inl same
    · exact .inr (agree.paired id record known approved)
  · intro id record known revoked
    obtain ⟨fresh, found, same, -⟩ := syncRecord_get s device now id
    rw [records, found] at known
    split at known
    · obtain rfl := Option.some.inj known
      rw [same.1] at revoked
      cases revoked
    · exact (agree.cutOff id record known revoked).same access

/-- A rejection leaves a paired or revoked device as it is, and else leaves a rejected record. -/
theorem recordRejected_get (s : RelayState) (deviceId label deviceVerifyKey lastPeerId : String)
    (createdAt now : UInt64) :
    s.recordRejectedDevice deviceId label deviceVerifyKey lastPeerId createdAt now = s ∨
      ∃ record, s.pairedDevices.has deviceId = false ∧
        (∀ old, s.deviceRecords.get deviceId = some old → old.lifecycleState ≠ .revoked) ∧
        (s.recordRejectedDevice deviceId label deviceVerifyKey lastPeerId createdAt now).deviceRecords =
          s.deviceRecords.put deviceId record ∧ record.lifecycleState = .rejected ∧
        (DevicesAgree s → record.deviceId = deviceId) := by
  unfold RelayState.recordRejectedDevice
  simp only
  split
  · exact .inl rfl
  · rename_i neither
    simp only [Bool.or_eq_true, not_or, Bool.not_eq_true] at neither
    refine .inr ⟨_, neither.2, ?_, rfl, rfl, ?_⟩
    · intro old known revoked
      rw [known] at neither
      simp [revoked] at neither
    · intro agree
      cases known : s.deviceRecords.get deviceId with
      | none => rfl
      | some record =>
        simp only [Option.getD_some]
        exact agree.recordIds _ _ known

theorem DevicesAgree.rejected (agree : DevicesAgree s) {deviceId label deviceVerifyKey lastPeerId : String}
    {createdAt now : UInt64} (paired : t.pairedDevices = s.pairedDevices)
    (records : t.deviceRecords =
      (s.recordRejectedDevice deviceId label deviceVerifyKey lastPeerId createdAt now).deviceRecords)
    (access : SameAccess s t) : DevicesAgree t := by
  rcases recordRejected_get s deviceId label deviceVerifyKey lastPeerId createdAt now with
    same | ⟨record, unpaired, -, put, rejected, ids⟩
  · rw [same] at records
    exact agree.same paired records access
  rw [put] at records
  constructor
  · rw [paired]
    exact agree.deviceIds
  · intro id other known
    rw [records, Table.get_put] at known
    split at known
    · rename_i same
      obtain rfl := Option.some.inj known
      rw [same]
      exact ids agree
    · exact agree.recordIds id other known
  · intro id device held
    rw [paired] at held
    have apart : id ≠ deviceId := by
      rintro rfl
      have present : s.pairedDevices.has id = true := Table.has_iff.mpr ⟨device, held⟩
      rw [unpaired] at present
      cases present
    rw [records, Table.get_put_ne _ _ apart]
    exact agree.approved id device held
  · intro id other known approved
    rw [records, Table.get_put] at known
    rw [paired]
    split at known
    · obtain rfl := Option.some.inj known
      rw [rejected] at approved
      cases approved
    · exact agree.paired id other known approved
  · intro id other known revoked
    rw [records, Table.get_put] at known
    split at known
    · obtain rfl := Option.some.inj known
      rw [rejected] at revoked
      cases revoked
    · exact (agree.cutOff id other known revoked).same access

theorem forgetRequests_sessions (b : Requests.RelayState) (deviceId : String) :
    (b.forgetRemoteRequestsForDevice deviceId).remoteRequests.sessions =
      b.remoteRequests.sessions.retain fun _ session => session.deviceId ≠ deviceId := by
  unfold Requests.RelayState.forgetRemoteRequestsForDevice
  simp only
  split <;> rfl

/-- What revoking a paired device does to the tables and the access lists. -/
structure Revokes (deviceId : String) (device : PairedDevice) (s t : RelayState) : Prop where
  paired : t.pairedDevices = s.pairedDevices.drop deviceId
  record : ∃ record, t.deviceRecords = s.deviceRecords.put device.deviceId record ∧
    record.lifecycleState = .revoked ∧ record.pathScope = device.pathScope ∧
    (DevicesAgree s → record.deviceId = device.deviceId)
  cut : CutOff t deviceId
  others : ∀ other, CutOff s other → CutOff t other

theorem releaseController_frame (s : RelayState) (deviceId : String) :
    ∃ controller lastSeen, s.releaseControllerIfDevice deviceId =
        { s with activeControllerDeviceId := controller, activeControllerLastSeenAt := lastSeen } ∧
      controller ≠ some deviceId ∧ (controller = none ∨ controller = s.activeControllerDeviceId) := by
  unfold RelayState.releaseControllerIfDevice
  split
  · exact ⟨none, none, rfl, (Option.some_ne_none deviceId).symm, .inl rfl⟩
  · rename_i apart
    exact ⟨s.activeControllerDeviceId, s.activeControllerLastSeenAt, rfl, apart, .inr rfl⟩

theorem clearPin_frame (s : RelayState) (deviceId : String) :
    ∃ thread device prompt version, s.clearOrchestratorPinIfDevice deviceId =
        { s with
          orchestratorThreadId := thread
          orchestratorDeviceId := device
          orchestratorSystemPrompt := prompt
          orchestratorSystemPromptVersion := version } ∧
      device ≠ some deviceId ∧ (device = none ∨ device = s.orchestratorDeviceId) := by
  unfold RelayState.clearOrchestratorPinIfDevice
  split
  · rename_i apart
    exact ⟨s.orchestratorThreadId, s.orchestratorDeviceId, s.orchestratorSystemPrompt,
      s.orchestratorSystemPromptVersion, rfl, apart, .inr rfl⟩
  · exact ⟨none, none, none, none, rfl, (Option.some_ne_none deviceId).symm, .inl rfl⟩

/-- Off the lists, the device holds nothing but perhaps the controller and the pin. -/
theorem dropDeviceAccess_lists (s : RelayState) {deviceId other : String}
    (kept : other = deviceId ∨ CutOff s other) :
    let t := s.dropDeviceAccess deviceId
    t.pushSubscriptions.get other = none ∧ t.apnsTokens.get other = none ∧
      (∀ surface watched, t.watchedThreads.get surface = some watched → watched.deviceId ≠ other) ∧
      (∀ sid session, t.remoteRequests.sessions.get sid = some session → session.deviceId ≠ other) := by
  intro t
  have push : t.pushSubscriptions = s.pushSubscriptions.drop deviceId := rfl
  have apns : t.apnsTokens = s.apnsTokens.drop deviceId := rfl
  have watched : t.watchedThreads = s.watchedThreads.retain fun _ watched => watched.deviceId ≠ deviceId := rfl
  have sessions : t.remoteRequests.sessions =
      s.remoteRequests.sessions.retain fun _ session => session.deviceId ≠ deviceId :=
    forgetRequests_sessions _ deviceId
  rw [push, apns, watched, sessions]
  refine ⟨?_, ?_, ?_, ?_⟩
  · rw [Table.get_drop]
    split
    · rfl
    · exact kept.elim (fun same => absurd same ‹_›) (·.push)
  · rw [Table.get_drop]
    split
    · rfl
    · exact kept.elim (fun same => absurd same ‹_›) (·.apns)
  · intro surface watching known
    rw [Table.get_retain, Option.filter_eq_some_iff] at known
    rcases kept with rfl | cut
    · simpa using known.2
    · exact cut.watched surface watching known.1
  · intro sid session known
    rw [Table.get_retain, Option.filter_eq_some_iff] at known
    rcases kept with rfl | cut
    · simpa using known.2
    · exact cut.sessions sid session known.1

theorem revokePairedDevice_spec (s : RelayState) {deviceId : String} {device : PairedDevice}
    (held : s.pairedDevices.get deviceId = some device) (now : UInt64) :
    Revokes deviceId device s (s.revokePairedDevice deviceId now).1 := by
  obtain ⟨controller, lastSeen, released, uncontrolled, controller'⟩ :=
    releaseController_frame ((s.dropDeviceAccess deviceId).recordRevokedDevice device now) deviceId
  obtain ⟨thread, pin, prompt, version, cleared, unpinned, pin'⟩ :=
    clearPin_frame (((s.dropDeviceAccess deviceId).recordRevokedDevice device now).releaseControllerIfDevice deviceId)
      deviceId
  unfold RelayState.revokePairedDevice
  rw [held]
  simp only
  rw [released] at cleared pin' ⊢
  rw [cleared]
  have left (other : String) (kept : other = deviceId ∨ CutOff s other) (held_by : controller ≠ some other)
      (pinned_by : pin ≠ some other) : CutOff
        { (s.dropDeviceAccess deviceId).recordRevokedDevice device now with
          activeControllerDeviceId := controller
          activeControllerLastSeenAt := lastSeen
          orchestratorThreadId := thread
          orchestratorDeviceId := pin
          orchestratorSystemPrompt := prompt
          orchestratorSystemPromptVersion := version } other := by
    obtain ⟨push, apns, watched, sessions⟩ := dropDeviceAccess_lists s kept
    exact ⟨held_by, pinned_by, push, apns, watched, sessions⟩
  refine ⟨rfl, ⟨_, rfl, rfl, rfl, ?_⟩, left deviceId (.inl rfl) uncontrolled unpinned, ?_⟩
  · intro agree
    cases known : s.deviceRecords.get device.deviceId with
    | none =>
      change (((s.deviceRecords.get device.deviceId).getD (.approvedFrom device)).deviceId) = _
      rw [known]
      rfl
    | some old =>
      change (((s.deviceRecords.get device.deviceId).getD (.approvedFrom device)).deviceId) = _
      rw [known]
      exact agree.recordIds _ _ known
  · intro other cut
    refine left other (.inr cut) ?_ ?_
    · rcases controller' with none_now | same
      · exact none_now ▸ (Option.some_ne_none other).symm
      · rw [same]
        exact cut.controller
    · rcases pin' with none_now | same
      · exact none_now ▸ (Option.some_ne_none other).symm
      · rw [same]
        exact cut.pin

theorem DevicesAgree.revoked (agree : DevicesAgree s) (deviceId : String) (now : UInt64) :
    DevicesAgree (s.revokePairedDevice deviceId now).1 := by
  cases held : s.pairedDevices.get deviceId with
  | none =>
    unfold RelayState.revokePairedDevice
    rw [held]
    exact agree
  | some device =>
    obtain ⟨paired, ⟨record, records, revoked, -, ids⟩, cut, others⟩ := revokePairedDevice_spec s held now
    have named := agree.deviceIds deviceId device held
    rw [named] at records ids
    constructor
    · intro id other known
      rw [paired] at known
      exact agree.deviceIds id other (Table.get_of_get_drop known)
    · intro id other known
      rw [records, Table.get_put] at known
      split at known
      · rename_i same
        obtain rfl := Option.some.inj known
        rw [same]
        exact ids agree
      · exact agree.recordIds id other known
    · intro id other known
      rw [paired, Table.get_drop] at known
      split at known
      · cases known
      · rename_i apart
        rw [records, Table.get_put_ne _ _ apart]
        exact agree.approved id other known
    · intro id other known approved
      rw [records, Table.get_put] at known
      split at known
      · obtain rfl := Option.some.inj known
        rw [revoked] at approved
        cases approved
      · rename_i apart
        rw [paired, Table.has_drop]
        exact ⟨apart, agree.paired id other known approved⟩
    · intro id other known gone
      rw [records, Table.get_put] at known
      split at known
      · rename_i same
        rw [same]
        exact cut
      · exact others id (agree.cutOff id other known gone)

theorem forgetRecord_spec (s : RelayState) (deviceId : String) :
    (s.forgetRecord deviceId).pairedDevices = s.pairedDevices ∧
      (s.forgetRecord deviceId).deviceRecords = s.deviceRecords.drop deviceId ∧
      ∀ other, CutOff s other → CutOff (s.forgetRecord deviceId) other := by
  obtain ⟨thread, pin, prompt, version, cleared, unpinned, pin'⟩ :=
    clearPin_frame { s with deviceRecords := s.deviceRecords.drop deviceId } deviceId
  unfold RelayState.forgetRecord
  rw [cleared]
  refine ⟨rfl, rfl, fun other cut => ⟨cut.controller, ?_, cut.push, cut.apns, cut.watched, cut.sessions⟩⟩
  rcases pin' with none_now | same
  · exact none_now ▸ (Option.some_ne_none other).symm
  · change pin ≠ some other
    rw [same]
    exact cut.pin

theorem DevicesAgree.forgotten (agree : DevicesAgree s) {deviceId : String}
    (settled : ∀ record, s.deviceRecords.get deviceId = some record → record.lifecycleState ≠ .approved) :
    DevicesAgree (s.forgetRecord deviceId) := by
  obtain ⟨paired, records, others⟩ := forgetRecord_spec s deviceId
  constructor
  · rw [paired]
    exact agree.deviceIds
  · intro id record known
    rw [records] at known
    exact agree.recordIds id record (Table.get_of_get_drop known)
  · intro id device held
    rw [paired] at held
    obtain ⟨record, known, same⟩ := agree.approved id device held
    have apart : id ≠ deviceId := by
      rintro rfl
      exact settled record known same.1
    rw [records, Table.get_drop, if_neg apart]
    exact ⟨record, known, same⟩
  · intro id record known approved
    rw [records] at known
    rw [paired]
    exact agree.paired id record (Table.get_of_get_drop known) approved
  · intro id record known revoked
    rw [records] at known
    exact others id (agree.cutOff id record (Table.get_of_get_drop known) revoked)

theorem CutOff.granted {deviceId other : String} (cut : CutOff s other) (only : OnlyGrants deviceId s t)
    (apart : other ≠ deviceId) : CutOff t other := by
  constructor
  · rw [only.controller]
    exact cut.controller
  · rw [only.pin]
    exact cut.pin
  · rw [only.push other apart]
    exact cut.push
  · rw [only.apns other apart]
    exact cut.apns
  · rw [only.watched]
    exact cut.watched
  · intro sid session known
    rcases only.sessions sid session known with own | before
    · rw [own]
      exact apart.symm
    · exact cut.sessions sid session before

theorem DevicesAgree.granted (agree : DevicesAgree s) {deviceId : String}
    (held : s.pairedDevices.has deviceId = true) (paired : t.pairedDevices = s.pairedDevices)
    (records : t.deviceRecords = s.deviceRecords) (only : OnlyGrants deviceId s t) : DevicesAgree t := by
  constructor
  · rw [paired]
    exact agree.deviceIds
  · rw [records]
    exact agree.recordIds
  · rw [paired, records]
    exact agree.approved
  · rw [paired, records]
    exact agree.paired
  · intro id record known revoked
    rw [records] at known
    refine (agree.cutOff id record known revoked).granted only ?_
    rintro rfl
    obtain ⟨device, there⟩ := Table.has_iff.mp held
    obtain ⟨other, found, same⟩ := agree.approved id device there
    obtain rfl := Option.some.inj (known.symm.trans found)
    rw [same.1] at revoked
    cases revoked

/-- Every step of a device operation keeps the tables in agreement. -/
theorem DevicesAgree.effect (agree : DevicesAgree s) (effect : DeviceEffect changing s t) : DevicesAgree t := by
  cases effect with
  | quiet paired records access => exact agree.same paired records access
  | flagged deviceId failed paired records access => exact agree.flagged paired records access
  | synced device now keeps paired records access => exact agree.synced paired records access
  | rejected deviceId label deviceVerifyKey lastPeerId createdAt now paired records access =>
    exact agree.rejected paired records access
  | revoked deviceId now => exact agree.revoked deviceId now
  | forgotten deviceId changes settled => exact agree.forgotten settled
  | granted deviceId held paired records only => exact agree.granted held paired records only

/-- A device that was paired under a folder scope is limited to it, paired or revoked. -/
def Limited (s : RelayState) (deviceId : String) (pathScope : List String) : Prop :=
  (∃ device, s.pairedDevices.get deviceId = some device ∧ device.pathScope = pathScope) ∨
    s.pairedDevices.get deviceId = none ∧ ∃ record, s.deviceRecords.get deviceId = some record ∧
      record.lifecycleState = .revoked ∧ record.pathScope = pathScope

theorem Limited.deviceFolderLimit {deviceId : String} {pathScope : List String}
    (limited : Limited s deviceId pathScope) : s.deviceFolderLimit deviceId = pathScope := by
  unfold RelayState.deviceFolderLimit
  rcases limited with ⟨device, held, same⟩ | ⟨unpaired, record, known, revoked, same⟩
  · rw [held]
    exact same
  · rw [unpaired, known]
    simp only [Option.filter, revoked, decide_true, if_true]
    exact same

theorem Limited.same {deviceId : String} {pathScope : List String} (limited : Limited s deviceId pathScope)
    (paired : t.pairedDevices = s.pairedDevices) (records : t.deviceRecords = s.deviceRecords) :
    Limited t deviceId pathScope := by
  unfold Limited
  rw [paired, records]
  exact limited

/-- A step that neither approves nor forgets a device leaves its limit. -/
theorem Limited.effect {deviceId : String} {pathScope : List String} (agree : DevicesAgree s)
    (limited : Limited s deviceId pathScope) (effect : DeviceEffect (· ≠ deviceId) s t) :
    Limited t deviceId pathScope := by
  cases effect with
  | quiet paired records access => exact limited.same paired records
  | flagged flagged failed paired records access =>
    rcases limited with ⟨device, held, same⟩ | ⟨unpaired, record, known, revoked, same⟩
    · exact .inl ⟨device, by rw [paired]; exact held, same⟩
    · refine .inr ⟨by rw [paired]; exact unpaired, ?_⟩
      rw [records, Table.get_modify]
      split
      · rename_i here
        rw [← here, known]
        exact ⟨_, rfl, revoked, same⟩
      · exact ⟨record, known, revoked, same⟩
  | synced device now keeps paired records access =>
    by_cases here : device.deviceId = deviceId
    · subst here
      rcases keeps with ⟨old, held, scope⟩ | changes
      · refine .inl ⟨device, by rw [paired, Table.get_put_self], ?_⟩
        rcases limited with ⟨current, there, same⟩ | ⟨unpaired, -⟩
        · obtain rfl := Option.some.inj (held.symm.trans there)
          exact scope.trans same
        · rw [unpaired] at held
          cases held
      · exact absurd rfl changes
    · obtain ⟨fresh, found, -, -⟩ := syncRecord_get s device now deviceId
      rw [if_neg (Ne.symm here)] at found
      unfold Limited
      rw [paired, Table.get_put_ne _ _ (Ne.symm here), records, found]
      exact limited
  | rejected named label deviceVerifyKey lastPeerId createdAt now paired records access =>
    rcases recordRejected_get s named label deviceVerifyKey lastPeerId createdAt now with
      same | ⟨record, unpaired, unrevoked, put, -⟩
    · rw [same] at records
      exact limited.same paired records
    rw [put] at records
    have apart : deviceId ≠ named := by
      rintro rfl
      rcases limited with ⟨device, held, -⟩ | ⟨-, old, known, revoked, -⟩
      · have present : s.pairedDevices.has deviceId = true := Table.has_iff.mpr ⟨device, held⟩
        rw [unpaired] at present
        cases present
      · exact unrevoked old known revoked
    unfold Limited
    rw [paired, records, Table.get_put_ne _ _ apart]
    exact limited
  | revoked gone now =>
    cases held : s.pairedDevices.get gone with
    | none =>
      unfold RelayState.revokePairedDevice
      rw [held]
      exact limited
    | some device =>
      obtain ⟨paired, ⟨record, records, revoked, scope, -⟩, -, -⟩ := revokePairedDevice_spec s held now
      have named := agree.deviceIds gone device held
      rw [named] at records
      unfold Limited
      rw [paired, records]
      by_cases here : deviceId = gone
      · subst here
        refine .inr ⟨by rw [Table.get_drop, if_pos rfl], record, by rw [Table.get_put_self], revoked, ?_⟩
        rcases limited with ⟨current, there, same⟩ | ⟨unpaired, -⟩
        · obtain rfl := Option.some.inj (held.symm.trans there)
          exact scope.trans same
        · rw [unpaired] at held
          cases held
      · rw [Table.get_drop, if_neg here, Table.get_put_ne _ _ here]
        exact limited
  | forgotten gone changes settled =>
    obtain ⟨paired, records, -⟩ := forgetRecord_spec s gone
    unfold Limited
    rw [paired, records, Table.get_drop, if_neg (Ne.symm changes)]
    exact limited
  | granted granted held paired records only => exact limited.same paired records

end Effects

end Sealwire.Devices

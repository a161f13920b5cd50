import Sealwire.Core.Encode

namespace Sealwire.Core

namespace Codec

variable {α : Type}

/-- No value is written as `null`. -/
def NeverNull (codec : Codec α) : Prop :=
  ∀ value, codec.toValue value ≠ .ok .null

theorem string_roundTrips : string.RoundTrips :=
  fun text => ⟨.string text, rfl, rfl⟩

theorem bool_roundTrips : bool.RoundTrips :=
  fun value => ⟨.bool value, rfl, rfl⟩

theorem u64_roundTrips : u64.RoundTrips :=
  fun n => ⟨.number (.posInt n), rfl, rfl⟩

theorem u32_roundTrips : u32.RoundTrips :=
  fun n => ⟨.number (.posInt n.toUInt64), rfl, by simp [u32]⟩

theorem string_neverNull : string.NeverNull := by
  intro text same
  cases same

theorem u64_neverNull : u64.NeverNull := by
  intro n same
  cases same

theorem u32_neverNull : u32.NeverNull := by
  intro n same
  cases same

theorem option_roundTrips {codec : Codec α} (trips : codec.RoundTrips) (never : codec.NeverNull) :
    codec.option.RoundTrips := by
  intro value
  cases value with
  | none => exact ⟨.null, rfl, rfl⟩
  | some value =>
    obtain ⟨json, written, read⟩ := trips value
    refine ⟨json, written, ?_⟩
    have present : json ≠ .null := fun null => never value (null ▸ written)
    cases json
    case null => exact absurd rfl present
    all_goals simp [option, read, Except.map]

theorem mapM_roundTrips {codec : Codec α} (trips : codec.RoundTrips) (values : List α) :
    ∃ items, values.mapM codec.toValue = .ok items ∧ items.mapM codec.ofValue = .ok values := by
  induction values with
  | nil => exact ⟨[], rfl, rfl⟩
  | cons value values ih =>
    obtain ⟨items, written, read⟩ := ih
    obtain ⟨json, one, back⟩ := trips value
    refine ⟨json :: items, ?_, ?_⟩
    · rw [List.mapM_cons, one, written]
      rfl
    · rw [List.mapM_cons, back, read]
      rfl

theorem list_roundTrips {codec : Codec α} (trips : codec.RoundTrips) : codec.list.RoundTrips := by
  intro values
  obtain ⟨items, written, read⟩ := mapM_roundTrips trips values
  exact ⟨.array items, by simp [list, written, Except.map], read⟩

end Codec

theorem PairingBroker.codec_roundTrips : PairingBroker.codec.RoundTrips :=
  fun _ => ⟨_, rfl, rfl⟩

theorem PairingBroker.codec_neverNull : PairingBroker.codec.NeverNull := by
  intro broker same
  cases same

/-- The fields of a device's value besides the secret. -/
def PairedDevice.openFields (device : PairedDevice) (pathScope : List Json) : List (String × Json) :=
  [("broker_join_ticket_expires_at", match device.brokerJoinTicketExpiresAt with
      | some n => .number (.posInt n)
      | none => .null),
    ("created_at", .number (.posInt device.createdAt)), ("device_id", .string device.deviceId),
    ("device_verify_key", .string device.deviceVerifyKey), ("label", .string device.label),
    ("last_peer_id", match device.lastPeerId with
      | some text => .string text
      | none => .null),
    ("last_seen_at", match device.lastSeenAt with
      | some n => .number (.posInt n)
      | none => .null)] ++
    (match device.pairingBroker with
      | some broker => [("pairing_broker", .object
        [("broker_room_id", .string broker.brokerRoomId), ("broker_url", .string broker.brokerUrl),
          ("relay_peer_id", .string broker.relayPeerId), ("relay_verify_key", .string broker.relayVerifyKey)])]
      | none => []) ++
    [("path_scope", .array pathScope)]

theorem PairedDevice.toValue_eq (device : PairedDevice) {pathScope : List Json}
    (written : device.pathScope.mapM Codec.string.toValue = .ok pathScope) :
    PairedDevice.codec.toValue device =
      .ok (.object (device.openFields pathScope ++ [(payloadSecretField, .string device.payloadSecret)])) := by
  rcases device with ⟨_, _, _, _, _, _ | _, _ | _, _ | _, _, _ | _⟩ <;>
    simp [PairedDevice.codec, openFields, Codec.option, Codec.u64, Codec.string, Codec.list, Bind.bind, Except.bind,
      Except.map, PairingBroker.codec] at written ⊢ <;>
    simp [written]

/-- A device's row holds everything but its secret, and with the secret put back it reads as the device. -/
theorem deviceBody_roundTrips (device : PairedDevice) :
    ∃ fields, deviceBody device = .ok (.object fields) ∧ (∀ field ∈ fields, field.1 ≠ payloadSecretField) ∧
      PairedDevice.codec.ofValue (withSecret device.payloadSecret (.object fields)) = .ok device := by
  obtain ⟨pathScope, written, read⟩ := Codec.mapM_roundTrips Codec.string_roundTrips device.pathScope
  have apart : ∀ field ∈ device.openFields pathScope, field.1 ≠ payloadSecretField := by
    rcases device with ⟨_, _, _, _, _, _, _, _, _, _ | _⟩ <;>
      simp [PairedDevice.openFields, payloadSecretField]
  have kept : (device.openFields pathScope).filter (fun field => field.1 ≠ payloadSecretField) =
      device.openFields pathScope :=
    List.filter_eq_self.mpr fun field member => decide_eq_true (apart field member)
  refine ⟨device.openFields pathScope, ?_, apart, ?_⟩
  · rw [deviceBody, PairedDevice.toValue_eq device written]
    simp only [Except.map, List.filter_append, kept]
    simp
  · rw [withSecret, kept]
    rcases device with ⟨_, _, _, _, _, _ | _, _ | _, _ | _, _, _ | _⟩ <;>
      simp [PairedDevice.codec, PairedDevice.openFields, requiredField, defaultedField, payloadSecretField,
        Codec.option, Codec.u64, Codec.string, Codec.list, Bind.bind, Except.bind, Except.map, PairingBroker.codec,
        List.lookup_cons] at read ⊢ <;>
      simp [read]

end Sealwire.Core

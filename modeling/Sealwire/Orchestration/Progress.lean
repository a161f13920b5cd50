import Sealwire.Orchestration.Backend

namespace Sealwire.Orchestration

/-- Durable progress of the driver of a run. -/
structure DriverProgress where
  stateRevision : UInt64 := 0
  lastCommandSeq : UInt64 := 0
  lastEventSeq : UInt64 := 0
  inFlightCommandId : Option CommandId := none
  malformed : Bool := false
  deriving DecidableEq

inductive ProgressField
  | stateRevision
  | lastCommandSeq
  | lastEventSeq
  | inFlightCommandId
  | malformed
  deriving DecidableEq

def ProgressField.ofName : String → Option ProgressField
  | "state_revision" => some .stateRevision
  | "last_command_seq" => some .lastCommandSeq
  | "last_event_seq" => some .lastEventSeq
  | "in_flight_command_id" => some .inFlightCommandId
  | "malformed" => some .malformed
  | _ => none

/-- The flag a field gives is the one `progress.malformed` is raised by. -/
def progressDecoder : FieldDecoder ProgressField DriverProgress where
  fieldOf := ProgressField.ofName
  decode field value progress :=
    match field with
    | .stateRevision => do
      match ← lenientU64.deserializeAny value with
      | some value => .ok ({ progress with stateRevision := value }, false)
      | none => .ok (progress, true)
    | .lastCommandSeq => do
      match ← lenientU64.deserializeAny value with
      | some value => .ok ({ progress with lastCommandSeq := value }, false)
      | none => .ok (progress, true)
    | .lastEventSeq => do
      match ← lenientU64.deserializeAny value with
      | some value => .ok ({ progress with lastEventSeq := value }, false)
      | none => .ok (progress, true)
    | .inFlightCommandId => do
      match ← lenientNullableString.deserializeAny value with
      | .null => .ok ({ progress with inFlightCommandId := none }, false)
      | .value raw =>
        match BoundedToken.new raw with
        | .ok commandId => .ok ({ progress with inFlightCommandId := some commandId }, false)
        | .error _ => .ok (progress, true)
      | .invalid => .ok (progress, true)
    | .malformed => do
      match ← lenientBool.deserializeAny value with
      | some value => .ok (progress, value)
      | none => .ok (progress, true)

namespace DriverProgress

/-- A record that cannot be read at all. -/
def malformedRecord : DriverProgress :=
  { malformed := true }

def visitor : Visitor DriverProgress where
  expecting := "a persisted driver progress object"
  visitUnit := .ok malformedRecord
  visitBool := fun _ => .ok malformedRecord
  visitI64 := fun _ => .ok malformedRecord
  visitU64 := fun _ => .ok malformedRecord
  visitF64 := fun _ => .ok malformedRecord
  visitStr := fun _ => .ok malformedRecord
  visitSeq := fun _ => .ok malformedRecord
  visitMap := fun fields => do
    let scan ← progressDecoder.visitFields {} fields
    .ok { scan.slots with malformed := scan.spoiled }

def deserialize (value : Json) : Except DecodeError DriverProgress :=
  visitor.deserializeAny value

/-- The fields of the object a progress is written as; the marker only when it is set. -/
def serialize (progress : DriverProgress) : List (String × Json) :=
  [("state_revision", .number (.posInt progress.stateRevision)),
    ("last_command_seq", .number (.posInt progress.lastCommandSeq)),
    ("last_event_seq", .number (.posInt progress.lastEventSeq)),
    ("in_flight_command_id", match progress.inFlightCommandId with
      | some commandId => .string commandId.text
      | none => .null)] ++
    if progress.malformed then [("malformed", .bool true)] else []

end DriverProgress

/-- What a field writes; an unreadable value writes nothing. -/
def DriverProgress.put (field : ProgressField) (value : Json) (progress : DriverProgress) : DriverProgress :=
  match field with
  | .stateRevision => { progress with stateRevision := (LenientReads.u64 value).getD progress.stateRevision }
  | .lastCommandSeq => { progress with lastCommandSeq := (LenientReads.u64 value).getD progress.lastCommandSeq }
  | .lastEventSeq => { progress with lastEventSeq := (LenientReads.u64 value).getD progress.lastEventSeq }
  | .inFlightCommandId =>
    match LenientReads.nullableString value with
    | .null => { progress with inFlightCommandId := none }
    | .value raw =>
      { progress with inFlightCommandId := ((BoundedToken.new raw).toOption).or progress.inFlightCommandId }
    | .invalid => progress
  | .malformed => progress

def ProgressField.spoils (field : ProgressField) (value : Json) : Bool :=
  match field with
  | .inFlightCommandId =>
    match LenientReads.nullableString value with
    | .null => false
    | .value raw => ((BoundedToken.new raw).toOption : Option CommandId).isNone
    | .invalid => true
  | .malformed => (LenientReads.bool value).getD true
  | _ => (LenientReads.u64 value).isNone

theorem progressDecoder_reads : progressDecoder.Reads DriverProgress.put ProgressField.spoils := by
  intro field value progress
  cases field
  case inFlightCommandId =>
    cases read : LenientReads.nullableString value with
    | null => simp [progressDecoder, DriverProgress.put, ProgressField.spoils, Bind.bind, Except.bind, read]
    | invalid => simp [progressDecoder, DriverProgress.put, ProgressField.spoils, Bind.bind, Except.bind, read]
    | value raw =>
      cases token : (BoundedToken.new raw : Except ProtocolValueError CommandId) <;>
        simp [progressDecoder, DriverProgress.put, ProgressField.spoils, Bind.bind, Except.bind, read, token,
          Except.toOption]
  case malformed =>
    cases read : LenientReads.bool value <;>
      simp [progressDecoder, DriverProgress.put, ProgressField.spoils, Bind.bind, Except.bind, read]
  all_goals
    cases read : LenientReads.u64 value <;>
      simp [progressDecoder, DriverProgress.put, ProgressField.spoils, Bind.bind, Except.bind, read]

theorem DriverProgress.put_apart (f g : ProgressField) (different : f ≠ g) (v w : Json) (progress : DriverProgress) :
    DriverProgress.put g w (DriverProgress.put f v progress) =
      DriverProgress.put f v (DriverProgress.put g w progress) := by
  cases f <;> cases g <;> first
    | rfl
    | exact absurd rfl different
    | (simp only [DriverProgress.put]; split <;> rfl)

/-- The fields an object can have and still read as progress that is not malformed. -/
inductive SoundProgressField : String × Json → Prop
  | stateRevision (n : UInt64) : SoundProgressField ("state_revision", .number (.posInt n))
  | lastCommandSeq (n : UInt64) : SoundProgressField ("last_command_seq", .number (.posInt n))
  | lastEventSeq (n : UInt64) : SoundProgressField ("last_event_seq", .number (.posInt n))
  | noCommand : SoundProgressField ("in_flight_command_id", .null)
  | command (commandId : CommandId) : SoundProgressField ("in_flight_command_id", .string commandId.text)
  | unflagged : SoundProgressField ("malformed", .bool false)

/-- An object of distinct sound fields. -/
structure SoundProgress (fields : List (String × Json)) : Prop where
  known : ∀ entry ∈ fields, SoundProgressField entry
  once : (fields.map Prod.fst).Nodup

theorem soundProgressField_iff {entry : String × Json} :
    SoundProgressField entry ↔
      ∃ field, ProgressField.ofName entry.1 = some field ∧ field.spoils entry.2 = false := by
  constructor
  · intro sound
    cases sound <;> exact ⟨_, rfl, by simp [ProgressField.spoils, LenientReads.u64, LenientReads.bool,
      LenientReads.nullableString, Except.toOption]⟩
  · obtain ⟨name, value⟩ := entry
    rintro ⟨field, known, fine⟩
    dsimp only at known fine
    unfold ProgressField.ofName at known
    split at known <;> cases known
    case h_1 =>
      obtain ⟨n, read⟩ := Option.isSome_iff_exists.mp (by simpa [ProgressField.spoils] using fine)
      rw [LenientReads.u64_eq_some.mp read]
      exact .stateRevision n
    case h_2 =>
      obtain ⟨n, read⟩ := Option.isSome_iff_exists.mp (by simpa [ProgressField.spoils] using fine)
      rw [LenientReads.u64_eq_some.mp read]
      exact .lastCommandSeq n
    case h_3 =>
      obtain ⟨n, read⟩ := Option.isSome_iff_exists.mp (by simpa [ProgressField.spoils] using fine)
      rw [LenientReads.u64_eq_some.mp read]
      exact .lastEventSeq n
    case h_4 =>
      cases value <;> simp [ProgressField.spoils, LenientReads.nullableString] at fine
      case null => exact .noCommand
      case string raw =>
        cases token : (BoundedToken.new raw : Except ProtocolValueError CommandId) with
        | error error => simp [token, Except.toOption] at fine
        | ok commandId =>
          rw [← BoundedToken.text_of_new token]
          exact .command commandId
    case h_5 =>
      cases value <;> simp [ProgressField.spoils, LenientReads.bool] at fine
      rw [fine]
      exact .unflagged

theorem ProgressField.ofName_injective {a b : String} {field : ProgressField} (left : ofName a = some field)
    (right : ofName b = some field) : a = b := by
  unfold ofName at left right
  split at left <;> cases left <;> split at right <;> first | rfl | cases right

theorem clean_iff_soundProgress {fields : List (String × Json)} :
    progressDecoder.Clean ProgressField.spoils fields ↔ SoundProgress fields := by
  constructor
  · intro clean
    refine ⟨fun entry member => soundProgressField_iff.mpr (clean.known entry member), ?_⟩
    refine List.Nodup.of_map ProgressField.ofName ?_
    rw [List.map_map]
    exact clean.once
  · intro sound
    refine ⟨fun entry member => soundProgressField_iff.mp (sound.known entry member), ?_⟩
    have once := sound.once
    rw [List.nodup_map_iff_inj_on (List.Nodup.of_map _ sound.once)]
    intro x inX y inY same
    obtain ⟨field, known, _⟩ := soundProgressField_iff.mp (sound.known x inX)
    refine List.inj_on_of_nodup_map once inX inY (ProgressField.ofName_injective known ?_)
    exact same.symm.trans known

namespace DriverProgress

/-- No JSON value makes the decoder fail, and only an object of sound fields reads unmalformed. -/
theorem deserialize_total (value : Json) :
    ∃ progress, deserialize value = .ok progress ∧
      (progress.malformed = false ↔ ∃ fields, value = .object fields ∧ SoundProgress fields) := by
  rcases value with _ | _ | (_ | _ | _) | _ | _ | fields
  case object =>
    obtain ⟨scan, read, scanned⟩ := FieldDecoder.visitFields_scanned progressDecoder_reads {} fields
    refine ⟨{ scan.slots with malformed := scan.spoiled }, ?_, ?_⟩
    · simp only [deserialize, Visitor.deserializeAny, visitor, read]
      rfl
    · rw [scanned.clean, clean_iff_soundProgress]
      simp
  all_goals exact ⟨malformedRecord, rfl, by simp [malformedRecord]⟩

theorem deserialize_distinct {fields : List (String × Json)} (distinct : progressDecoder.Distinct fields) :
    ∃ malformed, deserialize (.object fields) =
        .ok { fields.foldl (progressDecoder.putEntry put) {} with malformed := malformed } ∧
      (malformed = false ↔ progressDecoder.Clean ProgressField.spoils fields) := by
  obtain ⟨scan, read, scanned⟩ := FieldDecoder.visitFields_scanned progressDecoder_reads {} fields
  refine ⟨scan.spoiled, ?_, scanned.clean⟩
  simp only [deserialize, Visitor.deserializeAny, visitor, read, ← scanned.slots distinct]
  rfl

theorem serialize_distinct (progress : DriverProgress) : progressDecoder.Distinct progress.serialize := by
  rcases progress with ⟨_, _, _, _ | _, _ | _⟩ <;>
    constructor <;>
    simp [serialize, progressDecoder, ProgressField.ofName]

theorem serialize_clean_iff (progress : DriverProgress) :
    progressDecoder.Clean ProgressField.spoils progress.serialize ↔ progress.malformed = false := by
  constructor
  · intro clean
    cases marker : progress.malformed with
    | false => rfl
    | true =>
      obtain ⟨field, known, fine⟩ := clean.known ("malformed", .bool true) (by simp [serialize, marker])
      cases known
      simp [ProgressField.spoils, LenientReads.bool] at fine
  · intro unmarked
    rw [clean_iff_soundProgress]
    rcases progress with ⟨revision, command, event, none | commandId, _ | _⟩ <;> cases unmarked
    · refine ⟨?_, by simp [serialize]⟩
      simp only [serialize, Bool.false_eq_true, if_false, List.append_nil, List.forall_mem_cons]
      exact ⟨.stateRevision _, .lastCommandSeq _, .lastEventSeq _, .noCommand, by simp⟩
    · refine ⟨?_, by simp [serialize]⟩
      simp only [serialize, Bool.false_eq_true, if_false, List.append_nil, List.forall_mem_cons]
      exact ⟨.stateRevision _, .lastCommandSeq _, .lastEventSeq _, .command commandId, by simp⟩

theorem foldl_serialize (progress : DriverProgress) :
    { progress.serialize.foldl (progressDecoder.putEntry put) {} with malformed := progress.malformed } = progress := by
  rcases progress with ⟨_, _, _, _ | _, _ | _⟩ <;>
    simp [serialize, progressDecoder, FieldDecoder.putEntry, ProgressField.ofName, put, LenientReads.u64,
      LenientReads.nullableString, Except.toOption]

theorem deserialize_serialize {progress : DriverProgress} {fields : List (String × Json)}
    (written : progress.serialize.Perm fields) : deserialize (.object fields) = .ok progress := by
  have distinct := progress.serialize_distinct
  obtain ⟨malformed, read, marked⟩ := deserialize_distinct (distinct.perm written)
  have marker : malformed = progress.malformed := by
    have same : progressDecoder.Clean ProgressField.spoils fields ↔ progress.malformed = false :=
      ⟨fun clean => progress.serialize_clean_iff.mp (clean.perm written.symm),
        fun unmarked => (progress.serialize_clean_iff.mpr unmarked).perm written⟩
    rw [Bool.eq_iff_iff, ← not_iff_not, Bool.not_eq_true, Bool.not_eq_true, marked, same]
  rw [read, marker, ← distinct.foldl_perm put_apart written, foldl_serialize]

end DriverProgress

/-- Values a store can hand back after any number of saves and loads of `first`. A save may
put the fields of the object in another order. -/
inductive Reloaded {α : Type} (serialize : α → List (String × Json)) (deserialize : Json → Except DecodeError α)
    (first : α) : α → Prop
  | start : Reloaded serialize deserialize first first
  | next {saved loaded : α} {fields : List (String × Json)} (run : Reloaded serialize deserialize first saved)
      (written : (serialize saved).Perm fields) (read : deserialize (.object fields) = .ok loaded) :
      Reloaded serialize deserialize first loaded

theorem Reloaded.same {α : Type} {serialize : α → List (String × Json)} {deserialize : Json → Except DecodeError α}
    {first last : α} (run : Reloaded serialize deserialize first last)
    (round_trip : ∀ value fields, (serialize value).Perm fields → deserialize (.object fields) = .ok value) :
    last = first := by
  induction run with
  | start => rfl
  | next _ written read ih =>
    have same := (round_trip _ _ written).symm.trans read
    rw [← ih, Except.ok.inj same]

/-- Whatever is stored, decoding it fails closed, and saving and loading heals nothing. -/
theorem persisted_orchestration_fails_closed :
    (∀ value, ∃ backend, OrchestrationBackendRef.deserialize value = .ok backend ∧
      (backend.isExecutableByCurrentBuild = true → backend = .legacyEmbedded ∧
        value = .object [("kind", .string "legacy_embedded")])) ∧
    (∀ value, ∃ progress, DriverProgress.deserialize value = .ok progress ∧
      (progress.malformed = false → ∃ fields, value = .object fields ∧ SoundProgress fields)) ∧
    (∀ backend fields, (OrchestrationBackendRef.serialize backend).Perm fields →
      OrchestrationBackendRef.deserialize (.object fields) = .ok backend) ∧
    (∀ progress fields, (DriverProgress.serialize progress).Perm fields →
      DriverProgress.deserialize (.object fields) = .ok progress) ∧
    (∀ first last, Reloaded OrchestrationBackendRef.serialize OrchestrationBackendRef.deserialize first last →
      last = first) ∧
    ∀ first last, Reloaded DriverProgress.serialize DriverProgress.deserialize first last → last = first := by
  refine ⟨?_, ?_, fun _ _ => OrchestrationBackendRef.deserialize_serialize,
    fun _ _ => DriverProgress.deserialize_serialize, fun _ _ run => ?_, fun _ _ run => ?_⟩
  · intro value
    obtain ⟨backend, read⟩ := OrchestrationBackendRef.deserialize_total value
    refine ⟨backend, read, fun executable => ?_⟩
    have legacy : backend = .legacyEmbedded := by
      cases backend <;> first | rfl | cases executable
    rw [legacy] at read
    exact ⟨legacy, OrchestrationBackendRef.deserialize_eq_legacyEmbedded read⟩
  · intro value
    obtain ⟨progress, read, sound⟩ := DriverProgress.deserialize_total value
    exact ⟨progress, read, sound.mp⟩
  · exact run.same fun _ _ => OrchestrationBackendRef.deserialize_serialize
  · exact run.same fun _ _ => DriverProgress.deserialize_serialize

end Sealwire.Orchestration

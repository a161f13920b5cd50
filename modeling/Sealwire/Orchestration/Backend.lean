import Sealwire.Lib.FieldScan
import Sealwire.Orchestration.Lenient

namespace Sealwire.Orchestration

/-- The durable backend pin of a run, with the identity an executor of a later build would read. -/
inductive OrchestrationBackendRef
  | legacyEmbedded
  | cloud (protocolVersion : SupportedProtocolVersion) (driverVersion : DriverVersion) (cloudRunId : DriverRunId)
  | localSidecar (protocolVersion : SupportedProtocolVersion) (driverVersion : DriverVersion)
  | unknownNonExecuting (originalKind : Option UnknownBackendKind) (protocolVersion : Option UInt32)
      (driverVersion : Option DriverVersion) (cloudRunId : Option DriverRunId)
  deriving DecidableEq

inductive BackendField
  | kind
  | originalKind
  | protocolVersion
  | driverVersion
  | cloudRunId
  deriving DecidableEq

def BackendField.ofName : String → Option BackendField
  | "kind" => some .kind
  | "original_kind" => some .originalKind
  | "protocol_version" => some .protocolVersion
  | "driver_version" => some .driverVersion
  | "cloud_run_id" => some .cloudRunId
  | _ => none

structure BackendSlots where
  kind : Option String := none
  originalKind : Option String := none
  protocolVersion : Option UInt32 := none
  driverVersion : Option String := none
  cloudRunId : Option String := none

def backendDecoder : FieldDecoder BackendField BackendSlots where
  fieldOf := BackendField.ofName
  decode field value slots :=
    match field with
    | .kind => do
      let kind ← lenientString.deserializeAny value
      .ok ({ slots with kind := kind }, kind.isNone)
    | .originalKind => do
      let originalKind ← lenientString.deserializeAny value
      .ok ({ slots with originalKind := originalKind }, originalKind.isNone)
    | .protocolVersion => do
      let protocolVersion ← lenientU32.deserializeAny value
      .ok ({ slots with protocolVersion := protocolVersion }, protocolVersion.isNone)
    | .driverVersion => do
      let driverVersion ← lenientString.deserializeAny value
      .ok ({ slots with driverVersion := driverVersion }, driverVersion.isNone)
    | .cloudRunId => do
      let cloudRunId ← lenientString.deserializeAny value
      .ok ({ slots with cloudRunId := cloudRunId }, cloudRunId.isNone)

namespace OrchestrationBackendRef

def isExecutableByCurrentBuild : OrchestrationBackendRef → Bool
  | legacyEmbedded => true
  | _ => false

/-- Identity that does not pass its grammar is left out. -/
def unknownNonExecutingFromParts (originalKind : Option String) (protocolVersion : Option UInt32)
    (driverVersion cloudRunId : Option String) : OrchestrationBackendRef :=
  .unknownNonExecuting (originalKind.bind fun raw => (BoundedToken.new raw).toOption) protocolVersion
    (driverVersion.bind fun raw => (BoundedToken.new raw).toOption)
    (cloudRunId.bind fun raw => (BoundedToken.new raw).toOption)

/-- The end of `visit_map`: what the slots of an object name. -/
def ofSlots (slots : BackendSlots) (unsupportedShape : Bool) : OrchestrationBackendRef :=
  let unknown := unknownNonExecutingFromParts (slots.originalKind.or slots.kind) slots.protocolVersion
    slots.driverVersion slots.cloudRunId
  let protocolVersion := slots.protocolVersion.bind fun version => (SupportedProtocolVersion.new version).toOption
  let driverVersion := slots.driverVersion.bind fun raw => (BoundedToken.new raw).toOption
  let cloudRunId := slots.cloudRunId.bind fun raw => (BoundedToken.new raw).toOption
  match slots.kind with
  | none => unknown
  | some "legacy_embedded" =>
    if unsupportedShape || slots.originalKind.isSome || slots.protocolVersion.isSome || slots.driverVersion.isSome ||
        slots.cloudRunId.isSome then unknown
    else .legacyEmbedded
  | some "cloud" =>
    if unsupportedShape || slots.originalKind.isSome then unknown
    else
      match protocolVersion, driverVersion, cloudRunId with
      | some protocolVersion, some driverVersion, some cloudRunId => .cloud protocolVersion driverVersion cloudRunId
      | _, _, _ => unknown
  | some "local_sidecar" =>
    if unsupportedShape || slots.originalKind.isSome || slots.cloudRunId.isSome then unknown
    else
      match protocolVersion, driverVersion with
      | some protocolVersion, some driverVersion => .localSidecar protocolVersion driverVersion
      | _, _ => unknown
  | some "unknown_non_executing" =>
    unknownNonExecutingFromParts slots.originalKind slots.protocolVersion slots.driverVersion slots.cloudRunId
  | some _ => unknown

def visitor : Visitor OrchestrationBackendRef where
  expecting := "an orchestration backend object"
  visitUnit := .ok (unknownNonExecutingFromParts none none none none)
  visitBool := fun _ => .ok (unknownNonExecutingFromParts none none none none)
  visitI64 := fun _ => .ok (unknownNonExecutingFromParts none none none none)
  visitU64 := fun _ => .ok (unknownNonExecutingFromParts none none none none)
  visitF64 := fun _ => .ok (unknownNonExecutingFromParts none none none none)
  visitStr := fun value => .ok (unknownNonExecutingFromParts (some value) none none none)
  visitSeq := fun _ => .ok (unknownNonExecutingFromParts none none none none)
  visitMap := fun fields => do
    let scan ← backendDecoder.visitFields {} fields
    .ok (ofSlots scan.slots scan.spoiled)

def deserialize (value : Json) : Except DecodeError OrchestrationBackendRef :=
  visitor.deserializeAny value

/-- A field that is only written when it is there. -/
def entryOf {α : Type} (name : String) (encode : α → Json) (value : Option α) : List (String × Json) :=
  (value.map fun held => (name, encode held)).toList

/-- The fields of the object a backend is written as, in the order they are written. -/
def serialize : OrchestrationBackendRef → List (String × Json)
  | legacyEmbedded => [("kind", .string "legacy_embedded")]
  | cloud protocolVersion driverVersion cloudRunId =>
    [("kind", .string "cloud"), ("protocol_version", .number (.posInt protocolVersion.version.toUInt64)),
      ("driver_version", .string driverVersion.text), ("cloud_run_id", .string cloudRunId.text)]
  | localSidecar protocolVersion driverVersion =>
    [("kind", .string "local_sidecar"), ("protocol_version", .number (.posInt protocolVersion.version.toUInt64)),
      ("driver_version", .string driverVersion.text)]
  | unknownNonExecuting originalKind protocolVersion driverVersion cloudRunId =>
    [("kind", .string "unknown_non_executing")] ++
      entryOf "original_kind" (fun kind => .string kind.text) originalKind ++
      entryOf "protocol_version" (fun version => .number (.posInt version.toUInt64)) protocolVersion ++
      entryOf "driver_version" (fun version => .string version.text) driverVersion ++
      entryOf "cloud_run_id" (fun id => .string id.text) cloudRunId

end OrchestrationBackendRef

/-- The slot a field writes. -/
def BackendSlots.put (field : BackendField) (value : Json) (slots : BackendSlots) : BackendSlots :=
  match field with
  | .kind => { slots with kind := LenientReads.string value }
  | .originalKind => { slots with originalKind := LenientReads.string value }
  | .protocolVersion => { slots with protocolVersion := LenientReads.u32 value }
  | .driverVersion => { slots with driverVersion := LenientReads.string value }
  | .cloudRunId => { slots with cloudRunId := LenientReads.string value }

def BackendField.spoils (field : BackendField) (value : Json) : Bool :=
  match field with
  | .protocolVersion => (LenientReads.u32 value).isNone
  | _ => (LenientReads.string value).isNone

theorem backendDecoder_reads : backendDecoder.Reads BackendSlots.put BackendField.spoils := by
  intro field value slots
  cases field <;> simp [backendDecoder, BackendSlots.put, BackendField.spoils, Bind.bind, Except.bind]

theorem BackendSlots.put_apart (f g : BackendField) (different : f ≠ g) (v w : Json) (slots : BackendSlots) :
    BackendSlots.put g w (BackendSlots.put f v slots) = BackendSlots.put f v (BackendSlots.put g w slots) := by
  cases f <;> cases g <;> first | rfl | exact absurd rfl different

namespace OrchestrationBackendRef

/-- No JSON value makes the decoder fail. -/
theorem deserialize_total (value : Json) : ∃ backend, deserialize value = .ok backend := by
  rcases value with _ | _ | (_ | _ | _) | _ | _ | fields
  case object =>
    obtain ⟨scan, read, _⟩ := FieldDecoder.visitFields_scanned backendDecoder_reads {} fields
    refine ⟨ofSlots scan.slots scan.spoiled, ?_⟩
    simp only [deserialize, Visitor.deserializeAny, visitor, read]
    rfl
  all_goals exact ⟨_, rfl⟩

/-- An object whose fields are clean reads as what its slots name. -/
theorem deserialize_clean {fields : List (String × Json)}
    (clean : backendDecoder.Clean BackendField.spoils fields) :
    deserialize (.object fields) = .ok (ofSlots (fields.foldl (backendDecoder.putEntry BackendSlots.put) {}) false) := by
  obtain ⟨scan, read, scanned⟩ := FieldDecoder.visitFields_scanned backendDecoder_reads {} fields
  have unspoiled := scanned.clean.mpr clean
  simp only [deserialize, Visitor.deserializeAny, visitor, read, ← scanned.slots clean.distinct, ← unspoiled]
  rfl

/-- Only the bare legacy kind, with nothing wrong beside it, is the executable backend. -/
theorem ofSlots_eq_legacyEmbedded {slots : BackendSlots} {unsupportedShape : Bool}
    (legacy : ofSlots slots unsupportedShape = .legacyEmbedded) :
    unsupportedShape = false ∧ slots = { kind := some "legacy_embedded" } := by
  obtain ⟨kind, originalKind, protocolVersion, driverVersion, cloudRunId⟩ := slots
  simp only [ofSlots, unknownNonExecutingFromParts] at legacy
  split at legacy
  · cases legacy
  · split at legacy
    · cases legacy
    · rename_i bare
      simp only [Bool.or_eq_true, not_or, Bool.not_eq_true, Option.isSome_eq_false_iff, Option.isNone_iff_eq_none]
        at bare
      obtain ⟨⟨⟨⟨unspoiled, rfl⟩, rfl⟩, rfl⟩, rfl⟩ := bare
      exact ⟨unspoiled, rfl⟩
  · split at legacy
    · cases legacy
    · split at legacy <;> cases legacy
  · split at legacy
    · cases legacy
    · split at legacy <;> cases legacy
  · cases legacy
  · cases legacy

theorem ofName_kind {name : String} (named : BackendField.ofName name = some .kind) : name = "kind" := by
  unfold BackendField.ofName at named
  split at named <;> first | rfl | cases named

/-- The executable backend is read from one object only. -/
theorem deserialize_eq_legacyEmbedded {value : Json} (legacy : deserialize value = .ok .legacyEmbedded) :
    value = .object [("kind", .string "legacy_embedded")] := by
  rcases value with _ | _ | (_ | _ | _) | _ | _ | fields
  case object =>
    obtain ⟨scan, read, scanned⟩ := FieldDecoder.visitFields_scanned backendDecoder_reads {} fields
    simp only [deserialize, Visitor.deserializeAny, visitor, read, Bind.bind, Except.bind, Except.ok.injEq] at legacy
    obtain ⟨unspoiled, bare⟩ := ofSlots_eq_legacyEmbedded legacy
    have clean := scanned.clean.mp unspoiled
    have slots := (scanned.slots clean.distinct).symm.trans bare
    have only_kind : ∀ entry ∈ fields, entry = ("kind", .string "legacy_embedded") := by
      intro entry member
      obtain ⟨field, known, fine⟩ := clean.known entry member
      obtain ⟨before, last⟩ := clean.distinct.foldl_last BackendSlots.put_apart member known {}
      rw [slots] at last
      cases field
      case kind =>
        have text := LenientReads.string_eq_some.mp (congrArg BackendSlots.kind last).symm
        exact Prod.ext (ofName_kind known) text
      case originalKind =>
        have absent : LenientReads.string entry.2 = none := (congrArg BackendSlots.originalKind last).symm
        simp [BackendField.spoils, absent] at fine
      case protocolVersion =>
        have absent : LenientReads.u32 entry.2 = none := (congrArg BackendSlots.protocolVersion last).symm
        simp [BackendField.spoils, absent] at fine
      case driverVersion =>
        have absent : LenientReads.string entry.2 = none := (congrArg BackendSlots.driverVersion last).symm
        simp [BackendField.spoils, absent] at fine
      case cloudRunId =>
        have absent : LenientReads.string entry.2 = none := (congrArg BackendSlots.cloudRunId last).symm
        simp [BackendField.spoils, absent] at fine
    have repeated : fields = List.replicate fields.length ("kind", .string "legacy_embedded") :=
      List.eq_replicate_of_mem only_kind
    have once : fields.Nodup := List.Nodup.of_map _ clean.once
    have short : fields.length ≤ 1 := by
      rw [repeated, List.nodup_replicate] at once
      exact once
    rcases fields with _ | ⟨entry, _ | ⟨_, _⟩⟩
    · cases slots
    · rw [only_kind entry (List.mem_singleton_self _)]
    · simp at short
  all_goals cases legacy

/-- The fields a backend is written as are all read, in whatever order a store hands them back. -/
theorem serialize_clean (backend : OrchestrationBackendRef) :
    backendDecoder.Clean BackendField.spoils backend.serialize := by
  rcases backend with _ | ⟨_, _, _⟩ | ⟨_, _⟩ | ⟨_ | _, _ | _, _ | _, _ | _⟩ <;>
    constructor <;>
    simp [serialize, entryOf, backendDecoder, BackendField.ofName, BackendField.spoils, LenientReads.string,
      LenientReads.u32]

theorem ofSlots_serialize (backend : OrchestrationBackendRef) :
    ofSlots (backend.serialize.foldl (backendDecoder.putEntry BackendSlots.put) {}) false = backend := by
  rcases backend with _ | ⟨_, _, _⟩ | ⟨_, _⟩ | ⟨_ | _, _ | _, _ | _, _ | _⟩ <;>
    simp [serialize, entryOf, backendDecoder, FieldDecoder.putEntry, BackendField.ofName, BackendSlots.put,
      LenientReads.string, LenientReads.u32, ofSlots, unknownNonExecutingFromParts, Except.toOption]

theorem deserialize_serialize {backend : OrchestrationBackendRef} {fields : List (String × Json)}
    (written : backend.serialize.Perm fields) : deserialize (.object fields) = .ok backend := by
  have clean := backend.serialize_clean
  rw [deserialize_clean (clean.perm written), ← clean.distinct.foldl_perm BackendSlots.put_apart written,
    ofSlots_serialize]

end OrchestrationBackendRef

end Sealwire.Orchestration

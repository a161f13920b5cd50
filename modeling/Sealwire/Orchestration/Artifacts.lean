import Sealwire.Lib.Derived
import Sealwire.Orchestration.Token

namespace Sealwire.Orchestration

abbrev ThreadHandle := BoundedToken "thread_handle" maxOpaqueIdLen

abbrev TemplateId := BoundedToken "template_id" maxOpaqueIdLen

abbrev ArtifactId := BoundedToken "artifact_id" maxOpaqueIdLen

def ProtocolValueError.text : ProtocolValueError → String
  | .empty field => field ++ " must not be empty"
  | .tooLong field max actual => field ++ " is too long (" ++ toString actual ++ " > " ++ toString max ++ ")"
  | .invalidCharacter field character => field ++ " contains invalid character " ++ reprStr character
  | .invalidTokenShape field => field ++ " must not be path-like"
  | .unsupportedProtocolVersion version => "unsupported protocol version " ++ toString version

namespace BoundedToken

variable {field : String} {maxLen : Nat}

def deserialize : Json → Except DecodeError (BoundedToken field maxLen) :=
  deserializeStr ("a bounded opaque " ++ field) fun value => (new value).mapError fun error => .custom error.text

def serialize (token : BoundedToken field maxLen) : Json := .string token.text

@[simp] theorem deserialize_serialize (token : BoundedToken field maxLen) : deserialize token.serialize = .ok token := by
  simp [deserialize, serialize, Except.mapError]

end BoundedToken

/-- A vector whose deserializer rejects oversized protocol payloads. -/
structure BoundedVec (α : Type) (max : Nat) where
  items : List α
  bounded : items.length ≤ max
  deriving DecidableEq

namespace BoundedVec

variable {α : Type} {max : Nat}

def tooManyItems (field : String) (max actual : Nat) : DecodeError :=
  .custom (field ++ " has too many items (" ++ toString actual ++ " > " ++ toString max ++ ")")

def visitSeq (decode : Json → Except DecodeError α) : BoundedVec α max → List Json → Except DecodeError (BoundedVec α max)
  | taken, [] => .ok taken
  | taken, next :: rest =>
    if full : taken.items.length = max then .error (tooManyItems "bounded_vector" max (max + 1))
    else do
      let item ← decode next
      visitSeq decode
        ⟨taken.items ++ [item], by
          have bounded := taken.bounded
          rw [List.length_append, List.length_singleton]
          omega⟩ rest

def deserialize (decode : Json → Except DecodeError α) : Json → Except DecodeError (BoundedVec α max) :=
  Visitor.deserializeAny
    { expecting := "a bounded sequence with at most " ++ toString max ++ " items"
      visitSeq := visitSeq decode ⟨[], Nat.zero_le max⟩ }

def serialize (encode : α → Json) (vec : BoundedVec α max) : Json := .array (vec.items.map encode)

theorem visitSeq_map {decode : Json → Except DecodeError α} {encode : α → Json}
    (again : ∀ item, decode (encode item) = .ok item) (items : List α) (taken : BoundedVec α max)
    (bounded : (taken.items ++ items).length ≤ max) :
    visitSeq decode taken (items.map encode) = .ok ⟨taken.items ++ items, bounded⟩ := by
  induction items generalizing taken with
  | nil => simp [visitSeq]
  | cons item rest ih =>
    have room : taken.items.length ≠ max := by
      simp only [List.length_append, List.length_cons] at bounded
      omega
    have next := ih ⟨taken.items ++ [item], by simp only [List.length_append, List.length_cons, List.length_nil] at bounded ⊢; omega⟩
      (by simpa using bounded)
    rw [List.map_cons, visitSeq, dif_neg room, again item]
    simpa [Bind.bind, Except.bind] using next

theorem deserialize_serialize {decode : Json → Except DecodeError α} {encode : α → Json}
    (again : ∀ item, decode (encode item) = .ok item) (vec : BoundedVec α max) :
    deserialize decode (vec.serialize encode) = .ok vec := by
  have all := visitSeq_map again vec.items ⟨[], Nat.zero_le max⟩ (by simpa using vec.bounded)
  simpa [deserialize, serialize, Visitor.deserializeAny] using all

end BoundedVec

inductive ArtifactKind
  | taskSpec
  | plan
  | design
  | report
  | subTaskBrief
  | workspaceDiff
  | reviewVerdict
  | transcriptDigest
  deriving DecidableEq

def ArtifactKind.asStr : ArtifactKind → String
  | taskSpec => "task_spec"
  | plan => "plan"
  | design => "design"
  | report => "report"
  | subTaskBrief => "sub_task_brief"
  | workspaceDiff => "workspace_diff"
  | reviewVerdict => "review_verdict"
  | transcriptDigest => "transcript_digest"

def ArtifactKind.variants : UnitVariants ArtifactKind where
  all := [.taskSpec, .plan, .design, .report, .subTaskBrief, .workspaceDiff, .reviewVerdict, .transcriptDigest]
  name := asStr
  complete variant := by cases variant <;> decide
  distinct one other same := by cases one <;> cases other <;> first | rfl | exact absurd same (by decide)

/-- Which local template slot an artifact satisfies. -/
inductive ArtifactBindingSlot
  | taskSpec
  | plan
  | design
  | report
  | subTaskBrief
  | diff
  | verdict
  | priorSummary
  deriving DecidableEq

def ArtifactBindingSlot.asStr : ArtifactBindingSlot → String
  | taskSpec => "task_spec"
  | plan => "plan"
  | design => "design"
  | report => "report"
  | subTaskBrief => "sub_task_brief"
  | diff => "diff"
  | verdict => "verdict"
  | priorSummary => "prior_summary"

def ArtifactBindingSlot.variants : UnitVariants ArtifactBindingSlot where
  all := [.taskSpec, .plan, .design, .report, .subTaskBrief, .diff, .verdict, .priorSummary]
  name := asStr
  complete variant := by cases variant <;> decide
  distinct one other same := by cases one <;> cases other <;> first | rfl | exact absurd same (by decide)

/-- A local artifact handle. The handle is opaque; resolving it is local-only. -/
structure ArtifactRef where
  artifactId : ArtifactId
  kind : ArtifactKind
  revision : UInt64
  sizeBytes : Option UInt64
  deriving DecidableEq

namespace ArtifactRef

structure Slots where
  artifactId : Option ArtifactId := none
  kind : Option ArtifactKind := none
  revision : Option UInt64 := none
  sizeBytes : Option (Option UInt64) := none

def visitField (slots : Slots) (entry : String × Json) : Except DecodeError Slots :=
  match entry.1 with
  | "artifact_id" => (readMapField slots.artifactId "artifact_id" BoundedToken.deserialize entry.2).map
      fun artifactId => { slots with artifactId }
  | "kind" => (readMapField slots.kind "kind" ArtifactKind.variants.deserialize entry.2).map fun kind => { slots with kind }
  | "revision" => (readMapField slots.revision "revision" deserializeU64 entry.2).map fun revision => { slots with revision }
  | "size_bytes" => (readMapField slots.sizeBytes "size_bytes" (deserializeOption deserializeU64) entry.2).map
      fun sizeBytes => { slots with sizeBytes }
  | name => .error (.unknownField name ["artifact_id", "kind", "revision", "size_bytes"])

def visitMap (fields : List (String × Json)) : Except DecodeError ArtifactRef := do
  let slots ← fields.foldlM visitField {}
  let artifactId ← requiredMapField slots.artifactId "artifact_id"
  let kind ← requiredMapField slots.kind "kind"
  let revision ← requiredMapField slots.revision "revision"
  .ok { artifactId, kind, revision, sizeBytes := slots.sizeBytes.getD none }

def visitSeq (items : List Json) : Except DecodeError ArtifactRef := do
  let (artifactId, items) ← nextElement BoundedToken.deserialize 0 "struct ArtifactRef with 4 elements" items
  let (kind, items) ← nextElement ArtifactKind.variants.deserialize 1 "struct ArtifactRef with 4 elements" items
  let (revision, items) ← nextElement deserializeU64 2 "struct ArtifactRef with 4 elements" items
  let (sizeBytes, items) ← nextElementOr none (deserializeOption deserializeU64) items
  endSeq items
  .ok { artifactId, kind, revision, sizeBytes }

def deserialize : Json → Except DecodeError ArtifactRef :=
  Visitor.deserializeAny { expecting := "struct ArtifactRef", visitSeq, visitMap }

def serialize (artifact : ArtifactRef) : Json :=
  .object
    ([("artifact_id", artifact.artifactId.serialize), ("kind", ArtifactKind.variants.serialize artifact.kind),
      ("revision", .number (.posInt artifact.revision))] ++
      (artifact.sizeBytes.map fun size => ("size_bytes", Json.number (.posInt size))).toList)

theorem deserialize_serialize (artifact : ArtifactRef) : deserialize artifact.serialize = .ok artifact := by
  obtain ⟨artifactId, kind, revision, _ | size⟩ := artifact <;>
    simp [deserialize, serialize, Visitor.deserializeAny, visitMap, visitField, readMapField, requiredMapField,
      deserializeU64, deserializeOption, Except.map, Bind.bind, Except.bind, Pure.pure, Except.pure]

end ArtifactRef

/-- Binding from a closed slot to a local artifact reference. -/
structure ArtifactBinding where
  slot : ArtifactBindingSlot
  artifact : ArtifactRef
  deriving DecidableEq

namespace ArtifactBinding

structure Slots where
  slot : Option ArtifactBindingSlot := none
  artifact : Option ArtifactRef := none

def visitField (slots : Slots) (entry : String × Json) : Except DecodeError Slots :=
  match entry.1 with
  | "slot" => (readMapField slots.slot "slot" ArtifactBindingSlot.variants.deserialize entry.2).map
      fun slot => { slots with slot }
  | "artifact" => (readMapField slots.artifact "artifact" ArtifactRef.deserialize entry.2).map
      fun artifact => { slots with artifact }
  | name => .error (.unknownField name ["slot", "artifact"])

def visitMap (fields : List (String × Json)) : Except DecodeError ArtifactBinding := do
  let slots ← fields.foldlM visitField {}
  let slot ← requiredMapField slots.slot "slot"
  let artifact ← requiredMapField slots.artifact "artifact"
  .ok { slot, artifact }

def visitSeq (items : List Json) : Except DecodeError ArtifactBinding := do
  let (slot, items) ←
    nextElement ArtifactBindingSlot.variants.deserialize 0 "struct ArtifactBinding with 2 elements" items
  let (artifact, items) ← nextElement ArtifactRef.deserialize 1 "struct ArtifactBinding with 2 elements" items
  endSeq items
  .ok { slot, artifact }

def deserialize : Json → Except DecodeError ArtifactBinding :=
  Visitor.deserializeAny { expecting := "struct ArtifactBinding", visitSeq, visitMap }

def serialize (binding : ArtifactBinding) : Json :=
  .object [("slot", ArtifactBindingSlot.variants.serialize binding.slot), ("artifact", binding.artifact.serialize)]

theorem deserialize_serialize (binding : ArtifactBinding) : deserialize binding.serialize = .ok binding := by
  obtain ⟨slot, artifact⟩ := binding
  simp [deserialize, serialize, Visitor.deserializeAny, visitMap, visitField, readMapField, requiredMapField,
    ArtifactRef.deserialize_serialize, Except.map, Bind.bind, Except.bind, Pure.pure, Except.pure]

end ArtifactBinding

end Sealwire.Orchestration

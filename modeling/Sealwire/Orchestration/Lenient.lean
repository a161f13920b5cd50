import Sealwire.Lib.Json
import Sealwire.Lib.Word
import Sealwire.Orchestration.Token

namespace Sealwire.Orchestration

/-- A visitor that answers every shape, with `otherwise` where it reads nothing. -/
def lenientVisitor {α : Type} (expecting : String) (otherwise : α) : Visitor α where
  expecting := expecting
  visitUnit := .ok otherwise
  visitBool := fun _ => .ok otherwise
  visitU64 := fun _ => .ok otherwise
  visitI64 := fun _ => .ok otherwise
  visitF64 := fun _ => .ok otherwise
  visitStr := fun _ => .ok otherwise
  visitSeq := fun _ => .ok otherwise
  visitMap := fun _ => .ok otherwise

def lenientString : Visitor (Option String) :=
  { lenientVisitor "a string-like persisted field" none with visitStr := fun text => .ok (some text) }

inductive LenientNullableString
  | null
  | value (text : String)
  | invalid
  deriving DecidableEq

def lenientNullableString : Visitor LenientNullableString :=
  { lenientVisitor "a nullable persisted string" .invalid with
    visitStr := fun text => .ok (.value text)
    visitUnit := .ok .null }

def lenientBool : Visitor (Option Bool) :=
  { lenientVisitor "a persisted boolean" none with visitBool := fun value => .ok (some value) }

def lenientU32 : Visitor (Option UInt32) :=
  { lenientVisitor "a u32-like persisted field" none with
    visitU64 := fun n => .ok (u32OfU64 n)
    visitI64 := fun n => .ok ((u64OfI64 n).bind u32OfU64) }

def lenientU64 : Visitor (Option UInt64) :=
  { lenientVisitor "a u64-like persisted field" none with
    visitU64 := fun n => .ok (some n)
    visitI64 := fun n => .ok (u64OfI64 n) }

namespace LenientReads

def string : Json → Option String
  | .string text => some text
  | _ => none

def nullableString : Json → LenientNullableString
  | .string text => .value text
  | .null => .null
  | _ => .invalid

def bool : Json → Option Bool
  | .bool value => some value
  | _ => none

def u32 : Json → Option UInt32
  | .number (.posInt n) => u32OfU64 n
  | .number (.negInt n _) => (u64OfI64 n).bind u32OfU64
  | _ => none

def u64 : Json → Option UInt64
  | .number (.posInt n) => some n
  | .number (.negInt n _) => u64OfI64 n
  | _ => none

end LenientReads

@[simp] theorem lenientString_deserializeAny (value : Json) :
    lenientString.deserializeAny value = .ok (LenientReads.string value) := by
  rcases value with _ | _ | (_ | _ | _) | _ | _ | _ <;> rfl

@[simp] theorem lenientNullableString_deserializeAny (value : Json) :
    lenientNullableString.deserializeAny value = .ok (LenientReads.nullableString value) := by
  rcases value with _ | _ | (_ | _ | _) | _ | _ | _ <;> rfl

@[simp] theorem lenientBool_deserializeAny (value : Json) :
    lenientBool.deserializeAny value = .ok (LenientReads.bool value) := by
  rcases value with _ | _ | (_ | _ | _) | _ | _ | _ <;> rfl

@[simp] theorem lenientU32_deserializeAny (value : Json) :
    lenientU32.deserializeAny value = .ok (LenientReads.u32 value) := by
  rcases value with _ | _ | (_ | _ | _) | _ | _ | _ <;> rfl

@[simp] theorem lenientU64_deserializeAny (value : Json) :
    lenientU64.deserializeAny value = .ok (LenientReads.u64 value) := by
  rcases value with _ | _ | (_ | _ | _) | _ | _ | _ <;> rfl

theorem LenientReads.string_eq_some {value : Json} {text : String} :
    LenientReads.string value = some text ↔ value = .string text := by
  cases value <;> simp [LenientReads.string]

/-- The negative integers of a parser are negative, so only a word reads as one. -/
theorem LenientReads.u64_eq_some {value : Json} {n : UInt64} :
    LenientReads.u64 value = some n ↔ value = .number (.posInt n) := by
  rcases value with _ | _ | (m | ⟨m, negative⟩ | _) | _ | _ | _ <;> simp [LenientReads.u64]
  simp only [u64OfI64, if_neg (Int64.not_le.mpr negative), reduceCtorEq, not_false_eq_true]

end Sealwire.Orchestration

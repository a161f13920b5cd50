import Mathlib.Data.List.Lookmap
import Mathlib.Tactic.Common

namespace Sealwire

/-- A JSON number as a parser holds it: a word, a negative integer, or the bits of a float. -/
inductive JsonNumber
  | posInt (n : UInt64)
  | negInt (n : Int64) (negative : n < 0)
  | float (bits : UInt64)
  deriving DecidableEq

/-- A JSON value. An object keeps its fields in the order they came, repeated names included. -/
inductive Json
  | null
  | bool (value : Bool)
  | number (value : JsonNumber)
  | string (text : String)
  | array (items : List Json)
  | object (fields : List (String × Json))

namespace Json

/-- `Value::get`. A value keeps the last of the fields of one name. -/
def field (value : Json) (name : String) : Option Json :=
  match value with
  | .object fields => fields.reverse.lookup name
  | _ => none

/-- `Value::as_str`. -/
def asStr : Json → Option String
  | .string text => some text
  | _ => none

end Json

inductive DecodeError
  | invalidType (unexpected expected : String)
  | custom (message : String)
  deriving DecidableEq

/-- The text of an error. -/
def DecodeError.text : DecodeError → String
  | .invalidType unexpected expected => "invalid type: " ++ unexpected ++ ", expected " ++ expected
  | .custom message => message

/-- What a decoder does with each shape a JSON value can have. A shape it has no case for is an error. -/
structure Visitor (α : Type) where
  expecting : String
  visitUnit : Except DecodeError α := .error (.invalidType "unit value" expecting)
  visitBool : Bool → Except DecodeError α := fun _ => .error (.invalidType "boolean" expecting)
  visitU64 : UInt64 → Except DecodeError α := fun _ => .error (.invalidType "integer" expecting)
  visitI64 : Int64 → Except DecodeError α := fun _ => .error (.invalidType "integer" expecting)
  visitF64 : UInt64 → Except DecodeError α := fun _ => .error (.invalidType "floating point" expecting)
  visitStr : String → Except DecodeError α := fun _ => .error (.invalidType "string" expecting)
  visitSeq : List Json → Except DecodeError α := fun _ => .error (.invalidType "sequence" expecting)
  visitMap : List (String × Json) → Except DecodeError α := fun _ => .error (.invalidType "map" expecting)

namespace Visitor

variable {α : Type}

/-- `deserialize_any`: the value's own shape picks the method. -/
def deserializeAny (visitor : Visitor α) : Json → Except DecodeError α
  | .null => visitor.visitUnit
  | .bool value => visitor.visitBool value
  | .number (.posInt n) => visitor.visitU64 n
  | .number (.negInt n _) => visitor.visitI64 n
  | .number (.float bits) => visitor.visitF64 bits
  | .string text => visitor.visitStr text
  | .array items => visitor.visitSeq items
  | .object fields => visitor.visitMap fields

end Visitor

end Sealwire

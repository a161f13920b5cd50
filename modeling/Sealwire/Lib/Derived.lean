import Sealwire.Lib.Json
import Sealwire.Lib.Steps
import Sealwire.Lib.Word

namespace Sealwire

variable {α : Type}

namespace DecodeError

def quoted (name : String) : String := "`" ++ name ++ "`"

/-- The names, of which there is at least one, that an error says it would have taken. -/
def oneOf : List String → String
  | [name] => quoted name
  | [first, second] => quoted first ++ " or " ++ quoted second
  | names => "one of " ++ ", ".intercalate (names.map quoted)

def unknownField (name : String) (fields : List String) : DecodeError :=
  .custom ("unknown field " ++ quoted name ++ ", expected " ++ oneOf fields)

def unknownVariant (name : String) (variants : List String) : DecodeError :=
  .custom ("unknown variant " ++ quoted name ++ ", expected " ++ oneOf variants)

def missingField (name : String) : DecodeError := .custom ("missing field " ++ quoted name)

def duplicateField (name : String) : DecodeError := .custom ("duplicate field " ++ quoted name)

def invalidLength (length : Nat) (expected : String) : DecodeError :=
  .custom ("invalid length " ++ toString length ++ ", expected " ++ expected)

end DecodeError

/-- A decoder of strings only. -/
def deserializeStr (expecting : String) (visitStr : String → Except DecodeError α) : Json → Except DecodeError α :=
  Visitor.deserializeAny { expecting, visitStr }

@[simp] theorem deserializeStr_string {expecting : String} {visitStr : String → Except DecodeError α} (text : String) :
    deserializeStr expecting visitStr (.string text) = visitStr text := rfl

theorem deserializeStr_eq_ok {expecting : String} {visitStr : String → Except DecodeError α} {value : Json} {read : α}
    (reads : deserializeStr expecting visitStr value = .ok read) :
    ∃ text, value = .string text ∧ visitStr text = .ok read := by
  rcases value with _ | _ | (_ | _ | _) | text | _ | _
  case string => exact ⟨text, rfl, reads⟩
  all_goals cases reads

def deserializeUnit : Json → Except DecodeError Unit :=
  Visitor.deserializeAny { expecting := "unit", visitUnit := .ok () }

def deserializeU64 : Json → Except DecodeError UInt64 :=
  Visitor.deserializeAny
    { expecting := "u64"
      visitU64 := .ok
      visitI64 := fun n =>
        match u64OfI64 n with
        | some n => .ok n
        | none => .error (.custom ("invalid value: integer " ++ quoted n ++ ", expected u64")) }
where
  quoted (n : Int64) : String := DecodeError.quoted (toString n)

/-- `Option<T>`: null is nothing. -/
def deserializeOption (decode : Json → Except DecodeError α) : Json → Except DecodeError (Option α)
  | .null => .ok none
  | value => (decode value).map some

/-- An enumeration whose members carry nothing, each with its name on the wire. -/
structure UnitVariants (α : Type) where
  all : List α
  name : α → String
  complete : ∀ variant, variant ∈ all
  distinct : Function.Injective name

namespace UnitVariants

variable (variants : UnitVariants α)

def visitName (name : String) : Except DecodeError α :=
  match variants.all.find? fun variant => variants.name variant = name with
  | some variant => .ok variant
  | none => .error (.unknownVariant name (variants.all.map variants.name))

/-- The derived decoder takes a name, or an object that has only the name, over null. -/
def deserialize : Json → Except DecodeError α
  | .string name => variants.visitName name
  | .object ((name, value) :: rest) => do
    let variant ← variants.visitName name
    deserializeUnit value
    if rest.isEmpty then .ok variant else .error (.custom "expected value")
  | _ => .error (.custom "expected value")

def serialize (variant : α) : Json := .string (variants.name variant)

@[simp] theorem deserialize_serialize (variant : α) : variants.deserialize (variants.serialize variant) = .ok variant := by
  have found : (variants.all.find? fun other => variants.name other = variants.name variant) = some variant := by
    cases search : variants.all.find? fun other => variants.name other = variants.name variant with
    | none =>
      have absent := List.find?_eq_none.mp search variant (variants.complete variant)
      simp at absent
    | some other =>
      have same := List.find?_some search
      rw [variants.distinct (of_decide_eq_true same)]
  simp only [deserialize, serialize, visitName, found]

end UnitVariants

section Records

/-- A field of a record read from a map: it comes once. -/
def readMapField (slot : Option α) (field : String) (decode : Json → Except DecodeError α) (value : Json) :
    Except DecodeError (Option α) :=
  if slot.isSome then .error (.duplicateField field) else (decode value).map some

def requiredMapField (slot : Option α) (field : String) : Except DecodeError α :=
  match slot with
  | some held => .ok held
  | none => .error (.missingField field)

theorem readMapField_eq_ok {slot next : Option α} {field : String} {decode : Json → Except DecodeError α} {value : Json}
    (reads : readMapField slot field decode value = .ok next) :
    slot = none ∧ ∃ read, decode value = .ok read ∧ next = some read := by
  unfold readMapField at reads
  split_ifs at reads with held
  refine ⟨Option.not_isSome_iff_eq_none.mp held, ?_⟩
  cases decoded : decode value with
  | error _ =>
    rw [decoded] at reads
    cases reads
  | ok read =>
    rw [decoded] at reads
    cases reads
    exact ⟨read, rfl, rfl⟩

theorem readMapField_none {field : String} {decode : Json → Except DecodeError α} {value : Json} {read : α}
    (decoded : decode value = .ok read) : readMapField none field decode value = .ok (some read) := by
  simp [readMapField, decoded, Except.map]

theorem requiredMapField_eq_ok {slot : Option α} {field : String} {read : α}
    (present : requiredMapField slot field = .ok read) : slot = some read := by
  cases slot with
  | none => cases present
  | some held => exact congrArg some (Except.ok.inj present)

/-- The next element of a record read from an array. -/
def nextElement (decode : Json → Except DecodeError α) (index : Nat) (expecting : String) :
    List Json → Except DecodeError (α × List Json)
  | [] => .error (.invalidLength index expecting)
  | item :: rest => (decode item).map fun read => (read, rest)

/-- The next element, or what stands for a field that is left out. -/
def nextElementOr (default : α) (decode : Json → Except DecodeError α) : List Json → Except DecodeError (α × List Json)
  | [] => .ok (default, [])
  | item :: rest => (decode item).map fun read => (read, rest)

/-- An array has nothing behind the last field. -/
def endSeq : List Json → Except DecodeError Unit
  | [] => .ok ()
  | _ :: _ => .error (.custom "trailing characters")

end Records

end Sealwire

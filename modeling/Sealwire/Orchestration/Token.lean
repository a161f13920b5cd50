import Sealwire.Lib.Text

namespace Sealwire.Orchestration

def currentProtocolVersion : UInt32 := 1

def minProtocolVersion : UInt32 := 1

def maxOpaqueIdLen : Nat := 96

def maxDriverVersionLen : Nat := 64

/-- Why a bounded protocol value could not be built. -/
inductive ProtocolValueError
  | empty (field : String)
  | tooLong (field : String) (max actual : Nat)
  | invalidCharacter (field : String) (character : Char)
  | invalidTokenShape (field : String)
  | unsupportedProtocolVersion (version : UInt32)
  deriving DecidableEq

def allowedInToken (character : Char) : Bool :=
  character.isAlphanum || character = '-' || character = '_' || character = '.'

def validateToken (field raw : String) (maxLen : Nat) : Except ProtocolValueError String :=
  if raw.isEmpty then .error (.empty field)
  else if maxLen < raw.utf8ByteSize then .error (.tooLong field maxLen raw.utf8ByteSize)
  else
    match raw.toList.find? fun character => !allowedInToken character with
    | some character => .error (.invalidCharacter field character)
    | none =>
      if raw.toList.head? = some '.' ∨ raw.toList.getLast? = some '.' ∨ containsText raw ".." then
        .error (.invalidTokenShape field)
      else .ok raw

theorem validateToken_text {field raw text : String} {maxLen : Nat}
    (valid : validateToken field raw maxLen = .ok text) : text = raw := by
  unfold validateToken at valid
  split at valid
  · cases valid
  split at valid
  · cases valid
  split at valid
  · cases valid
  split at valid
  · cases valid
  · exact (Except.ok.inj valid).symm

theorem validateToken_again {field raw text : String} {maxLen : Nat}
    (valid : validateToken field raw maxLen = .ok text) : validateToken field text maxLen = .ok text := by
  have same := validateToken_text valid
  rwa [same] at valid ⊢

/-- An opaque token that passed the grammar of its field. -/
structure BoundedToken (field : String) (maxLen : Nat) where
  text : String
  valid : validateToken field text maxLen = .ok text
  deriving DecidableEq

namespace BoundedToken

variable {field : String} {maxLen : Nat}

def new (raw : String) : Except ProtocolValueError (BoundedToken field maxLen) :=
  match valid : validateToken field raw maxLen with
  | .ok text => .ok ⟨text, validateToken_again valid⟩
  | .error error => .error error

@[simp] theorem new_text (token : BoundedToken field maxLen) :
    (new token.text : Except ProtocolValueError (BoundedToken field maxLen)) = .ok token := by
  unfold new
  split
  · rename_i text valid
    have same := token.valid.symm.trans valid
    cases same
    rfl
  · rename_i error invalid
    cases token.valid.symm.trans invalid

/-- A token built from a text is that text. -/
theorem text_of_new {raw : String} {token : BoundedToken field maxLen} (built : new raw = .ok token) :
    token.text = raw := by
  unfold new at built
  split at built
  · rename_i text valid
    cases built
    exact validateToken_text valid
  · cases built

end BoundedToken

abbrev CommandId := BoundedToken "command_id" maxOpaqueIdLen

abbrev DriverRunId := BoundedToken "driver_run_id" maxOpaqueIdLen

abbrev DriverVersion := BoundedToken "driver_version" maxDriverVersionLen

abbrev UnknownBackendKind := BoundedToken "unknown_backend_kind" maxOpaqueIdLen

/-- A protocol version this build can speak. -/
structure SupportedProtocolVersion where
  version : UInt32
  supported : minProtocolVersion ≤ version ∧ version ≤ currentProtocolVersion
  deriving DecidableEq

namespace SupportedProtocolVersion

def new (version : UInt32) : Except ProtocolValueError SupportedProtocolVersion :=
  if supported : minProtocolVersion ≤ version ∧ version ≤ currentProtocolVersion then .ok ⟨version, supported⟩
  else .error (.unsupportedProtocolVersion version)

@[simp] theorem new_version (known : SupportedProtocolVersion) : new known.version = .ok known := by
  simp [new, known.supported]

end SupportedProtocolVersion

end Sealwire.Orchestration

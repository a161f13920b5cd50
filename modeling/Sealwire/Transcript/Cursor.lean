import Sealwire.Lib.Word
import Mathlib.Data.List.Basic

namespace Sealwire.Transcript

/-- `<i64 as Display>::fmt`. -/
def i64ToString (n : Int) : String :=
  if n < 0 then "-" ++ n.natAbs.repr else n.natAbs.repr

/-- The value of a run of ASCII digits. -/
def digitsValue (digits : List Char) : Option Nat :=
  if digits ≠ [] ∧ digits.all Char.isDigit then some (Nat.ofDigitChars 10 digits 0) else none

/-- `str::parse::<i64>`. -/
def parseI64 (text : List Char) : Option Int :=
  if text.head? = some '-' then (digitsValue text.tail).bind fun n => checkedInt (-(n : Int))
  else if text.head? = some '+' then (digitsValue text.tail).bind fun n => checkedInt n
  else (digitsValue text).bind fun n => checkedInt n

def tokenVersion : String := "tc1"

/-- The name is a UUID. -/
structure TranscriptKeySpace where
  name : String
  no_dot : '.' ∉ name.toList

structure TranscriptCursor where
  orderKey : Int
  deriving DecidableEq

inductive TranscriptCursorRejection
  | malformed
  | expired
  deriving DecidableEq

namespace TranscriptKeySpace

def cursorOlderThan (space : TranscriptKeySpace) (orderKey : Int) : String :=
  tokenVersion ++ "." ++ space.name ++ "." ++ i64ToString orderKey

def decode (space : TranscriptKeySpace) (token : String) : Except TranscriptCursorRejection TranscriptCursor :=
  match token.toList.splitOn '.' with
  | [version, name, orderKey] =>
    if version ≠ tokenVersion.toList then .error .malformed
    else
      match parseI64 orderKey with
      | none => .error .malformed
      | some orderKey => if name ≠ space.name.toList then .error .expired else .ok { orderKey := orderKey }
  | _ => .error .malformed

end TranscriptKeySpace

theorem digitsValue_repr (n : Nat) : digitsValue n.repr.toList = some n := by
  have digits : n.repr.toList = Nat.toDigits 10 n := by simp
  have nonempty : Nat.toDigits 10 n ≠ [] := by simp
  have all : (Nat.toDigits 10 n).all Char.isDigit = true :=
    List.all_eq_true.mpr fun c there => Nat.isDigit_of_mem_toDigits (by decide) (by decide) there
  rw [digits, digitsValue, if_pos ⟨nonempty, all⟩, Nat.ofDigitChars_ten_toDigits]

theorem isDigit_of_mem_repr {n : Nat} {c : Char} (there : c ∈ n.repr.toList) : c.isDigit = true := by
  have digits : n.repr.toList = Nat.toDigits 10 n := by simp
  exact Nat.isDigit_of_mem_toDigits (by decide) (by decide) (digits ▸ there)

/-- The digits of a number start with no sign. -/
theorem head_repr_ne {n : Nat} {sign : Char} (not_digit : sign.isDigit = false) : n.repr.toList.head? ≠ some sign := by
  intro same
  have digit := isDigit_of_mem_repr (List.mem_of_head? same)
  rw [not_digit] at digit
  cases digit

/-- Every `i64` is read back from its text. -/
theorem parseI64_toString {key : Int} (word : -2 ^ 63 ≤ key ∧ key < 2 ^ 63) :
    parseI64 (i64ToString key).toList = some key := by
  have value := digitsValue_repr key.natAbs
  have in_range (n : Int) (same : n = key) : checkedInt n = some key := checkedInt_eq_some.mpr ⟨same ▸ word, same⟩
  by_cases negative : key < 0
  · have text : (i64ToString key).toList = '-' :: key.natAbs.repr.toList := by
      simp [i64ToString, negative]
    rw [text, parseI64, List.head?_cons, if_pos rfl, List.tail_cons, value, Option.bind_some]
    exact in_range _ (by omega)
  · have text : (i64ToString key).toList = key.natAbs.repr.toList := by
      simp [i64ToString, negative]
    rw [text, parseI64, if_neg (head_repr_ne (by decide)), if_neg (head_repr_ne (by decide)), value,
      Option.bind_some]
    exact in_range _ (by omega)

theorem no_dot_i64ToString (key : Int) : '.' ∉ (i64ToString key).toList := by
  have digits (n : Nat) : '.' ∉ n.repr.toList := fun there =>
    absurd (isDigit_of_mem_repr there) (by decide)
  unfold i64ToString
  split
  · simpa using digits key.natAbs
  · exact digits key.natAbs

/-- The parts of a cursor. -/
theorem TranscriptKeySpace.splitOn_cursorOlderThan (space : TranscriptKeySpace) (key : Int) :
    (space.cursorOlderThan key).toList.splitOn '.' =
      [tokenVersion.toList, space.name.toList, (i64ToString key).toList] := by
  have parts : (space.cursorOlderThan key).toList =
      ['.'].intercalate [tokenVersion.toList, space.name.toList, (i64ToString key).toList] := by
    simp [cursorOlderThan, List.intercalate]
  have none_dotted : ∀ part ∈ [tokenVersion.toList, space.name.toList, (i64ToString key).toList], '.' ∉ part := by
    simp [space.no_dot, no_dot_i64ToString, tokenVersion]
  rw [parts, List.splitOn_intercalate '.' none_dotted (List.cons_ne_nil _ _)]

/-- A cursor decodes to its key in the space that minted it, and is expired in any other. -/
theorem TranscriptKeySpace.decode_cursorOlderThan (space other : TranscriptKeySpace) {key : Int}
    (word : -2 ^ 63 ≤ key ∧ key < 2 ^ 63) :
    other.decode (space.cursorOlderThan key) =
      if space.name = other.name then .ok { orderKey := key } else .error .expired := by
  unfold decode
  simp only [splitOn_cursorOlderThan, parseI64_toString word, ne_eq, not_true_eq_false, if_false]
  by_cases same : space.name = other.name
  · simp [same]
  · simp [same, String.toList_inj]

end Sealwire.Transcript

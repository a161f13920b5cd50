import Mathlib.Algebra.Group.Nat.Defs
import Sealwire.Lib.Lines
import Sealwire.Transcript.Record

namespace Sealwire.Patches

open Transcript (ToolCallView)

/-- `str::strip_prefix`. -/
def stripPrefix (head : List Char) (line : Line) : Option Line :=
  if head <+: line then some (line.drop head.length) else none

def patchForApply (tool : ToolCallView) : Option String :=
  match tool.diff.filter fun diff => trim diff ≠ "" with
  | some diff => some diff
  | none =>
    let parts := (tool.fileChanges.filter fun change => trim change.diff ≠ "").map (·.diff)
    if parts = [] then none else some ("\n".intercalate parts)

def absoluteTarget (value : Line) : Bool :=
  "a//".toList.isPrefixOf value || "b//".toList.isPrefixOf value

def badSide (rest : Line) : Bool :=
  absoluteTarget rest || (rest.head? = some '/' && rest ≠ "/dev/null".toList)

def usizeLimit : Nat := 2 ^ 64

/-- `str::parse` to a `usize`: digits in its range, with a plus before them or none. -/
def parseUsize (text : List Char) : Option Nat :=
  let digits := if text.head? = some '+' then text.tail else text
  if digits ≠ [] ∧ digits.all Char.isDigit then
    let value := Nat.ofDigitChars 10 digits 0
    if value < usizeLimit then some value else none
  else none

/-- One side of a hunk header, a single line where it has no comma. -/
def side (value : Line) (sign : Char) : Option Nat :=
  match stripPrefix [sign] value with
  | none => none
  | some value =>
    match value.dropWhile (· ≠ ',') with
    | [] => some 1
    | _ :: count => parseUsize count

def hunkCounts (rest : Line) : Option (Nat × Nat) :=
  match words rest with
  | oldPart :: newPart :: _ =>
    match side oldPart '-', side newPart '+' with
    | some old, some new => some (old, new)
    | _, _ => none
  | _ => none

structure Scan where
  sections : Nat
  hasOld : Bool
  hasNew : Bool
  sectionOpen : Bool
  owed : Option (Nat × Nat)

namespace Scan

def start : Scan where
  sections := 0
  hasOld := false
  hasNew := false
  sectionOpen := false
  owed := none

def stillOwed (old new : Nat) : Option (Nat × Nat) :=
  if 0 < old ∨ 0 < new then some (old, new) else none

def checkedPred : Nat → Option Nat
  | 0 => none
  | n + 1 => some n

/-- What a line of a hunk's body leaves of the lines that the hunk owes. -/
def counted (old new : Nat) (line : Line) : Option (Nat × Nat) :=
  match line.head? with
  | none => (checkedPred old).bind fun old => (checkedPred new).map fun new => (old, new)
  | some c =>
    if c = ' ' then (checkedPred old).bind fun old => (checkedPred new).map fun new => (old, new)
    else if c = '-' then (checkedPred old).map fun old => (old, new)
    else if c = '+' then (checkedPred new).map fun new => (old, new)
    else if c = '\\' then some (old, new)
    else none

/-- One line, or none where the patch is refused. -/
def step (scan : Scan) (line : Line) : Option Scan :=
  match stripPrefix "diff --git ".toList line with
  | some rest =>
    if scan.owed.isSome then none
    else if scan.sectionOpen && !(scan.hasOld && scan.hasNew) then none
    else if (words rest).any absoluteTarget then none
    else some { scan with sections := scan.sections + 1, sectionOpen := true, hasOld := false, hasNew := false }
  | none =>
    match stripPrefix "@@ ".toList line with
    | some rest =>
      if scan.owed.isSome then none
      else (hunkCounts rest).map fun counts => { scan with owed := stillOwed counts.1 counts.2 }
    | none =>
      match scan.owed with
      | some (old, new) => (counted old new line).map fun left => { scan with owed := stillOwed left.1 left.2 }
      | none =>
        match stripPrefix "--- ".toList line with
        | some rest => if badSide rest then none else some { scan with hasOld := true }
        | none =>
          match stripPrefix "+++ ".toList line with
          | some rest => if badSide rest then none else some { scan with hasNew := true }
          | none => some scan

def accepts (scan : Scan) : Bool :=
  if scan.owed.isSome then false
  else if scan.sections = 0 then scan.hasOld && scan.hasNew
  else scan.hasOld && scan.hasNew

end Scan

def patchIsAppliable (diff : String) : Bool :=
  let diff := trim diff
  if diff = "" then false
  else ((lines diff.toList).foldlM Scan.step Scan.start).any Scan.accepts

/-- The verdict that stripping leaves on an entry whose patch it drops. -/
def canApply (tool : ToolCallView) : Bool :=
  ((patchForApply tool).map patchIsAppliable).getD false

end Sealwire.Patches

import Sealwire.Lib.FileTree
import Sealwire.Lib.Text

namespace Sealwire.Workspaces

/-- The components of a path: `..` stays among them, `.` only in front of a relative one. -/
structure WorkPath where
  absolute : Bool
  parts : List String
  deriving DecidableEq, Repr

namespace WorkPath

def parse (path : String) : WorkPath :=
  let named := fun pieces : List String => pieces.filter fun piece => piece ≠ "" && piece ≠ "."
  if isAbsolutePath path then ⟨true, named (pathPieces path)⟩
  else
    match pathPieces path with
    | "." :: rest => ⟨false, "." :: named rest⟩
    | pieces => ⟨false, named pieces⟩

def display (path : WorkPath) : String :=
  (if path.absolute then "/" else "") ++ "/".intercalate path.parts

def components (path : WorkPath) : List String :=
  (if path.absolute then ["/"] else []) ++ path.parts

theorem pathPieces_slash_intercalate {names : List String} (some_ : names ≠ [])
    (plain : ∀ name ∈ names, PlainName name) : pathPieces ("/" ++ "/".intercalate names) = "" :: names := by
  have texts : ∀ text ∈ names.map String.toList, '/' ∉ text := by
    intro text member
    obtain ⟨name, there, rfl⟩ := List.mem_map.mp member
    exact (plain name there).2.2.2
  have split := List.splitOn_intercalate '/' texts (by simpa using some_)
  have back : (names.map String.toList).map String.ofList = names := by simp
  have first : ("/" ++ "/".intercalate names).toList = '/' :: ['/'].intercalate (names.map String.toList) := by
    rw [String.toList_append, String.toList_intercalate]
    rfl
  rw [pathPieces, first, List.splitOn_cons_eq_if_modifyHead, if_pos (beq_self_eq_true '/'), split, List.map_cons, back]

theorem parse_display {names : List String} (plain : ∀ name ∈ names, PlainName name) :
    parse (display ⟨true, names⟩) = ⟨true, names⟩ := by
  by_cases none_ : names = []
  · subst none_
    rfl
  · have shown : display ⟨true, names⟩ = "/" ++ "/".intercalate names := rfl
    have absolute : isAbsolutePath ("/" ++ "/".intercalate names) = true := by
      rw [isAbsolutePath, String.toList_append]
      rfl
    have kept : names.filter (fun piece => piece ≠ "" && piece ≠ ".") = names := by
      refine List.filter_eq_self.mpr fun name member => ?_
      obtain ⟨not_empty, not_dot, -, -⟩ := plain name member
      simp [not_empty, not_dot]
    rw [shown, parse, if_pos absolute, pathPieces_slash_intercalate none_ plain]
    simp only [List.filter_cons, kept]
    rfl

/-- `Path::starts_with`. -/
def startsWith (path root : WorkPath) : Bool := decide (root.components <+: path.components)

end WorkPath

/-- `PathBuf::join`. -/
def joinPath (base path : String) : String :=
  if isAbsolutePath path then path
  else if base = "" ∨ base.toList.getLast? = some '/' then base ++ path
  else base ++ "/" ++ path

/-- The relay process's own surroundings. -/
structure Surroundings where
  files : FileTree
  home : Option String
  currentDir : Option String

namespace Surroundings

variable (env : Surroundings)

/-- `fs::canonicalize`; a relative path is looked up from the process's own directory. -/
def canonicalize (path : String) : Except FileError (List String) :=
  if isAbsolutePath path then env.files.canonicalize (pathPieces path)
  else if path = "" then .error .notFound
  else
    match env.currentDir with
    | none => .error .notFound
    | some here => env.files.canonicalize (pathPieces here ++ pathPieces path)

def exists_ (path : WorkPath) : Bool := (env.canonicalize path.display).isOk

def expandHomeDir (path : String) : Option String :=
  if path = "~" then env.home
  else
    match path.toList with
    | '~' :: '/' :: stripped => env.home.map fun home => joinPath home (String.ofList stripped)
    | _ => none

def makeAbsolute (path : String) : Option String :=
  if isAbsolutePath path then some path else env.currentDir.map fun here => joinPath here path

/-- From a path that does not exist, given by its parts from the last to the first, up to one
that does; the parts left behind come second. -/
def dropMissing (absolute : Bool) : List String → List String → List String × List String
  | [], unresolved => ([], unresolved)
  | last :: up, unresolved =>
    -- `file_name` is none for these.
    if last = ".." ∨ last = "." then (last :: up, unresolved)
    else if env.exists_ ⟨absolute, up.reverse⟩ then (up, last :: unresolved)
    else dropMissing absolute up (last :: unresolved)

end Surroundings

def collapsePart (absolute : Bool) (normalized : List String) (part : String) : List String :=
  if part = "." then normalized
  else if part = ".." then
    match normalized with
    | last :: up => if last ≠ ".." then up else if absolute then normalized else ".." :: normalized
    | [] => if absolute then [] else [".."]
  else part :: normalized

def collapseLexicalComponents (path : WorkPath) : WorkPath :=
  { path with parts := (path.parts.foldl (collapsePart path.absolute) []).reverse }

namespace Surroundings

variable (env : Surroundings)

def normalizePathLossy (path : String) : WorkPath :=
  match env.canonicalize path with
  | .ok canonical => ⟨true, canonical⟩
  | .error _ =>
    let parsed := WorkPath.parse path
    let (current, unresolved) := env.dropMissing parsed.absolute parsed.parts.reverse []
    let current : WorkPath := { parsed with parts := current.reverse }
    let normalized : WorkPath :=
      match env.canonicalize current.display with
      | .ok canonical => ⟨true, canonical⟩
      | .error _ => current
    collapseLexicalComponents { normalized with parts := normalized.parts ++ unresolved }

def normalizeCwd (cwd : String) : String :=
  let trimmed := trim cwd
  if trimmed = "" then ""
  else
    let expanded := ((env.expandHomeDir trimmed).orElse fun _ => env.makeAbsolute trimmed).getD trimmed
    (env.normalizePathLossy expanded).display

end Surroundings

end Sealwire.Workspaces

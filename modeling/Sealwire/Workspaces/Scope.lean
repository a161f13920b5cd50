import Sealwire.Workspaces.Paths

namespace Sealwire.Workspaces

def maxGitMetadataBytes : Nat := 64 * 1024

def maxRepoDiscoveryDepth : Nat := 64

section Pointers

variable (fs : FileTree)

/-- Regular files only, size-capped. -/
def readSmallRegularFile (dir : List String) (name : String) : Option String :=
  match fs.symlinkMetadata dir name with
  | .ok (.file size text) => if size > maxGitMetadataBytes then none else text
  | _ => none

/-- What a pointer is looked up as: a relative one from the directory that holds it. -/
def pointerPieces (base : List String) (pointer : String) : List String :=
  if isAbsolutePath pointer then pathPieces pointer else base ++ pathPieces pointer

def resolveGitdirPointer (base : List String) (pointer : String) : Option (List String) :=
  let pointer := trim pointer
  if pointer = "" then none else (fs.canonicalize (pointerPieces base pointer)).toOption

/-- `str::strip_prefix`. -/
def stripPrefix (text part : String) : Option String :=
  if part.toList <+: text.toList then some (String.ofList (text.toList.drop part.length)) else none

/-- `<main>/.git/worktrees/<name>`; anything else is not a worktree pointer. -/
def mainOfTarget (target : List String) : Option (List String) :=
  match target.reverse with
  | _ :: worktrees :: gitDir :: main =>
    if worktrees = "worktrees" ∧ gitDir = ".git" then some main.reverse else none
  | _ => none

/-- The repository that the file `.git` of a directory points to, where its own metadata
points back. -/
def mainWorktreeOf (dir : List String) : Option (List String) := do
  let pointer ← readSmallRegularFile fs dir ".git"
  let rest ← stripPrefix (trim pointer) "gitdir:"
  let target ← resolveGitdirPointer fs dir rest
  let main ← mainOfTarget target
  let back ← readSmallRegularFile fs target "gitdir"
  let back ← resolveGitdirPointer fs target back
  let here ← (fs.canonicalize (dir ++ [".git"])).toOption
  if back = here then some main else none

/-- The main checkout `dir` is a verified linked worktree of, if it is one. -/
def linkedWorktreeMain (dir : List String) : Option (List String) :=
  match fs.symlinkMetadata dir ".git" with
  | .ok (.file _ _) => mainWorktreeOf fs dir
  | _ => none

/-- `Path::ancestors` of an absolute path, the nearest first. -/
def ancestors (path : List String) : List (List String) := path.inits.reverse

def linkedWorktreeRoots (path : List String) : List (List String) :=
  ((ancestors path).take maxRepoDiscoveryDepth).filterMap (linkedWorktreeMain fs)

/-- An entry that may be there. -/
def present (dir : List String) (name : String) : Bool :=
  match fs.symlinkMetadata dir name with
  | .error .notFound => false
  | _ => true

/-- The directory's own entries make it a bare repository. -/
def looksBare (dir : List String) : Bool :=
  present fs dir "HEAD" && (present fs dir "objects" && present fs dir "refs" || present fs dir "commondir")

def firstRepository : List (List String) → Option (List String)
  | [] => none
  | dir :: rest =>
    match fs.symlinkMetadata dir ".git" with
    | .error .notFound => if looksBare fs dir then none else firstRepository rest
    | .error _ => none
    | .ok .dir => some dir
    | .ok (.file _ _) => mainWorktreeOf fs dir
    -- A link is not followed.
    | .ok _ => none

/-- The main worktree of the repository containing `start`. -/
def repositoryRoot (start : List String) : Option (List String) :=
  firstRepository fs ((ancestors start).take maxRepoDiscoveryDepth)

end Pointers

def underAny (normalized : String) (roots : List String) : Bool :=
  roots.any fun root => (WorkPath.parse normalized).startsWith (WorkPath.parse root)

structure ThreadHistoryWorkspace where
  cwd : String
  repositories : List String
  deriving DecidableEq, Repr

namespace ThreadHistoryWorkspace

def capture (env : Surroundings) (cwd : String) : ThreadHistoryWorkspace :=
  let cwd := env.normalizeCwd cwd
  let path := WorkPath.parse cwd
  let repositories :=
    if path.absolute then (linkedWorktreeRoots env.files path.parts).map fun root => WorkPath.display ⟨true, root⟩
    else []
  { cwd, repositories }

def isFor (history : ThreadHistoryWorkspace) (env : Surroundings) (cwd : String) : Bool :=
  history.cwd == cwd || history.cwd == env.normalizeCwd cwd

end ThreadHistoryWorkspace

/-- Whether `symlink_metadata` of the path answers that it is not found. -/
def isGone (env : Surroundings) (path : String) : Bool :=
  let parsed := WorkPath.parse path
  match parsed.absolute, parsed.parts.getLast? with
  | true, none => false
  | true, some last =>
    match env.files.symlinkMetadata parsed.parts.dropLast last with
    | .error .notFound => true
    | _ => false
  | false, _ => true

structure WorkspaceScope where
  relayRoots : List String := []
  devicePaths : List String := []
  deriving DecidableEq, Repr

namespace WorkspaceScope

variable (scope : WorkspaceScope) (env : Surroundings)

def isUnrestricted : Bool := scope.relayRoots.isEmpty && scope.devicePaths.isEmpty

def relayCovers (normalized : String) : Bool :=
  if scope.relayRoots.isEmpty || underAny normalized scope.relayRoots then true
  else
    let path := WorkPath.parse normalized
    if !path.absolute then false
    else (linkedWorktreeRoots env.files path.parts).any fun main =>
      underAny (WorkPath.display ⟨true, main⟩) scope.relayRoots

def historyCovers (normalized : String) (history : ThreadHistoryWorkspace) : Bool :=
  history.isFor env normalized && history.repositories.any (fun repo => underAny repo scope.relayRoots) &&
    isGone env normalized

def ensureWithHistory (path : String) (history : Option ThreadHistoryWorkspace) : Except String Unit :=
  let normalized := env.normalizeCwd path
  if !scope.relayCovers env normalized && !history.any (scope.historyCovers env normalized) then
    let hint :=
      match scope.relayRoots with
      | [root] => "choose a directory under " ++ root
      | _ => "choose a directory under one of this relay's allowed roots"
    .error ("workspace " ++ normalized ++ " is outside this relay's allowed roots; " ++ hint)
  else if !scope.devicePaths.isEmpty && !underAny normalized scope.devicePaths then
    let hint :=
      match scope.devicePaths with
      | [one] => "choose a directory under " ++ one
      | _ => "choose a directory under one of this device's allowed paths"
    .error ("workspace " ++ normalized ++ " is outside this device's allowed paths; " ++ hint)
  else .ok ()

def ensure (path : String) : Except String Unit := scope.ensureWithHistory env path none

def allows (path : String) : Bool := (scope.ensure env path).isOk

def allowsHistory (path : String) (history : ThreadHistoryWorkspace) : Bool :=
  let normalized := env.normalizeCwd path
  scope.historyCovers env normalized history &&
    (scope.devicePaths.isEmpty || underAny normalized scope.devicePaths)

end WorkspaceScope

end Sealwire.Workspaces

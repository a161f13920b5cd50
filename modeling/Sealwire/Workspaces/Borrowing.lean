import Sealwire.Workspaces.Standing

namespace Sealwire.Workspaces

/-- A directory borrows a repository's standing only where that repository registered it: so of
a directory inside a tree nothing in the tree counts for anything outside it, and a device's own
paths stay literal. -/
theorem standing_is_borrowed_by_registration :
    (∀ (fs : FileTree) (dir main : List String), linkedWorktreeMain fs dir = some main →
      ∃ link, fs.canonicalize (dir ++ [".git"]) = .ok link ∧ Registers fs main link) ∧
    (∀ (fs : FileTree) (start main : List String), repositoryRoot fs start = some main →
      ∃ up, up <+: start ∧ (fs.symlinkMetadata up ".git" = .ok .dir ∧ main = up ∨
        (∃ size text, fs.symlinkMetadata up ".git" = .ok (.file size text)) ∧
          ∃ link, fs.canonicalize (up ++ [".git"]) = .ok link ∧ Registers fs main link)) ∧
    (∀ (fs : FileTree) (tree dir found : List String), NoOutsiderRegisters fs tree → tree <+: dir →
      fs.entry dir = some .dir → repositoryRoot fs dir = some found →
      tree <+: found ∨ ∃ up, up <+: tree ∧ up ≠ tree ∧
        (∀ between, up <+: between → between ≠ up → between <+: dir →
          fs.symlinkMetadata between ".git" = .error .notFound) ∧
        (fs.symlinkMetadata up ".git" = .ok .dir ∧ found = up ∨
          ∃ link, fs.canonicalize (up ++ [".git"]) = .ok link ∧ Registers fs found link)) ∧
    (∀ (env env' : Surroundings) (tree dir : List String) (scope : WorkspaceScope) (path : String),
      AgreeOutside tree env.files env'.files → PointersOutside env.files tree →
      RootsOutside tree scope.relayRoots → NoOutsiderRegisters env.files tree → NoOutsiderRegisters env'.files tree →
      env'.normalizeCwd path = env.normalizeCwd path → WorkPath.parse (env.normalizeCwd path) = ⟨true, dir⟩ →
      tree <+: dir → env.files.entry dir = some .dir → env'.files.entry dir = some .dir →
      scope.allows env' path = scope.allows env path) ∧
    ∀ (env : Surroundings) (scope : WorkspaceScope) (path : String), scope.devicePaths ≠ [] →
      scope.allows env path = true → underAny (env.normalizeCwd path) scope.devicePaths = true := by
  refine ⟨?_, ?_, ?_, ?_, ?_⟩
  · intro fs dir main found
    exact mainWorktreeOf_registered (linkedWorktreeMain_eq_some found).2
  · intro fs start main answer
    obtain ⟨up, above, -, ends⟩ := repositoryRoot_eq_some answer
    exact ⟨up, above, ends.imp_right fun points => ⟨points.1, mainWorktreeOf_registered points.2⟩⟩
  · intro fs tree dir found unregistered inside is_dir answer
    exact repositoryRoot_inside unregistered inside is_dir answer
  · intro env env' tree dir scope path agree pointers roots unregistered unregistered' normal is_path inside is_dir is_dir'
    exact agree.allows pointers roots unregistered unregistered' normal is_path inside is_dir is_dir'
  · intro env scope path narrowed allowed
    exact allows_under_device narrowed allowed

section Samples

/-- `/repo` with its worktree `/wt`, a directory inside the worktree, and a link to it from elsewhere. -/
def worktreeEntries : List (List String × FileEntry) :=
  [([], .dir), (["repo"], .dir), (["repo", ".git"], .dir), (["repo", ".git", "worktrees"], .dir),
    (["repo", ".git", "worktrees", "w"], .dir),
    (["repo", ".git", "worktrees", "w", "gitdir"], .file 8 (some "/wt/.git")),
    (["wt"], .dir), (["wt", ".git"], .file 30 (some "gitdir: /repo/.git/worktrees/w")), (["wt", "t"], .dir),
    (["wt", "t", "d"], .dir), (["x"], .dir), (["x", "link"], .symlink "/wt")]

def worktreeFiles : FileTree := .ofEntries worktreeEntries 40 (by decide +kernel)

/-- A worktree whose pointer leads through a link inside `/p/t`. -/
def throughTreeEntries (inside : List (List String × FileEntry)) : List (List String × FileEntry) :=
  [([], .dir), (["main"], .dir), (["main", ".git"], .dir), (["main", ".git", "worktrees"], .dir),
    (["main", ".git", "worktrees", "w"], .dir),
    (["main", ".git", "worktrees", "w", "gitdir"], .file 7 (some "/p/.git")),
    (["p"], .dir), (["p", ".git"], .file 14 (some "gitdir: /p/t/x")), (["p", "t"], .dir)] ++ inside

def linkedInside : FileTree :=
  .ofEntries (throughTreeEntries [(["p", "t", "x"], .symlink "/main/.git/worktrees/w")]) 40 (by decide +kernel)

def nothingInside : FileTree := .ofEntries (throughTreeEntries []) 40 (by decide +kernel)

/-- A repository that lies inside the tree `/t`, and is a root, with a worktree beside it. -/
def rootInsideEntries (pointer : List (List String × FileEntry)) : List (List String × FileEntry) :=
  [([], .dir), (["t"], .dir), (["t", "repo"], .dir), (["t", "repo", ".git"], .dir),
    (["t", "repo", ".git", "worktrees"], .dir), (["t", "repo", ".git", "worktrees", "w"], .dir),
    (["t", "repo", ".git", "worktrees", "w", "gitdir"], .file 10 (some "/t/wt/.git")), (["t", "wt"], .dir)] ++ pointer

def worktreeBeside : FileTree :=
  .ofEntries (rootInsideEntries [(["t", "wt", ".git"], .file 32 (some "gitdir: /t/repo/.git/worktrees/w"))]) 40
    (by decide +kernel)

def plainBeside : FileTree := .ofEntries (rootInsideEntries []) 40 (by decide +kernel)

def surroundingsOf (files : FileTree) : Surroundings := { files, home := none, currentDir := none }

theorem Registers.file {fs : FileTree} {main link : List String} (registers : Registers fs main link) :
    ∃ name here size text, fs.canonicalize (main ++ [".git", "worktrees", name]) = .ok here ∧
      fs.entry (here ++ ["gitdir"]) = some (.file size (some text)) ∧
      resolveGitdirPointer fs (main ++ [".git", "worktrees", name]) text = some link := by
  obtain ⟨name, text, read, resolved⟩ := registers
  unfold readSmallRegularFile FileTree.symlinkMetadata at read
  cases known : fs.canonicalize (main ++ [".git", "worktrees", name]) with
  | error => rw [known] at read; cases read
  | ok here =>
    rw [known] at read
    dsimp only at read
    cases is_dir : fs.entry here with
    | none => rw [is_dir] at read; cases read
    | some found =>
      rw [is_dir] at read
      cases found with
      | dir =>
        dsimp only at read
        cases there : fs.entry (here ++ ["gitdir"]) with
        | none => rw [there] at read; cases read
        | some entry =>
          rw [there] at read
          cases entry with
          | file size content =>
            dsimp only at read
            split_ifs at read
            cases read
            exact ⟨name, here, size, text, known, there, resolved⟩
          | _ => cases read
      | _ => cases read

/-- Where one registration is all there is, with a full path, what it resolves to is all that is registered. -/
theorem registered_only {fs : FileTree} (text : String) {link : List String}
    (only : ∀ path size' text', fs.entry (path ++ ["gitdir"]) = some (.file size' (some text')) → text' = text)
    (absolute : ∀ base, resolveGitdirPointer fs base text = some link) {main other : List String}
    (registers : Registers fs main other) : other = link := by
  obtain ⟨name, here, _, text', -, there, resolved⟩ := registers.file
  rw [only here _ text' there, absolute] at resolved
  exact (Option.some.inj resolved).symm

/-- The same with a forged pointer in the directory inside the worktree. -/
def forgedEntries : List (List String × FileEntry) :=
  worktreeEntries ++ [(["wt", "t", ".git"], .file 30 (some "gitdir: /repo/.git/worktrees/w"))]

def forgedFiles : FileTree := .ofEntries forgedEntries 40 (by decide +kernel)

theorem forgedFiles_registered {main link : List String} (registers : Registers forgedFiles main link) :
    link = ["wt", ".git"] := by
  have only : ∀ entry ∈ forgedEntries, entry.1.getLast? = some "gitdir" → entry.2 = .file 8 (some "/wt/.git") := by
    decide +kernel
  refine registered_only "/wt/.git" (fun path size' text' known => ?_) (fun base => rfl) registers
  have entry := only _ (FileTree.mem_of_entryOf known) (by simp)
  cases entry
  rfl

theorem worktreeFiles_registered {main link : List String} (registers : Registers worktreeFiles main link) :
    link = ["wt", ".git"] := by
  have only : ∀ entry ∈ worktreeEntries, entry.1.getLast? = some "gitdir" → entry.2 = .file 8 (some "/wt/.git") := by
    decide +kernel
  refine registered_only "/wt/.git" (fun path size' text' known => ?_) (fun base => rfl) registers
  have entry := only _ (FileTree.mem_of_entryOf known) (by simp)
  cases entry
  rfl

theorem linkedInside_registered {main link : List String} (registers : Registers linkedInside main link) :
    link = ["p", ".git"] := by
  have only : ∀ entry ∈ throughTreeEntries [(["p", "t", "x"], .symlink "/main/.git/worktrees/w")],
      entry.1.getLast? = some "gitdir" → entry.2 = .file 7 (some "/p/.git") := by
    decide +kernel
  refine registered_only "/p/.git" (fun path size' text' known => ?_) (fun base => rfl) registers
  have entry := only _ (FileTree.mem_of_entryOf known) (by simp)
  cases entry
  rfl

theorem nothingInside_registered {main link : List String} (registers : Registers nothingInside main link) :
    link = ["p", ".git"] := by
  have only : ∀ entry ∈ throughTreeEntries [], entry.1.getLast? = some "gitdir" →
      entry.2 = .file 7 (some "/p/.git") := by
    decide +kernel
  refine registered_only "/p/.git" (fun path size' text' known => ?_) (fun base => rfl) registers
  have entry := only _ (FileTree.mem_of_entryOf known) (by simp)
  cases entry
  rfl

/-- All directories but the root of the file system are inside the tree. -/
theorem rootInside_unregistered {pointer : List (List String × FileEntry)}
    (grown : FileTree.Grown (rootInsideEntries pointer)) (inside : ∀ entry ∈ rootInsideEntries pointer, entry.1 = [] ∨ ["t"] <+: entry.1) :
    NoOutsiderRegisters (.ofEntries (rootInsideEntries pointer) 40 grown) ["t"] := by
  intro main is_dir link registers _
  rcases inside _ (FileTree.mem_of_entryOf is_dir) with at_root | within
  · have at_root : main = [] := at_root
    subst at_root
    obtain ⟨name, here, size, text, walked, -, -⟩ := registers.file
    have missing : FileTree.entryOf (rootInsideEntries pointer) [".git"] = none := by
      cases known : FileTree.entryOf (rootInsideEntries pointer) [".git"] with
      | none => rfl
      | some found =>
        rcases inside _ (FileTree.mem_of_entryOf known) with none_ | under
        · cases none_
        · have under : ["t"] <+: [".git"] := under
          exact absurd under (by decide +kernel)
    rw [List.nil_append, FileTree.canonicalize_missing ⟨by decide, by decide, by decide, by decide +kernel⟩ missing] at walked
    cases walked
  · exact within

end Samples

theorem standing_is_borrowed_on_the_sample :
    (∃ link, worktreeFiles.canonicalize (["wt"] ++ [".git"]) = .ok link ∧ Registers worktreeFiles ["repo"] link) ∧
    (repositoryRoot forgedFiles ["wt", "t", "d"] = none) ∧
    ∀ scope : WorkspaceScope, scope.relayRoots = ["/repo"] →
      scope.allows (surroundingsOf forgedFiles) "/wt/t/d" = scope.allows (surroundingsOf worktreeFiles) "/wt/t/d" := by
  obtain ⟨registered, -, -, allows, -⟩ := standing_is_borrowed_by_registration
  refine ⟨registered worktreeFiles ["wt"] ["repo"] (by decide +kernel), by decide +kernel, fun scope roots => ?_⟩
  refine allows (surroundingsOf worktreeFiles) (surroundingsOf forgedFiles) ["wt", "t"] ["wt", "t", "d"] scope "/wt/t/d"
    ⟨rfl, ?_, rfl, rfl⟩ ?_ ?_ ?_ ?_ (by decide +kernel) (by decide +kernel) (by decide +kernel) rfl rfl
  · intro path outside
    exact (FileTree.entryOf_append_inside (by decide +kernel) outside).symm
  · intro up above other
    have below : ∀ up ∈ ancestors ["wt", "t"], up ≠ ["wt", "t"] → ∀ path ∈ pointerLooks worktreeFiles up,
        ["wt", "t"] <+: path → path = ["wt", "t"] := by
      decide +kernel
    exact below up (mem_ancestors.mpr above) other
  · rw [roots]
    intro root member
    rw [List.mem_singleton.mp member]
    decide +kernel
  · intro main _ link registers inside
    rw [worktreeFiles_registered registers] at inside
    exact absurd inside (by decide +kernel)
  · intro main _ link registers inside
    rw [forgedFiles_registered registers] at inside
    exact absurd inside (by decide +kernel)

theorem standing_reaches_past_the_tree :
    (∃ (fs : FileTree) (tree dir found : List String), fs.entry tree = some .dir ∧ NoOutsiderRegisters fs tree ∧
      tree <+: dir ∧ fs.entry dir = some .dir ∧ repositoryRoot fs dir = some found ∧
      ¬ tree <+: found ∧ ¬ found <+: tree) ∧
    (∃ (fs : FileTree) (tree dir found : List String), fs.entry tree = some .dir ∧ NoOutsiderRegisters fs tree ∧
      tree <+: dir ∧ (∃ target, fs.canonicalize dir = .ok target ∧ fs.entry target = some .dir) ∧
      (∀ up, up <+: tree → fs.symlinkMetadata up ".git" = .error .notFound) ∧
      repositoryRoot fs dir = some found ∧ ¬ tree <+: found) ∧
    (∃ (env env' : Surroundings) (tree : List String) (scope : WorkspaceScope) (path : String),
      AgreeOutside tree env.files env'.files ∧ NoOutsiderRegisters env.files tree ∧ NoOutsiderRegisters env'.files tree ∧
      RootsOutside tree scope.relayRoots ∧ env.normalizeCwd path = path ∧ env'.normalizeCwd path = path ∧
      WorkPath.parse path = ⟨true, tree⟩ ∧ underAny path scope.relayRoots = false ∧
      scope.allows env path ≠ scope.allows env' path) ∧
    ∃ (env env' : Surroundings) (tree dir : List String) (scope : WorkspaceScope) (path : String),
      AgreeOutside tree env.files env'.files ∧ NoOutsiderRegisters env.files tree ∧ NoOutsiderRegisters env'.files tree ∧
      env.normalizeCwd path = path ∧ env'.normalizeCwd path = path ∧
      WorkPath.parse path = ⟨true, dir⟩ ∧ tree <+: dir ∧ underAny path scope.relayRoots = false ∧
      scope.allows env path ≠ scope.allows env' path := by
  refine ⟨?_, ?_, ?_, ?_⟩
  · refine ⟨worktreeFiles, ["wt", "t"], ["wt", "t", "d"], ["repo"], rfl, ?_, by decide +kernel, rfl, by decide +kernel,
      by decide +kernel, by decide +kernel⟩
    intro main _ link registers inside
    rw [worktreeFiles_registered registers] at inside
    exact absurd inside (by decide +kernel)
  · refine ⟨worktreeFiles, ["x"], ["x", "link"], ["repo"], rfl, ?_, by decide +kernel, ⟨["wt"], rfl, rfl⟩, ?_,
      by decide +kernel, by decide +kernel⟩
    · intro main _ link registers inside
      rw [worktreeFiles_registered registers] at inside
      exact absurd inside (by decide +kernel)
    · intro up above
      rcases List.prefix_cons_iff.mp above with rfl | ⟨rest, rfl, none_⟩
      · rfl
      · rw [List.prefix_nil.mp none_]
        rfl
  · refine ⟨surroundingsOf linkedInside, surroundingsOf nothingInside, ["p", "t"], { relayRoots := ["/main"] }, "/p/t",
      ⟨rfl, ?_, rfl, rfl⟩, ?_, ?_, ?_, by decide +kernel, by decide +kernel, by decide +kernel, by decide +kernel,
      by decide +kernel⟩
    · intro path outside
      exact (FileTree.entryOf_append_inside (by decide +kernel) outside).trans
        (FileTree.entryOf_append_inside (by decide +kernel) outside).symm
    · intro main _ link registers inside
      rw [linkedInside_registered registers] at inside
      exact absurd inside (by decide +kernel)
    · intro main _ link registers inside
      rw [nothingInside_registered registers] at inside
      exact absurd inside (by decide +kernel)
    · intro root member
      rw [List.mem_singleton.mp member]
      decide +kernel
  · refine ⟨surroundingsOf worktreeBeside, surroundingsOf plainBeside, ["t"], ["t", "wt"], { relayRoots := ["/t/repo"] },
      "/t/wt", ⟨rfl, ?_, rfl, rfl⟩, rootInside_unregistered (by decide +kernel) (by decide +kernel), rootInside_unregistered (by decide +kernel) (by decide +kernel),
      by decide +kernel, by decide +kernel, by decide +kernel, by decide +kernel, by decide +kernel, by decide +kernel⟩
    intro path outside
    exact (FileTree.entryOf_append_inside (by decide +kernel) outside).trans
      (FileTree.entryOf_append_inside (by decide +kernel) outside).symm

end Sealwire.Workspaces

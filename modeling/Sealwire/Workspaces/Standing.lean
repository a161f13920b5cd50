import Sealwire.Workspaces.Scope

namespace Sealwire.Workspaces

/-- The repository's own metadata holds a worktree whose pointer resolves to `link`. -/
def Registers (fs : FileTree) (main link : List String) : Prop :=
  ∃ name text, readSmallRegularFile fs (main ++ [".git", "worktrees", name]) "gitdir" = some text ∧
    resolveGitdirPointer fs (main ++ [".git", "worktrees", name]) text = some link

section Pointers

variable {fs fs' : FileTree} {dir main target : List String}

theorem toOption_eq_some {α ε : Type} {result : Except ε α} {a : α} (found : result.toOption = some a) : result = .ok a := by
  cases result with
  | error => cases found
  | ok b => exact congrArg _ (Option.some.inj found)

theorem mainOfTarget_eq_some (found : mainOfTarget target = some main) :
    ∃ name, target = main ++ [".git", "worktrees", name] := by
  unfold mainOfTarget at found
  split at found
  · rename_i name worktrees gitDir rest reversed
    split_ifs at found with shape
    obtain ⟨rfl, rfl⟩ := shape
    cases found
    refine ⟨name, ?_⟩
    have forward := congrArg List.reverse reversed
    simpa using forward
  · cases found

/-- Every step of a pointer that is followed to a repository. -/
structure Followed (fs : FileTree) (dir main : List String) : Prop where
  exists_ : ∃ pointer rest target text link, readSmallRegularFile fs dir ".git" = some pointer ∧
    stripPrefix (trim pointer) "gitdir:" = some rest ∧ resolveGitdirPointer fs dir rest = some target ∧
    mainOfTarget target = some main ∧ readSmallRegularFile fs target "gitdir" = some text ∧
    resolveGitdirPointer fs target text = some link ∧ fs.canonicalize (dir ++ [".git"]) = .ok link

theorem mainWorktreeOf_eq_some (found : mainWorktreeOf fs dir = some main) : Followed fs dir main := by
  simp only [mainWorktreeOf, Option.bind_eq_bind, Option.bind_eq_some_iff] at found
  obtain ⟨pointer, read, rest, stripped, target, resolved, known, shape, text, read_back, link, back, here, at_, final⟩ :=
    found
  split_ifs at final with same
  cases final
  subst same
  exact ⟨pointer, rest, target, text, link, read, stripped, resolved, shape, read_back, back, toOption_eq_some at_⟩

/-- A directory borrows standing only from a repository that registered it. -/
theorem mainWorktreeOf_registered (found : mainWorktreeOf fs dir = some main) :
    ∃ link, fs.canonicalize (dir ++ [".git"]) = .ok link ∧ Registers fs main link := by
  obtain ⟨pointer, rest, target, text, link, -, -, -, shape, read_back, back, at_⟩ := (mainWorktreeOf_eq_some found).exists_
  obtain ⟨name, rfl⟩ := mainOfTarget_eq_some shape
  exact ⟨link, at_, name, text, read_back, back⟩

theorem linkedWorktreeMain_eq_some (found : linkedWorktreeMain fs dir = some main) :
    (∃ size text, fs.symlinkMetadata dir ".git" = .ok (.file size text)) ∧ mainWorktreeOf fs dir = some main := by
  unfold linkedWorktreeMain at found
  split at found
  · rename_i size text is_file
    exact ⟨⟨size, text, is_file⟩, found⟩
  · cases found

/-- The repository is there, so its path has plain names. -/
theorem main_there (found : mainWorktreeOf fs dir = some main) : fs.entry main = some .dir := by
  obtain ⟨pointer, rest, target, text, link, -, -, resolved, shape, -⟩ := (mainWorktreeOf_eq_some found).exists_
  obtain ⟨name, rfl⟩ := mainOfTarget_eq_some shape
  have there : fs.entry (main ++ [".git", "worktrees", name]) ≠ none := by
    unfold resolveGitdirPointer at resolved
    dsimp only at resolved
    split_ifs at resolved
    exact FileTree.canonicalize_there (toOption_eq_some resolved)
  have up_one : fs.entry (main ++ [".git", "worktrees"]) = some .dir := fs.closed _ name (by simpa using there)
  exact FileTree.dir_of_prefix up_one (List.prefix_append _ _)

end Pointers

section Ancestors

variable {fs : FileTree}

theorem mem_ancestors {dir path : List String} : dir ∈ ancestors path ↔ dir <+: path := by
  rw [ancestors, List.mem_reverse, List.mem_inits]

theorem inits_pairwise (path : List String) : path.inits.Pairwise fun one other => one.length < other.length := by
  induction path with
  | nil => simp
  | cons name rest ih =>
    rw [List.inits_cons, List.pairwise_cons]
    refine ⟨fun longer member => ?_, ?_⟩
    · obtain ⟨tail, -, rfl⟩ := List.mem_map.mp member
      simp
    · rw [List.pairwise_map]
      exact ih.imp fun shorter => by simpa using shorter

theorem ancestors_pairwise (path : List String) :
    (ancestors path).Pairwise fun one other => other.length < one.length := by
  rw [ancestors, List.pairwise_reverse]
  exact inits_pairwise path

/-- How the search ends: every directory before the one that answers has no `.git`. -/
theorem firstRepository_eq_some {dirs : List (List String)} {found : List String}
    (answer : firstRepository fs dirs = some found) : ∃ before up after, dirs = before ++ up :: after ∧
      (∀ dir ∈ before, fs.symlinkMetadata dir ".git" = .error .notFound) ∧
      (fs.symlinkMetadata up ".git" = .ok .dir ∧ found = up ∨
        (∃ size text, fs.symlinkMetadata up ".git" = .ok (.file size text)) ∧ mainWorktreeOf fs up = some found) := by
  induction dirs with
  | nil => cases answer
  | cons dir rest ih =>
    unfold firstRepository at answer
    split at answer
    · rename_i nothing
      split_ifs at answer
      obtain ⟨before, up, after, split, none_before, ends⟩ := ih answer
      refine ⟨dir :: before, up, after, by rw [split]; rfl, fun other member => ?_, ends⟩
      rcases List.mem_cons.mp member with rfl | later
      · exact nothing
      · exact none_before other later
    · cases answer
    · rename_i is_dir
      have same : dir = found := Option.some.inj answer
      exact ⟨[], dir, rest, rfl, fun _ member => (by cases member), .inl ⟨is_dir, same.symm⟩⟩
    · rename_i size text is_file
      exact ⟨[], dir, rest, rfl, fun _ member => (by cases member), .inr ⟨⟨size, text, is_file⟩, answer⟩⟩
    · cases answer

theorem repositoryRoot_eq_some {start found : List String} (answer : repositoryRoot fs start = some found) :
    ∃ up, up <+: start ∧
      (∀ dir, up <+: dir → dir ≠ up → dir <+: start → fs.symlinkMetadata dir ".git" = .error .notFound) ∧
      (fs.symlinkMetadata up ".git" = .ok .dir ∧ found = up ∨
        (∃ size text, fs.symlinkMetadata up ".git" = .ok (.file size text)) ∧ mainWorktreeOf fs up = some found) := by
  obtain ⟨before, up, after, split, none_before, ends⟩ := firstRepository_eq_some answer
  have whole : ancestors start = before ++ up :: (after ++ (ancestors start).drop maxRepoDiscoveryDepth) := by
    conv_lhs => rw [← List.take_append_drop maxRepoDiscoveryDepth (ancestors start), split]
    simp
  have member : up ∈ ancestors start := by
    rw [whole]
    simp
  refine ⟨up, mem_ancestors.mp member, fun dir above other below => ?_, ends⟩
  refine none_before dir ?_
  have sorted := ancestors_pairwise start
  have there : dir ∈ ancestors start := mem_ancestors.mpr below
  rw [whole] at sorted there
  rcases List.mem_append.mp there with early | late
  · exact early
  · rcases List.mem_cons.mp late with same | later
    · exact absurd same other
    · have shorter := (List.pairwise_cons.mp (List.pairwise_append.mp sorted).2.1).1 dir later
      have longer := above.length_le
      omega

end Ancestors

/-- No repository outside the tree registers a worktree inside it. -/
def NoOutsiderRegisters (fs : FileTree) (tree : List String) : Prop :=
  ∀ main, fs.entry main = some .dir → ∀ link, Registers fs main link → tree <+: link → tree <+: main

section Trees

variable {fs fs' : FileTree} {tree dir main : List String}

/-- A directory inside the tree borrows standing from repositories inside it only. -/
theorem main_inside (unregistered : NoOutsiderRegisters fs tree) (inside : tree <+: dir)
    (is_dir : fs.entry dir = some .dir) {size : Nat} {text : Option String}
    (is_file : fs.symlinkMetadata dir ".git" = .ok (.file size text))
    (found : mainWorktreeOf fs dir = some main) : tree <+: main := by
  obtain ⟨link, at_, registers⟩ := mainWorktreeOf_registered found
  rw [FileTree.symlinkMetadata_dir is_dir] at is_file
  have there : fs.entry (dir ++ [".git"]) = some (.file size text) := by
    split at is_file
    · rename_i found_ known
      rw [known]
      cases is_file
      rfl
    · cases is_file
  rw [FileTree.canonicalize_file there] at at_
  cases at_
  exact unregistered main (main_there found) _ registers (inside.trans (List.prefix_append dir _))

/-- Of two paths over a third the one is above the other. -/
theorem above_or_inside (below : dir <+: main) (inside : tree <+: main) : tree <+: dir ∨ dir <+: tree ∧ dir ≠ tree := by
  rcases List.prefix_or_prefix_of_prefix inside below with lower | upper
  · exact .inl lower
  · by_cases same : dir = tree
    · exact .inl (by rw [same])
    · exact .inr ⟨upper, same⟩

theorem repositoryRoot_inside (unregistered : NoOutsiderRegisters fs tree) (inside : tree <+: dir)
    (is_dir : fs.entry dir = some .dir) {found : List String} (answer : repositoryRoot fs dir = some found) :
    tree <+: found ∨ ∃ up, up <+: tree ∧ up ≠ tree ∧
      (∀ between, up <+: between → between ≠ up → between <+: dir →
        fs.symlinkMetadata between ".git" = .error .notFound) ∧
      (fs.symlinkMetadata up ".git" = .ok .dir ∧ found = up ∨
        ∃ link, fs.canonicalize (up ++ [".git"]) = .ok link ∧ Registers fs found link) := by
  obtain ⟨up, above, nothing, ends⟩ := repositoryRoot_eq_some answer
  rcases above_or_inside above inside with within | ⟨outside, other⟩
  · left
    rcases ends with ⟨-, rfl⟩ | ⟨⟨size, text, is_file⟩, points⟩
    · exact within
    · exact main_inside unregistered within (FileTree.dir_of_prefix is_dir above) is_file points
  · refine .inr ⟨up, outside, other, nothing, ?_⟩
    rcases ends with own | ⟨-, points⟩
    · exact .inl own
    · exact .inr (mainWorktreeOf_registered points)

end Trees

/-- The entries looked at when the pointers of a directory are followed. -/
def pointerLooks (fs : FileTree) (dir : List String) : List (List String) :=
  match readSmallRegularFile fs dir ".git" with
  | none => []
  | some pointer =>
    match stripPrefix (trim pointer) "gitdir:" with
    | none => []
    | some rest =>
      fs.looked (pointerPieces dir (trim rest)) ++ match resolveGitdirPointer fs dir rest with
      | none => []
      | some target =>
        fs.lookedAt target "gitdir" ++ match readSmallRegularFile fs target "gitdir" with
        | none => []
        | some back => fs.looked (pointerPieces target (trim back))

/-- The two file systems differ inside the tree at most. -/
structure AgreeOutside (tree : List String) (fs fs' : FileTree) : Prop where
  links : fs'.links = fs.links
  entry : ∀ path, ¬ tree <+: path → fs.entry path = fs'.entry path
  isDir : fs.entry tree = some .dir
  isDir' : fs'.entry tree = some .dir

/-- The pointers of the directories above the tree are followed without a look inside it. -/
def PointersOutside (fs : FileTree) (tree : List String) : Prop :=
  ∀ up, up <+: tree → up ≠ tree → ∀ path ∈ pointerLooks fs up, tree <+: path → path = tree

section Agreement

variable {fs fs' : FileTree} {tree dir : List String}

theorem AgreeOutside.at_look (agree : AgreeOutside tree fs fs') {path : List String}
    (outside : tree <+: path → path = tree) : fs.entry path = fs'.entry path := by
  by_cases inside : tree <+: path
  · rw [outside inside, agree.isDir, agree.isDir']
  · exact agree.entry path inside

theorem resolveGitdirPointer_congr (links : fs'.links = fs.links) {pointer : String}
    (same : ∀ p ∈ fs.looked (pointerPieces dir (trim pointer)), fs.entry p = fs'.entry p) :
    resolveGitdirPointer fs' dir pointer = resolveGitdirPointer fs dir pointer := by
  simp only [resolveGitdirPointer, FileTree.canonicalize_congr links same]

theorem readSmallRegularFile_congr {name : String}
    (same : fs'.symlinkMetadata dir name = fs.symlinkMetadata dir name) :
    readSmallRegularFile fs' dir name = readSmallRegularFile fs dir name := by
  rw [readSmallRegularFile, same]
  rfl

theorem AgreeOutside.dir_above (agree : AgreeOutside tree fs fs') {up : List String} (above : up <+: tree) :
    fs.entry up = some .dir ∧ fs'.entry up = some .dir :=
  ⟨FileTree.dir_of_prefix agree.isDir above, FileTree.dir_of_prefix agree.isDir' above⟩

/-- Both file systems show the same `.git` above the tree. -/
theorem AgreeOutside.dotGit (agree : AgreeOutside tree fs fs') {up : List String} (above : up <+: tree) (other : up ≠ tree) :
    fs.entry (up ++ [".git"]) = fs'.entry (up ++ [".git"]) := by
  refine agree.at_look fun inside => ?_
  have longer : up.length < tree.length :=
    lt_of_le_of_ne above.length_le fun same => other (above.eq_of_length same)
  refine (inside.eq_of_length ?_).symm
  have bound := inside.length_le
  simp only [List.length_append, List.length_singleton] at bound ⊢
  omega

theorem AgreeOutside.mainWorktreeOf (agree : AgreeOutside tree fs fs') (outside : PointersOutside fs tree)
    {up : List String} (above : up <+: tree) (other : up ≠ tree)
    (same : fs'.symlinkMetadata up ".git" = fs.symlinkMetadata up ".git")
    (here : fs'.canonicalize (up ++ [".git"]) = fs.canonicalize (up ++ [".git"])) :
    mainWorktreeOf fs' up = mainWorktreeOf fs up := by
  have looks : ∀ path ∈ pointerLooks fs up, fs.entry path = fs'.entry path :=
    fun path member => agree.at_look (outside up above other path member)
  have read := readSmallRegularFile_congr same
  unfold Workspaces.mainWorktreeOf
  rw [read, here]
  refine Option.bind_congr fun pointer known => Option.bind_congr fun rest stripped => ?_
  simp only [pointerLooks, known, stripped] at looks
  rw [resolveGitdirPointer_congr agree.links fun path member => looks path (List.mem_append_left _ member)]
  refine Option.bind_congr fun target resolved => Option.bind_congr fun main _ => ?_
  simp only [resolved] at looks
  have later := fun path member => looks path (List.mem_append_right _ member)
  have at_target : fs'.symlinkMetadata target "gitdir" = fs.symlinkMetadata target "gitdir" :=
    FileTree.symlinkMetadata_congr agree.links fun path member => later path (List.mem_append_left _ member)
  rw [readSmallRegularFile_congr at_target]
  refine Option.bind_congr fun back read_back => ?_
  simp only [read_back] at later
  rw [resolveGitdirPointer_congr agree.links fun path member => later path (List.mem_append_right _ member)]

theorem AgreeOutside.linkedWorktreeMain (agree : AgreeOutside tree fs fs') (outside : PointersOutside fs tree)
    {up : List String} (above : up <+: tree) (other : up ≠ tree) :
    linkedWorktreeMain fs' up = linkedWorktreeMain fs up := by
  obtain ⟨is_dir, is_dir'⟩ := agree.dir_above above
  have entry := agree.dotGit above other
  have same : fs'.symlinkMetadata up ".git" = fs.symlinkMetadata up ".git" := by
    rw [FileTree.symlinkMetadata_dir is_dir, FileTree.symlinkMetadata_dir is_dir', entry]
  unfold Workspaces.linkedWorktreeMain
  rw [same]
  split
  · rename_i size text is_file
    refine agree.mainWorktreeOf outside above other same ?_
    have there : fs.entry (up ++ [".git"]) = some (.file size text) := by
      rw [FileTree.symlinkMetadata_dir is_dir] at is_file
      split at is_file
      · rename_i found known
        rw [known]
        cases is_file
        rfl
      · cases is_file
    rw [FileTree.canonicalize_file there, FileTree.canonicalize_file (entry.symm.trans there)]
  · rfl

end Agreement

section Scopes

variable {env env' : Surroundings} {tree dir : List String} {scope : WorkspaceScope}

theorem underAny_iff {normalized : String} {roots : List String} : underAny normalized roots = true ↔
    ∃ root ∈ roots, (WorkPath.parse root).components <+: (WorkPath.parse normalized).components := by
  simp only [underAny, List.any_eq_true, WorkPath.startsWith, decide_eq_true_eq]

/-- No root lies inside the tree; the tree itself may be one. -/
def RootsOutside (tree : List String) (roots : List String) : Prop :=
  ∀ root ∈ roots, WorkPath.components ⟨true, tree⟩ <+: (WorkPath.parse root).components →
    (WorkPath.parse root).components = WorkPath.components ⟨true, tree⟩

theorem components_prefix {one other : List String} :
    WorkPath.components ⟨true, one⟩ <+: WorkPath.components ⟨true, other⟩ ↔ one <+: other := by
  simp [WorkPath.components]

/-- A repository inside the tree is under a root only where the whole tree is. -/
theorem underAny_of_inside {fs : FileTree} {main : List String} {normalized : String} {roots : List String}
    (rootsOutside : RootsOutside tree roots) (there : fs.entry main ≠ none) (inside_main : tree <+: main)
    (is_dir : WorkPath.parse normalized = ⟨true, dir⟩) (inside : tree <+: dir)
    (under : underAny (WorkPath.display ⟨true, main⟩) roots = true) : underAny normalized roots = true := by
  rw [underAny_iff] at under ⊢
  obtain ⟨root, member, above⟩ := under
  rw [WorkPath.parse_display fun name mem => FileTree.plain_of_mem there mem] at above
  refine ⟨root, member, ?_⟩
  rw [is_dir]
  have tree_main := components_prefix.mpr inside_main
  have tree_dir := components_prefix.mpr inside
  rcases List.prefix_or_prefix_of_prefix above tree_main with upper | lower
  · exact upper.trans tree_dir
  · rw [rootsOutside root member lower]
    exact tree_dir

/-- Of a directory inside the tree, only what is above the tree counts. -/
theorem relayCovers_iff {fs : FileTree} {normalized : String} (files : env.files = fs)
    (unregistered : NoOutsiderRegisters fs tree) (rootsOutside : RootsOutside tree scope.relayRoots)
    (is_path : WorkPath.parse normalized = ⟨true, dir⟩) (inside : tree <+: dir) (is_dir : fs.entry dir = some .dir) :
    scope.relayCovers env normalized = true ↔ scope.relayRoots = [] ∨ underAny normalized scope.relayRoots = true ∨
      ∃ up ∈ (ancestors dir).take maxRepoDiscoveryDepth, up <+: tree ∧ up ≠ tree ∧ ∃ main,
        linkedWorktreeMain fs up = some main ∧
          underAny (WorkPath.display ⟨true, main⟩) scope.relayRoots = true := by
  subst files
  simp only [WorkspaceScope.relayCovers, is_path, Bool.not_true, Bool.false_eq_true, if_false]
  constructor
  · intro covers
    split at covers
    · rename_i near
      rcases Bool.or_eq_true _ _ ▸ near with none_ | under
      · exact .inl (List.isEmpty_iff.mp none_)
      · exact .inr (.inl under)
    · simp only [List.any_eq_true, linkedWorktreeRoots, List.mem_filterMap] at covers
      obtain ⟨main, ⟨up, member, points⟩, under⟩ := covers
      have above := mem_ancestors.mp (List.mem_of_mem_take member)
      rcases above_or_inside above inside with within | ⟨outside, other⟩
      · obtain ⟨⟨size, text, is_file⟩, found⟩ := linkedWorktreeMain_eq_some points
        have up_dir := FileTree.dir_of_prefix is_dir above
        have inside_main := main_inside unregistered within up_dir is_file found
        have there : env.files.entry main ≠ none := by
          rw [main_there found]
          nofun
        exact .inr (.inl (underAny_of_inside rootsOutside there inside_main is_path inside under))
      · exact .inr (.inr ⟨up, member, outside, other, main, points, under⟩)
  · rintro (none_ | under | ⟨up, member, -, -, main, points, under⟩)
    · simp [none_]
    · simp [under]
    · split
      · rfl
      · simp only [List.any_eq_true, linkedWorktreeRoots, List.mem_filterMap]
        exact ⟨main, ⟨up, member, points⟩, under⟩

theorem allows_iff {path : String} : scope.allows env path = true ↔
    scope.relayCovers env (env.normalizeCwd path) = true ∧
      (scope.devicePaths = [] ∨ underAny (env.normalizeCwd path) scope.devicePaths = true) := by
  unfold WorkspaceScope.allows WorkspaceScope.ensure WorkspaceScope.ensureWithHistory
  dsimp only [Option.any_none, Bool.not_false, Bool.and_true]
  cases covers : scope.relayCovers env (env.normalizeCwd path) with
  | false => simp [Except.isOk, Except.toBool]
  | true =>
    cases paths : scope.devicePaths with
    | nil => simp [Except.isOk, Except.toBool]
    | cons one more =>
      cases under : underAny (env.normalizeCwd path) (one :: more) <;> simp [Except.isOk, Except.toBool]

theorem allows_under_device {path : String} (narrowed : scope.devicePaths ≠ []) (allowed : scope.allows env path = true) :
    underAny (env.normalizeCwd path) scope.devicePaths = true :=
  (allows_iff.mp allowed).2.resolve_left narrowed

theorem AgreeOutside.allows (agree : AgreeOutside tree env.files env'.files)
    (pointers : PointersOutside env.files tree) (rootsOutside : RootsOutside tree scope.relayRoots)
    (unregistered : NoOutsiderRegisters env.files tree) (unregistered' : NoOutsiderRegisters env'.files tree)
    {path : String} (normal : env'.normalizeCwd path = env.normalizeCwd path)
    (is_path : WorkPath.parse (env.normalizeCwd path) = ⟨true, dir⟩) (inside : tree <+: dir)
    (is_dir : env.files.entry dir = some .dir) (is_dir' : env'.files.entry dir = some .dir) :
    scope.allows env' path = scope.allows env path := by
  rw [Bool.eq_iff_iff, allows_iff, allows_iff, normal]
  refine and_congr_left fun _ => ?_
  rw [relayCovers_iff rfl unregistered rootsOutside is_path inside is_dir,
    relayCovers_iff rfl unregistered' rootsOutside is_path inside is_dir']
  refine or_congr_right (or_congr_right (exists_congr fun up => and_congr_right fun _ => ?_))
  refine and_congr_right fun above => and_congr_right fun other => ?_
  rw [agree.linkedWorktreeMain pointers above other]

end Scopes

end Sealwire.Workspaces

import Mathlib.Data.List.Infix
import Mathlib.Data.List.SplitOn

namespace Sealwire

inductive FileEntry
  | dir
  /-- The text is there where the bytes are UTF-8. -/
  | file (size : Nat) (text : Option String)
  | symlink (target : String)
  | other
  deriving DecidableEq, Repr

inductive FileError
  | notFound
  | notADirectory
  | loop
  deriving DecidableEq, Repr

/-- A name that stands for an entry of its directory. -/
def PlainName (name : String) : Prop := name ≠ "" ∧ name ≠ "." ∧ name ≠ ".." ∧ '/' ∉ name.toList

instance (name : String) : Decidable (PlainName name) :=
  inferInstanceAs (Decidable (_ ∧ _ ∧ _ ∧ _))

/-- What lies under each list of names from the root, and how many symbolic links one
lookup follows. -/
structure FileTree where
  entry : List String → Option FileEntry
  links : Nat
  root : entry [] = some .dir
  closed : ∀ dir name, entry (dir ++ [name]) ≠ none → entry dir = some .dir
  plain : ∀ dir name, entry (dir ++ [name]) ≠ none → PlainName name

/-- The pieces of a path between its slashes. -/
def pathPieces (path : String) : List String :=
  (path.toList.splitOn '/').map String.ofList

def isAbsolutePath (path : String) : Bool := path.toList.head? == some '/'

namespace FileTree

section Walk

variable (entry : List String → Option FileEntry)

/-- One pass over the pieces that are left, each looked up in the directory reached so far;
`follow` goes on behind a symbolic link. -/
def walkPieces (follow : List String → List String → Except FileError (List String)) :
    List String → List String → Except FileError (List String)
  | [], here => .ok here
  | piece :: rest, here =>
    match entry here with
    | some .dir =>
      if piece = "" ∨ piece = "." then walkPieces follow rest here
      else if piece = ".." then walkPieces follow rest here.dropLast
      else
        match entry (here ++ [piece]) with
        | none => .error .notFound
        | some (.symlink target) =>
          if target = "" then .error .notFound
          else follow (pathPieces target ++ rest) (if isAbsolutePath target then [] else here)
        | some _ => walkPieces follow rest (here ++ [piece])
    | some _ => .error .notADirectory
    | none => .error .notFound

/-- Path resolution that follows up to `links` symbolic links. -/
def walk : Nat → List String → List String → Except FileError (List String)
  | 0 => walkPieces entry fun _ _ => .error .loop
  | links + 1 => walkPieces entry (walk links)

/-- The entries that one pass looks at. -/
def looksPieces (follow : List String → List String → List (List String)) :
    List String → List String → List (List String)
  | [], _ => []
  | piece :: rest, here =>
    here :: match entry here with
    | some .dir =>
      if piece = "" ∨ piece = "." then looksPieces follow rest here
      else if piece = ".." then looksPieces follow rest here.dropLast
      else
        (here ++ [piece]) :: match entry (here ++ [piece]) with
        | none => []
        | some (.symlink target) =>
          if target = "" then []
          else follow (pathPieces target ++ rest) (if isAbsolutePath target then [] else here)
        | some _ => looksPieces follow rest (here ++ [piece])
    | _ => []

/-- The entries that `walk` looks at. -/
def looks : Nat → List String → List String → List (List String)
  | 0 => looksPieces entry fun _ _ => []
  | links + 1 => looksPieces entry (looks links)

end Walk

/-- `fs::canonicalize` of an absolute path. -/
def canonicalize (fs : FileTree) (pieces : List String) : Except FileError (List String) :=
  walk fs.entry fs.links pieces []

/-- `fs::symlink_metadata` of a name in a directory. -/
def symlinkMetadata (fs : FileTree) (dir : List String) (name : String) : Except FileError FileEntry :=
  match fs.canonicalize dir with
  | .error error => .error error
  | .ok here =>
    match fs.entry here with
    | some .dir =>
      match fs.entry (here ++ [name]) with
      | some found => .ok found
      | none => .error .notFound
    | some _ => .error .notADirectory
    | none => .error .notFound

section Congr

variable {entry other : List String → Option FileEntry}

theorem walkPieces_congr {follow follow' : List String → List String → Except FileError (List String)}
    {more : List String → List String → List (List String)}
    (same : ∀ pieces here, (∀ p ∈ more pieces here, entry p = other p) → follow' pieces here = follow pieces here)
    {pieces here : List String} (agree : ∀ p ∈ looksPieces entry more pieces here, entry p = other p) :
    walkPieces other follow' pieces here = walkPieces entry follow pieces here := by
  induction pieces generalizing here with
  | nil => rfl
  | cons piece rest ih =>
    have at_here : entry here = other here := agree here (by simp [looksPieces])
    simp only [walkPieces, ← at_here]
    cases known : entry here with
    | none => rfl
    | some found =>
      cases found with
      | dir =>
        simp only [looksPieces, known] at agree
        dsimp only
        split_ifs with dot up
        · simp only [if_pos dot] at agree
          exact ih fun p member => agree p (List.mem_cons_of_mem _ member)
        · simp only [if_neg dot, if_pos up] at agree
          exact ih fun p member => agree p (List.mem_cons_of_mem _ member)
        · simp only [if_neg dot, if_neg up] at agree
          have at_piece : entry (here ++ [piece]) = other (here ++ [piece]) := agree _ (by simp)
          rw [← at_piece]
          cases of_piece : entry (here ++ [piece]) with
          | none => rfl
          | some next =>
            simp only [of_piece] at agree
            have deeper := fun p member => agree p (List.mem_cons_of_mem _ (List.mem_cons_of_mem _ member))
            cases next with
            | symlink target =>
              by_cases empty : target = ""
              · simp only [if_pos empty]
              · simp only [if_neg empty] at deeper ⊢
                exact same _ _ deeper
            | _ => exact ih deeper
      | _ => rfl

/-- A lookup depends on the entries it looks at only. -/
theorem walk_congr {links : Nat} {pieces here : List String}
    (agree : ∀ p ∈ looks entry links pieces here, entry p = other p) :
    walk other links pieces here = walk entry links pieces here := by
  induction links generalizing pieces here with
  | zero => exact walkPieces_congr (fun _ _ _ => rfl) agree
  | succ links ih => exact walkPieces_congr (fun _ _ deeper => ih deeper) agree

end Congr

/-- The entries that `canonicalize` looks at. -/
def looked (fs : FileTree) (pieces : List String) : List (List String) := looks fs.entry fs.links pieces []

/-- The entries that `symlinkMetadata` looks at. -/
def lookedAt (fs : FileTree) (dir : List String) (name : String) : List (List String) :=
  fs.looked dir ++ match fs.canonicalize dir with
    | .ok here => [here, here ++ [name]]
    | .error _ => []

section Real

variable {fs fs' : FileTree}

theorem canonicalize_congr {pieces : List String} (links : fs'.links = fs.links)
    (agree : ∀ p ∈ fs.looked pieces, fs.entry p = fs'.entry p) : fs'.canonicalize pieces = fs.canonicalize pieces := by
  rw [canonicalize, links]
  exact walk_congr agree

theorem symlinkMetadata_congr {dir : List String} {name : String} (links : fs'.links = fs.links)
    (agree : ∀ p ∈ fs.lookedAt dir name, fs.entry p = fs'.entry p) :
    fs'.symlinkMetadata dir name = fs.symlinkMetadata dir name := by
  have same : fs'.canonicalize dir = fs.canonicalize dir :=
    canonicalize_congr links fun p member => agree p (List.mem_append_left _ member)
  unfold symlinkMetadata
  rw [same]
  cases known : fs.canonicalize dir with
  | error => rfl
  | ok here =>
    simp only [lookedAt, known] at agree
    have at_here := agree here (by simp)
    have at_name := agree (here ++ [name]) (by simp)
    simp only [at_here, at_name]

theorem dir_of_prefix {dir upper : List String} (is_dir : fs.entry dir = some .dir) (below : upper <+: dir) :
    fs.entry upper = some .dir := by
  induction dir using List.reverseRecOn with
  | nil => rwa [List.prefix_nil.mp below]
  | append_singleton dir name ih =>
    rcases List.prefix_concat_iff.mp below with same | shorter
    · rwa [same]
    · exact ih (fs.closed dir name (by rw [is_dir]; nofun)) shorter

/-- A lookup that starts along real directories arrives there. -/
theorem walk_dir {links : Nat} {rest : List String} :
    ∀ {dir : List String}, fs.entry dir = some .dir → walk fs.entry links (dir ++ rest) [] = walk fs.entry links rest dir := by
  intro dir
  induction dir using List.reverseRecOn generalizing rest with
  | nil => exact fun _ => rfl
  | append_singleton dir name ih =>
    intro is_dir
    have upper : fs.entry dir = some .dir := fs.closed dir name (by rw [is_dir]; nofun)
    obtain ⟨not_empty, not_dot, not_up, -⟩ := fs.plain dir name (by rw [is_dir]; nofun)
    rw [List.append_assoc, ih upper]
    cases links <;>
      simp only [walk, List.singleton_append, walkPieces, upper, not_empty, not_dot, not_up, or_self, if_false, is_dir]

theorem canonicalize_dir {dir : List String} (is_dir : fs.entry dir = some .dir) : fs.canonicalize dir = .ok dir := by
  have arrives : walk fs.entry fs.links (dir ++ []) [] = walk fs.entry fs.links [] dir := walk_dir is_dir
  rw [List.append_nil] at arrives
  rw [canonicalize, arrives]
  cases fs.links <;> rfl

theorem canonicalize_missing {name : String} {rest : List String} (plain : PlainName name)
    (missing : fs.entry [name] = none) : fs.canonicalize (name :: rest) = .error .notFound := by
  obtain ⟨not_empty, not_dot, not_up, -⟩ := plain
  have root := fs.root
  unfold canonicalize
  cases fs.links <;>
    simp only [walk, walkPieces, root, not_empty, not_dot, not_up, or_self, if_false, List.nil_append, missing]

theorem canonicalize_file {dir : List String} {name : String} {size : Nat} {text : Option String}
    (is_file : fs.entry (dir ++ [name]) = some (.file size text)) : fs.canonicalize (dir ++ [name]) = .ok (dir ++ [name]) := by
  have is_dir : fs.entry dir = some .dir := fs.closed dir name (by rw [is_file]; nofun)
  obtain ⟨not_empty, not_dot, not_up, -⟩ := fs.plain dir name (by rw [is_file]; nofun)
  rw [canonicalize, walk_dir is_dir]
  cases fs.links <;>
    simp only [walk, walkPieces, is_dir, not_empty, not_dot, not_up, or_self, if_false, is_file]

theorem plain_of_mem {path : List String} (there : fs.entry path ≠ none) {name : String} (member : name ∈ path) :
    PlainName name := by
  induction path using List.reverseRecOn with
  | nil => cases member
  | append_singleton path last ih =>
    rcases List.mem_append.mp member with upper | same
    · exact ih (by rw [fs.closed path last there]; nofun) upper
    · rw [List.mem_singleton.mp same]
      exact fs.plain path last there

theorem walkPieces_there {follow : List String → List String → Except FileError (List String)}
    (arrives : ∀ pieces here found, fs.entry here ≠ none → follow pieces here = .ok found → fs.entry found ≠ none)
    {pieces here found : List String} (start : fs.entry here ≠ none)
    (walked : walkPieces fs.entry follow pieces here = .ok found) : fs.entry found ≠ none := by
  induction pieces generalizing here with
  | nil =>
    cases walked
    exact start
  | cons piece rest ih =>
    unfold walkPieces at walked
    split at walked
    · rename_i is_dir
      split_ifs at walked with dot up
      · exact ih start walked
      · refine ih ?_ walked
        have upper : fs.entry here.dropLast = some .dir := dir_of_prefix is_dir (List.dropLast_prefix here)
        rw [upper]
        nofun
      · split at walked
        · cases walked
        · rename_i target _
          by_cases empty : target = ""
          · rw [if_pos empty] at walked
            cases walked
          · rw [if_neg empty] at walked
            refine arrives _ _ _ ?_ walked
            split
            · rw [fs.root]
              nofun
            · exact start
        · rename_i next _ there
          exact ih (by rw [there]; nofun) walked
    · cases walked
    · cases walked

/-- What a lookup answers is there. -/
theorem walk_there {links : Nat} {pieces here found : List String} (start : fs.entry here ≠ none)
    (walked : walk fs.entry links pieces here = .ok found) : fs.entry found ≠ none := by
  induction links generalizing pieces here found with
  | zero => exact walkPieces_there (fun _ _ _ _ loops => by cases loops) start walked
  | succ links ih => exact walkPieces_there (fun _ _ _ there follows => ih there follows) start walked

theorem canonicalize_there {pieces found : List String} (walked : fs.canonicalize pieces = .ok found) :
    fs.entry found ≠ none :=
  walk_there (by rw [fs.root]; nofun) walked

theorem symlinkMetadata_dir {dir : List String} {name : String} (is_dir : fs.entry dir = some .dir) :
    fs.symlinkMetadata dir name = match fs.entry (dir ++ [name]) with
      | some found => .ok found
      | none => .error .notFound := by
  simp only [symlinkMetadata, canonicalize_dir is_dir, is_dir]

end Real

section Entries

/-- What a list of paths with their entries shows at a path. -/
def entryOf (entries : List (List String × FileEntry)) (path : List String) : Option FileEntry :=
  (entries.find? fun entry => entry.1 = path).map (·.2)

/-- Each path of the list is a plain name in a directory of the list. -/
def Grown (entries : List (List String × FileEntry)) : Prop :=
  entryOf entries [] = some .dir ∧ ∀ entry ∈ entries, entry.1 = [] ∨
    entryOf entries entry.1.dropLast = some .dir ∧ ∀ name ∈ entry.1.getLast?, PlainName name

instance (entries : List (List String × FileEntry)) : Decidable (Grown entries) :=
  inferInstanceAs (Decidable (_ ∧ _))

variable {entries : List (List String × FileEntry)}

theorem mem_of_entryOf {path : List String} {found : FileEntry} (known : entryOf entries path = some found) :
    (path, found) ∈ entries := by
  simp only [entryOf, Option.map_eq_some_iff] at known
  obtain ⟨⟨other, entry⟩, first, rfl⟩ := known
  have same : other = path := by simpa using List.find?_some first
  exact same ▸ List.mem_of_find?_eq_some first

/-- Entries inside a tree do not show outside it. -/
theorem entryOf_append_inside {more : List (List String × FileEntry)} {tree path : List String}
    (inside : ∀ entry ∈ more, tree <+: entry.1) (outside : ¬ tree <+: path) :
    entryOf (entries ++ more) path = entryOf entries path := by
  have nothing : more.find? (fun entry => entry.1 = path) = none := by
    refine List.find?_eq_none.mpr fun entry member same => outside ?_
    have same : entry.1 = path := by simpa using same
    exact same ▸ inside entry member
  simp only [entryOf, List.find?_append, nothing, Option.or_none]

def ofEntries (entries : List (List String × FileEntry)) (links : Nat) (grown : Grown entries) : FileTree where
  entry := entryOf entries
  links := links
  root := grown.1
  closed dir name there := by
    obtain ⟨found, known⟩ := Option.ne_none_iff_exists'.mp there
    rcases grown.2 _ (mem_of_entryOf known) with none_ | ⟨upper, -⟩
    · simp at none_
    · simpa using upper
  plain dir name there := by
    obtain ⟨found, known⟩ := Option.ne_none_iff_exists'.mp there
    rcases grown.2 _ (mem_of_entryOf known) with none_ | ⟨-, plain⟩
    · simp at none_
    · exact plain name (by simp)

end Entries

end FileTree

end Sealwire

import Sealwire.Patches.Appliable

namespace Sealwire.Patches

/-- What a line is outside the body of a hunk. -/
inductive Kind
  | git (rest : Line)
  | hunk (rest : Line)
  | old (rest : Line)
  | new (rest : Line)
  | plain
  deriving DecidableEq

def kind (line : Line) : Kind :=
  match stripPrefix "diff --git ".toList line with
  | some rest => .git rest
  | none =>
    match stripPrefix "@@ ".toList line with
    | some rest => .hunk rest
    | none =>
      match stripPrefix "--- ".toList line with
      | some rest => .old rest
      | none =>
        match stripPrefix "+++ ".toList line with
        | some rest => .new rest
        | none => .plain

/-- The body of a hunk with these old and new lines. The marker of a missing newline counts for neither. -/
inductive Body : Nat → Nat → List Line → Prop
  | done : Body 0 0 []
  | context {old new : Nat} {line : Line} {rest : List Line} (is_context : line = [] ∨ line.head? = some ' ')
      (later : Body old new rest) : Body (old + 1) (new + 1) (line :: rest)
  | removed {old new : Nat} {line : Line} {rest : List Line} (is_removed : line.head? = some '-')
      (later : Body old new rest) : Body (old + 1) new (line :: rest)
  | added {old new : Nat} {line : Line} {rest : List Line} (is_added : line.head? = some '+')
      (later : Body old new rest) : Body old (new + 1) (line :: rest)
  | marker {old new : Nat} {line : Line} {rest : List Line} (is_marker : line.head? = some '\\')
      (owing : 0 < old ∨ 0 < new) (later : Body old new rest) : Body old new (line :: rest)

/-- Hunks, with lines around them that are no headers. -/
inductive Hunks : List Line → Prop
  | nil : Hunks []
  | plain {line : Line} {rest : List Line} (is_plain : kind line = .plain) (later : Hunks rest) : Hunks (line :: rest)
  | hunk {line : Line} {header : Line} {old new : Nat} {body rest : List Line} (is_hunk : kind line = .hunk header)
      (counts : hunkCounts header = some (old, new)) (complete : Body old new body) (later : Hunks rest) :
      Hunks (line :: (body ++ rest))

def Plain (text : List Line) : Prop :=
  ∀ line ∈ text, kind line = .plain

/-- The section of one file: its `---` and its `+++` header, with paths that are not absolute, and its hunks. A
`diff --git` line may open it. -/
structure FileSection (text : List Line) : Prop where
  shape : ∃ lead opening between oldLine gap newLine hunks oldPath newPath,
    text = lead ++ opening ++ between ++ oldLine :: (gap ++ newLine :: hunks) ∧
    Plain lead ∧ (opening = [] ∨ ∃ line rest, opening = [line] ∧ kind line = .git rest) ∧ Plain between ∧ Plain gap ∧
    kind oldLine = .old oldPath ∧ badSide oldPath = false ∧ kind newLine = .new newPath ∧ badSide newPath = false ∧
    Hunks hunks

def WellFormed (text : List Line) : Prop :=
  ∃ sections, sections ≠ [] ∧ (∀ part ∈ sections, FileSection part) ∧ text = sections.flatten

inductive Part
  | git (rest : Line)
  | old (rest : Line)
  | new (rest : Line)
  | hunk

/-- The headers and hunks of a text, where every hunk has the lines it owes. -/
inductive Outline : List Line → List Part → Prop
  | nil : Outline [] []
  | plain {line : Line} {rest : List Line} {parts : List Part} (is_plain : kind line = .plain)
      (later : Outline rest parts) : Outline (line :: rest) parts
  | git {line tail : Line} {rest : List Line} {parts : List Part} (is_git : kind line = .git tail)
      (later : Outline rest parts) : Outline (line :: rest) (.git tail :: parts)
  | old {line tail : Line} {rest : List Line} {parts : List Part} (is_old : kind line = .old tail)
      (later : Outline rest parts) : Outline (line :: rest) (.old tail :: parts)
  | new {line tail : Line} {rest : List Line} {parts : List Part} (is_new : kind line = .new tail)
      (later : Outline rest parts) : Outline (line :: rest) (.new tail :: parts)
  | hunk {line header : Line} {old new : Nat} {body rest : List Line} {parts : List Part}
      (is_hunk : kind line = .hunk header) (counts : hunkCounts header = some (old, new)) (complete : Body old new body)
      (later : Outline rest parts) : Outline (line :: (body ++ rest)) (.hunk :: parts)

namespace Part

/-- A path of the line is one that git refuses. -/
def absolute : Part → Bool
  | git rest => (words rest).any absoluteTarget
  | old rest => badSide rest
  | new rest => badSide rest
  | hunk => false

end Part

/-- A stretch from one `diff --git` line to the next one or to the end, or the whole text where it has none, is without a
`---` or without a `+++` line. -/
def short (opened hasOld hasNew : Bool) : List Part → Bool
  | [] => !(hasOld && hasNew)
  | .git _ :: parts => opened && !(hasOld && hasNew) || short true false false parts
  | .old _ :: parts => short opened true hasNew parts
  | .new _ :: parts => short opened hasOld true parts
  | .hunk :: parts => short opened hasOld hasNew parts

/-- What a section has so far: nothing, its `diff --git` line, its `---` header, or both headers. -/
inductive Stage
  | opening
  | named
  | half
  | headed

/-- Each `---` header is followed by its `+++` header, the hunks come after such a pair, and none is left alone. -/
def paired : Stage → List Part → Bool
  | .headed, [] => true
  | _, [] => false
  | .opening, .git _ :: parts => paired .named parts
  | .headed, .git _ :: parts => paired .named parts
  | .half, .old _ :: _ => false
  | _, .old _ :: parts => paired .half parts
  | .half, .new _ :: parts => paired .headed parts
  | .headed, .hunk :: parts => paired .headed parts
  | _, _ => false

theorem stripPrefix_eq_some {head line rest : Line} : stripPrefix head line = some rest ↔ line = head ++ rest := by
  unfold stripPrefix
  split
  · rename_i starts
    obtain ⟨tail, rfl⟩ := starts
    simp [eq_comm]
  · rename_i other
    constructor
    · intro none_there
      cases none_there
    · rintro rfl
      exact absurd (List.prefix_append _ _) other

theorem head_of_stripPrefix {c : Char} {head line rest : Line} (starts : stripPrefix (c :: head) line = some rest) :
    line.head? = some c := by
  rw [stripPrefix_eq_some.mp starts]
  rfl

theorem kind_head (line : Line) : (∀ rest, kind line = .git rest → line.head? = some 'd') ∧
    (∀ rest, kind line = .hunk rest → line.head? = some '@') := by
  unfold kind
  split
  · rename_i found
    exact ⟨fun _ _ => head_of_stripPrefix found, fun _ other => by cases other⟩
  · split
    · rename_i found
      exact ⟨fun _ other => (by cases other), fun _ _ => head_of_stripPrefix found⟩
    · split
      · exact ⟨fun _ other => (by cases other), fun _ other => by cases other⟩
      · split
        · exact ⟨fun _ other => (by cases other), fun _ other => by cases other⟩
        · exact ⟨fun _ other => (by cases other), fun _ other => by cases other⟩

section Bodies

variable {old new : Nat} {line : Line} {body rest : List Line}

/-- How a line of a body counts: for both sides, for one of them, or for none. -/
theorem counted_cases {left : Nat × Nat} (counts : Scan.counted old new line = some left) :
    (line = [] ∨ line.head? = some ' ') ∧ old = left.1 + 1 ∧ new = left.2 + 1 ∨
    line.head? = some '-' ∧ old = left.1 + 1 ∧ new = left.2 ∨
    line.head? = some '+' ∧ old = left.1 ∧ new = left.2 + 1 ∨
    line.head? = some '\\' ∧ old = left.1 ∧ new = left.2 := by
  unfold Scan.counted at counts
  cases head : line.head? with
  | none =>
    have empty : line = [] := List.head?_eq_none_iff.mp head
    rw [head] at counts
    cases old <;> cases new <;> simp [Scan.checkedPred] at counts
    simp [empty, ← counts]
  | some c =>
    rw [head] at counts
    dsimp only at counts
    split_ifs at counts with space minus plus marker
    · cases old <;> cases new <;> simp [Scan.checkedPred] at counts
      simp [space, ← counts]
    · cases old <;> simp [Scan.checkedPred] at counts
      simp [minus, ← counts]
    · cases new <;> simp [Scan.checkedPred] at counts
      simp [plus, ← counts]
    · simp only [Option.some.injEq] at counts
      simp [marker, ← counts]

/-- A line of a body is neither a `diff --git` line nor a hunk header. -/
theorem kind_of_counted {left : Nat × Nat} (counts : Scan.counted old new line = some left) :
    (∀ tail, kind line ≠ .git tail) ∧ ∀ tail, kind line ≠ .hunk tail := by
  obtain ⟨as_git, as_hunk⟩ := kind_head line
  have first : line.head? ≠ some 'd' ∧ line.head? ≠ some '@' := by
    rcases counted_cases counts with ⟨rfl | head, _⟩ | ⟨head, _⟩ | ⟨head, _⟩ | ⟨head, _⟩
    · simp
    all_goals
      rw [head]
      decide
  exact ⟨fun tail is => first.1 (as_git tail is), fun tail is => first.2 (as_hunk tail is)⟩

theorem Body.of_counted {left : Nat × Nat} (owing : 0 < old ∨ 0 < new) (counts : Scan.counted old new line = some left)
    (later : Body left.1 left.2 rest) : Body old new (line :: rest) := by
  rcases counted_cases counts with ⟨head, rfl, rfl⟩ | ⟨head, rfl, rfl⟩ | ⟨head, rfl, rfl⟩ | ⟨head, rfl, rfl⟩
  · exact .context head later
  · exact .removed head later
  · exact .added head later
  · exact .marker head owing later

theorem Body.counted (complete : Body old new (line :: rest)) :
    (0 < old ∨ 0 < new) ∧ ∃ left, Scan.counted old new line = some left ∧ Body left.1 left.2 rest := by
  cases complete with
  | @context old new _ _ head later =>
    refine ⟨.inl (Nat.succ_pos old), (old, new), ?_, later⟩
    rcases head with rfl | head
    · rfl
    · simp [Scan.counted, head, Scan.checkedPred]
  | @removed old new _ _ head later =>
    refine ⟨.inl (Nat.succ_pos old), (old, new), ?_, later⟩
    simp [Scan.counted, head, Scan.checkedPred]
  | @added old new _ _ head later =>
    refine ⟨.inr (Nat.succ_pos new), (old, new), ?_, later⟩
    simp [Scan.counted, head, Scan.checkedPred]
  | marker head owing later =>
    refine ⟨owing, (old, new), ?_, later⟩
    simp [Scan.counted, head]

theorem Body.owed (complete : Body old new body) : Scan.stillOwed old new = if body = [] then none else some (old, new) := by
  cases complete with
  | done => rfl
  | context head later => simp [Scan.stillOwed]
  | removed head later => simp [Scan.stillOwed]
  | added head later => simp [Scan.stillOwed]
  | marker head owing later => simp [Scan.stillOwed, owing]

end Bodies

section Scanning

variable {scan : Scan} {line : Line}

/-- One line outside a hunk. -/
theorem step_outside (idle : scan.owed = none) : scan.step line =
    match kind line with
    | .git rest =>
      if scan.sectionOpen && !(scan.hasOld && scan.hasNew) then none
      else if (words rest).any absoluteTarget then none
      else some { scan with sections := scan.sections + 1, sectionOpen := true, hasOld := false, hasNew := false }
    | .hunk rest => (hunkCounts rest).map fun counts => { scan with owed := Scan.stillOwed counts.1 counts.2 }
    | .old rest => if badSide rest then none else some { scan with hasOld := true }
    | .new rest => if badSide rest then none else some { scan with hasNew := true }
    | .plain => some scan := by
  unfold Scan.step kind
  cases stripPrefix "diff --git ".toList line with
  | some rest =>
    dsimp only
    rw [idle]
    rfl
  | none =>
    cases stripPrefix "@@ ".toList line with
    | some rest =>
      dsimp only
      rw [idle]
      rfl
    | none =>
      rw [idle]
      cases stripPrefix "--- ".toList line with
      | some rest => rfl
      | none => cases stripPrefix "+++ ".toList line <;> rfl

/-- One line inside a hunk. -/
theorem step_inside {old new : Nat} (owed : scan.owed = some (old, new)) :
    scan.step line = (Scan.counted old new line).map fun left =>
      { scan with owed := Scan.stillOwed left.1 left.2 } := by
  cases counts : Scan.counted old new line with
  | some left =>
    obtain ⟨no_git, no_hunk⟩ := kind_of_counted counts
    unfold kind at no_git no_hunk
    unfold Scan.step
    cases git : stripPrefix "diff --git ".toList line with
    | some rest => exact absurd (by rw [git]) (no_git rest)
    | none =>
      cases hunk : stripPrefix "@@ ".toList line with
      | some rest => exact absurd (by rw [git, hunk]) (no_hunk rest)
      | none =>
        dsimp only
        rw [owed]
        dsimp only
        rw [counts]
  | none =>
    unfold Scan.step
    cases stripPrefix "diff --git ".toList line with
    | some rest =>
      dsimp only
      rw [owed]
      rfl
    | none =>
      cases stripPrefix "@@ ".toList line with
      | some rest =>
        dsimp only
        rw [owed]
        rfl
      | none =>
        dsimp only
        rw [owed]
        dsimp only
        rw [counts]

/-- The answer for the lines that are left. -/
def accepted (scan : Scan) (text : List Line) : Bool :=
  (text.foldlM Scan.step scan).any Scan.accepts

theorem accepted_nil : accepted scan [] = (scan.owed.isNone && (scan.hasOld && scan.hasNew)) := by
  unfold accepted Scan.accepts
  cases owed : scan.owed <;> simp [owed]

theorem accepted_cons (text : List Line) :
    accepted scan (line :: text) = (scan.step line).any fun next => accepted next text := by
  unfold accepted
  rw [List.foldlM_cons]
  cases scan.step line <;> rfl

end Scanning

/-- A body in its turn is read to its end, and only a whole body is. -/
theorem accepted_body {scan : Scan} {old new : Nat} {text : List Line} (idle : scan.owed = none) :
    accepted { scan with owed := Scan.stillOwed old new } text = true ↔
      ∃ body rest, text = body ++ rest ∧ Body old new body ∧ accepted scan rest = true := by
  have same : { scan with owed := none } = scan := by rw [← idle]
  induction text generalizing old new with
  | nil =>
    constructor
    · intro read
      rw [accepted_nil] at read
      by_cases owing : 0 < old ∨ 0 < new
      · simp [Scan.stillOwed, owing] at read
      · obtain ⟨rfl, rfl⟩ : old = 0 ∧ new = 0 := by omega
        refine ⟨[], [], rfl, .done, ?_⟩
        rw [accepted_nil, idle]
        simpa [Scan.stillOwed] using read
    · rintro ⟨body, rest, parts, complete, read⟩
      obtain ⟨rfl, rfl⟩ := List.append_eq_nil_iff.mp parts.symm
      rw [complete.owed, if_pos rfl, same]
      exact read
  | cons line text ih =>
    by_cases owing : 0 < old ∨ 0 < new
    · have at_ : Scan.stillOwed old new = some (old, new) := if_pos owing
      rw [at_, accepted_cons, step_inside rfl]
      constructor
      · intro read
        cases counts : Scan.counted old new line with
        | none => simp [counts] at read
        | some left =>
          rw [counts] at read
          obtain ⟨body, rest, parts, complete, later⟩ := ih.mp (by simpa using read)
          exact ⟨line :: body, rest, by rw [parts]; rfl, .of_counted owing counts complete, later⟩
      · rintro ⟨body, rest, parts, complete, read⟩
        cases body with
        | nil =>
          cases complete
          omega
        | cons first body =>
          obtain ⟨rfl, after⟩ := List.cons.inj parts
          obtain ⟨_, left, counts, later⟩ := complete.counted
          rw [counts]
          simpa using ih.mpr ⟨body, rest, after, later, read⟩
    · obtain ⟨rfl, rfl⟩ : old = 0 ∧ new = 0 := by omega
      have at_ : Scan.stillOwed 0 0 = none := rfl
      rw [at_, same]
      constructor
      · exact fun read => ⟨[], line :: text, rfl, .done, read⟩
      · rintro ⟨body, rest, parts, complete, read⟩
        cases body with
        | nil => exact parts ▸ read
        | cons first body =>
          have owed := complete.owed
          simp [Scan.stillOwed] at owed

/-- A text's outline, by what its first line is. -/
theorem outline_cons {line : Line} {text : List Line} {parts : List Part} : Outline (line :: text) parts ↔
    match kind line with
    | .plain => Outline text parts
    | .git tail => ∃ later, parts = .git tail :: later ∧ Outline text later
    | .old tail => ∃ later, parts = .old tail :: later ∧ Outline text later
    | .new tail => ∃ later, parts = .new tail :: later ∧ Outline text later
    | .hunk header => ∃ counts body rest later, hunkCounts header = some counts ∧ Body counts.1 counts.2 body ∧
      text = body ++ rest ∧ parts = .hunk :: later ∧ Outline rest later := by
  constructor
  · intro outline
    cases outline with
    | plain is later =>
      rw [is]
      exact later
    | git is later =>
      rw [is]
      exact ⟨_, rfl, later⟩
    | old is later =>
      rw [is]
      exact ⟨_, rfl, later⟩
    | new is later =>
      rw [is]
      exact ⟨_, rfl, later⟩
    | hunk is counts complete later =>
      rw [is]
      exact ⟨_, _, _, _, counts, complete, rfl, rfl, later⟩
  · intro outline
    cases is : kind line with
    | plain =>
      rw [is] at outline
      exact .plain is outline
    | git tail =>
      rw [is] at outline
      obtain ⟨later, rfl, rest⟩ := outline
      exact .git is rest
    | old tail =>
      rw [is] at outline
      obtain ⟨later, rfl, rest⟩ := outline
      exact .old is rest
    | new tail =>
      rw [is] at outline
      obtain ⟨later, rfl, rest⟩ := outline
      exact .new is rest
    | hunk header =>
      rw [is] at outline
      obtain ⟨counts, body, rest, later, at_header, complete, rfl, rfl, outline⟩ := outline
      exact .hunk is at_header complete outline

/-- What the scanner looks for in an outline, from the flags it has. -/
def Reads (opened hasOld hasNew : Bool) (outlined : List Part → Prop) : Prop :=
  ∃ parts, outlined parts ∧ (∀ part ∈ parts, part.absolute = false) ∧ short opened hasOld hasNew parts = false

section Reads

variable {opened hasOld hasNew : Bool} {part : Part} {outlined : List Part → Prop}

theorem not_reads_absolute (absolute : part.absolute = true) :
    ¬Reads opened hasOld hasNew fun parts => ∃ later, parts = part :: later ∧ outlined later := by
  rintro ⟨parts, ⟨later, rfl, _⟩, fine, _⟩
  have own := fine part List.mem_cons_self
  rw [absolute] at own
  cases own

theorem reads_part {opened' hasOld' hasNew' : Bool} (fine : part.absolute = false)
    (same : ∀ later, short opened hasOld hasNew (part :: later) = short opened' hasOld' hasNew' later) :
    (Reads opened hasOld hasNew fun parts => ∃ later, parts = part :: later ∧ outlined later) ↔
      Reads opened' hasOld' hasNew' outlined := by
  constructor
  · rintro ⟨parts, ⟨later, rfl, outline⟩, each, whole⟩
    exact ⟨later, outline, fun other there => each other (List.mem_cons_of_mem _ there), same later ▸ whole⟩
  · rintro ⟨later, outline, each, whole⟩
    refine ⟨part :: later, ⟨later, rfl, outline⟩, fun other member => ?_, (same later).trans whole⟩
    rcases List.mem_cons.mp member with rfl | there
    · exact fine
    · exact each other there

end Reads

/-- The scanner accepts the texts with an outline that names no absolute path and is nowhere short. -/
theorem accepted_iff (text : List Line) (scan : Scan) (idle : scan.owed = none) :
    accepted scan text = true ↔ Reads scan.sectionOpen scan.hasOld scan.hasNew (Outline text) := by
  induction length : text.length using Nat.strongRecOn generalizing text scan with
  | ind size ih =>
    subst length
    cases text with
    | nil =>
      rw [accepted_nil, idle]
      constructor
      · intro both
        exact ⟨[], .nil, by simp, by simpa [short] using both⟩
      · rintro ⟨parts, outline, _, whole⟩
        cases outline
        simpa [short] using whole
    | cons line text =>
      have shorter : text.length < (line :: text).length := Nat.lt_succ_self _
      rw [accepted_cons, step_outside idle]
      have outlines : Outline (line :: text) = fun parts => _ := funext fun parts => propext outline_cons
      rw [outlines]
      cases is : kind line with
      | plain => simpa using ih _ shorter text scan idle rfl
      | git tail =>
        dsimp only
        split_ifs with alone absolute
        · have never : ¬Reads scan.sectionOpen scan.hasOld scan.hasNew fun parts =>
              ∃ later, parts = .git tail :: later ∧ Outline text later := by
            rintro ⟨parts, ⟨later, rfl, _⟩, _, whole⟩
            rw [short, alone] at whole
            cases whole
          simpa using never
        · simpa using not_reads_absolute (show (Part.git tail).absolute = true from absolute)
        · have tidy : (scan.sectionOpen && !(scan.hasOld && scan.hasNew)) = false := by simpa using alone
          rw [Option.any_some, reads_part (show (Part.git tail).absolute = false by simpa [Part.absolute] using absolute)
            fun later => by rw [short, tidy, Bool.false_or]]
          exact ih _ shorter text { scan with
            sections := scan.sections + 1, sectionOpen := true, hasOld := false, hasNew := false } idle rfl
      | old tail =>
        dsimp only
        split_ifs with bad
        · simpa using not_reads_absolute (show (Part.old tail).absolute = true from bad)
        · rw [Option.any_some, reads_part (show (Part.old tail).absolute = false by simpa [Part.absolute] using bad) fun later => rfl]
          exact ih _ shorter text { scan with hasOld := true } idle rfl
      | new tail =>
        dsimp only
        split_ifs with bad
        · simpa using not_reads_absolute (show (Part.new tail).absolute = true from bad)
        · rw [Option.any_some, reads_part (show (Part.new tail).absolute = false by simpa [Part.absolute] using bad) fun later => rfl]
          exact ih _ shorter text { scan with hasNew := true } idle rfl
      | hunk header =>
        dsimp only
        cases counts : hunkCounts header with
        | none =>
          rw [Option.map_none, Option.any_none]
          refine iff_of_false (by decide) ?_
          rintro ⟨parts, ⟨_, _, _, _, at_header, _⟩, _⟩
          cases at_header
        | some owed =>
          rw [Option.map_some, Option.any_some, accepted_body idle]
          constructor
          · rintro ⟨body, rest, rfl, complete, read⟩
            have less : rest.length < (line :: (body ++ rest)).length := by
              simp only [List.length_cons, List.length_append]
              omega
            obtain ⟨later, outline, fine, whole⟩ := (ih _ less rest scan idle rfl).mp read
            refine ⟨_, ⟨owed, body, rest, later, rfl, complete, rfl, rfl, outline⟩, ?_, whole⟩
            intro part member
            rcases List.mem_cons.mp member with rfl | there
            · rfl
            · exact fine part there
          · rintro ⟨parts, ⟨counts', body, rest, later, same, complete, rfl, rfl, outline⟩, fine, whole⟩
            obtain rfl := Option.some.inj same
            have less : rest.length < (line :: (body ++ rest)).length := by
              simp only [List.length_cons, List.length_append]
              omega
            refine ⟨body, rest, rfl, complete, (ih _ less rest scan idle rfl).mpr ⟨later, outline, ?_, whole⟩⟩
            exact fun part there => fine part (List.mem_cons_of_mem _ there)

end Sealwire.Patches

import Sealwire.Patches.Layout

namespace Sealwire.Patches

theorem outline_append {a b : List Line} {first later : List Part} (outline : Outline a first) (rest : Outline b later) :
    Outline (a ++ b) (first ++ later) := by
  induction outline with
  | nil => exact rest
  | plain is _ ih => exact .plain is ih
  | git is _ ih => exact .git is ih
  | old is _ ih => exact .old is ih
  | new is _ ih => exact .new is ih
  | @hunk line header old new body text parts is counts complete _ ih =>
    have whole : line :: (body ++ text) ++ b = line :: (body ++ (text ++ b)) := by simp
    rw [whole]
    exact .hunk is counts complete ih

theorem Plain.outline {text : List Line} (plain : Plain text) : Outline text [] := by
  induction text with
  | nil => exact .nil
  | cons line text ih =>
    exact .plain (plain line List.mem_cons_self) (ih fun other there => plain other (List.mem_cons_of_mem _ there))

theorem Hunks.outline {text : List Line} (hunks : Hunks text) : ∃ count, Outline text (List.replicate count .hunk) := by
  induction hunks with
  | nil => exact ⟨0, .nil⟩
  | plain is _ ih =>
    obtain ⟨count, outline⟩ := ih
    exact ⟨count, .plain is outline⟩
  | hunk is counts complete _ ih =>
    obtain ⟨count, outline⟩ := ih
    exact ⟨count + 1, .hunk is counts complete outline⟩

theorem paired_hunks (count : Nat) (rest : List Part) :
    paired .headed (List.replicate count .hunk ++ rest) = paired .headed rest := by
  induction count with
  | zero => rfl
  | succ count ih => exact ih

/-- A header path that git refuses. -/
def Part.badHeader : Part → Bool
  | .git _ => false
  | .old rest => badSide rest
  | .new rest => badSide rest
  | .hunk => false

/-- The parts of a section: it opens where one can, and leaves both headers behind. -/
theorem FileSection.outline {text : List Line} (section_ : FileSection text) : ∃ parts, Outline text parts ∧
    (∀ part ∈ parts, part.badHeader = false) ∧ ∀ rest, paired .opening (parts ++ rest) = paired .headed rest ∧
      paired .headed (parts ++ rest) = paired .headed rest := by
  obtain ⟨lead, opening, between, oldLine, gap, newLine, hunks, oldPath, newPath, rfl, lead_plain, opens, between_plain,
    gap_plain, is_old, old_fine, is_new, new_fine, after⟩ := section_.shape
  obtain ⟨count, outlined⟩ := after.outline
  have headers : Outline (between ++ oldLine :: (gap ++ newLine :: hunks))
      (.old oldPath :: .new newPath :: List.replicate count .hunk) := by
    have last : Outline (gap ++ newLine :: hunks) (.new newPath :: List.replicate count .hunk) :=
      outline_append gap_plain.outline (.new is_new outlined)
    exact outline_append between_plain.outline (.old is_old last)
  have fine : ∀ part ∈ Part.old oldPath :: .new newPath :: List.replicate count .hunk, part.badHeader = false := by
    intro part member
    rcases List.mem_cons.mp member with rfl | member
    · exact old_fine
    · rcases List.mem_cons.mp member with rfl | member
      · exact new_fine
      · obtain rfl := List.eq_of_mem_replicate member
        rfl
  rcases opens with rfl | ⟨line, tail, rfl, is_git⟩
  · refine ⟨_, ?_, fine, fun rest => ⟨paired_hunks count rest, paired_hunks count rest⟩⟩
    have whole := outline_append lead_plain.outline headers
    simpa using whole
  · refine ⟨.git tail :: .old oldPath :: .new newPath :: List.replicate count .hunk, ?_, ?_,
      fun rest => ⟨paired_hunks count rest, paired_hunks count rest⟩⟩
    · have named := outline_append lead_plain.outline (.git is_git headers)
      simpa using named
    · intro part member
      rcases List.mem_cons.mp member with rfl | there
      · rfl
      · exact fine part there

theorem sections_outline {sections : List (List Line)} (each : ∀ part ∈ sections, FileSection part) :
    ∃ parts, Outline sections.flatten parts ∧ (∀ part ∈ parts, part.badHeader = false) ∧ paired .headed parts = true ∧
      (sections ≠ [] → paired .opening parts = true) := by
  induction sections with
  | nil => exact ⟨[], .nil, by simp, rfl, fun some_ => absurd rfl some_⟩
  | cons first sections ih =>
    obtain ⟨later, outlined, fine, pairs, _⟩ := ih fun part there => each part (List.mem_cons_of_mem _ there)
    obtain ⟨parts, outline, own, joins⟩ := (each first List.mem_cons_self).outline
    refine ⟨parts ++ later, outline_append outline outlined, ?_, (joins later).2.trans pairs,
      fun _ => (joins later).1.trans pairs⟩
    intro part member
    rcases List.mem_append.mp member with here | there
    · exact own part here
    · exact fine part there

/-- What follows both headers of a section. -/
def AfterPair (text : List Line) : Prop :=
  ∃ hunks, ∃ sections : List (List Line), Hunks hunks ∧ (∀ part ∈ sections, FileSection part) ∧
    text = hunks ++ sections.flatten

def AfterOld (text : List Line) : Prop :=
  ∃ gap newLine newPath later, Plain gap ∧ kind newLine = .new newPath ∧ badSide newPath = false ∧ AfterPair later ∧
    text = gap ++ newLine :: later

def AfterGit (text : List Line) : Prop :=
  ∃ between oldLine oldPath later, Plain between ∧ kind oldLine = .old oldPath ∧ badSide oldPath = false ∧
    AfterOld later ∧ text = between ++ oldLine :: later

def AtSection (text : List Line) : Prop :=
  ∃ lead opening later, Plain lead ∧ (opening = [] ∨ ∃ line rest, opening = [line] ∧ kind line = .git rest) ∧
    AfterGit later ∧ text = lead ++ opening ++ later

/-- What a text is where a section has this much of itself behind it. -/
def Rest : Stage → List Line → Prop
  | .opening => AtSection
  | .named => AfterGit
  | .half => AfterOld
  | .headed => AfterPair

theorem Plain.cons {line : Line} {text : List Line} (is_plain : kind line = .plain) (plain : Plain text) :
    Plain (line :: text) := by
  intro other member
  rcases List.mem_cons.mp member with rfl | there
  · exact is_plain
  · exact plain other there

theorem Plain.nil : Plain [] := by
  simp [Plain]

theorem AtSection.sections {text : List Line} (at_ : AtSection text) : ∃ first, ∃ sections : List (List Line),
    FileSection first ∧ (∀ part ∈ sections, FileSection part) ∧ text = first ++ sections.flatten := by
  obtain ⟨lead, opening, _, lead_plain, opens, ⟨between, oldLine, oldPath, _, between_plain, is_old, old_fine,
    ⟨gap, newLine, newPath, _, gap_plain, is_new, new_fine, ⟨hunks, sections, after, each, rfl⟩, rfl⟩, rfl⟩, rfl⟩ := at_
  refine ⟨lead ++ opening ++ between ++ oldLine :: (gap ++ newLine :: hunks), sections,
    ⟨lead, opening, between, oldLine, gap, newLine, hunks, oldPath, newPath, rfl, lead_plain, opens, between_plain,
      gap_plain, is_old, old_fine, is_new, new_fine, after⟩, each, ?_⟩
  simp

theorem AtSection.afterPair {text : List Line} (at_ : AtSection text) : AfterPair text := by
  obtain ⟨first, sections, own, each, rfl⟩ := at_.sections
  refine ⟨[], first :: sections, .nil, ?_, rfl⟩
  intro part member
  rcases List.mem_cons.mp member with rfl | there
  · exact own
  · exact each part there

theorem Rest.plain {stage : Stage} {line : Line} {text : List Line} (is_plain : kind line = .plain)
    (rest : Rest stage text) : Rest stage (line :: text) := by
  cases stage with
  | opening =>
    obtain ⟨lead, opening, later, plain, others⟩ := rest
    exact ⟨line :: lead, opening, later, .cons is_plain plain, others.1, others.2.1, by rw [others.2.2]; rfl⟩
  | named =>
    obtain ⟨between, oldLine, oldPath, later, plain, others⟩ := rest
    exact ⟨line :: between, oldLine, oldPath, later, .cons is_plain plain, others.1, others.2.1, others.2.2.1,
      by rw [others.2.2.2]; rfl⟩
  | half =>
    obtain ⟨gap, newLine, newPath, later, plain, others⟩ := rest
    exact ⟨line :: gap, newLine, newPath, later, .cons is_plain plain, others.1, others.2.1, others.2.2.1,
      by rw [others.2.2.2]; rfl⟩
  | headed =>
    obtain ⟨hunks, sections, after, each, rfl⟩ := rest
    exact ⟨line :: hunks, sections, .plain is_plain after, each, rfl⟩

/-- An outline whose headers come in pairs is one of sections. -/
theorem Outline.rest {text : List Line} {parts : List Part} (outline : Outline text parts) {stage : Stage}
    (pairs : paired stage parts = true) (fine : ∀ part ∈ parts, part.badHeader = false) : Rest stage text := by
  induction outline generalizing stage with
  | nil =>
    cases stage with
    | headed => exact ⟨[], [], .nil, by simp, rfl⟩
    | _ => cases pairs
  | plain is _ ih => exact (ih pairs fine).plain is
  | @git line tail text parts is _ ih =>
    have others : ∀ part ∈ parts, part.badHeader = false := fun part there => fine part (List.mem_cons_of_mem _ there)
    have opens (later : AfterGit text) : AtSection (line :: text) :=
      ⟨[], [line], text, .nil, .inr ⟨line, tail, rfl, is⟩, later, rfl⟩
    cases stage with
    | opening => exact opens (@ih .named pairs others)
    | headed => exact (opens (@ih .named pairs others)).afterPair
    | named => cases pairs
    | half => cases pairs
  | @old line tail text parts is _ ih =>
    have own : badSide tail = false := fine (.old tail) List.mem_cons_self
    have others : ∀ part ∈ parts, part.badHeader = false := fun part there => fine part (List.mem_cons_of_mem _ there)
    have names (later : AfterOld text) : AfterGit (line :: text) := ⟨[], line, tail, text, .nil, is, own, later, rfl⟩
    have opens (later : AfterOld text) : AtSection (line :: text) :=
      ⟨[], [], line :: text, .nil, .inl rfl, names later, rfl⟩
    cases stage with
    | opening => exact opens (@ih .half pairs others)
    | named => exact names (@ih .half pairs others)
    | headed => exact (opens (@ih .half pairs others)).afterPair
    | half => cases pairs
  | @new line tail text parts is _ ih =>
    have own : badSide tail = false := fine (.new tail) List.mem_cons_self
    have others : ∀ part ∈ parts, part.badHeader = false := fun part there => fine part (List.mem_cons_of_mem _ there)
    cases stage with
    | half => exact ⟨[], line, tail, text, .nil, is, own, @ih .headed pairs others, rfl⟩
    | opening => cases pairs
    | named => cases pairs
    | headed => cases pairs
  | @hunk line header old new body text parts is counts complete _ ih =>
    have others : ∀ part ∈ parts, part.badHeader = false := fun part there => fine part (List.mem_cons_of_mem _ there)
    cases stage with
    | headed =>
      obtain ⟨hunks, sections, after, each, rfl⟩ := @ih .headed pairs others
      exact ⟨line :: (body ++ hunks), sections, .hunk is counts complete after, each, by simp⟩
    | opening => cases pairs
    | named => cases pairs
    | half => cases pairs

/-- A text is well formed where its headers come in pairs, each before its hunks, and name no absolute path. -/
theorem wellFormed_iff {text : List Line} : WellFormed text ↔
    ∃ parts, Outline text parts ∧ (∀ part ∈ parts, part.badHeader = false) ∧ paired .opening parts = true := by
  constructor
  · rintro ⟨sections, some_, each, rfl⟩
    obtain ⟨parts, outline, fine, _, pairs⟩ := sections_outline each
    exact ⟨parts, outline, fine, pairs some_⟩
  · rintro ⟨parts, outline, fine, pairs⟩
    obtain ⟨first, sections, own, each, rfl⟩ := AtSection.sections (@Outline.rest _ _ outline .opening pairs fine)
    refine ⟨first :: sections, by simp, ?_, rfl⟩
    intro part member
    rcases List.mem_cons.mp member with rfl | there
    · exact own
    · exact each part there

/-- Of the lines that follow a hunk header, one beginning is its body. -/
theorem Body.unique {old new : Nat} {body other rest after : List Line} (complete : Body old new body)
    (also : Body old new other) (same : body ++ rest = other ++ after) : body = other ∧ rest = after := by
  induction body generalizing old new other with
  | nil =>
    cases complete
    cases other with
    | nil => exact ⟨rfl, same⟩
    | cons line other =>
      have owing := also.counted.1
      omega
  | cons line body ih =>
    obtain ⟨owing, left, counts, later⟩ := complete.counted
    cases other with
    | nil =>
      cases also
      omega
    | cons first other =>
      obtain ⟨rfl, tails_same⟩ := List.cons.inj same
      obtain ⟨_, also_left, also_counts, also_later⟩ := also.counted
      obtain rfl := Option.some.inj (counts.symm.trans also_counts)
      obtain ⟨rfl, tails⟩ := ih later also_later tails_same
      exact ⟨rfl, tails⟩

/-- A text has one outline. -/
theorem Outline.unique {text : List Line} {parts others : List Part} (outline : Outline text parts)
    (other : Outline text others) : parts = others := by
  induction outline generalizing others with
  | nil =>
    cases other
    rfl
  | plain is _ ih =>
    rw [outline_cons, is] at other
    exact ih other
  | git is _ ih =>
    rw [outline_cons, is] at other
    obtain ⟨later, rfl, rest⟩ := other
    rw [ih rest]
  | old is _ ih =>
    rw [outline_cons, is] at other
    obtain ⟨later, rfl, rest⟩ := other
    rw [ih rest]
  | new is _ ih =>
    rw [outline_cons, is] at other
    obtain ⟨later, rfl, rest⟩ := other
    rw [ih rest]
  | @hunk line header old new body text parts is counts complete _ ih =>
    rw [outline_cons, is] at other
    obtain ⟨owed, body', rest, later, at_header, also, same, rfl, after⟩ := other
    obtain rfl := Option.some.inj (counts.symm.trans at_header)
    obtain ⟨rfl, rfl⟩ := complete.unique also same
    rw [ih after]

end Sealwire.Patches

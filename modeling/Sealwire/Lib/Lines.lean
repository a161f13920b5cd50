import Mathlib.Data.List.TakeWhile
import Sealwire.Lib.Text

namespace Sealwire

/-- A line of a text. -/
abbrev Line := List Char

def consHead (c : Char) : List Line → List Line
  | [] => [[c]]
  | line :: more => (c :: line) :: more

/-- `str::lines`. -/
def lines : List Char → List Line
  | [] => []
  | c :: rest =>
    if c = '\n' then [] :: lines rest
    else if c = '\r' ∧ rest.head? = some '\n' then lines rest
    else consHead c (lines rest)

theorem lines_cons (c : Char) (rest : List Char) : lines (c :: rest) =
    if c = '\n' then [] :: lines rest
    else if c = '\r' ∧ rest.head? = some '\n' then lines rest
    else consHead c (lines rest) := rfl

/-- `str::split_whitespace`. -/
def words (line : Line) : List (List Char) :=
  (line.splitOnP isWhitespace).filter (· ≠ [])

def Blank (line : Line) : Prop :=
  ∀ c ∈ line, isWhitespace c = true

theorem lines_ne_nil {text : List Char} (some_ : text ≠ []) : lines text ≠ [] := by
  induction text with
  | nil => exact absurd rfl some_
  | cons c rest ih =>
    unfold lines
    split_ifs with first second
    · simp
    · refine ih fun empty => ?_
      subst empty
      simp at second
    · cases lines rest <;> simp [consHead]

theorem lines_blank {text : List Char} (blank : Blank text) : ∀ line ∈ lines text, Blank line := by
  induction text with
  | nil => simp [lines]
  | cons c rest ih =>
    have rest_blank := ih fun d member => blank d (List.mem_cons_of_mem _ member)
    unfold lines
    split_ifs with first second
    · intro line member
      rcases List.mem_cons.mp member with rfl | there
      · simp [Blank]
      · exact rest_blank line there
    · exact rest_blank
    · have here : isWhitespace c = true := blank c List.mem_cons_self
      cases of_rest : lines rest with
      | nil => simp [consHead, Blank, here]
      | cons line more =>
        rw [of_rest] at rest_blank
        intro other member
        rcases List.mem_cons.mp member with rfl | there
        · intro d in_line
          rcases List.mem_cons.mp in_line with rfl | in_line
          · exact here
          · exact rest_blank line List.mem_cons_self d in_line
        · exact rest_blank other (List.mem_cons_of_mem _ there)

/-- It ends in a character that is no white space. -/
def EndsDark (text : List Char) : Prop :=
  ∃ c ∈ text.getLast?, isWhitespace c = false

/-- The lines of a text with white space after it: its last line is longer, and blank lines follow. -/
def Trails (before after : List Line) : Prop :=
  ∃ kept last space blanks, before = kept ++ [last] ∧ after = kept ++ (last ++ space) :: blanks ∧ EndsDark last ∧
    Blank space ∧ ∀ line ∈ blanks, Blank line

theorem Trails.cons {before after : List Line} (trails : Trails before after) (line : Line) :
    Trails (line :: before) (line :: after) := by
  obtain ⟨kept, last, space, blanks, rfl, rfl, others⟩ := trails
  exact ⟨line :: kept, last, space, blanks, rfl, rfl, others⟩

theorem EndsDark.cons {text : List Char} (ends : EndsDark text) (c : Char) : EndsDark (c :: text) := by
  obtain ⟨d, last, dark⟩ := ends
  cases text with
  | nil => cases last
  | cons e rest => exact ⟨d, by simpa using last, dark⟩

theorem Trails.consHead {before after : List Line} (trails : Trails before after) (c : Char) :
    Trails (consHead c before) (consHead c after) := by
  obtain ⟨kept, last, space, blanks, rfl, rfl, ends, others⟩ := trails
  cases kept with
  | nil => exact ⟨[], c :: last, space, blanks, rfl, rfl, ends.cons c, others⟩
  | cons first kept => exact ⟨(c :: first) :: kept, last, space, blanks, rfl, rfl, ends, others⟩

theorem lines_trails {text space : List Char} (ends : EndsDark text) (blank : Blank space) :
    Trails (lines text) (lines (text ++ space)) := by
  induction text with
  | nil =>
    obtain ⟨c, last, _⟩ := ends
    cases last
  | cons c rest ih =>
    cases rest with
    | nil =>
      obtain ⟨d, last, dark⟩ := ends
      obtain rfl : c = d := by simpa using last
      have not_newline : c ≠ '\n' := fun same => by
        subst same
        revert dark
        decide
      have not_return : c ≠ '\r' := fun same => by
        subst same
        revert dark
        decide
      have blank_lines := lines_blank blank
      simp only [List.cons_append, List.nil_append, lines, not_newline, not_return, if_false, false_and]
      cases of_space : lines space with
      | nil => exact ⟨[], [c], [], [], rfl, rfl, ⟨c, rfl, dark⟩, by simp [Blank], by simp⟩
      | cons line more =>
        rw [of_space] at blank_lines
        exact ⟨[], [c], line, more, rfl, rfl, ⟨c, rfl, dark⟩, blank_lines line List.mem_cons_self,
          fun other there => blank_lines other (List.mem_cons_of_mem _ there)⟩
    | cons d rest =>
      have later : Trails (lines (d :: rest)) (lines (d :: rest ++ space)) := ih (by simpa [EndsDark] using ends)
      have same_head : (d :: rest ++ space).head? = (d :: rest).head? := rfl
      rw [List.cons_append, lines_cons c (d :: rest), lines_cons c (d :: rest ++ space), same_head]
      split_ifs
      · exact later.cons []
      · exact later
      · exact later.consHead c

/-- White space after a line adds no word to it. -/
theorem words_append_blank {line space : Line} (blank : Blank space) : words (line ++ space) = words line := by
  induction space generalizing line with
  | nil => rw [List.append_nil]
  | cons c space ih =>
    have here : isWhitespace c = true := blank c List.mem_cons_self
    have rest : Blank space := fun d member => blank d (List.mem_cons_of_mem _ member)
    have none_there : (space.splitOnP isWhitespace).filter (· ≠ []) = [] := by
      have empty := @ih [] rest
      rw [List.nil_append] at empty
      simpa [words] using empty
    unfold words
    rw [List.splitOnP_append_cons _ _ here, List.filter_append, none_there, List.append_nil]

theorem words_blank {line : Line} (blank : Blank line) : words line = [] := by
  have empty := @words_append_blank [] line blank
  simpa [words] using empty

/-- What trimming leaves of a text whose first character is no white space. -/
theorem trim_split {text : List Char} {c : Char} (first : (text.dropWhile isWhitespace).head? = some c) :
    ∃ kept space, text.dropWhile isWhitespace = kept ++ space ∧ (trim (String.ofList text)).toList = kept ∧
      EndsDark kept ∧ Blank space := by
  generalize shown : text.dropWhile isWhitespace = rest at first
  have dark : isWhitespace c = false := by
    have stops := List.head?_dropWhile_not isWhitespace text
    rw [shown, first] at stops
    simpa using stops
  refine ⟨(rest.reverse.dropWhile isWhitespace).reverse, (rest.reverse.takeWhile isWhitespace).reverse, ?_, ?_, ?_, ?_⟩
  · rw [← List.reverse_append, List.takeWhile_append_dropWhile, List.reverse_reverse]
  · simp [trim, shown]
  · have stops := List.head?_dropWhile_not isWhitespace rest.reverse
    unfold EndsDark
    rw [List.getLast?_reverse]
    cases head : (rest.reverse.dropWhile isWhitespace).head? with
    | some d =>
      rw [head] at stops
      exact ⟨d, rfl, by simpa using stops⟩
    | none =>
      have all := List.dropWhile_eq_nil_iff.mp (List.head?_eq_none_iff.mp head)
      have member : c ∈ rest.reverse := List.mem_reverse.mpr (List.mem_of_head? first)
      rw [all c member] at dark
      cases dark
  · intro d member
    exact List.mem_takeWhile_imp (List.mem_reverse.mp member)

end Sealwire

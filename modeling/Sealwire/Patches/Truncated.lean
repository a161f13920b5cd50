import Sealwire.Patches.Sections

namespace Sealwire.Patches

/-- The lines that the scanner sees. -/
def seen (patch : String) : List Line :=
  lines (trim patch).toList

def WellFormedPatch (patch : String) : Prop :=
  WellFormed (seen patch)

theorem patchIsAppliable_iff (patch : String) :
    patchIsAppliable patch = true ↔ Reads false false false (Outline (seen patch)) := by
  have scanned := accepted_iff (seen patch) .start rfl
  unfold patchIsAppliable
  dsimp only
  split
  · rename_i empty
    rw [seen, empty] at scanned
    rw [seen, empty]
    exact iff_of_false (by decide) fun reads => by
      have read := scanned.mpr reads
      revert read
      decide
  · exact scanned

/-- The headers of the text come in pairs, each before its hunks; or the text has a fault that the scanner looks for. -/
def InOrder (text : List Line) : Prop :=
  ∀ parts, Outline text parts → paired .opening parts = true ∨ (∃ part ∈ parts, part.absolute = true) ∨
    short false false false parts = true

theorem Part.badHeader_of_absolute {part : Part} (fine : part.absolute = false) : part.badHeader = false := by
  cases part with
  | git rest => rfl
  | old rest => exact fine
  | new rest => exact fine
  | hunk => rfl

theorem appliable_iff_inOrder (patch : String) :
    (patchIsAppliable patch = true → WellFormedPatch patch) ↔ InOrder (seen patch) := by
  rw [patchIsAppliable_iff]
  constructor
  · intro right parts outline
    by_cases absolute : ∃ part ∈ parts, part.absolute = true
    · exact .inr (.inl absolute)
    · cases whole : short false false false parts with
      | true => exact .inr (.inr rfl)
      | false =>
        have fine : ∀ part ∈ parts, part.absolute = false := by
          intro part member
          by_contra bad
          exact absolute ⟨part, member, by simpa using bad⟩
        obtain ⟨others, other, _, pairs⟩ := wellFormed_iff.mp (right ⟨parts, outline, fine, whole⟩)
        obtain rfl := outline.unique other
        exact .inl pairs
  · rintro inOrder ⟨parts, outline, fine, whole⟩
    rcases inOrder parts outline with pairs | ⟨part, member, absolute⟩ | shorter
    · exact wellFormed_iff.mpr ⟨parts, outline, fun part member => Part.badHeader_of_absolute (fine part member), pairs⟩
    · rw [fine part member] at absolute
      cases absolute
    · rw [whole] at shorter
      cases shorter

/-- Whole hunks and headers at the beginning of a text are read before the rest. -/
theorem Outline.split {text rest : List Line} {parts others : List Part} (outline : Outline text parts)
    (whole : Outline (text ++ rest) others) : ∃ later, Outline rest later := by
  induction outline generalizing others with
  | nil => exact ⟨others, whole⟩
  | plain is _ ih =>
    rw [List.cons_append, outline_cons, is] at whole
    exact ih whole
  | git is _ ih =>
    rw [List.cons_append, outline_cons, is] at whole
    obtain ⟨later, _, after⟩ := whole
    exact ih after
  | old is _ ih =>
    rw [List.cons_append, outline_cons, is] at whole
    obtain ⟨later, _, after⟩ := whole
    exact ih after
  | new is _ ih =>
    rw [List.cons_append, outline_cons, is] at whole
    obtain ⟨later, _, after⟩ := whole
    exact ih after
  | @hunk line header old new body text parts is counts complete _ ih =>
    rw [List.cons_append, outline_cons, is] at whole
    obtain ⟨owed, other, left, later, at_header, also, same, _, after⟩ := whole
    obtain rfl := Option.some.inj (counts.symm.trans at_header)
    rw [List.append_assoc] at same
    obtain ⟨rfl, rfl⟩ := complete.unique also same
    exact ih after

/-- The lines kept of a text that is cut inside a hunk. -/
structure CutInside (text kept : List Line) : Prop where
  shape : ∃ before header tail counts inside lost after, text = before ++ header :: (inside ++ lost ++ after) ∧
    kept = before ++ header :: inside ∧ (∃ parts, Outline before parts) ∧ kind header = .hunk tail ∧
    hunkCounts tail = some counts ∧ Body counts.1 counts.2 (inside ++ lost) ∧ lost ≠ []

/-- A body that is cut is none. -/
theorem Body.not_cut {old new : Nat} {inside lost : List Line} (complete : Body old new (inside ++ lost)) (some_ : lost ≠ [])
    {body rest : List Line} (other : Body old new body) : inside ≠ body ++ rest := by
  rintro rfl
  have same : body ++ (rest ++ lost) = body ++ rest ++ lost ++ [] := by simp
  obtain ⟨_, empty⟩ := other.unique complete same
  exact some_ (List.append_eq_nil_iff.mp empty).2

theorem Body.of_head {old new : Nat} {before after : List Line} {line other : Line} (same : line.head? = other.head?)
    (complete : Body old new (before ++ line :: after)) : Body old new (before ++ other :: after) := by
  induction before generalizing old new with
  | nil =>
    obtain ⟨owing, left, counts, later⟩ := complete.counted
    have also : Scan.counted old new other = some left := by
      rw [← counts]
      unfold Scan.counted
      rw [same]
    exact .of_counted owing also later
  | cons first before ih =>
    obtain ⟨owing, left, counts, later⟩ := complete.counted
    exact .of_counted owing counts (ih later)

theorem Body.no_dot {old new : Nat} {body : List Line} (complete : Body old new body) :
    ∀ line ∈ body, line.head? ≠ some '.' := by
  induction body generalizing old new with
  | nil => simp
  | cons first body ih =>
    obtain ⟨_, left, counts, later⟩ := complete.counted
    intro line member
    rcases List.mem_cons.mp member with rfl | there
    · intro dot
      unfold Scan.counted at counts
      rw [dot] at counts
      cases counts
    · exact ih later line there

theorem kind_hunk_iff {line tail : Line} : kind line = .hunk tail ↔ line = "@@ ".toList ++ tail := by
  constructor
  · intro is
    unfold kind at is
    split at is
    · cases is
    · split at is
      · rename_i found
        cases is
        exact stripPrefix_eq_some.mp found
      · split at is
        · cases is
        · split at is
          · cases is
          · cases is
  · rintro rfl
    unfold kind
    cases git : stripPrefix "diff --git ".toList ("@@ ".toList ++ tail) with
    | some rest =>
      have first := head_of_stripPrefix git
      cases first
    | none =>
      have hunk : stripPrefix "@@ ".toList ("@@ ".toList ++ tail) = some tail := stripPrefix_eq_some.mpr rfl
      rw [hunk]

/-- A hunk header that lost the white space after it. -/
theorem kind_hunk_trimmed {line space tail : Line} {counts : Nat × Nat} (is : kind (line ++ space) = .hunk tail)
    (at_tail : hunkCounts tail = some counts) (blank : Blank space) :
    ∃ shorter, kind line = .hunk shorter ∧ hunkCounts shorter = some counts := by
  rcases List.append_eq_append_iff.mp (kind_hunk_iff.mp is) with ⟨more, head, rfl⟩ | ⟨shorter, rfl, rfl⟩
  · -- Nothing but white space would be left for the counts.
    have empty : words tail = [] := words_blank fun c member => blank c (List.mem_append_right _ member)
    rw [hunkCounts, empty] at at_tail
    cases at_tail
  · refine ⟨shorter, kind_hunk_iff.mpr rfl, ?_⟩
    rw [hunkCounts, words_append_blank blank] at at_tail
    exact at_tail

theorem not_blank_of_hunk {line tail : Line} (is : kind line = .hunk tail) : ¬Blank line := by
  intro blank
  have at_sign : isWhitespace '@' = true := blank '@' (by rw [kind_hunk_iff.mp is]; simp)
  revert at_sign
  decide

/-- Where the lines of a text that lost the white space at its end stop, when they were cut inside a hunk: at the header,
or in the body. -/
theorem trails_cut {text kept : List Line} {before inside : List Line} {header tail : Line} (trails : Trails text kept)
    (at_ : kept = before ++ header :: inside) (is : kind header = .hunk tail) :
    (∃ last space, text = before ++ [last] ∧ header = last ++ space ∧ Blank space) ∨
    ∃ part last space rest, text = before ++ header :: (part ++ [last]) ∧ inside = part ++ (last ++ space) :: rest ∧
      EndsDark last := by
  obtain ⟨front, last, space, blanks, rfl, same, ends, blank, each⟩ := trails
  rw [same] at at_
  rcases List.append_eq_append_iff.mp at_ with ⟨more, rfl, split⟩ | ⟨more, rfl, split⟩
  · cases more with
    | nil =>
      obtain ⟨rfl, rfl⟩ := List.cons.inj split
      exact .inl ⟨last, space, by simp, rfl, blank⟩
    | cons first more =>
      obtain ⟨_, tail_same⟩ := List.cons.inj split
      have member : header ∈ blanks := by
        rw [tail_same]
        exact List.mem_append_right _ List.mem_cons_self
      exact absurd (each header member) (not_blank_of_hunk is)
  · cases more with
    | nil =>
      obtain ⟨rfl, rfl⟩ := List.cons.inj split
      exact .inl ⟨last, space, by simp, rfl, blank⟩
    | cons first more =>
      obtain ⟨rfl, rfl⟩ := List.cons.inj split
      exact .inr ⟨more, last, space, blanks, by simp, rfl, ends⟩

section Cut

variable {before : List Line} {header tail : Line} {counts : Nat × Nat} (opens : ∃ parts, Outline before parts)
  (is : kind header = .hunk tail) (at_tail : hunkCounts tail = some counts)
include opens is at_tail

/-- What follows the header of a hunk begins with the hunk's body. -/
theorem body_of_outline {stub : List Line} {parts : List Part} (outline : Outline (before ++ header :: stub) parts) :
    ∃ body rest, stub = body ++ rest ∧ Body counts.1 counts.2 body := by
  obtain ⟨first, whole⟩ := opens
  obtain ⟨later, here⟩ := whole.split outline
  rw [outline_cons, is] at here
  obtain ⟨owed, body, rest, _, at_header, complete, same, _⟩ := here
  obtain rfl := Option.some.inj (at_tail.symm.trans at_header)
  exact ⟨body, rest, same, complete⟩

theorem not_outlined {stub lost : List Line} (complete : Body counts.1 counts.2 (stub ++ lost)) (some_ : lost ≠ [])
    (parts : List Part) : ¬Outline (before ++ header :: stub) parts := by
  intro outline
  obtain ⟨body, rest, same, other⟩ := body_of_outline opens is at_tail outline
  exact complete.not_cut some_ other same

theorem not_outlined_dots {stub lost : List Line} {line : Line} (complete : Body counts.1 counts.2 (stub ++ lost))
    (some_ : lost ≠ []) (dot : line.head? = some '.') (parts : List Part) :
    ¬Outline (before ++ header :: (stub ++ [line])) parts := by
  intro outline
  obtain ⟨body, rest, same, other⟩ := body_of_outline opens is at_tail outline
  rcases List.eq_nil_or_concat rest with rfl | ⟨rest, last, rfl⟩
  · rw [List.append_nil] at same
    exact other.no_dot line (by rw [← same]; simp) dot
  · rw [List.concat_eq_append, ← List.append_assoc] at same
    exact complete.not_cut some_ other (List.append_inj_left' same rfl)

end Cut

/-- No patch that was cut inside a hunk is offered, with a last line of dots or without. -/
theorem cut_refused {text kept : List Line} (cut : CutInside text kept) {patch : String}
    (is_cut : lines (patch.toList.dropWhile isWhitespace) = kept ∨
      lines (patch.toList.dropWhile isWhitespace) = kept ++ ["...".toList]) : patchIsAppliable patch = false := by
  obtain ⟨before, header, tail, counts, inside, lost, after, _, rfl, opens, is, at_tail, complete, some_⟩ := cut.shape
  have refused (never : ∀ parts, ¬Outline (seen patch) parts) : patchIsAppliable patch = false := by
    by_contra accepts
    obtain ⟨parts, outline, _⟩ := (patchIsAppliable_iff patch).mp (by simpa using accepts)
    exact never parts outline
  have trails : Trails (seen patch) (lines (patch.toList.dropWhile isWhitespace)) := by
    cases first : (patch.toList.dropWhile isWhitespace).head? with
    | none =>
      rw [List.head?_eq_none_iff.mp first] at is_cut
      rcases is_cut with empty | empty
      · simp [lines] at empty
      · simp [lines] at empty
    | some c =>
      obtain ⟨trimmed, space, whole, shown, ends, blank⟩ := trim_split first
      rw [String.ofList_toList] at shown
      rw [whole, seen, shown]
      exact lines_trails ends blank
  -- Where trimming ate the whole body, the header is left alone.
  have header_alone {last space : Line} (at_header : header = last ++ space) (blank : Blank space) (parts : List Part) :
      ¬Outline (before ++ [last]) parts := by
    subst at_header
    obtain ⟨shorter, still, same⟩ := kind_hunk_trimmed is at_tail blank
    exact not_outlined opens still same (show Body counts.1 counts.2 ([] ++ (inside ++ lost)) from complete)
      (by simp [some_]) parts
  have in_body {part rest : List Line} {last space : Line} (at_inside : inside = part ++ (last ++ space) :: rest)
      (ends : EndsDark last) (parts : List Part) : ¬Outline (before ++ header :: (part ++ [last])) parts := by
    obtain ⟨c, at_last, _⟩ := ends
    have same_head : (last ++ space).head? = last.head? := by
      cases last with
      | nil => cases at_last
      | cons d rest => rfl
    have shorter : Body counts.1 counts.2 (part ++ [last] ++ (rest ++ lost)) := by
      have long : inside ++ lost = part ++ (last ++ space) :: (rest ++ lost) := by simp [at_inside]
      have body := Body.of_head same_head (long ▸ complete)
      simpa using body
    exact not_outlined opens is at_tail shorter (by simp [some_]) parts
  rcases is_cut with same | same
  · rcases trails_cut trails same is with ⟨last, space, shown, at_header, blank⟩ | ⟨part, last, space, rest, shown, at_inside, ends⟩
    · exact refused (shown ▸ header_alone at_header blank)
    · exact refused (shown ▸ in_body at_inside ends)
  · have same' : lines (patch.toList.dropWhile isWhitespace) = before ++ header :: (inside ++ ["...".toList]) := by
      rw [same]
      simp
    rcases trails_cut trails same' is with ⟨last, space, shown, at_header, blank⟩ | ⟨part, last, space, rest, shown, at_inside, ends⟩
    · exact refused (shown ▸ header_alone at_header blank)
    · rcases List.eq_nil_or_concat rest with rfl | ⟨rest, final, rfl⟩
      · obtain ⟨rfl, dots⟩ := List.append_inj' at_inside rfl
        have dot : last.head? = some '.' := by
          obtain ⟨c, at_last, _⟩ := ends
          cases last with
          | nil => cases at_last
          | cons d more =>
            have whole : "...".toList = (d :: more) ++ space := List.singleton_inj.mp dots
            exact (congrArg List.head? whole).symm
        exact refused (shown ▸ not_outlined_dots opens is at_tail complete some_ dot)
      · have split : inside ++ ["...".toList] = part ++ (last ++ space) :: rest ++ [final] := by
          rw [at_inside]
          simp
        exact refused (shown ▸ in_body (List.append_inj_left' split rfl) ends)

/-- A patch that is offered is well formed where its headers come in order, and only there; one that was cut inside a hunk
is never offered. -/
theorem patchIsAppliable_sound_iff (patch : String) :
    ((patchIsAppliable patch = true → WellFormedPatch patch) ↔ InOrder (seen patch)) ∧
    ∀ (kept : List Line) (cut : String), CutInside (seen patch) kept →
      (lines (cut.toList.dropWhile isWhitespace) = kept ∨
        lines (cut.toList.dropWhile isWhitespace) = kept ++ ["...".toList]) → patchIsAppliable cut = false :=
  ⟨appliable_iff_inOrder patch, fun _ _ inside is_cut => cut_refused inside is_cut⟩

/-- The changes of two files, the first of them a hunk without its headers. -/
def bareHunkFirst : String :=
  "@@ -1 +1 @@\n-a\n+b\n\n--- a/x.js\n+++ b/x.js\n@@ -1 +1 @@\n-c\n+d\n"

theorem bareHunkFirst_offered : patchIsAppliable bareHunkFirst = true ∧ ¬WellFormedPatch bareHunkFirst := by
  refine ⟨by decide +kernel, fun wellFormed => ?_⟩
  obtain ⟨parts, outline, _, pairs⟩ := wellFormed_iff.mp wellFormed
  have shown : seen bareHunkFirst = "@@ -1 +1 @@".toList :: ["-a".toList, "+b".toList, [], "--- a/x.js".toList,
      "+++ b/x.js".toList, "@@ -1 +1 @@".toList, "-c".toList, "+d".toList] := by decide +kernel
  have is : kind "@@ -1 +1 @@".toList = .hunk "-1 +1 @@".toList := kind_hunk_iff.mpr (by decide)
  rw [shown, outline_cons, is] at outline
  obtain ⟨_, _, _, later, _, _, _, rfl, _⟩ := outline
  cases pairs

end Sealwire.Patches

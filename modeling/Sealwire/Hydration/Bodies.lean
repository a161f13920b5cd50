import Sealwire.Hydration.WindowSteps

namespace Sealwire.Hydration

open Transcript (TranscriptContentState)

variable {Card : Type} {c : CardBodies Card}

/-- What a row says of its body. -/
@[ext] structure Body where
  text : Option Text
  contentState : TranscriptContentState

def Entry.body (entry : Entry Card) : Body where
  text := entry.text
  contentState := entry.contentState

/-- The body the window holds for a row. -/
def bodyAt (state : HydrationState Card) (key : String) : Option Body := (state.entries.get key).map Entry.body

/-- The copy of a row in a payload. -/
def copyIn (rows : List (Entry Card)) (key : String) : Option (Entry Card) :=
  rows.find? fun row => transcriptRowKey row = some key

/-- The payload names the row at most once. -/
def NamedOnce (rows : List (Entry Card)) (key : String) : Prop :=
  (rows.filter fun row => transcriptRowKey row = some key).length ≤ 1

/-- What a delivery does to the body of one row. -/
inductive BodyMove
  | copy (incoming : Body)
  | append (delta : Text) (offset : Option Nat)

def mergeBody (held incoming : Body) : Body where
  text := selectTranscriptText List.length held.text incoming.text (held.contentState = .full)
    (incoming.contentState = .full)
  contentState := rankToContentState (max (contentStateRank held.contentState) (contentStateRank incoming.contentState))

def appendBody (held : Option Body) (delta : Text) (offset : Option Nat) : Body :=
  match held with
  | none =>
    if offset.all (· = 0) then { text := some delta, contentState := .full }
    else { text := some [], contentState := .preview }
  | some held =>
    match resolveDeltaAppend (held.text.getD []) delta offset with
    | none => { held with contentState := .preview }
    | some [] => held
    | some added => { text := some (held.text.getD [] ++ added), contentState := .full }

def BodyMove.apply (held : Option Body) : BodyMove → Body
  | .copy incoming => (held.map fun held => mergeBody held incoming).getD incoming
  | .append delta offset => appendBody held delta offset

theorem body_mergeTranscriptEntry (held : Option (Entry Card)) (incoming : Entry Card) :
    (mergeTranscriptEntry c held incoming).body = BodyMove.apply (held.map Entry.body) (.copy incoming.body) := by
  cases held with
  | none => rfl
  | some held => rfl

theorem body_applyRowIdentityInvariants (held : Option (Entry Card)) (merged : Entry Card) :
    (applyRowIdentityInvariants held merged).body = merged.body := by
  cases held with
  | none => rfl
  | some held => rfl

theorem NamedOnce.perm {rows others : List (Entry Card)} {key : String} (once : NamedOnce rows key)
    (perm : rows.Perm others) : NamedOnce others key := by
  unfold NamedOnce at *
  rwa [← (perm.filter _).length_eq]

theorem eq_of_perm_short {α : Type} {l m : List α} (perm : l.Perm m) (short : l.length ≤ 1) : l = m := by
  cases l with
  | nil => exact perm.nil_eq
  | cons x rest =>
    have alone : rest = [] := List.eq_nil_of_length_eq_zero (by rw [List.length_cons] at short; omega)
    subst alone
    exact (List.perm_singleton.mp perm.symm).symm

theorem copyIn_perm {rows others : List (Entry Card)} {key : String} (once : NamedOnce rows key)
    (perm : rows.Perm others) : copyIn rows key = copyIn others key := by
  have same := eq_of_perm_short (perm.filter fun row => decide (transcriptRowKey row = some key)) once
  unfold copyIn
  rw [← List.head?_filter, ← List.head?_filter, same]

theorem NamedOnce.rest {row : Entry Card} {rows : List (Entry Card)} {key : String} (once : NamedOnce (row :: rows) key)
    (named : transcriptRowKey row = some key) : copyIn rows key = none := by
  unfold NamedOnce at once
  rw [List.filter_cons_of_pos (by simpa using named), List.length_cons] at once
  have nothing : (rows.filter fun row => transcriptRowKey row = some key) = [] :=
    List.eq_nil_of_length_eq_zero (by omega)
  unfold copyIn
  rw [← List.head?_filter, nothing]
  rfl

theorem NamedOnce.of_cons {row : Entry Card} {rows : List (Entry Card)} {key : String}
    (once : NamedOnce (row :: rows) key) : NamedOnce rows key := by
  unfold NamedOnce at *
  by_cases named : transcriptRowKey row = some key
  · rw [List.filter_cons_of_pos (by simpa using named), List.length_cons] at once
    omega
  · rwa [List.filter_cons_of_neg (by simpa using named)] at once

theorem copyIn_cons_of_ne {row : Entry Card} {rows : List (Entry Card)} {key : String}
    (other : transcriptRowKey row ≠ some key) : copyIn (row :: rows) key = copyIn rows key := by
  unfold copyIn
  rw [List.find?_cons_of_neg (by simpa using other)]

theorem copyIn_cons_of_eq {row : Entry Card} {rows : List (Entry Card)} {key : String}
    (named : transcriptRowKey row = some key) : copyIn (row :: rows) key = some row := by
  unfold copyIn
  rw [List.find?_cons_of_pos (by simpa using named)]

section Merges

variable {mergeRow : MergeRow Card}

/-- Rows written one by one: only the row's own copy touches it. -/
theorem mergeIntoEntries_get {rows : List (Entry Card)} {key : String} (once : NamedOnce rows key)
    (entries : Entries Card) :
    (mergeIntoEntries mergeRow entries rows).get key =
      match copyIn rows key with
      | none => entries.get key
      | some row => some (mergeRow (entries.get key) row) := by
  unfold mergeIntoEntries
  induction rows generalizing entries with
  | nil => rfl
  | cons row rest ih =>
    rw [List.foldl_cons, ih once.of_cons]
    by_cases named : transcriptRowKey row = some key
    · rw [once.rest named, copyIn_cons_of_eq named, named]
      simp
    · rw [copyIn_cons_of_ne named]
      cases at_row : transcriptRowKey row with
      | none => rfl
      | some other =>
        have ne : key ≠ other := fun same => named (by rw [at_row, same])
        dsimp only
        rw [InsertionMap.get_set_ne _ _ ne]

def identified (mergeRow : MergeRow Card) : MergeRow Card := fun existing incoming =>
  applyRowIdentityInvariants existing (mergeRow existing incoming)

theorem mergeAscending_entries (rows : List (Entry Card)) (entries : Entries Card) (order : List String) :
    (mergeAscending mergeRow entries order rows).entries = mergeIntoEntries (identified mergeRow) entries rows := by
  unfold mergeIntoEntries
  induction rows generalizing entries order with
  | nil => rfl
  | cons row rest ih =>
    unfold mergeAscending
    rw [List.foldl_cons]
    split
    · rw [ih]
    · dsimp only
      split
      · rw [ih]
        rfl
      · dsimp only
        rw [ih]
        rfl

theorem mergeRowByRow_entries (rows : List (Entry Card)) (window : WindowDraft Card) (hint : Option Nat) :
    (mergeRowByRow mergeRow window hint rows).entries = mergeIntoEntries (identified mergeRow) window.entries rows := by
  unfold mergeIntoEntries
  induction rows generalizing window hint with
  | nil => rfl
  | cons row rest ih =>
    unfold mergeRowByRow
    dsimp only
    rw [ih, List.foldl_cons]
    congr 1
    unfold upsertRowAt
    split
    · rfl
    · dsimp only
      split
      · rfl
      · rfl

/-- A merge of rows touches a row only by the row's own copy. -/
def TouchesByCopy (mergeRow : MergeRow Card) (key : String) (rows : List (Entry Card)) (before after : Entries Card) :
    Prop :=
  (after.get key).map Entry.body =
    match copyIn rows key with
    | none => (before.get key).map Entry.body
    | some row => some (mergeRow (before.get key) row).body

theorem mergeIntoEntries_touches {rows : List (Entry Card)} {key : String} (once : NamedOnce rows key)
    (entries : Entries Card) : TouchesByCopy mergeRow key rows entries (mergeIntoEntries mergeRow entries rows) := by
  unfold TouchesByCopy
  rw [mergeIntoEntries_get once]
  split
  · rfl
  · rfl

variable (mergeRow) in
theorem identified_touches {rows : List (Entry Card)} {key : String} (once : NamedOnce rows key)
    (entries : Entries Card) :
    TouchesByCopy mergeRow key rows entries (mergeIntoEntries (identified mergeRow) entries rows) := by
  unfold TouchesByCopy
  rw [mergeIntoEntries_get once]
  split
  · rfl
  · simp [identified, body_applyRowIdentityInvariants]

theorem mergeWindowRowsInPlace_touches {rows : List (Entry Card)} {key : String} (once : NamedOnce rows key)
    (window : WindowDraft Card) :
    TouchesByCopy mergeRow key rows window.entries (mergeWindowRowsInPlace mergeRow window rows).entries := by
  unfold mergeWindowRowsInPlace
  split
  · unfold mergeKeyedRowsLinearly
    dsimp only
    rw [mergeAscending_entries]
    split
    · exact identified_touches mergeRow once _
    · have perm := (List.mergeSort_perm rows fun left right => decide (left.orderSeq.getD 0 ≤ right.orderSeq.getD 0)).symm
      have touched := identified_touches mergeRow (once.perm perm) window.entries
      unfold TouchesByCopy at *
      rw [copyIn_perm once perm]
      exact touched
  · rw [mergeRowByRow_entries]
    exact identified_touches mergeRow once _

variable (mergeRow) in
theorem reconcileAuthoritativeTail_touches {rows : List (Entry Card)} {key : String} (once : NamedOnce rows key)
    (window : WindowDraft Card) :
    TouchesByCopy mergeRow key (rows.filter fun entry => (transcriptRowKey entry).isSome) window.entries
      (reconcileAuthoritativeTail mergeRow window rows).1.entries := by
  have still : NamedOnce (rows.filter fun entry => (transcriptRowKey entry).isSome) key := by
    unfold NamedOnce at *
    rw [List.filter_filter]
    refine Nat.le_trans (List.Sublist.length_le (List.monotone_filter_right rows fun row both => ?_)) once
    rw [Bool.and_eq_true] at both
    exact both.1
  unfold reconcileAuthoritativeTail
  dsimp only
  split
  · exact mergeWindowRowsInPlace_touches still window
  · exact mergeIntoEntries_touches still window.entries

end Merges

section Cut

variable (text : Text)

/-- There is a text, and it is not the beginning of the row's. -/
def Cut (held : Option Text) : Prop := ∃ t, held = some t ∧ ¬t <+: text

/-- A body marked full has the beginning of the row's text. -/
def Body.Faithful (body : Body) : Prop := body.contentState = .full → ¬Cut text body.text

theorem Body.Faithful.grown {text grown : Text} (grows : text <+: grown) {body : Body} (faithful : body.Faithful text) :
    body.Faithful grown := by
  intro full ⟨t, is_text, cut⟩
  exact faithful full ⟨t, is_text, fun held => cut (held.trans grows)⟩

/-- How far a text reaches; a missing one reaches nowhere. -/
def reach : Option Text → Nat
  | none => 0
  | some t => t.length + 1

/-- The delta goes on from the beginning of the row's text. -/
def Continues (delta : Text) (start : Nat) : Prop := start ≤ text.length ∧ text.take start ++ delta <+: text

def BodyMove.Genuine : BodyMove → Prop
  | .append delta (some start) => Continues text delta start
  | _ => True

/-- The step marks a cut text full: a cut copy marked full is taken, a full copy leaves a longer cut text in place, a cut
copy replaces a shorter full text, a delta is appended to a cut text, or one without an offset is appended where it does
not go on. -/
def BodyMove.promotesCut (held : Option Body) : BodyMove → Prop
  | .copy incoming =>
    let before := held.getD { text := none, contentState := .omitted }
    incoming.contentState = .full ∧ Cut text incoming.text ∧ reach before.text ≤ reach incoming.text ∨
      incoming.contentState = .full ∧ before.contentState ≠ .full ∧ Cut text before.text ∧
        reach incoming.text < reach before.text ∨
      before.contentState = .full ∧ incoming.contentState ≠ .full ∧ Cut text incoming.text ∧
        reach before.text < reach incoming.text
  | .append delta (some start) =>
    ∃ before ∈ held, before.contentState ≠ .full ∧ Cut text before.text ∧
      ∃ added ≠ [], resolveDeltaAppend (before.text.getD []) delta (some start) = some added
  | .append delta none =>
    match held with
    | none => ¬delta <+: text
    | some before => delta ≠ [] ∧ ¬before.text.getD [] ++ delta <+: text

variable {text}

theorem mergeBody_full (held incoming : Body) :
    (mergeBody held incoming).contentState = .full ↔ held.contentState = .full ∨ incoming.contentState = .full :=
  rankToContentState_max_eq_full _ _

theorem mergeBody_text (held incoming : Body) :
    (mergeBody held incoming).text =
      if reach incoming.text < reach held.text ∨
        reach incoming.text = reach held.text ∧ held.contentState = .full ∧ incoming.contentState ≠ .full
      then held.text else incoming.text := by
  obtain ⟨held_text, held_state⟩ := held
  obtain ⟨text, state⟩ := incoming
  unfold mergeBody reach
  cases text with
  | none => cases held_text <;> simp
  | some t =>
    cases held_text with
    | none => simp
    | some h =>
      dsimp only
      rw [selectTranscriptText_some]
      simp only [Nat.add_lt_add_iff_right, Nat.add_right_cancel_iff, decide_eq_true_eq, Bool.not_eq_true',
        decide_eq_false_iff_not]

theorem mergeBody_faithful_iff {held incoming : Body} (before : held.Faithful text) :
    (mergeBody held incoming).Faithful text ↔ ¬(BodyMove.copy incoming).promotesCut text (some held) := by
  unfold Body.Faithful BodyMove.promotesCut at *
  rw [mergeBody_full, mergeBody_text]
  dsimp only [Option.getD_some]
  split
  · rename_i kept
    by_cases full : incoming.contentState = .full
    · by_cases was_full : held.contentState = .full
      · have low : ¬reach held.text ≤ reach incoming.text := by
          rcases kept with lower | ⟨-, -, not_full⟩
          · omega
          · exact absurd full not_full
        simp [full, was_full, before was_full, low]
      · have low : reach incoming.text < reach held.text := by
          rcases kept with lower | ⟨-, was, -⟩
          · exact lower
          · exact absurd was was_full
        have not_high : ¬reach held.text ≤ reach incoming.text := by omega
        simp [full, was_full, low, not_high]
    · by_cases was_full : held.contentState = .full
      · have not_high : ¬reach held.text < reach incoming.text := by
          rcases kept with lower | ⟨same, -⟩ <;> omega
        simp [full, was_full, before was_full, not_high]
      · simp [full, was_full]
  · rename_i taken
    rw [not_or] at taken
    by_cases full : incoming.contentState = .full
    · have high : reach held.text ≤ reach incoming.text := by omega
      have not_low : ¬reach incoming.text < reach held.text := taken.1
      simp [full, high, not_low]
    · by_cases was_full : held.contentState = .full
      · have high : reach held.text < reach incoming.text := by
          have differ : reach incoming.text ≠ reach held.text := fun same => taken.2 ⟨same, was_full, full⟩
          omega
        simp [full, was_full, high]
      · simp [full, was_full]

theorem appended_begins {have_ added delta : Text} {start : Nat} (held : have_ <+: text)
    (inside : start ≤ have_.length) (grown : have_ ++ added = have_.take start ++ delta)
    (continues : text.take start ++ delta <+: text) : have_ ++ added <+: text := by
  obtain ⟨rest, is_text⟩ := held
  have same : have_.take start = text.take start := by
    rw [← is_text, List.take_append_of_le_length inside]
  rw [grown, same]
  exact continues

theorem appendBody_faithful_iff {held : Option Body} (before : ∀ body ∈ held, body.Faithful text) {delta : Text}
    {start : Nat} (continues : Continues text delta start) :
    (appendBody held delta (some start)).Faithful text ↔
      ¬(BodyMove.append delta (some start)).promotesCut text held := by
  obtain ⟨-, goes_on⟩ := continues
  unfold appendBody BodyMove.promotesCut
  cases held with
  | none =>
    simp only [Option.mem_def, reduceCtorEq, false_and, exists_false, not_false_eq_true, iff_true]
    intro full
    split at full
    · rename_i starts
      have zero : start = 0 := by simpa using starts
      subst zero
      rintro ⟨t, same, cut⟩
      rw [if_pos starts] at same
      cases same
      exact cut (by simpa using goes_on)
    · cases full
  | some body =>
    dsimp only
    have at_hand := before body rfl
    cases placed : resolveDeltaAppend (body.text.getD []) delta (some start) with
    | none =>
      have never : ¬∃ before ∈ some body, before.contentState ≠ .full ∧ Cut text before.text ∧
          ∃ added ≠ [], resolveDeltaAppend (before.text.getD []) delta (some start) = some added := by
        rintro ⟨other, member, -, -, added, -, same⟩
        cases member
        rw [placed] at same
        cases same
      refine ⟨fun _ => never, fun _ full => ?_⟩
      cases full
    | some added =>
      cases added with
      | nil =>
        have never : ¬∃ before ∈ some body, before.contentState ≠ .full ∧ Cut text before.text ∧
            ∃ added ≠ [], resolveDeltaAppend (before.text.getD []) delta (some start) = some added := by
          rintro ⟨other, member, -, -, added, some_text, same⟩
          cases member
          rw [placed] at same
          exact some_text (Option.some.inj same).symm
        exact ⟨fun _ => never, fun _ => at_hand⟩
      | cons unit rest =>
        obtain ⟨inside, grown⟩ := resolveDeltaAppend_places placed (List.cons_ne_nil unit rest)
        dsimp only
        constructor
        · rintro faithful ⟨other, member, -, ⟨t, is_text, cut⟩, -⟩
          cases member
          refine faithful rfl ⟨_, rfl, fun extended => cut ?_⟩
          rw [is_text] at extended
          exact (List.prefix_append t (unit :: rest)).trans extended
        · intro kept _
          have uncut : ¬Cut text body.text := by
            intro cut
            by_cases full : body.contentState = .full
            · exact at_hand full cut
            · exact kept ⟨body, rfl, full, cut, unit :: rest, List.cons_ne_nil unit rest, placed⟩
          have begins : body.text.getD [] <+: text := by
            cases is_text : body.text with
            | none => exact List.nil_prefix
            | some t =>
              by_contra cut
              exact uncut ⟨t, is_text, cut⟩
          rintro ⟨t, same, cut⟩
          cases same
          exact cut (appended_begins begins inside grown goes_on)

theorem appendBody_unplaced_iff {held : Option Body} (before : ∀ body ∈ held, body.Faithful text) (delta : Text) :
    (appendBody held delta none).Faithful text ↔ ¬(BodyMove.append delta none).promotesCut text held := by
  unfold appendBody BodyMove.promotesCut
  cases held with
  | none => simp [Body.Faithful, Cut]
  | some body =>
    have at_hand := before body rfl
    cases delta with
    | nil => simpa [resolveDeltaAppend] using at_hand
    | cons unit rest => simp [resolveDeltaAppend, Body.Faithful, Cut]

/-- A step from a faithful body leaves a faithful one exactly when it marks no cut text full. -/
theorem BodyMove.faithful_iff {held : Option Body} (before : ∀ body ∈ held, body.Faithful text) {move : BodyMove}
    (genuine : move.Genuine text) : (move.apply held).Faithful text ↔ ¬move.promotesCut text held := by
  cases move with
  | append delta offset =>
    cases offset with
    | none => exact appendBody_unplaced_iff before delta
    | some start => exact appendBody_faithful_iff before genuine
  | copy incoming =>
    cases held with
    | some body => exact mergeBody_faithful_iff (before body rfl)
    | none =>
      unfold BodyMove.apply BodyMove.promotesCut Body.Faithful reach
      simp [Cut]

theorem reach_le_of_not_cut {held : Option Text} (uncut : ¬Cut text held) : reach held ≤ text.length + 1 := by
  cases held with
  | none => exact Nat.zero_le _
  | some t =>
    have begins : t <+: text := by
      by_contra cut
      exact uncut ⟨t, rfl, cut⟩
    exact Nat.succ_le_succ begins.length_le

variable (text) in
/-- The body with the whole text. -/
def Body.whole : Body where
  text := some text
  contentState := .full

/-- A full copy of the whole text is taken, unless it marks a cut text full. -/
theorem copy_whole {held : Option Body} (before : ∀ body ∈ held, body.Faithful text)
    (kept : ¬(BodyMove.copy (Body.whole text)).promotesCut text held) :
    (BodyMove.copy (Body.whole text)).apply held = Body.whole text := by
  cases held with
  | none => rfl
  | some body =>
    have full : (mergeBody body (Body.whole text)).contentState = .full := (mergeBody_full _ _).mpr (.inr rfl)
    have taken : ¬(reach (Body.whole text).text < reach body.text ∨ reach (Body.whole text).text = reach body.text ∧
        body.contentState = .full ∧ (Body.whole text).contentState ≠ .full) := by
      rintro (longer | ⟨-, -, not_full⟩)
      · by_cases was_full : body.contentState = .full
        · have short := reach_le_of_not_cut (before body rfl was_full)
          have far : reach (Body.whole text).text = text.length + 1 := rfl
          omega
        · refine kept (.inr (.inl ⟨rfl, was_full, ?_, longer⟩))
          by_contra uncut
          have short := reach_le_of_not_cut uncut
          have far : reach (Body.whole text).text = text.length + 1 := rfl
          dsimp only [Option.getD_some] at short
          omega
      · exact not_full rfl
    have same := mergeBody_text body (Body.whole text)
    rw [if_neg taken] at same
    show mergeBody body (Body.whole text) = Body.whole text
    exact Body.ext same full

end Cut

end Sealwire.Hydration

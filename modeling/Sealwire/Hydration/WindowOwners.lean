import Sealwire.Hydration.WindowRuns

namespace Sealwire.Hydration

variable {Card : Type} {c : CardBodies Card}

/-- Every payload that went into a window is of the thread and run the window is recorded for. -/
structure Owned (τ : Traced Card) : Prop where
  live : ∀ source ∈ τ.past.sources, τ.state.isFor source
  kept : ∀ threadId stash, τ.state.threadCache.get threadId = some stash → ∀ source ∈ (τ.kept threadId).sources,
    some threadId = source.threadId ∧ sameGeneration stash.generation source.generation = true

def HydrationState.sessionSource (state : HydrationState Card) : Source where
  threadId := state.session.bind (·.activeThreadId)
  generation := state.session.bind (·.transcriptGeneration)

/-- What the callers check before they write: a page, an answer and a delta against the session, a delta also against
the window, and a pin after the window was switched to its thread. -/
def WindowMove.admitted (state : HydrationState Card) : WindowMove Card → Prop
  | .page _ read _ =>
    read.threadId.isSome = true ∧ read.threadId = state.sessionSource.threadId ∧
      sameGeneration state.sessionSource.generation read.transcriptGeneration = true
  | .recovered _ answer _ _ =>
    (∀ threadId, truthy answer.threadId = some threadId → state.threadId = some threadId) ∧
      sameGeneration state.sessionSource.generation answer.transcriptGeneration = true
  | .delta event =>
    (∀ threadId, truthy event.threadId = some threadId → state.sessionSource.threadId = some threadId) ∧
      sameGeneration state.sessionSource.generation event.transcriptGeneration = true ∧
      transcriptWindowIsLoaded state state.sessionSource.threadId = true
  | .adopt _ snapshot => state.threadId = snapshot.activeThreadId
  | _ => True

/-- A page is merged into a window recorded for the session's thread and run, and an answer into one of its run. -/
def WindowMove.intoOwnWindow (state : HydrationState Card) : WindowMove Card → Prop
  | .page _ _ _ => state.isFor state.sessionSource
  | .recovered _ _ _ _ => sameGeneration state.generation state.sessionSource.generation = true
  | _ => True

theorem sameGeneration_comm {a b : Option String} : sameGeneration a b = true ↔ sameGeneration b a = true := by
  unfold sameGeneration
  simp only [decide_eq_true_eq]
  exact eq_comm

theorem sameGeneration_trans {a b c : Option String} (first : sameGeneration a b = true)
    (second : sameGeneration b c = true) : sameGeneration a c = true := by
  unfold sameGeneration at *
  simp only [decide_eq_true_eq] at *
  exact first.trans second

theorem Owned.becomes {τ : Traced Card} (owned : Owned τ) {next : HydrationState Card} (step : InWindow τ.state next)
    {source : Option Source} (own : ∀ came ∈ source, τ.state.isFor came) : Owned (τ.becomes next source) where
  live came member := by
    have same (other : Source) (is_for : τ.state.isFor other) : next.isFor other :=
      ⟨step.threadId.trans is_for.1, step.generation ▸ is_for.2⟩
    rcases List.mem_append.mp member with now | before
    · exact same came (own came (Option.mem_toList.mp now))
    · exact same came (owned.live came before)
  kept threadId stash at_thread := owned.kept threadId stash (step.threadCache ▸ at_thread)

theorem Owned.empties {τ : Traced Card} (owned : Owned τ) {next : HydrationState Card}
    (threadCache : ∀ threadId stash, next.threadCache.get threadId = some stash →
      τ.state.threadCache.get threadId = some stash) : Owned (τ.empties next) where
  live came member := by cases member
  kept threadId stash at_thread := owned.kept threadId stash (threadCache threadId stash at_thread)

/-- A snapshot that leaves rows in the window found it recorded for its thread and run. -/
theorem takeSnapshot_isFor {now : Nat} {state : HydrationState Card} {snapshot : SessionSnapshot Card}
    {signature : String} (some_rows : (takeSnapshot c now state snapshot signature).order ≠ []) :
    state.isFor snapshot.source := by
  unfold takeSnapshot at some_rows
  dsimp only at some_rows
  split at some_rows
  · rename_i merges
    simp only [Bool.and_eq_true, decide_eq_true_eq] at merges
    exact ⟨merges.1.2, merges.1.1⟩
  split at some_rows
  · exact absurd rfl some_rows
  · rename_i same_thread
    simp only [Bool.or_eq_true, Bool.not_eq_true', not_or, Bool.not_eq_false, Bool.and_eq_true,
      decide_eq_true_eq] at same_thread
    exact ⟨same_thread.1.2, same_thread.1.1⟩

theorem Owned.prepare {τ : Traced Card} (owned : Owned τ) (ok : τ.state.WindowOk) (now : Nat)
    {snapshot : SessionSnapshot Card} (once : (tailIds snapshot).Nodup) : Owned (τ.prepare c now snapshot) := by
  have took := prepareTranscriptHydration_took (c := c) now ok once
  unfold Traced.prepare
  dsimp only
  split
  · rename_i passes
    have same : (prepareTranscriptHydration c now τ.state snapshot).1 = τ.state := by
      unfold prepareTranscriptHydration
      rw [if_pos passes]
    rw [same]
    exact owned.becomes (.of_same (.refl _) ok) (by simp)
  rename_i hydrates
  split
  · cases took with
    | inside step => exact owned.empties fun threadId stash => by rw [step.threadCache]; exact id
    | rebuilt emptied => exact owned.empties fun threadId stash => by rw [emptied.threadCache]; exact id
  · rename_i some_rows
    cases took with
    | rebuilt emptied => exact absurd emptied.order some_rows
    | inside step =>
      refine owned.becomes step fun came at_came => ?_
      cases at_came
      unfold prepareTranscriptHydration at some_rows
      rw [if_neg hydrates] at some_rows
      dsimp only at some_rows
      split at some_rows
      · exact takeSnapshot_isFor some_rows
      · exact takeSnapshot_isFor some_rows

theorem Owned.adopt {τ : Traced Card} (owned : Owned τ) (ok : τ.state.WindowOk) (now : Nat)
    {snapshot : SessionSnapshot Card} (switched : τ.state.threadId = snapshot.activeThreadId) :
    Owned (τ.adopt c now snapshot) := by
  unfold Traced.adopt
  dsimp only
  split
  · rename_i adopts
    have adopted := adoptViewOnlyTranscript_adopted (c := c) now ok adopts
    have thread : (τ.state.adopting snapshot).threadId = snapshot.activeThreadId := by
      unfold HydrationState.adopting
      split
      · exact switched
      · rfl
    refine ⟨fun came member => ⟨?_, ?_⟩, fun threadId stash at_thread => ?_⟩
    · show (adoptViewOnlyTranscript c now τ.state snapshot).threadId = _
      rw [adopted.threadId, thread]
      rcases List.mem_append.mp member with pinned | before
      · obtain ⟨pin, at_pin, rfl⟩ := Option.map_eq_some_iff.mp (Option.mem_toList.mp pinned)
        simp only [HydrationState.adopts, at_pin, Option.any_some, Bool.and_eq_true, decide_eq_true_eq] at adopts
        exact adopts.1.2.symm
      · split at before
        · exact switched.symm.trans (owned.live came before).1
        · cases before
    · show sameGeneration (adoptViewOnlyTranscript c now τ.state snapshot).generation _ = true
      rw [adopted.generation]
      rcases List.mem_append.mp member with pinned | before
      · obtain ⟨pin, at_pin, rfl⟩ := Option.map_eq_some_iff.mp (Option.mem_toList.mp pinned)
        simp only [HydrationState.adopts, at_pin, Option.any_some, Bool.and_eq_true, decide_eq_true_eq] at adopts
        exact sameGeneration_comm.mp adopts.2
      · split at before
        · rename_i same_run
          exact sameGeneration_trans (sameGeneration_comm.mp same_run) (owned.live came before).2
        · cases before
    · have kept := owned.kept threadId stash (adopted.threadCache ▸ at_thread)
      split
      · exact kept
      · exact kept
  · rename_i declines
    rw [adoptViewOnlyTranscript_declines now (by simpa using declines)]
    exact owned.becomes (.of_same (.refl _) ok) (by simp)

theorem Owned.switch {τ : Traced Card} (owned : Owned τ) (nextThreadId : Option String) :
    Owned (τ.switch nextThreadId) := by
  have left (threadId : String) (stash : Stash Card)
      (still : (stashTranscriptHydrationForThread τ.state).threadCache.get threadId = some stash) :
      ∀ source ∈ ((τ.switch nextThreadId).kept threadId).sources,
        some threadId = source.threadId ∧ sameGeneration stash.generation source.generation = true := by
    unfold Traced.switch
    dsimp only
    rcases get_stash still with ⟨named, some_rows, rfl⟩ | ⟨other, there⟩
    · rw [named]
      dsimp only
      rw [if_neg some_rows, Function.update_self]
      intro source member
      have own := owned.live source member
      refine ⟨?_, own.2⟩
      rw [← own.1]
      exact (Option.filter_eq_some_iff.mp named).1.symm
    · have kept := owned.kept threadId stash there
      split
      · rename_i current at_current
        split
        · exact kept
        · rename_i some_rows
          rw [Function.update_of_ne]
          · exact kept
          · rintro rfl
            exact some_rows (other at_current)
      · exact kept
  obtain ⟨cached, window⟩ :=
    restoreTranscriptHydrationForThread_window (stashTranscriptHydrationForThread τ.state) nextThreadId
  refine ⟨fun source member => ?_, fun threadId stash at_thread => left threadId stash (cached threadId ▸ at_thread)⟩
  split at window
  · rename_i id at_id
    obtain ⟨stash, there, -, -, -, thread, run⟩ := window
    have kept := left id stash there source
    unfold Traced.switch at member kept ⊢
    dsimp only at member kept ⊢
    rw [at_id] at member
    unfold HydrationState.isFor
    rw [thread, run]
    exact kept member
  · rename_i at_none
    unfold Traced.switch at member
    dsimp only at member
    rw [at_none] at member
    cases member

theorem Owned.step {τ : Traced Card} (owned : Owned τ) (ok : τ.state.WindowOk) {move : WindowMove Card}
    (once : move.namesOnce) (admitted : move.admitted τ.state) (own : move.intoOwnWindow τ.state) :
    Owned (τ.step c move) := by
  cases move with
  | prepare now snapshot => exact owned.prepare ok now once
  | restore now snapshot =>
    refine owned.becomes (restoreHydratedTranscriptSnapshot_window now ok once) fun came at_came => ?_
    split at at_came
    · rename_i is_for
      cases at_came
      exact is_for
    · cases at_came
  | page now page prepend =>
    refine owned.becomes (mergeTranscriptHydrationPage_window now ok page prepend) fun came at_came => ?_
    cases at_came
    exact ⟨own.1.trans admitted.2.1.symm, sameGeneration_trans own.2 admitted.2.2⟩
  | recovered now page requestedIds bodyRevision =>
    refine owned.becomes (mergeRecoveredTranscriptRows_window now ok page requestedIds bodyRevision)
      fun came at_came => ?_
    cases at_came
    refine ⟨?_, sameGeneration_trans own admitted.2⟩
    cases named : truthy page.threadId with
    | none => simp [HydrationState.answerSource, named]
    | some threadId =>
      have thread := admitted.1 threadId named
      simp [HydrationState.answerSource, named, thread]
  | delta delta =>
    refine owned.becomes (applyTranscriptDeltaToWindow_window ok delta) fun came at_came => ?_
    cases at_came
    obtain ⟨thread, run, loaded⟩ := admitted
    simp only [transcriptWindowIsLoaded, Bool.and_eq_true, decide_eq_true_eq] at loaded
    refine ⟨?_, sameGeneration_trans loaded.1.2 run⟩
    rw [loaded.1.1.2]
    cases named : truthy delta.threadId with
    | none => simp [HydrationState.deltaSource, HydrationState.sessionSource, named]
    | some threadId => simp [HydrationState.deltaSource, named, thread threadId named]
  | entryPatch threadId patchedEntry =>
    exact owned.becomes (invalidateTranscriptWindowEntryForPatch_window ok threadId patchedEntry) (by simp)
  | needsRepair => exact owned.becomes (markTranscriptWindowNeedsRepair_window ok) (by simp)
  | switch nextThreadId => exact owned.switch nextThreadId
  | adopt now snapshot => exact owned.adopt ok now admitted
  | session session => exact ⟨owned.live, owned.kept⟩
  | pin viewOnlyThread => exact ⟨owned.live, owned.kept⟩
  | clear => exact owned.empties fun threadId stash at_thread => by cases at_thread

/-- In any run the order lists the rows held, a proven window is in number order, and a row keeps its withdrawal and
its first number; where pages and answers are merged into the session's own window, every window holds the rows of one
thread and run. -/
theorem window_keeps_its_order_and_its_owner {state : HydrationState Card} {τ : Traced Card}
    (reached : Reaches (Traced.step c) (fun _ move => move.namesOnce) (.cleared state) τ) :
    Sound τ ∧
      (Reaches (Traced.step c) (fun τ move => move.namesOnce ∧ move.admitted τ.state ∧ move.intoOwnWindow τ.state)
        (.cleared state) τ → Owned τ) := by
  refine ⟨reached.invariant (.cleared state) fun τ move sound once => sound.step once, fun careful => ?_⟩
  have both := careful.invariant (P := fun τ => Sound τ ∧ Owned τ)
    ⟨.cleared state, ⟨fun came member => (by cases member), fun threadId stash at_thread => (by cases at_thread)⟩⟩
    fun τ move holds may =>
      ⟨holds.1.step may.1, holds.2.step holds.1.ok.window may.1 may.2.1 may.2.2⟩
  exact both.2

/-- Rows without cards. -/
def noCards : CardBodies Empty where
  combineCardBodies card _ := card
  textClipped := nofun
  withTextClipped card _ := card
  stringifyInjection _ := "null"
  stringifyTool _ := "null"

def finishedRow (rowId : String) : Entry Empty where
  rowId := some rowId
  itemId := none
  kind := "agent_text"
  text := some (utf16 "done")
  status := "completed"
  turnId := none
  tool := none
  contentState := .full
  entrySeq := none
  orderSeq := some 1
  withdrawn := false
  injection := none

def snapshotOf (run : String) (truncated : Bool) (rowId : String) : SessionSnapshot Empty where
  activeThreadId := some "thread"
  activeTurnId := none
  transcriptRevision := some 1
  transcriptGeneration := some run
  transcriptTruncated := truncated
  transcript := [finishedRow rowId]

def latestPage (run rowId : String) : TranscriptPage Empty where
  threadId := some "thread"
  entries := [finishedRow rowId]
  prevCursor := none
  revision := some 1
  transcriptGeneration := some run
  missingRows := []
  deferredRows := []

/-- A window read in one run of the relay. -/
def firstRunMoves : List (WindowMove Empty) :=
  [.session (some (snapshotOf "run 1" true "old")), .prepare 0 (snapshotOf "run 1" true "old"),
    .page 0 (latestPage "run 1" "old") false]

/-- The relay restarts, and a page is read for the session of the new run. -/
def restartedRelayMoves : List (WindowMove Empty) :=
  firstRunMoves ++
    [.session (some (snapshotOf "run 2" false "new")), .page 0 (latestPage "run 2" "new") false]

def mixedWindow : Traced Empty := restartedRelayMoves.foldl (Traced.step noCards) (.cleared .fresh)

theorem mixedWindow_reached :
    Reaches (Traced.step noCards) (fun τ move => move.namesOnce ∧ move.admitted τ.state) (.cleared .fresh)
      mixedWindow := by
  have may : MayRun (Traced.step noCards) (fun τ move => move.namesOnce ∧ move.admitted τ.state)
      (.cleared .fresh) restartedRelayMoves := by
    refine ⟨⟨trivial, trivial⟩, ⟨?_, trivial⟩, ⟨trivial, ?_⟩, ⟨trivial, trivial⟩, ⟨trivial, ?_⟩, trivial⟩
    · show (tailIds (snapshotOf "run 1" true "old")).Nodup
      decide
    · exact ⟨rfl, rfl, rfl⟩
    · exact ⟨rfl, rfl, rfl⟩
  exact .foldl may

theorem page_of_a_new_run_joins_the_old_window :
    Reaches (Traced.step noCards) (fun τ move => move.namesOnce ∧ move.admitted τ.state) (.cleared .fresh)
        mixedWindow ∧
      mixedWindow.state.order = ["old", "new"] ∧ mixedWindow.state.generation = some "run 1" ∧ ¬Owned mixedWindow := by
  refine ⟨mixedWindow_reached, rfl, rfl, fun owned => ?_⟩
  have own := (owned.live (latestPage "run 2" "new").source (List.mem_cons_self ..)).2
  exact absurd own (by decide)

theorem first_run_keeps_its_order_and_its_owner :
    Sound (firstRunMoves.foldl (Traced.step noCards) (.cleared .fresh)) ∧
      Owned (firstRunMoves.foldl (Traced.step noCards) (.cleared .fresh)) := by
  have may : MayRun (Traced.step noCards)
      (fun τ move => move.namesOnce ∧ move.admitted τ.state ∧ move.intoOwnWindow τ.state) (.cleared .fresh)
      firstRunMoves := by
    refine ⟨⟨trivial, trivial, trivial⟩, ⟨?_, trivial, trivial⟩, ⟨trivial, ⟨rfl, rfl, rfl⟩, rfl, rfl⟩, trivial⟩
    show (tailIds (snapshotOf "run 1" true "old")).Nodup
    decide
  have careful := Reaches.foldl may
  have both := window_keeps_its_order_and_its_owner (careful.mono fun _ _ may => may.1)
  exact ⟨both.1, both.2 careful⟩

end Sealwire.Hydration

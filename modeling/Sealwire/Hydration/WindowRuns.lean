import Sealwire.Hydration.WindowSteps
import Sealwire.Lib.Runs

namespace Sealwire.Hydration

variable {Card : Type} (c : CardBodies Card)

/-- Where rows come from: a thread, in a run of the relay. -/
structure Source where
  threadId : Option String
  generation : Option String

def SessionSnapshot.source (snapshot : SessionSnapshot Card) : Source where
  threadId := snapshot.activeThreadId
  generation := snapshot.transcriptGeneration

def TranscriptPage.source (page : TranscriptPage Card) : Source where
  threadId := page.threadId
  generation := page.transcriptGeneration

/-- What went into a window since it was last empty: whose rows, and every copy held under a key. -/
structure Past (Card : Type) where
  sources : List Source
  held : String → List (Entry Card)

def Past.none : Past Card where
  sources := []
  held _ := []

/-- One more payload, and the rows as it left them. -/
def Past.then (past : Past Card) (source : Option Source) (entries : Entries Card) : Past Card where
  sources := source.toList ++ past.sources
  held key := (entries.get key).toList ++ past.held key

/-- The client's state, with the past of its window and of the windows it keeps. -/
structure Traced (Card : Type) where
  state : HydrationState Card
  past : Past Card
  kept : String → Past Card

def Traced.becomes (τ : Traced Card) (next : HydrationState Card) (source : Option Source) : Traced Card where
  state := next
  past := τ.past.then source next.entries
  kept := τ.kept

def Traced.empties (τ : Traced Card) (next : HydrationState Card) : Traced Card where
  state := next
  past := .none
  kept := τ.kept

inductive WindowMove (Card : Type)
  | prepare (now : Nat) (snapshot : SessionSnapshot Card)
  | restore (now : Nat) (snapshot : SessionSnapshot Card)
  | page (now : Nat) (page : TranscriptPage Card) (prepend : Bool)
  | recovered (now : Nat) (page : TranscriptPage Card) (requestedIds : List String) (bodyRevision : Option Nat)
  | delta (delta : TranscriptDelta)
  | entryPatch (threadId : Option String) (patchedEntry : Entry Card)
  | needsRepair
  | switch (nextThreadId : Option String)
  | adopt (now : Nat) (snapshot : SessionSnapshot Card)
  | session (session : Option (SessionSnapshot Card))
  | pin (viewOnlyThread : Option (ViewOnlyThread Card))
  | clear

/-- The window is recorded for this thread and run. -/
def HydrationState.isFor (state : HydrationState Card) (source : Source) : Prop :=
  state.threadId = source.threadId ∧ sameGeneration state.generation source.generation = true

instance (state : HydrationState Card) (source : Source) : Decidable (state.isFor source) :=
  inferInstanceAs (Decidable (_ ∧ _))

/-- The pin is of the snapshot's thread and run, and has rows. -/
def HydrationState.adopts (state : HydrationState Card) (snapshot : SessionSnapshot Card) : Bool :=
  state.viewOnlyThread.any fun pin =>
    decide (pin.entries ≠ []) && decide (some pin.threadId = snapshot.activeThreadId) &&
      sameGeneration pin.relayGeneration snapshot.transcriptGeneration

def ViewOnlyThread.source (pin : ViewOnlyThread Card) : Source where
  threadId := some pin.threadId
  generation := pin.relayGeneration

def Traced.prepare (τ : Traced Card) (now : Nat) (snapshot : SessionSnapshot Card) : Traced Card :=
  let next := (prepareTranscriptHydration c now τ.state snapshot).1
  if snapshot.activeThreadId.isNone || !snapshot.transcriptTruncated then τ.becomes next none
  else if next.order = [] then τ.empties next
  else τ.becomes next (some snapshot.source)

/-- A delta without a thread is the session's. -/
def HydrationState.deltaSource (state : HydrationState Card) (delta : TranscriptDelta) : Source where
  threadId := (truthy delta.threadId).or (state.session.bind (·.activeThreadId))
  generation := delta.transcriptGeneration

/-- An answer to a request for rows need not name its thread. -/
def HydrationState.answerSource (state : HydrationState Card) (page : TranscriptPage Card) : Source where
  threadId := (truthy page.threadId).or state.threadId
  generation := page.transcriptGeneration

def Traced.switch (τ : Traced Card) (nextThreadId : Option String) : Traced Card :=
  let kept := match truthy τ.state.threadId with
    | some threadId => if τ.state.order = [] then τ.kept else Function.update τ.kept threadId τ.past
    | none => τ.kept
  let stashed := stashTranscriptHydrationForThread τ.state
  { state := restoreTranscriptHydrationForThread stashed nextThreadId
    past := match (truthy nextThreadId).filter stashed.threadCache.has with
      | some threadId => kept threadId
      | none => .none
    kept := kept }

def Traced.adopt (τ : Traced Card) (now : Nat) (snapshot : SessionSnapshot Card) : Traced Card :=
  let next := adoptViewOnlyTranscript c now τ.state snapshot
  if τ.state.adopts snapshot then
    let before := if sameGeneration τ.state.generation snapshot.transcriptGeneration then τ else τ.empties τ.state
    before.becomes next (τ.state.viewOnlyThread.map (·.source))
  else τ.becomes next none

/-- `clearTranscriptHydration`. -/
def HydrationState.forgotten (state : HydrationState Card) : HydrationState Card :=
  { state.cleared with threadCache := .empty }

def Traced.step (τ : Traced Card) : WindowMove Card → Traced Card
  | .prepare now snapshot => τ.prepare c now snapshot
  | .restore now snapshot =>
    τ.becomes (restoreHydratedTranscriptSnapshot c now τ.state snapshot).1
      (if τ.state.isFor snapshot.source then some snapshot.source else none)
  | .page now page prepend =>
    τ.becomes (mergeTranscriptHydrationPage c now τ.state page prepend) (some page.source)
  | .recovered now page requestedIds bodyRevision =>
    τ.becomes (mergeRecoveredTranscriptRows c now τ.state page requestedIds bodyRevision)
      (some (τ.state.answerSource page))
  | .delta delta => τ.becomes (applyTranscriptDeltaToWindow τ.state delta).1 (some (τ.state.deltaSource delta))
  | .entryPatch threadId patchedEntry =>
    τ.becomes (invalidateTranscriptWindowEntryForPatch τ.state threadId patchedEntry) none
  | .needsRepair => τ.becomes (markTranscriptWindowNeedsRepair τ.state) none
  | .switch nextThreadId => τ.switch nextThreadId
  | .adopt now snapshot => τ.adopt c now snapshot
  | .session session => { τ with state := { τ.state with session := session } }
  | .pin viewOnlyThread => { τ with state := { τ.state with viewOnlyThread := viewOnlyThread } }
  | .clear => τ.empties τ.state.forgotten

/-- A cleared window, and nothing kept. -/
def Traced.cleared (state : HydrationState Card) : Traced Card where
  state := state.forgotten
  past := .none
  kept _ := .none

/-- A snapshot names a row at most once. -/
def WindowMove.namesOnce : WindowMove Card → Prop
  | .prepare _ snapshot => (tailIds snapshot).Nodup
  | .restore _ snapshot => (tailIds snapshot).Nodup
  | _ => True

/-- The window a pin is merged into: the one at hand, or an empty one when that is of another run. -/
def HydrationState.adopting (state : HydrationState Card) (snapshot : SessionSnapshot Card) : HydrationState Card :=
  if sameGeneration state.generation snapshot.transcriptGeneration then state
  else { state.cleared with threadId := snapshot.activeThreadId }

/-- What a pin taken in leaves: its rows merged, and the snapshot's run recorded. -/
structure Adopted (state : HydrationState Card) (snapshot : SessionSnapshot Card) (next : HydrationState Card) : Prop where
  session : next.session = state.session
  threadId : next.threadId = (state.adopting snapshot).threadId
  generation : next.generation = snapshot.transcriptGeneration
  threadCache : next.threadCache = state.threadCache
  ok : next.WindowOk
  keeps : Keeps (state.adopting snapshot).entries next.entries

variable {c}

theorem adoptViewOnlyTranscript_adopted (now : Nat) {state : HydrationState Card} {snapshot : SessionSnapshot Card}
    (ok : state.WindowOk) (adopts : state.adopts snapshot = true) :
    Adopted state snapshot (adoptViewOnlyTranscript c now state snapshot) := by
  have window_ok : (state.adopting snapshot).WindowOk := by
    unfold HydrationState.adopting
    split
    · exact ok
    · exact .empty true
  have session : (state.adopting snapshot).session = state.session := by
    unfold HydrationState.adopting
    split
    · rfl
    · rfl
  have threadCache : (state.adopting snapshot).threadCache = state.threadCache := by
    unfold HydrationState.adopting
    split
    · rfl
    · rfl
  unfold HydrationState.adopts at adopts
  unfold adoptViewOnlyTranscript
  split
  · rename_i unpinned
    simp [unpinned] at adopts
  · rename_i pin pinned
    rw [pinned] at adopts
    simp only [Option.any_some, Bool.and_eq_true, decide_eq_true_eq] at adopts
    obtain ⟨⟨some_rows, thread⟩, run⟩ := adopts
    split
    · rename_i no_rows
      exact absurd no_rows some_rows
    · rw [if_neg (by simp [thread, run])]
      have merged := mergeTranscriptHydrationPage_window (c := c) now window_ok
      exact ⟨(merged _ _).session.trans session, (merged _ _).threadId, rfl, (merged _ _).threadCache.trans threadCache,
        (merged _ _).ok, (merged _ _).keeps⟩

theorem adoptViewOnlyTranscript_declines (now : Nat) {state : HydrationState Card} {snapshot : SessionSnapshot Card}
    (declines : state.adopts snapshot = false) : adoptViewOnlyTranscript c now state snapshot = state := by
  unfold HydrationState.adopts at declines
  unfold adoptViewOnlyTranscript
  split
  · rfl
  · rename_i pin pinned
    rw [pinned] at declines
    split
    · rfl
    · rename_i row rows is_rows
      rw [if_pos]
      simpa [is_rows, or_iff_not_imp_left] using declines

theorem get_retained {cache : InsertionMap String (Stash Card)} {threadId : String} {stash : Stash Card}
    (still : (retained cache).get threadId = some stash) : cache.get threadId = some stash := by
  unfold retained at still
  generalize cache.keys.take _ = oldest at still
  induction oldest generalizing cache with
  | nil => exact still
  | cons id rest ih =>
    have later := ih still
    rw [InsertionMap.get_delete] at later
    split at later
    · cases later
    · exact later

/-- What leaving a thread keeps of its window. -/
theorem get_stash {state : HydrationState Card} {threadId : String} {stash : Stash Card}
    (still : (stashTranscriptHydrationForThread state).threadCache.get threadId = some stash) :
    (truthy state.threadId = some threadId ∧ state.order ≠ [] ∧ stash = state.stash) ∨
      ((truthy state.threadId = some threadId → state.order = []) ∧ state.threadCache.get threadId = some stash) := by
  unfold stashTranscriptHydrationForThread at still
  split at still
  · rename_i unnamed
    exact .inr ⟨fun named => (by rw [unnamed] at named; cases named), still⟩
  · rename_i left at_left
    split at still
    · rename_i nothing
      exact .inr ⟨fun _ => nothing, still⟩
    · rename_i some_rows
      have there := get_retained still
      rw [InsertionMap.get_set] at there
      split at there
      · rename_i same
        exact .inl ⟨same ▸ at_left, some_rows, (Option.some.inj there).symm⟩
      · rename_i other
        rw [InsertionMap.get_delete, if_neg other] at there
        refine .inr ⟨fun named => ?_, there⟩
        rw [at_left] at named
        exact absurd (Option.some.inj named).symm other

/-- The windows at hand and kept are sound, and hold every row they held since they were last empty. -/
structure Sound (τ : Traced Card) : Prop where
  ok : StateOk τ.state
  held : ∀ key, ∀ old ∈ τ.past.held key, ∃ row, τ.state.entries.get key = some row ∧ Kept old row
  kept : ∀ threadId stash, τ.state.threadCache.get threadId = some stash →
    ∀ key, ∀ old ∈ (τ.kept threadId).held key, ∃ row, stash.entries.get key = some row ∧ Kept old row

theorem Sound.becomes {τ : Traced Card} (sound : Sound τ) {next : HydrationState Card} (step : InWindow τ.state next)
    (source : Option Source) : Sound (τ.becomes next source) where
  ok :=
    { window := step.ok
      kept := fun threadId stash at_thread => sound.ok.kept threadId stash (step.threadCache ▸ at_thread) }
  held key old member := by
    rcases List.mem_append.mp member with now | before
    · rw [Option.mem_toList] at now
      exact ⟨old, now, .refl old⟩
    · obtain ⟨row, at_row, kept⟩ := sound.held key old before
      obtain ⟨after, at_after, later⟩ := step.keeps key row at_row
      exact ⟨after, at_after, kept.trans later⟩
  kept threadId stash at_thread := sound.kept threadId stash (step.threadCache ▸ at_thread)

theorem Sound.empties {τ : Traced Card} (sound : Sound τ) {next : HydrationState Card} (ok : next.WindowOk)
    (threadCache : ∀ threadId stash, next.threadCache.get threadId = some stash →
      τ.state.threadCache.get threadId = some stash) : Sound (τ.empties next) where
  ok :=
    { window := ok
      kept := fun threadId stash at_thread => sound.ok.kept threadId stash (threadCache threadId stash at_thread) }
  held key old member := by cases member
  kept threadId stash at_thread := sound.kept threadId stash (threadCache threadId stash at_thread)

theorem Sound.prepare {τ : Traced Card} (sound : Sound τ) (now : Nat) {snapshot : SessionSnapshot Card}
    (once : (tailIds snapshot).Nodup) : Sound (τ.prepare c now snapshot) := by
  have took := prepareTranscriptHydration_took (c := c) now sound.ok.window once
  unfold Traced.prepare
  dsimp only
  split
  · rename_i passes
    have same : (prepareTranscriptHydration c now τ.state snapshot).1 = τ.state := by
      unfold prepareTranscriptHydration
      rw [if_pos passes]
    rw [same]
    exact sound.becomes (.of_same (.refl _) sound.ok.window) none
  split
  · cases took with
    | inside step => exact sound.empties step.ok fun threadId stash => by rw [step.threadCache]; exact id
    | rebuilt emptied => exact sound.empties emptied.ok fun threadId stash => by rw [emptied.threadCache]; exact id
  · rename_i some_rows
    cases took with
    | inside step => exact sound.becomes step _
    | rebuilt emptied => exact absurd emptied.order some_rows

theorem Sound.adopt {τ : Traced Card} (sound : Sound τ) (now : Nat) (snapshot : SessionSnapshot Card) :
    Sound (τ.adopt c now snapshot) := by
  unfold Traced.adopt
  dsimp only
  split
  · rename_i adopts
    have adopted := adoptViewOnlyTranscript_adopted (c := c) now sound.ok.window adopts
    have keeps := adopted.keeps
    unfold HydrationState.adopting at keeps
    have cached (threadId : String) (stash : Stash Card)
        (at_thread : (adoptViewOnlyTranscript c now τ.state snapshot).threadCache.get threadId = some stash) :
        τ.state.threadCache.get threadId = some stash := adopted.threadCache ▸ at_thread
    refine
      { ok := ⟨adopted.ok, fun threadId stash at_thread => sound.ok.kept threadId stash (cached threadId stash at_thread)⟩
        held := fun key old member => ?_
        kept := fun threadId stash at_thread => ?_ }
    · rcases List.mem_append.mp member with here | before
      · rw [Option.mem_toList] at here
        exact ⟨old, here, .refl old⟩
      · split at before
        · rename_i same_run
          rw [if_pos same_run] at keeps
          obtain ⟨row, at_row, kept⟩ := sound.held key old before
          obtain ⟨after, at_after, later⟩ := keeps key row at_row
          exact ⟨after, at_after, kept.trans later⟩
        · cases before
    · have kept := sound.kept threadId stash (cached threadId stash at_thread)
      split
      · exact kept
      · exact kept
  · rename_i declines
    rw [adoptViewOnlyTranscript_declines now (by simpa using declines)]
    exact sound.becomes (.of_same (.refl _) sound.ok.window) none

/-- A thread shown again has the window kept for it, and an empty one when none is kept. -/
theorem restoreTranscriptHydrationForThread_window (state : HydrationState Card) (threadId : Option String) :
    let next := restoreTranscriptHydrationForThread state threadId
    (∀ id, next.threadCache.get id = state.threadCache.get id) ∧
      match (truthy threadId).filter state.threadCache.has with
      | some id => ∃ stash, state.threadCache.get id = some stash ∧ next.entries = stash.entries ∧
          next.order = stash.order ∧ next.keyed = stash.keyed ∧ next.threadId = some id ∧
          next.generation = stash.generation
      | none => next.entries = .empty ∧ next.order = [] := by
  dsimp only
  unfold restoreTranscriptHydrationForThread
  cases named : truthy threadId with
  | none => exact ⟨fun id => rfl, rfl, rfl⟩
  | some id =>
    cases there : state.threadCache.get id with
    | none =>
      have absent : state.threadCache.has id = false := by simp [InsertionMap.has, there]
      simp only [Option.bind_some, there, Option.map_none, Option.filter, absent]
      exact ⟨fun id => rfl, rfl, rfl⟩
    | some stash =>
      have present : state.threadCache.has id = true := by simp [InsertionMap.has, there]
      simp only [Option.bind_some, there, Option.map_some, Option.filter, present, if_true]
      refine ⟨fun other => ?_, stash, rfl, rfl, rfl, rfl, trivial, rfl⟩
      rw [InsertionMap.get_set]
      split
      · rename_i same
        rw [same, there]
      · rename_i other_id
        rw [InsertionMap.get_delete, if_neg other_id]

theorem Sound.switch {τ : Traced Card} (sound : Sound τ) (nextThreadId : Option String) :
    Sound (τ.switch nextThreadId) := by
  -- what is kept once the thread is left
  have left (threadId : String) (stash : Stash Card)
      (still : (stashTranscriptHydrationForThread τ.state).threadCache.get threadId = some stash) :
      stash.WindowOk ∧ ∀ key, ∀ old ∈ ((τ.switch nextThreadId).kept threadId).held key,
        ∃ row, stash.entries.get key = some row ∧ Kept old row := by
    unfold Traced.switch
    dsimp only
    rcases get_stash still with ⟨named, some_rows, rfl⟩ | ⟨other, there⟩
    · rw [named]
      dsimp only
      rw [if_neg some_rows, Function.update_self]
      exact ⟨sound.ok.window, sound.held⟩
    · refine ⟨sound.ok.kept threadId stash there, ?_⟩
      have kept := sound.kept threadId stash there
      split
      · rename_i current at_current
        split
        · exact kept
        · rename_i some_rows
          rw [Function.update_of_ne]
          · exact kept
          · rintro rfl
            exact some_rows (other at_current)
      · exact kept
  have window := restoreTranscriptHydrationForThread_window (stashTranscriptHydrationForThread τ.state) nextThreadId
  obtain ⟨cached, window⟩ := window
  refine
    { ok := ⟨?_, fun threadId stash at_thread => (left threadId stash (cached threadId ▸ at_thread)).1⟩
      held := ?_
      kept := fun threadId stash at_thread => (left threadId stash (cached threadId ▸ at_thread)).2 }
  · show Hydration.WindowOk _ _ _
    split at window
    · obtain ⟨stash, there, entries, order, keyed, -⟩ := window
      rw [show (τ.switch nextThreadId).state = _ from rfl]
      unfold Traced.switch
      dsimp only
      rw [entries, order, keyed]
      exact (left _ stash there).1
    · unfold Traced.switch
      dsimp only
      rw [window.1, window.2]
      exact .empty _
  · intro key old member
    split at window
    · rename_i id at_id
      obtain ⟨stash, there, entries, -⟩ := window
      have kept := (left id stash there).2 key old
      unfold Traced.switch at member kept ⊢
      dsimp only at member kept ⊢
      rw [at_id] at member
      rw [entries]
      exact kept member
    · rename_i at_none
      unfold Traced.switch at member
      dsimp only at member
      rw [at_none] at member
      cases member

theorem Sound.step {τ : Traced Card} (sound : Sound τ) {move : WindowMove Card} (once : move.namesOnce) :
    Sound (τ.step c move) := by
  have ok := sound.ok.window
  cases move with
  | prepare now snapshot => exact sound.prepare now once
  | restore now snapshot => exact sound.becomes (restoreHydratedTranscriptSnapshot_window now ok once) _
  | page now page prepend => exact sound.becomes (mergeTranscriptHydrationPage_window now ok page prepend) _
  | recovered now page requestedIds bodyRevision =>
    exact sound.becomes (mergeRecoveredTranscriptRows_window now ok page requestedIds bodyRevision) _
  | delta delta => exact sound.becomes (applyTranscriptDeltaToWindow_window ok delta) _
  | entryPatch threadId patchedEntry =>
    exact sound.becomes (invalidateTranscriptWindowEntryForPatch_window ok threadId patchedEntry) _
  | needsRepair => exact sound.becomes (markTranscriptWindowNeedsRepair_window ok) _
  | switch nextThreadId => exact sound.switch nextThreadId
  | adopt now snapshot => exact sound.adopt now snapshot
  | session session => exact ⟨⟨ok, sound.ok.kept⟩, sound.held, sound.kept⟩
  | pin viewOnlyThread => exact ⟨⟨ok, sound.ok.kept⟩, sound.held, sound.kept⟩
  | clear => exact sound.empties (.empty true) fun threadId stash at_thread => by cases at_thread

theorem Sound.cleared (state : HydrationState Card) : Sound (Traced.cleared state) where
  ok := ⟨.empty true, fun threadId stash at_thread => by cases at_thread⟩
  held key old member := by cases member
  kept threadId stash at_thread := by cases at_thread

end Sealwire.Hydration

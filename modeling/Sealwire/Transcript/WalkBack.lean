import Sealwire.Transcript.PageRows

namespace Sealwire.Transcript

open LoadedRuntime (i64Max)

/-- The cursors the client was given, oldest page first. -/
def Walk.tokens (walk : Walk) : List String :=
  walk.pages.filterMap (·.prevCursor)

/-- The client's cursor is the one below which nothing was served yet. -/
def Walk.At (walk : Walk) (low : Int) : Prop :=
  match walk.phase with
  | .start => walk.pages = [] ∧ low = i64Max
  | .between token => token = walk.loaded.transcriptKeySpace.cursorOlderThan low
  | .reading token cursor _ _ | .awaiting token cursor _ _ _ =>
    token = walk.loaded.transcriptKeySpace.cursorOlderThan low ∧ cursor.orderKey = low
  | .ready cursor =>
    cursor.orderKey = low ∧ (walk.loaded.holdsRowsOlderThan cursor = true ∨ walk.loaded.unreadProviderHistory = none)
  | .done => low = -2 ^ 63 ∧ walk.loaded.unreadProviderHistory = none

/-- What was served are the rows with a key from `low` up to `bound`; `bound` is the next tail key at the first page
that has a row. -/
structure Accounted (walk : Walk) (low bound : Int) : Prop where
  ordered : Ordered walk.loaded.runtime
  worded : Worded walk.loaded.runtime
  served : walk.entries.map TranscriptEntryView.place =
    (keyRange Prod.snd low bound walk.loaded.runtime.places).map told
  within : walk.loaded.runtime.nextHeadOrderSeq < bound ∧ bound ≤ walk.loaded.runtime.nextTailOrderSeq
  early : ∀ rowId ∈ walk.held ++ walk.prepended, ∃ key, (rowId, key) ∈ walk.loaded.runtime.places ∧ key < bound
  late : ∀ rowId ∈ walk.appended, ∃ key, (rowId, key) ∈ walk.loaded.runtime.places ∧ bound ≤ key
  quiet : walk.Rowless → walk.appended = []
  unfinished : walk.phase ≠ .done →
    walk.loaded.runtime.nextHeadOrderSeq < low ∧ low ≤ i64Max ∧
      (low ≤ bound ∧ ¬walk.Rowless ∨ low = i64Max ∧ walk.Rowless)
  position : walk.At low
  cursors : ∃ keys : List Int, walk.tokens = keys.map walk.loaded.transcriptKeySpace.cursorOlderThan ∧
    keys.Pairwise (· < ·) ∧ ∀ key ∈ keys, low ≤ key ∧ -2 ^ 63 ≤ key ∧ key ≤ i64Max

theorem mem_rowIds_iff {runtime : ThreadRuntime} {rowId : String} :
    rowId ∈ runtime.transcript.rowIds ↔ ∃ key, (rowId, key) ∈ runtime.places := by
  simp [ThreadTranscript.rowIds, ThreadRuntime.places, TranscriptRecord.place]

/-- The rows a call adds are where its places are new. -/
theorem mem_newRows {s t : ThreadRuntime} {rowId : String} (member : rowId ∈ newRows s.transcript t.transcript) :
    ∃ key, (rowId, key) ∈ t.places ∧ (rowId, key) ∉ s.places := by
  obtain ⟨there, fresh⟩ := List.mem_filter.mp member
  obtain ⟨key, place⟩ := mem_rowIds_iff.mp there
  have absent : rowId ∉ s.transcript.rowIds := by simpa using fresh
  exact ⟨key, place, fun old => absent (mem_rowIds_iff.mpr ⟨key, old⟩)⟩

theorem LoadedRuntime.holds_mono {s t : LoadedRuntime} (ordered : Ordered s.runtime) (ordered' : Ordered t.runtime)
    (kept : s.runtime.places ⊆ t.runtime.places) {cursor : TranscriptCursor}
    (holds : s.holdsRowsOlderThan cursor = true) : t.holdsRowsOlderThan cursor = true := by
  obtain ⟨place, member, older⟩ := (LoadedRuntime.holdsRowsOlderThan_iff ordered cursor).mp holds
  exact (LoadedRuntime.holdsRowsOlderThan_iff ordered' cursor).mpr ⟨place, kept member, older⟩

/-- A runtime that changes under the walk, with every row kept and the same history unread or more rows held. -/
theorem Walk.At.reload {walk after : Walk} {low : Int} (at_low : walk.At low) (phase : after.phase = walk.phase)
    (pages : after.pages = walk.pages)
    (space : after.loaded.transcriptKeySpace = walk.loaded.transcriptKeySpace)
    (holds : ∀ cursor, walk.loaded.holdsRowsOlderThan cursor = true → after.loaded.holdsRowsOlderThan cursor = true)
    (unread : walk.loaded.unreadProviderHistory = none → after.loaded.unreadProviderHistory = none) :
    after.At low := by
  unfold Walk.At at *
  rw [phase]
  cases here : walk.phase with
  | start =>
    rw [here] at at_low
    exact ⟨pages.trans at_low.1, at_low.2⟩
  | between token =>
    rw [here] at at_low
    simpa only [space] using at_low
  | reading token cursor rounds positions =>
    rw [here] at at_low
    simpa only [space] using at_low
  | awaiting token cursor rounds positions position =>
    rw [here] at at_low
    simpa only [space] using at_low
  | ready cursor =>
    rw [here] at at_low
    exact ⟨at_low.1, at_low.2.imp (holds cursor) unread⟩
  | done =>
    rw [here] at at_low
    exact ⟨at_low.1, unread at_low.2⟩

/-- A step that only moves the request on. -/
theorem Accounted.rephase {walk : Walk} {low bound : Int} (accounted : Accounted walk low bound)
    (was : walk.phase ≠ .done) {phase : WalkPhase} (at_low : Walk.At { walk with phase := phase } low) :
    Accounted { walk with phase := phase } low bound where
  ordered := accounted.ordered
  worded := accounted.worded
  served := accounted.served
  within := accounted.within
  early := accounted.early
  late := accounted.late
  quiet := accounted.quiet
  unfinished := fun _ => accounted.unfinished was
  position := at_low
  cursors := accounted.cursors

/-- Rows appended have keys from the bound on, so nothing that was accounted for moves. -/
theorem Accounted.append {walk : Walk} {low bound : Int} (accounted : Accounted walk low bound)
    {runtime : ThreadRuntime} (ordered : Ordered runtime) (appends : Appends walk.loaded.runtime runtime) :
    Accounted (walk.append runtime) low bound := by
  obtain ⟨new, places, keys⟩ := appends.places
  have above (place : String × Int) (member : place ∈ new) : bound ≤ place.2 :=
    Int.le_trans accounted.within.2 (keys place member)
  have kept : walk.loaded.runtime.places ⊆ runtime.places := by
    rw [places]
    exact List.subset_append_left _ _
  have unread : (walk.append runtime).loaded.unreadProviderHistory = walk.loaded.unreadProviderHistory := by
    show runtime.providerHistoryCursor.filter _ = walk.loaded.runtime.providerHistoryCursor.filter _
    rw [appends.cursor]
    rfl
  refine ⟨ordered, appends.worded accounted.worded, ?_, ?_, ?_, ?_, ?_, ?_, ?_, accounted.cursors⟩
  · show walk.entries.map TranscriptEntryView.place = (keyRange Prod.snd low bound runtime.places).map told
    rw [places, keyRange_append, keyRange_outside fun place member => .inr (above place member), List.append_nil]
    exact accounted.served
  · exact ⟨by rw [show (walk.append runtime).loaded.runtime = runtime from rfl, appends.head]; exact accounted.within.1,
      Int.le_trans accounted.within.2 appends.tail⟩
  · intro rowId member
    obtain ⟨key, place, below⟩ := accounted.early rowId member
    exact ⟨key, kept place, below⟩
  · intro rowId member
    have old (there : rowId ∈ walk.appended) : ∃ key, (rowId, key) ∈ runtime.places ∧ bound ≤ key := by
      obtain ⟨key, place, from_bound⟩ := accounted.late rowId there
      exact ⟨key, kept place, from_bound⟩
    simp only [Walk.append] at member
    split at member
    · exact old member
    rcases List.mem_append.mp member with there | fresh
    · exact old there
    · obtain ⟨key, place, absent⟩ := mem_newRows fresh
      refine ⟨key, place, above (rowId, key) ?_⟩
      rw [places] at place
      exact (List.mem_append.mp place).resolve_left absent
  · intro rowless
    have quiet := accounted.quiet rowless
    have same : (walk.append runtime).appended = walk.appended := if_pos rowless
    rw [same, quiet]
  · intro unfinished
    obtain ⟨head, word, low_end⟩ := accounted.unfinished unfinished
    exact ⟨appends.head ▸ head, word, low_end⟩
  · exact accounted.position.reload rfl rfl rfl
      (fun cursor holds => LoadedRuntime.holds_mono accounted.ordered ordered kept holds)
      (fun none_unread => unread.trans none_unread)

theorem newRows_self (t : ThreadTranscript) : newRows t t = [] := by
  refine List.filter_eq_nil_iff.mpr fun rowId member => ?_
  simpa using member

/-- Rows prepended have keys below the cursor, so nothing that was accounted for moves. -/
theorem Accounted.prepend {walk : Walk} {low bound : Int} (accounted : Accounted walk low bound) {position : Nat}
    {entries : List ProviderTranscriptEntry} {prevCursor : Option Nat} {loaded : LoadedRuntime}
    (landed : walk.loaded.landProviderPage position entries prevCursor = some loaded) :
    Accounted (walk.prepend loaded) low bound := by
  unfold LoadedRuntime.landProviderPage at landed
  split at landed
  · rename_i unread
    obtain ⟨⟨runtime, views⟩, prepended, rfl⟩ := Option.map_eq_some_iff.mp landed
    have ordered : Ordered runtime := (accounted.ordered.prependProviderHistory prepended).ordered
    have before := accounted.ordered.prepends prepended
    obtain ⟨new, places, keys⟩ := before.places
    have open_phase : walk.phase ≠ .done := by
      intro done
      have position := accounted.position
      unfold Walk.At at position
      rw [done] at position
      rw [position.2] at unread
      cases unread
    obtain ⟨head, word, low_end⟩ := accounted.unfinished open_phase
    have kept : walk.loaded.runtime.places ⊆ runtime.places := by
      rw [places]
      exact List.subset_append_right _ _
    refine ⟨ordered, accounted.worded.prependProviderHistory prepended, ?_, ?_, ?_, ?_, accounted.quiet, ?_, ?_,
      accounted.cursors⟩
    · show walk.entries.map TranscriptEntryView.place = (keyRange Prod.snd low bound runtime.places).map told
      have outside : keyRange Prod.snd low bound new = [] := keyRange_outside fun place member =>
        .inl (Int.lt_of_le_of_lt (keys place member) head)
      rw [places, keyRange_append, outside, List.nil_append]
      exact accounted.served
    · exact ⟨Int.lt_of_le_of_lt before.head accounted.within.1, Int.le_trans accounted.within.2 (Int.le_of_eq before.tail.symm)⟩
    · intro rowId member
      have old (there : rowId ∈ walk.held ++ walk.prepended) : ∃ key, (rowId, key) ∈ runtime.places ∧ key < bound := by
        obtain ⟨key, place, below⟩ := accounted.early rowId there
        exact ⟨key, kept place, below⟩
      simp only [Walk.prepend, ← List.append_assoc] at member
      rcases List.mem_append.mp member with there | fresh
      · exact old there
      · obtain ⟨key, place, absent⟩ := mem_newRows (t := runtime) fresh
        refine ⟨key, place, ?_⟩
        rw [places] at place
        have first := keys _ ((List.mem_append.mp place).resolve_right absent)
        exact Int.lt_of_le_of_lt first accounted.within.1
    · intro rowId member
      obtain ⟨key, place, from_bound⟩ := accounted.late rowId member
      exact ⟨key, kept place, from_bound⟩
    · intro _
      exact ⟨Int.lt_of_le_of_lt before.head head, word, low_end⟩
    · refine accounted.position.reload rfl rfl rfl
        (fun cursor holds => LoadedRuntime.holds_mono accounted.ordered ordered kept holds) fun none_unread => ?_
      rw [none_unread] at unread
      cases unread
  · obtain rfl := Option.some.inj landed
    have same : walk.prepend walk.loaded = walk := by
      rw [Walk.prepend, newRows_self, List.append_nil]
    rw [same]
    exact accounted

@[simp] theorem Walk.entries_receive (walk : Walk) (page : ThreadTranscriptResponse) :
    (walk.receive page).entries = page.entries ++ walk.entries :=
  rfl

theorem Walk.tokens_receive (walk : Walk) (page : ThreadTranscriptResponse) :
    (walk.receive page).tokens = page.prevCursor.toList ++ walk.tokens := by
  cases next : page.prevCursor with
  | none => simp [Walk.receive, Walk.tokens, next]
  | some token => simp [Walk.receive, Walk.tokens, next]

theorem Walk.receive_done_iff (walk : Walk) (page : ThreadTranscriptResponse) :
    (walk.receive page).phase = .done ↔ page.prevCursor = none := by
  unfold Walk.receive
  split <;> simp [*]

/-- Below the largest key there is every row. -/
theorem Ordered.keyRange_max {s : ThreadRuntime} (ordered : Ordered s) (worded : Worded s) (low : Int) :
    keyRange Prod.snd low i64Max s.places = keyRange Prod.snd low s.nextTailOrderSeq s.places := by
  refine List.filter_congr fun place member => ?_
  have bounds := ordered.place_bounds member
  have tail := worded.tail
  have word : place.2 < i64Max := by
    unfold i64Max
    omega
  simp [bounds.2, word]

/-- While no row was served the bound may be moved up to the next tail key. -/
theorem Accounted.rebound {walk : Walk} {low bound : Int} (accounted : Accounted walk low bound)
    (rowless : walk.Rowless) (low_max : low = i64Max) :
    Accounted walk low walk.loaded.runtime.nextTailOrderSeq := by
  have tail := accounted.worded.tail
  refine { accounted with
    served := ?_
    within := ⟨accounted.ordered.apart, Int.le_refl _⟩
    early := ?_
    late := ?_
    unfinished := fun unfinished => ?_ }
  · have empty : keyRange Prod.snd low walk.loaded.runtime.nextTailOrderSeq walk.loaded.runtime.places = [] := by
      refine keyRange_empty ?_ _
      rw [low_max]
      unfold i64Max
      omega
    rw [empty, show walk.entries = [] from rowless]
    rfl
  · intro rowId member
    obtain ⟨key, place, -⟩ := accounted.early rowId member
    exact ⟨key, place, (accounted.ordered.place_bounds place).2⟩
  · rw [accounted.quiet rowless]
    simp
  · obtain ⟨head, word, -⟩ := accounted.unfinished unfinished
    exact ⟨head, word, .inr ⟨low_max, rowless⟩⟩

/-- The page below the client's cursor goes in front of what was served. -/
theorem Accounted.join {walk : Walk} {low low' bound : Int} (accounted : Accounted walk low bound)
    (ends : low ≤ bound ∧ ¬walk.Rowless ∨ low = i64Max ∧ walk.Rowless ∧ bound = walk.loaded.runtime.nextTailOrderSeq)
    (le : low' ≤ low) {page : ThreadTranscriptResponse}
    (entries : page.entries.map TranscriptEntryView.place =
      (keyRange Prod.snd low' low walk.loaded.runtime.places).map told) :
    (page.entries ++ walk.entries).map TranscriptEntryView.place =
      (keyRange Prod.snd low' bound walk.loaded.runtime.places).map told := by
  rcases ends with ⟨meets, -⟩ | ⟨low_max, rowless, bound_tail⟩
  · rw [List.map_append, entries, accounted.served, ← List.map_append,
      keyRange_join accounted.ordered.sorted le meets]
  · rw [show walk.entries = [] from rowless, List.append_nil, entries, low_max,
      accounted.ordered.keyRange_max accounted.worded, bound_tail]

/-- A page arrives. Its cursor is below the last one, except that the first page may have no row. -/
theorem Accounted.receive {walk : Walk} {low low' bound : Int} (accounted : Accounted walk low bound)
    (unfinished : walk.phase ≠ .done)
    (ends : low ≤ bound ∧ ¬walk.Rowless ∨ low = i64Max ∧ walk.Rowless ∧ bound = walk.loaded.runtime.nextTailOrderSeq)
    {cursor : TranscriptCursor} (at_low : cursor.orderKey = low) {page : ThreadTranscriptResponse}
    (below : PageBelow walk.loaded cursor page low')
    (further : walk.tokens = [] ∨
      (walk.loaded.holdsRowsOlderThan cursor = true ∨ walk.loaded.unreadProviderHistory = none)) :
    Accounted (walk.receive page) low' bound := by
  subst at_low
  obtain ⟨-, word, -⟩ := accounted.unfinished unfinished
  have joined := accounted.join ends below.le below.entries
  refine { accounted with served := joined, quiet := ?_, unfinished := ?_, position := ?_, cursors := ?_ }
  · intro rowless
    exact accounted.quiet (List.append_eq_nil_iff.mp rowless).2
  · intro still
    rcases below.next with ⟨-, head, older | same⟩ | ⟨ended, -⟩
    · refine ⟨head, Int.le_trans below.le word, .inl ⟨?_, fun rowless => older.2 (List.append_eq_nil_iff.mp rowless).1⟩⟩
      -- A row was served, and it lies between the two.
      obtain ⟨place, inside⟩ : ∃ place, place ∈ keyRange Prod.snd low' bound walk.loaded.runtime.places := by
        refine List.exists_mem_of_ne_nil _ fun empty => older.2 ?_
        rw [empty, List.map_nil, List.map_eq_nil_iff] at joined
        exact (List.append_eq_nil_iff.mp joined).1
      have between := (mem_keyRange.mp inside).2
      exact Int.le_of_lt (Int.lt_of_le_of_lt between.1 between.2)
    · obtain ⟨rfl, -, -⟩ := same
      have empty : page.entries = [] := by
        have none_served := below.entries
        rw [keyRange_empty (Int.le_refl _), List.map_nil, List.map_eq_nil_iff] at none_served
        exact none_served
      have rowless : (walk.receive page).Rowless ↔ walk.Rowless := by
        show page.entries ++ walk.entries = [] ↔ walk.entries = []
        rw [empty, List.nil_append]
      refine ⟨head, word, ?_⟩
      rw [rowless]
      exact ends.imp_right fun last => ⟨last.1, last.2.1⟩
    · exact absurd ((walk.receive_done_iff page).mpr ended) still
  · unfold Walk.At Walk.receive
    rcases below.next with ⟨token, -⟩ | ⟨ended, none_unread, lowest⟩
    · simp only [token]
    · simp only [ended]
      exact ⟨lowest, none_unread⟩
  · obtain ⟨keys, tokens, increasing, above⟩ := accounted.cursors
    rcases below.next with ⟨token, -, older⟩ | ⟨ended, -, lowest⟩
    · have lower (key : Int) (member : key ∈ keys) : low' < key := by
        rcases older with ⟨less, -⟩ | ⟨-, holds, some_unread⟩
        · exact Int.lt_of_lt_of_le less (above key member).1
        · rcases further with none_yet | ready | none_unread
          · rw [tokens, List.map_eq_nil_iff] at none_yet
            rw [none_yet] at member
            cases member
          · rw [holds] at ready
            cases ready
          · exact absurd none_unread some_unread
      refine ⟨low' :: keys, ?_, List.pairwise_cons.mpr ⟨lower, increasing⟩, ?_⟩
      · rw [walk.tokens_receive, token, tokens]
        rfl
      · intro key member
        rcases List.mem_cons.mp member with rfl | there
        · exact ⟨Int.le_refl _, below.word, Int.le_trans below.le word⟩
        · exact ⟨Int.le_of_lt (lower key there), (above key there).2⟩
    · refine ⟨keys, by rw [walk.tokens_receive, ended]; exact tokens, increasing, fun key member => ?_⟩
      rw [lowest]
      exact ⟨(above key member).2.1, (above key member).2⟩

/-- The bound is where it has to be for the next page. -/
theorem Accounted.settleBound {walk : Walk} {low bound : Int} (accounted : Accounted walk low bound)
    (unfinished : walk.phase ≠ .done) : ∃ bound', Accounted walk low bound' ∧
      (low ≤ bound' ∧ ¬walk.Rowless ∨
        low = i64Max ∧ walk.Rowless ∧ bound' = walk.loaded.runtime.nextTailOrderSeq) := by
  obtain ⟨-, -, meets | ⟨low_max, rowless⟩⟩ := accounted.unfinished unfinished
  · exact ⟨bound, accounted, .inl meets⟩
  · exact ⟨_, accounted.rebound rowless low_max, .inr ⟨low_max, rowless, rfl⟩⟩

/-- The first page is the page below the largest key. -/
theorem Accounted.latestPage {walk : Walk} {low bound : Int} (accounted : Accounted walk low bound)
    (start : walk.phase = .start) (encoding : PageEncoding) (threadId : String) (marks : ThreadInjections) :
    ∃ low' bound', Accounted
      (Walk.receive { walk with held := walk.loaded.runtime.transcript.rowIds }
        (walk.loaded.transcriptPage encoding threadId none marks)) low' bound' ∧
      PageBelow walk.loaded { orderKey := i64Max }
        (walk.loaded.transcriptPage encoding threadId none marks) low' := by
  have unfinished : walk.phase ≠ .done := by
    rw [start]
    exact WalkPhase.noConfusion
  have at_start := accounted.position
  unfold Walk.At at at_start
  rw [start] at at_start
  obtain ⟨no_pages, rfl⟩ := at_start
  have rowless : walk.Rowless := by
    show walk.pages.flatMap _ = []
    rw [no_pages]
    rfl
  have no_tokens : walk.tokens = [] := by
    show walk.pages.filterMap _ = []
    rw [no_pages]
    rfl
  have bounded := accounted.rebound rowless rfl
  have begun : Accounted { walk with held := walk.loaded.runtime.transcript.rowIds } i64Max
      walk.loaded.runtime.nextTailOrderSeq :=
    { bounded with
      early := by
        intro rowId member
        rcases List.mem_append.mp member with here | before
        · obtain ⟨key, place⟩ := mem_rowIds_iff.mp here
          exact ⟨key, place, (accounted.ordered.place_bounds place).2⟩
        · exact bounded.early rowId (List.mem_append_right _ before)
      position := by
        unfold Walk.At
        simp only [start]
        exact ⟨no_pages, trivial⟩ }
  rw [accounted.ordered.latestPage accounted.worded]
  obtain ⟨head, -, -⟩ := accounted.unfinished unfinished
  have issued : walk.loaded.runtime.nextHeadOrderSeq < (TranscriptCursor.mk i64Max).orderKey := head
  obtain ⟨low', below⟩ := accounted.ordered.pageBelow accounted.worded issued encoding threadId marks
  exact ⟨low', _, begun.receive unfinished (.inr ⟨rfl, rowless, rfl⟩) rfl below (.inl no_tokens), below⟩

/-- A page below the client's cursor, once memory holds older rows or nothing is left to read. -/
theorem Accounted.olderPage {walk : Walk} {low bound : Int} (accounted : Accounted walk low bound)
    {cursor : TranscriptCursor} (ready : walk.phase = .ready cursor) (encoding : PageEncoding) (threadId : String)
    (marks : ThreadInjections) :
    ∃ low' bound', Accounted (walk.receive (walk.loaded.transcriptPage encoding threadId (some cursor) marks)) low' bound'
      ∧ PageBelow walk.loaded cursor (walk.loaded.transcriptPage encoding threadId (some cursor) marks) low' := by
  have unfinished : walk.phase ≠ .done := by
    rw [ready]
    exact WalkPhase.noConfusion
  have at_ready := accounted.position
  unfold Walk.At at at_ready
  rw [ready] at at_ready
  obtain ⟨rfl, further⟩ := at_ready
  obtain ⟨head, -, -⟩ := accounted.unfinished unfinished
  obtain ⟨low', below⟩ := accounted.ordered.pageBelow accounted.worded head encoding threadId marks
  obtain ⟨bound', settled, ends⟩ := accounted.settleBound unfinished
  exact ⟨low', bound', settled.receive unfinished ends rfl below (.inr further), below⟩

/-- A look finds rows older than the cursor, or nothing that is left to read, before it lets the request go on. -/
theorem LoadedRuntime.lookBelow_held {loaded : LoadedRuntime} {cursor : TranscriptCursor} {positions : List Nat}
    (held : loaded.lookBelow cursor positions = .held) :
    loaded.holdsRowsOlderThan cursor = true ∨ loaded.unreadProviderHistory = none := by
  unfold LoadedRuntime.lookBelow at held
  split at held
  · rename_i holds
    exact .inl holds
  split at held
  · rename_i none_unread
    exact .inr none_unread
  · split at held <;> cases held

theorem Accounted.step {encoding : PageEncoding} {threadId : String} {walk after : Walk} {low bound : Int}
    (accounted : Accounted walk low bound) {event : WalkEvent} (step : event.run encoding threadId walk = some after) :
    ∃ low' bound', Accounted after low' bound' := by
  have position := accounted.position
  unfold Walk.At at position
  cases event with
  | live call =>
    simp only [WalkEvent.run] at step
    split at step
    · rename_i live
      obtain ⟨runtime, ran, rfl⟩ := Option.map_eq_some_iff.mp step
      exact ⟨low, bound, accounted.append (RuntimeCall.run_advances accounted.ordered ran).ordered
        (RuntimeCall.live_appends accounted.ordered live ran)⟩
    · cases step
  | setApplyStates applyStates =>
    obtain rfl := Option.some.inj step
    refine ⟨low, bound, accounted.ordered, accounted.worded, accounted.served, accounted.within, accounted.early,
      accounted.late, accounted.quiet, accounted.unfinished, ?_, accounted.cursors⟩
    exact accounted.position.reload rfl rfl rfl (fun _ holds => holds) fun none_unread => none_unread
  | readElsewhere position entries prevCursor =>
    obtain ⟨loaded, landed, rfl⟩ := Option.map_eq_some_iff.mp step
    exact ⟨low, bound, accounted.prepend landed⟩
  | latestPage marks =>
    simp only [WalkEvent.run] at step
    split at step
    · rename_i start
      obtain rfl := Option.some.inj step
      obtain ⟨low', bound', served, -⟩ := accounted.latestPage start encoding threadId marks
      exact ⟨low', bound', served⟩
    · cases step
  | ask =>
    simp only [WalkEvent.run] at step
    split at step
    · rename_i token between
      have unfinished : walk.phase ≠ .done := by simp [between]
      obtain ⟨head, word, -⟩ := accounted.unfinished unfinished
      have lowest := accounted.worded.head
      have key_word : -2 ^ 63 ≤ low ∧ low < 2 ^ 63 := ⟨by omega, by unfold i64Max at word; omega⟩
      have decoded := walk.loaded.transcriptKeySpace.decode_cursorOlderThan walk.loaded.transcriptKeySpace key_word
      rw [between] at position
      simp only at position
      rw [position, decoded, if_pos rfl] at step
      obtain rfl := Option.some.inj step
      exact ⟨low, bound, accounted.rephase unfinished ⟨rfl, rfl⟩⟩
    · cases step
  | look =>
    simp only [WalkEvent.run] at step
    split at step
    · rename_i token cursor positions reading
      obtain rfl := Option.some.inj step
      rw [reading] at position
      exact ⟨low, bound, accounted.rephase (by simp [reading]) position.1⟩
    · rename_i token cursor rounds positions reading
      rw [reading] at position
      have unfinished : walk.phase ≠ .done := by simp [reading]
      split at step
      · rename_i held
        obtain rfl := Option.some.inj step
        exact ⟨low, bound, accounted.rephase unfinished ⟨position.2, LoadedRuntime.lookBelow_held held⟩⟩
      · obtain rfl := Option.some.inj step
        exact ⟨low, bound, accounted.rephase unfinished position.1⟩
      · obtain rfl := Option.some.inj step
        exact ⟨low, bound, accounted.rephase unfinished position⟩
    · cases step
  | providerPage entries prevCursor =>
    simp only [WalkEvent.run] at step
    split at step
    · rename_i token cursor rounds positions position' awaiting
      rw [awaiting] at position
      obtain ⟨loaded, landed, rfl⟩ := Option.map_eq_some_iff.mp step
      have prepended := accounted.prepend landed
      have space : (walk.prepend loaded).loaded.transcriptKeySpace = walk.loaded.transcriptKeySpace := by
        unfold LoadedRuntime.landProviderPage at landed
        split at landed
        · obtain ⟨prepended, -, rfl⟩ := Option.map_eq_some_iff.mp landed
          rfl
        · obtain rfl := Option.some.inj landed
          rfl
      refine ⟨low, bound, prepended.rephase (by show walk.phase ≠ .done; simp [awaiting]) ⟨?_, position.2⟩⟩
      rw [position.1]
      exact congrArg (fun other => TranscriptKeySpace.cursorOlderThan other low) space.symm
    · cases step
  | providerFails =>
    simp only [WalkEvent.run] at step
    split at step
    · rename_i token cursor rounds positions position' awaiting
      rw [awaiting] at position
      obtain rfl := Option.some.inj step
      exact ⟨low, bound, accounted.rephase (by simp [awaiting]) position.1⟩
    · cases step
  | olderPage marks =>
    simp only [WalkEvent.run] at step
    split at step
    · rename_i cursor ready
      obtain rfl := Option.some.inj step
      obtain ⟨low', bound', served, -⟩ := accounted.olderPage ready encoding threadId marks
      exact ⟨low', bound', served⟩
    · cases step

theorem Walk.Starts.accounted {walk : Walk} (starts : walk.Starts) : ∃ low bound, Accounted walk low bound := by
  obtain ⟨first, fresh, last, run, cursor, same⟩ := starts.reached
  obtain ⟨ordered, worded⟩ := run.ordered_worded fresh
  have here : Ordered walk.loaded.runtime := by
    have moved : Advances last { last with providerHistoryCursor := cursor } := ordered.untouched rfl rfl rfl
    rw [same]
    exact moved.ordered
  have words : Worded walk.loaded.runtime := by
    rw [same]
    exact worded.same rfl rfl
  have rowless : walk.Rowless := by
    show walk.pages.flatMap _ = []
    rw [starts.pages]
    rfl
  have tail := words.tail
  have apart := here.apart
  have tail_max : walk.loaded.runtime.nextTailOrderSeq ≤ i64Max := by
    unfold i64Max
    omega
  refine ⟨i64Max, walk.loaded.runtime.nextTailOrderSeq, here, words, ?_, ⟨apart, Int.le_refl _⟩, ?_, ?_, ?_, ?_, ?_, ?_⟩
  · rw [show walk.entries = [] from rowless, keyRange_empty tail_max]
    rfl
  · simp [starts.held, starts.prepended]
  · simp [starts.appended]
  · intro _
    exact starts.appended
  · intro _
    exact ⟨by omega, Int.le_refl _, .inr ⟨rfl, rowless⟩⟩
  · unfold Walk.At
    rw [starts.phase]
    exact ⟨starts.pages, rfl⟩
  · refine ⟨[], ?_, .nil, by simp⟩
    show walk.pages.filterMap _ = _
    rw [starts.pages]
    rfl

theorem WalkRun.accounted {encoding : PageEncoding} {threadId : String} {first walk : Walk} (starts : first.Starts)
    (run : WalkRun encoding threadId first walk) : ∃ low bound, Accounted walk low bound := by
  induction run with
  | start => exact starts.accounted
  | next _ step ih =>
    obtain ⟨low, bound, accounted⟩ := ih
    exact accounted.step step

end Sealwire.Transcript

import Sealwire.Transcript.WalkBack

namespace Sealwire.Transcript

open LoadedRuntime (i64Max)

namespace Walk

/-- The names of the rows served so far, oldest page first. -/
def servedIds (walk : Walk) : List (Option String) :=
  walk.entries.map (·.rowId)

/-- A row is held under one name. -/
theorem place_unique {runtime : ThreadRuntime} (ordered : Ordered runtime) {rowId : String} {a b : Int}
    (left : (rowId, a) ∈ runtime.places) (right : (rowId, b) ∈ runtime.places) : a = b := by
  obtain ⟨row, there, same⟩ := List.mem_map.mp left
  obtain ⟨other, here, same'⟩ := List.mem_map.mp right
  obtain ⟨id, rfl⟩ := Prod.mk.inj same
  obtain ⟨id', rfl⟩ := Prod.mk.inj same'
  exact congrArg TranscriptRecord.orderSeq (ordered.consistent.same_row there here (id.trans id'.symm))

variable {walk : Walk} {low bound : Int}

theorem servedIds_eq (accounted : Accounted walk low bound) :
    walk.servedIds = (keyRange Prod.snd low bound walk.loaded.runtime.places).map fun place => some place.1 := by
  have ids : walk.servedIds = (walk.entries.map TranscriptEntryView.place).map Prod.fst := by
    rw [List.map_map]
    rfl
  rw [ids, accounted.served, List.map_map]
  rfl

theorem mem_servedIds (accounted : Accounted walk low bound) {rowId : String} :
    some rowId ∈ walk.servedIds ↔
      ∃ key, (rowId, key) ∈ walk.loaded.runtime.places ∧ low ≤ key ∧ key < bound := by
  rw [servedIds_eq accounted]
  constructor
  · intro served
    obtain ⟨⟨id, key⟩, inside, same⟩ := List.mem_map.mp served
    obtain rfl := Option.some.inj same
    exact ⟨key, mem_keyRange.mp inside⟩
  · rintro ⟨key, inside⟩
    exact List.mem_map.mpr ⟨(rowId, key), mem_keyRange.mpr inside, rfl⟩

theorem servedIds_nodup (accounted : Accounted walk low bound) : walk.servedIds.Nodup := by
  have distinct : (walk.loaded.runtime.places.map fun place => some place.1).Nodup := by
    have ids : (walk.loaded.runtime.places.map fun place => some place.1) =
        (walk.loaded.runtime.transcript.rows.map (·.rowId)).map some := by
      rw [ThreadRuntime.places, List.map_map, List.map_map]
      rfl
    rw [ids]
    exact accounted.ordered.consistent.distinct.map fun _ _ => Option.some.inj
  rw [servedIds_eq accounted]
  exact distinct.sublist (List.filter_sublist.map _)

theorem served_keys (accounted : Accounted walk low bound) :
    ∃ keys : List Int, walk.entries.map (·.orderSeq) = keys.map some ∧ keys.Pairwise (· < ·) := by
  refine ⟨(keyRange Prod.snd low bound walk.loaded.runtime.places).map Prod.snd, ?_, ?_⟩
  · have keys : walk.entries.map (·.orderSeq) = (walk.entries.map TranscriptEntryView.place).map Prod.snd := by
      rw [List.map_map]
      rfl
    rw [keys, accounted.served, List.map_map, List.map_map]
    rfl
  · exact accounted.ordered.sorted.sublist (List.filter_sublist.map _)

/-- Where the walk ends, the first row of the transcript was served. -/
theorem first_served (accounted : Accounted walk low bound) {cursor : TranscriptCursor}
    {page : ThreadTranscriptResponse} {lowest : Int} (unfinished : walk.phase ≠ .done) (at_low : cursor.orderKey = low)
    (below : PageBelow walk.loaded cursor page lowest) (ended : page.prevCursor = none) {first : TranscriptRecord}
    (head : walk.loaded.runtime.transcript.rows.head? = some first) :
    some first.rowId ∈ (page.entries ++ walk.entries).map (·.rowId) := by
  subst at_low
  have first_place : first.place ∈ walk.loaded.runtime.places := List.mem_map_of_mem (List.mem_of_mem_head? head)
  obtain ⟨above_head, below_tail⟩ := accounted.ordered.place_bounds first_place
  have word := accounted.worded
  have lowest_word : lowest = -2 ^ 63 := by
    rcases below.next with ⟨some_token, -⟩ | ⟨-, -, same⟩
    · rw [ended] at some_token
      cases some_token
    · exact same
  rw [List.map_append, List.mem_append]
  by_cases early : first.place.2 < cursor.orderKey
  · refine .inl ?_
    have told_there : told first.place ∈ page.entries.map TranscriptEntryView.place := by
      rw [below.entries]
      have low_bound := word.head
      exact List.mem_map_of_mem (mem_keyRange.mpr ⟨first_place, by omega, early⟩)
    obtain ⟨view, there, same⟩ := List.mem_map.mp told_there
    exact List.mem_map.mpr ⟨view, there, congrArg Prod.fst same⟩
  · refine .inr ?_
    show some first.rowId ∈ walk.servedIds
    refine (mem_servedIds accounted).mpr ⟨first.orderSeq, first_place, by simpa [TranscriptRecord.place] using early, ?_⟩
    obtain ⟨-, -, ⟨-, some_row⟩ | ⟨low_max, -⟩⟩ := accounted.unfinished unfinished
    · -- Some row was served; the first one is not after it.
      obtain ⟨place, inside⟩ : ∃ place,
          place ∈ keyRange Prod.snd cursor.orderKey bound walk.loaded.runtime.places := by
        refine List.exists_mem_of_ne_nil _ fun empty => some_row ?_
        have none_served := accounted.served
        rw [empty, List.map_nil, List.map_eq_nil_iff] at none_served
        exact none_served
      obtain ⟨member, -, before⟩ := mem_keyRange.mp inside
      exact Int.lt_of_le_of_lt (accounted.ordered.first_le head member) before
    · have tail := word.tail
      unfold i64Max at low_max
      omega

end Walk

/-- A step that ends the walk served the first row, and leaves the provider nothing unread. -/
theorem Accounted.ends {encoding : PageEncoding} {threadId : String} {walk after : Walk} {low bound : Int}
    (accounted : Accounted walk low bound) {event : WalkEvent} (step : event.run encoding threadId walk = some after)
    (unfinished : walk.phase ≠ .done) (done : after.phase = .done) :
    after.loaded.unreadProviderHistory = none ∧
      ∀ first, after.loaded.runtime.transcript.rows.head? = some first → some first.rowId ∈ after.servedIds := by
  obtain ⟨_, _, accounted'⟩ := accounted.step step
  have none_unread : after.loaded.unreadProviderHistory = none := by
    have position := accounted'.position
    unfold Walk.At at position
    rw [done] at position
    exact position.2
  refine ⟨none_unread, ?_⟩
  cases event with
  | live call =>
    simp only [WalkEvent.run] at step
    split at step
    · obtain ⟨runtime, -, rfl⟩ := Option.map_eq_some_iff.mp step
      exact absurd done unfinished
    · cases step
  | setApplyStates applyStates =>
    obtain rfl := Option.some.inj step
    exact absurd done unfinished
  | readElsewhere position entries prevCursor =>
    obtain ⟨loaded, -, rfl⟩ := Option.map_eq_some_iff.mp step
    exact absurd done unfinished
  | latestPage marks =>
    simp only [WalkEvent.run] at step
    split at step
    · rename_i start
      obtain rfl := Option.some.inj step
      obtain ⟨low', bound', -, below⟩ := accounted.latestPage start encoding threadId marks
      have at_start := accounted.position
      unfold Walk.At at at_start
      rw [start] at at_start
      intro first head
      exact Walk.first_served accounted unfinished at_start.2.symm below ((Walk.receive_done_iff _ _).mp done) head
    · cases step
  | ask =>
    simp only [WalkEvent.run] at step
    split at step
    · split at step
      · obtain rfl := Option.some.inj step
        cases done
      · cases step
    · cases step
  | look =>
    simp only [WalkEvent.run] at step
    split at step
    · obtain rfl := Option.some.inj step
      cases done
    · split at step
      all_goals
        obtain rfl := Option.some.inj step
        cases done
    · cases step
  | providerPage entries prevCursor =>
    simp only [WalkEvent.run] at step
    split at step
    · obtain ⟨loaded, -, rfl⟩ := Option.map_eq_some_iff.mp step
      cases done
    · cases step
  | providerFails =>
    simp only [WalkEvent.run] at step
    split at step
    · obtain rfl := Option.some.inj step
      cases done
    · cases step
  | olderPage marks =>
    simp only [WalkEvent.run] at step
    split at step
    · rename_i cursor ready
      obtain rfl := Option.some.inj step
      obtain ⟨low', bound', -, below⟩ := accounted.olderPage ready encoding threadId marks
      have at_ready := accounted.position
      unfold Walk.At at at_ready
      rw [ready] at at_ready
      intro first head
      exact Walk.first_served accounted unfinished at_ready.1 below ((Walk.receive_done_iff _ _).mp done) head
    · cases step

/-- A walk back serves every row once: nothing twice, all rows held or prepended by the time it ends, and none of those
appended after a row was served. -/
theorem walk_back_serves_every_row_once {encoding : PageEncoding} {threadId : String} {first walk : Walk}
    (starts : first.Starts) (run : WalkRun encoding threadId first walk) :
    (∀ rowId ∈ walk.held ++ walk.prepended,
      walk.servedIds.count (some rowId) ≤ 1 ∧ (walk.phase = .done → walk.servedIds.count (some rowId) = 1)) ∧
    (∀ rowId ∈ walk.appended, some rowId ∉ walk.servedIds) ∧
    (∃ keys : List Int, walk.entries.map (·.orderSeq) = keys.map some ∧ keys.Pairwise (· < ·)) ∧
    (∃ keys : List Int, walk.tokens.map walk.loaded.transcriptKeySpace.decode =
      keys.map (fun key => .ok { orderKey := key }) ∧ keys.Pairwise (· < ·)) ∧
    (∀ event after, WalkEvent.run encoding threadId walk event = some after → walk.phase ≠ .done → after.phase = .done →
      after.loaded.unreadProviderHistory = none ∧
      ∀ first, after.loaded.runtime.transcript.rows.head? = some first → some first.rowId ∈ after.servedIds) := by
  obtain ⟨low, bound, accounted⟩ := run.accounted starts
  refine ⟨?_, ?_, Walk.served_keys accounted, ?_, fun event after step unfinished done =>
    accounted.ends step unfinished done⟩
  · intro rowId member
    have once := Walk.servedIds_nodup accounted
    refine ⟨List.nodup_iff_count_le_one.mp once _, fun done => List.count_eq_one_of_mem once ?_⟩
    obtain ⟨key, place, below⟩ := accounted.early rowId member
    have at_end := accounted.position
    unfold Walk.At at at_end
    rw [done] at at_end
    have above := (accounted.ordered.place_bounds place).1
    have word := accounted.worded.head
    exact (Walk.mem_servedIds accounted).mpr ⟨key, place, by omega, below⟩
  · intro rowId member served
    obtain ⟨key, place, from_bound⟩ := accounted.late rowId member
    obtain ⟨key', place', -, below⟩ := (Walk.mem_servedIds accounted).mp served
    have same := Walk.place_unique accounted.ordered place place'
    omega
  · obtain ⟨keys, tokens, increasing, words⟩ := accounted.cursors
    refine ⟨keys, ?_, increasing⟩
    rw [tokens, List.map_map]
    refine List.map_congr_left fun key member => ?_
    have word := (words key member).2
    have key_word : -2 ^ 63 ≤ key ∧ key < 2 ^ 63 := ⟨word.1, by unfold i64Max at word; omega⟩
    rw [Function.comp, TranscriptKeySpace.decode_cursorOlderThan _ _ key_word, if_pos rfl]

def noMarks : ThreadInjections where
  apply _ _ view := view
  rowId_apply _ _ _ := rfl
  orderSeq_apply _ _ _ := rfl

def plainEncoding : PageEncoding where
  serializedLen _ := 100
  patchIsAppliable _ := false

/-- A thread without rows, whose provider has history at position 5. -/
def unreadWalk : Walk where
  loaded :=
    { runtime := { ThreadRuntime.new 0 with providerHistoryCursor := some 5 }
      providerHistoryPaged := true
      transcriptKeySpace := { name := "s", no_dot := by simp }
      applyStates := ∅ }
  phase := .start
  pages := []
  held := []
  prepended := []
  appended := []

theorem unreadWalk_starts : unreadWalk.Starts where
  reached := ⟨_, .new 0, _, .start, some 5, rfl⟩
  phase := rfl
  pages := rfl
  prepended := rfl
  appended := rfl
  held := rfl

def liveRow : RuntimeCall :=
  .upsert "live" .provider .agentText (some "now") "completed" none none 1

/-- The walk as an older-page request begins. -/
def Walk.reads (walk : Walk) (key : Int) : Walk :=
  { walk with
    phase := .reading (walk.loaded.transcriptKeySpace.cursorOlderThan key) { orderKey := key }
      maxProviderHistoryPagesPerRequest [] }

theorem ask_at {walk : Walk} {key : Int} (word : -2 ^ 63 ≤ key ∧ key < 2 ^ 63)
    (between : walk.phase = .between (walk.loaded.transcriptKeySpace.cursorOlderThan key)) :
    WalkEvent.ask.run plainEncoding "t" walk = some (walk.reads key) := by
  have decoded := walk.loaded.transcriptKeySpace.decode_cursorOlderThan walk.loaded.transcriptKeySpace word
  rw [if_pos rfl] at decoded
  simp only [WalkEvent.run, between, decoded, Walk.reads]

/-- The row arrives live, the latest page serves it, the provider's page is prepended and served, and the walk ends. -/
theorem live_and_read_rows_are_served_once :
    ∃ walk, WalkRun plainEncoding "t" unreadWalk walk ∧ walk.phase = .done ∧
      walk.held = ["live"] ∧ walk.prepended = ["old"] ∧
      ∀ rowId ∈ walk.held ++ walk.prepended, walk.servedIds.count (some rowId) = 1 := by
  obtain ⟨live, first, latest, second, between, awaiting, third, read, fourth, ready, fifth, last, sixth, done, held,
      prepended⟩ : ∃ live,
      (WalkEvent.live liveRow).run plainEncoding "t" unreadWalk = some live ∧ ∃ latest,
      (WalkEvent.latestPage noMarks).run plainEncoding "t" live = some latest ∧
      latest.phase = .between (latest.loaded.transcriptKeySpace.cursorOlderThan 0) ∧ ∃ awaiting,
      WalkEvent.look.run plainEncoding "t" (latest.reads 0) = some awaiting ∧ ∃ read,
      (WalkEvent.providerPage [.providerNamed (plainEntry (some "old"))] none).run plainEncoding "t" awaiting =
        some read ∧ ∃ ready,
      WalkEvent.look.run plainEncoding "t" read = some ready ∧ ∃ last,
      (WalkEvent.olderPage noMarks).run plainEncoding "t" ready = some last ∧ last.phase = .done ∧
      last.held = ["live"] ∧ last.prepended = ["old"] :=
    ⟨_, rfl, _, rfl, rfl, _, rfl, _, rfl, _, rfl, _, rfl, rfl, rfl, rfl⟩
  have run : WalkRun plainEncoding "t" unreadWalk last :=
    .next (.next (.next (.next (.next (.next (.next .start first) second) (ask_at (by decide) between)) third) fourth)
      fifth) sixth
  have once := (walk_back_serves_every_row_once unreadWalk_starts run).1
  exact ⟨last, run, done, held, prepended, fun rowId member => (once rowId member).2 done⟩

/-- The first page has no row, so its cursor is the largest key, and a row appended after it is below that: the next
page serves it. -/
theorem row_after_the_empty_first_page_is_served :
    ∃ begun appended last,
      unreadWalk.Starts ∧ (WalkEvent.latestPage noMarks).run plainEncoding "t" unreadWalk = some begun ∧
      begun.pages.length = 1 ∧ (WalkEvent.live liveRow).run plainEncoding "t" begun = some appended ∧
      newRows begun.loaded.runtime.transcript appended.loaded.runtime.transcript = ["live"] ∧
      WalkRun plainEncoding "t" appended last ∧ last.pages.length = 2 ∧ some "live" ∈ last.servedIds := by
  obtain ⟨begun, first, one, appended, second, fresh, between, ready, third, last, fourth, two, served⟩ : ∃ begun,
      (WalkEvent.latestPage noMarks).run plainEncoding "t" unreadWalk = some begun ∧ begun.pages.length = 1 ∧
      ∃ appended, (WalkEvent.live liveRow).run plainEncoding "t" begun = some appended ∧
      newRows begun.loaded.runtime.transcript appended.loaded.runtime.transcript = ["live"] ∧
      appended.phase = .between (appended.loaded.transcriptKeySpace.cursorOlderThan i64Max) ∧ ∃ ready,
      WalkEvent.look.run plainEncoding "t" (appended.reads i64Max) = some ready ∧ ∃ last,
      (WalkEvent.olderPage noMarks).run plainEncoding "t" ready = some last ∧ last.pages.length = 2 ∧
      last.servedIds = [some "live"] := ⟨_, rfl, rfl, _, rfl, rfl, rfl, _, rfl, _, rfl, rfl, rfl⟩
  have run : WalkRun plainEncoding "t" appended last :=
    .next (.next (.next .start (ask_at (by decide) between)) third) fourth
  exact ⟨begun, appended, last, unreadWalk_starts, first, one, second, fresh, run, two, by simp [served]⟩

end Sealwire.Transcript

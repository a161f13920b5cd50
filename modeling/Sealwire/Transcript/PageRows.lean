import Mathlib.Data.Int.Order.Basic
import Mathlib.Data.List.TakeWhile
import Sealwire.Lib.KeyRange
import Sealwire.Transcript.Places

namespace Sealwire.Transcript

/-- What an entry of a page says of its row's place. -/
def TranscriptEntryView.place (view : TranscriptEntryView) : Option String × Option Int :=
  (view.rowId, view.orderSeq)

/-- How a place is told in a page. -/
def told (place : String × Int) : Option String × Option Int :=
  (some place.1, some place.2)

@[simp] theorem stripFileChangeDiffsForTransport_place (encoding : PageEncoding) (entry : TranscriptEntryView) :
    (stripFileChangeDiffsForTransport encoding entry).place = entry.place := by
  unfold stripFileChangeDiffsForTransport
  split
  · rfl
  split
  · rfl
  · rfl

theorem overlayApplyState_place (record : TranscriptRecord) (view : TranscriptEntryView)
    (applyStates : Table String FileChangeApplyState) :
    (overlayApplyState record view applyStates).place = view.place := by
  unfold overlayApplyState
  split
  · rfl
  split
  · rfl
  · rfl

@[simp] theorem LoadedRuntime.pageView_place (loaded : LoadedRuntime) (record : TranscriptRecord)
    (marks : ThreadInjections) : (loaded.pageView record marks).place = told record.place := by
  have overlaid := overlayApplyState_place record record.toView loaded.applyStates
  rw [TranscriptEntryView.place, LoadedRuntime.pageView, marks.rowId_apply, marks.orderSeq_apply]
  exact overlaid

/-- The loop takes the newest rows it was given, at least one if there is any. -/
theorem reverseWindow_spec (encoding : PageEncoding) (envelope : Nat)
    (entryAt : TranscriptRecord → TranscriptEntryView) (older : List TranscriptRecord) (sum : Nat)
    (selected : List TranscriptEntryView) :
    ∃ count, count ≤ older.length ∧
      reverseWindow encoding envelope entryAt older sum selected =
        (((older.take count).map fun row => stripFileChangeDiffsForTransport encoding (entryAt row)).reverse ++ selected,
          older.length - count) ∧
      (selected = [] → older ≠ [] → 0 < count) := by
  induction older generalizing sum selected with
  | nil => exact ⟨0, Nat.le_refl 0, by simp [reverseWindow], fun _ some_row => absurd rfl some_row⟩
  | cons record older ih =>
    unfold reverseWindow
    simp only
    split
    · rename_i full
      exact ⟨0, Nat.zero_le _, by simp, fun empty => absurd empty full.2⟩
    · obtain ⟨count, within, result, -⟩ := ih (saturatingAddUsize sum (encoding.serializedLen
        (stripFileChangeDiffsForTransport encoding (entryAt record))))
        (stripFileChangeDiffsForTransport encoding (entryAt record) :: selected)
      refine ⟨count + 1, Nat.succ_le_succ within, ?_, fun _ _ => Nat.succ_pos count⟩
      rw [result]
      simp

/-- A window is a run of rows that ends at its upper bound. -/
theorem LoadedRuntime.window_spec (encoding : PageEncoding) (loaded : LoadedRuntime) (threadId : String)
    (before : Option TranscriptCursor) (marks : ThreadInjections) :
    ∃ start, start ≤ loaded.upperBound before ∧ (0 < loaded.upperBound before → start < loaded.upperBound before) ∧
      (loaded.window encoding threadId before marks).2 = start ∧
      (loaded.window encoding threadId before marks).1.map TranscriptEntryView.place =
        (((loaded.runtime.transcript.rows.take (loaded.upperBound before)).drop start).map
          TranscriptRecord.place).map told := by
  have within : loaded.upperBound before ≤ loaded.runtime.transcript.rows.length := by
    unfold LoadedRuntime.upperBound
    split
    · exact Nat.le_refl _
    · exact (List.takeWhile_sublist _).length_le
  generalize upper : loaded.upperBound before = bound at *
  obtain ⟨count, taken, result, some_row⟩ := reverseWindow_spec encoding
    (threadTranscriptEnvelopeUpperBoundBytes + threadId.utf8ByteSize) (fun record => loaded.pageView record marks)
    (loaded.runtime.transcript.rows.take bound).reverse 0 []
  have length : (loaded.runtime.transcript.rows.take bound).reverse.length = bound := by
    rw [List.length_reverse, List.length_take]
    omega
  rw [length] at taken result
  have window : loaded.window encoding threadId before marks =
      ((((loaded.runtime.transcript.rows.take bound).reverse.take count).map fun row =>
        stripFileChangeDiffsForTransport encoding (loaded.pageView row marks)).reverse ++ [], bound - count) := by
    rw [LoadedRuntime.window, upper]
    exact result
  refine ⟨bound - count, Nat.sub_le _ _, ?_, by rw [window], ?_⟩
  · intro positive
    have given : (loaded.runtime.transcript.rows.take bound).reverse ≠ [] := by
      intro none_given
      rw [none_given] at length
      simp only [List.length_nil] at length
      omega
    have one := some_row rfl given
    omega
  · have rows : (loaded.runtime.transcript.rows.take bound).reverse.take count =
        ((loaded.runtime.transcript.rows.take bound).drop (bound - count)).reverse := by
      rw [List.take_reverse, List.length_take, Nat.min_eq_left within]
    rw [window, List.append_nil, rows]
    simp only [List.map_reverse, List.reverse_reverse, List.map_map]
    refine List.map_congr_left fun row _ => ?_
    simp

theorem Ordered.sorted {s : ThreadRuntime} (ordered : Ordered s) : (s.places.map Prod.snd).Pairwise (· < ·) := by
  rw [ThreadRuntime.places, List.map_map]
  exact ordered.increasing

theorem Ordered.place_bounds {s : ThreadRuntime} (ordered : Ordered s) {place : String × Int}
    (member : place ∈ s.places) : s.nextHeadOrderSeq < place.2 ∧ place.2 < s.nextTailOrderSeq := by
  obtain ⟨row, there, rfl⟩ := List.mem_map.mp member
  exact ⟨ordered.below row there, ordered.above row there⟩

theorem LoadedRuntime.upperBound_some (loaded : LoadedRuntime) (cursor : TranscriptCursor) :
    loaded.upperBound (some cursor) =
      (loaded.runtime.places.takeWhile fun place => place.2 < cursor.orderKey).length := by
  rw [ThreadRuntime.places, List.takeWhile_map, List.length_map]
  rfl

/-- The rows below the upper bound are those with a key below the cursor's. -/
theorem Ordered.take_upperBound {loaded : LoadedRuntime} (ordered : Ordered loaded.runtime)
    (cursor : TranscriptCursor) :
    (loaded.runtime.transcript.rows.take (loaded.upperBound (some cursor))).map TranscriptRecord.place =
      loaded.runtime.places.filter fun place => place.2 < cursor.orderKey := by
  have sorted := takeWhile_lt_eq_filter ordered.sorted cursor.orderKey
  rw [List.map_take, loaded.upperBound_some cursor, ← sorted]
  exact (List.prefix_iff_eq_take.mp (List.takeWhile_prefix _)).symm

/-- Without a row above the largest key, the latest page is the page below that key. -/
theorem Ordered.latestPage {loaded : LoadedRuntime} (ordered : Ordered loaded.runtime)
    (worded : Worded loaded.runtime) (encoding : PageEncoding) (threadId : String) (marks : ThreadInjections) :
    loaded.transcriptPage encoding threadId none marks =
      loaded.transcriptPage encoding threadId (some { orderKey := LoadedRuntime.i64Max }) marks := by
  have below (row : TranscriptRecord) (member : row ∈ loaded.runtime.transcript.rows) :
      row.orderSeq < LoadedRuntime.i64Max := by
    have above := ordered.above row member
    have tail := worded.tail
    unfold LoadedRuntime.i64Max
    omega
  have upper : loaded.upperBound none = loaded.upperBound (some { orderKey := LoadedRuntime.i64Max }) := by
    have all : loaded.runtime.transcript.rows.takeWhile (fun row => row.orderSeq < LoadedRuntime.i64Max) =
        loaded.runtime.transcript.rows := List.takeWhile_eq_self_iff.mpr fun row member => by simpa using below row member
    simp only [LoadedRuntime.upperBound, all]
  have key (start : Nat) : loaded.nextOlderKey none start =
      loaded.nextOlderKey (some { orderKey := LoadedRuntime.i64Max }) start := by
    unfold LoadedRuntime.nextOlderKey
    split
    · rfl
    split
    · cases first : loaded.runtime.transcript.rows.head? with
      | none => rfl
      | some row =>
        have least := Int.min_eq_right (Int.le_of_lt (below row (List.mem_of_mem_head? first)))
        simp only [least]
    · rfl
  simp only [LoadedRuntime.transcriptPage, LoadedRuntime.window, upper, key]

/-- A page below a cursor serves exactly the rows from its own cursor up to that one; without a cursor of its own it
serves all of them, and the provider has nothing unread. -/
structure PageBelow (loaded : LoadedRuntime) (cursor : TranscriptCursor) (page : ThreadTranscriptResponse)
    (low : Int) : Prop where
  word : -2 ^ 63 ≤ low
  le : low ≤ cursor.orderKey
  entries : page.entries.map TranscriptEntryView.place =
    (keyRange Prod.snd low cursor.orderKey loaded.runtime.places).map told
  next :
    page.prevCursor = some (loaded.transcriptKeySpace.cursorOlderThan low) ∧ loaded.runtime.nextHeadOrderSeq < low ∧
        (low < cursor.orderKey ∧ page.entries ≠ [] ∨
          low = cursor.orderKey ∧ loaded.holdsRowsOlderThan cursor = false ∧ loaded.unreadProviderHistory ≠ none) ∨
      page.prevCursor = none ∧ loaded.unreadProviderHistory = none ∧ low = -2 ^ 63

theorem Ordered.first_le {s : ThreadRuntime} (ordered : Ordered s) {first : TranscriptRecord}
    (at_first : s.transcript.rows.head? = some first) {place : String × Int} (member : place ∈ s.places) :
    first.orderSeq ≤ place.2 := by
  obtain ⟨row, there, rfl⟩ := List.mem_map.mp member
  rw [List.head?_eq_getElem?] at at_first
  exact ordered.le_drop at_first (by simpa using there)

theorem LoadedRuntime.holdsRowsOlderThan_iff {loaded : LoadedRuntime} (ordered : Ordered loaded.runtime)
    (cursor : TranscriptCursor) :
    loaded.holdsRowsOlderThan cursor = true ↔ ∃ place ∈ loaded.runtime.places, place.2 < cursor.orderKey := by
  unfold LoadedRuntime.holdsRowsOlderThan
  cases first : loaded.runtime.transcript.rows.head? with
  | none =>
    have empty := List.head?_eq_none_iff.mp first
    simp [ThreadRuntime.places, empty]
  | some row =>
    simp only [decide_eq_true_eq]
    constructor
    · intro older
      exact ⟨row.place, List.mem_map_of_mem (List.mem_of_mem_head? first), older⟩
    · rintro ⟨place, member, older⟩
      exact Int.lt_of_le_of_lt (ordered.first_le first member) older

/-- A window that starts above the first row ends the page at the key of its own first row. -/
theorem Ordered.page_from_inside {loaded : LoadedRuntime} (ordered : Ordered loaded.runtime)
    {cursor : TranscriptCursor} {start : Nat} (inside : start < loaded.upperBound (some cursor)) :
    ∃ first, loaded.runtime.transcript.rows[start]? = some first ∧ first.orderSeq < cursor.orderKey ∧
      ((loaded.runtime.transcript.rows.take (loaded.upperBound (some cursor))).drop start).map TranscriptRecord.place =
        keyRange Prod.snd first.orderSeq cursor.orderKey loaded.runtime.places := by
  have older := ordered.take_upperBound cursor
  have length : ((loaded.runtime.transcript.rows.take (loaded.upperBound (some cursor)))).length =
      loaded.upperBound (some cursor) := by
    rw [List.length_take]
    exact Nat.min_eq_left (List.takeWhile_sublist _).length_le
  obtain ⟨first, at_start⟩ : ∃ first,
      (loaded.runtime.transcript.rows.take (loaded.upperBound (some cursor)))[start]? = some first :=
    ⟨_, List.getElem?_eq_getElem (by omega)⟩
  have place_at : (loaded.runtime.places.filter fun place => place.2 < cursor.orderKey)[start]? =
      some first.place := by
    rw [← older, List.getElem?_map, at_start]
    rfl
  have below : first.orderSeq < cursor.orderKey := by
    have member := List.mem_of_getElem? place_at
    rw [List.mem_filter, decide_eq_true_eq] at member
    exact member.2
  refine ⟨first, ?_, below, ?_⟩
  · rw [List.getElem?_take_of_lt inside] at at_start
    exact at_start
  · have sorted : ((loaded.runtime.places.filter fun place => place.2 < cursor.orderKey).map Prod.snd).Pairwise
        (· < ·) := ordered.sorted.sublist (List.filter_sublist.map _)
    rw [List.map_drop, older, drop_eq_filter_le sorted place_at, List.filter_filter, keyRange]
    refine List.filter_congr fun place _ => ?_
    rw [Bool.eq_iff_iff, Bool.and_eq_true, decide_eq_true_iff, decide_eq_true_iff, decide_eq_true_iff]
    exact Iff.rfl

/-- What a page below a cursor serves. -/
theorem Ordered.pageBelow {loaded : LoadedRuntime} (ordered : Ordered loaded.runtime) (worded : Worded loaded.runtime)
    {cursor : TranscriptCursor} (issued : loaded.runtime.nextHeadOrderSeq < cursor.orderKey) (encoding : PageEncoding)
    (threadId : String) (marks : ThreadInjections) :
    ∃ low, PageBelow loaded cursor (loaded.transcriptPage encoding threadId (some cursor) marks) low := by
  obtain ⟨start, within, inside, same, entries⟩ := loaded.window_spec encoding threadId (some cursor) marks
  have served : (loaded.transcriptPage encoding threadId (some cursor) marks).entries =
      (loaded.window encoding threadId (some cursor) marks).1 := rfl
  have next : (loaded.transcriptPage encoding threadId (some cursor) marks).prevCursor =
      (loaded.nextOlderKey (some cursor) start).map loaded.transcriptKeySpace.cursorOlderThan := by
    rw [← same]
    rfl
  have word := worded.head
  have held := LoadedRuntime.holdsRowsOlderThan_iff ordered cursor
  rw [← served] at entries
  generalize loaded.transcriptPage encoding threadId (some cursor) marks = page at *
  by_cases later : 0 < start
  · obtain ⟨first, at_start, below, rows⟩ := ordered.page_from_inside (inside (by omega))
    have member : first.place ∈ loaded.runtime.places := List.mem_map_of_mem (List.mem_of_getElem? at_start)
    have bounds := ordered.place_bounds member
    have key : loaded.nextOlderKey (some cursor) start = some first.orderSeq := by
      simp only [LoadedRuntime.nextOlderKey, at_start, later, decide_true]
    rw [rows] at entries
    refine ⟨first.orderSeq, ?_, Int.le_of_lt below, entries, .inl ⟨?_, bounds.1, .inl ⟨below, ?_⟩⟩⟩
    · exact Int.le_trans word (Int.le_of_lt bounds.1)
    · rw [next, key]
      rfl
    · intro none_served
      have there : first.place ∈ keyRange Prod.snd first.orderSeq cursor.orderKey loaded.runtime.places :=
        mem_keyRange.mpr ⟨member, Int.le_refl _, below⟩
      rw [none_served, List.map_nil, eq_comm, List.map_eq_nil_iff] at entries
      rw [entries] at there
      cases there
  · obtain rfl : start = 0 := by omega
    have older := ordered.take_upperBound cursor
    rw [List.drop_zero, older] at entries
    -- Every row below the cursor is served, so any key at or below the first row's says the same.
    have all {low : Int} (lowest : ∀ place ∈ loaded.runtime.places, place.2 < cursor.orderKey → low ≤ place.2) :
        page.entries.map TranscriptEntryView.place =
          (keyRange Prod.snd low cursor.orderKey loaded.runtime.places).map told := by
      rw [entries, keyRange]
      congr 1
      refine List.filter_congr fun place member => ?_
      by_cases below : place.2 < cursor.orderKey
      · simp [below, lowest place member below]
      · simp [below]
    cases unread : loaded.unreadProviderHistory with
    | none =>
      have key : loaded.nextOlderKey (some cursor) 0 = none := by
        simp [LoadedRuntime.nextOlderKey, unread]
      refine ⟨-2 ^ 63, Int.le_refl _, by omega, all fun place member _ => ?_, .inr ⟨by rw [next, key]; rfl, unread, rfl⟩⟩
      have bounds := ordered.place_bounds member
      omega
    | some position =>
      by_cases holds : loaded.holdsRowsOlderThan cursor = true
      · obtain ⟨place, member, below⟩ := held.mp holds
        cases head : loaded.runtime.transcript.rows.head? with
        | none => simp [LoadedRuntime.holdsRowsOlderThan, head] at holds
        | some first =>
          have least : first.orderSeq < cursor.orderKey := by
            simpa [LoadedRuntime.holdsRowsOlderThan, head] using holds
          have first_row : first.place ∈ loaded.runtime.places := List.mem_map_of_mem (List.mem_of_mem_head? head)
          have bounds := ordered.place_bounds first_row
          have key : loaded.nextOlderKey (some cursor) 0 = some first.orderSeq := by
            have smaller := Int.min_eq_right (Int.le_of_lt least)
            simp [LoadedRuntime.nextOlderKey, unread, head, smaller]
          have rows := all fun place member _ => ordered.first_le head member
          refine ⟨first.orderSeq, Int.le_trans word (Int.le_of_lt bounds.1), Int.le_of_lt least, rows,
            .inl ⟨by rw [next, key]; rfl, bounds.1, .inl ⟨least, ?_⟩⟩⟩
          intro none_served
          have there : first.place ∈ keyRange Prod.snd first.orderSeq cursor.orderKey loaded.runtime.places :=
            mem_keyRange.mpr ⟨first_row, Int.le_refl _, least⟩
          rw [none_served, List.map_nil, eq_comm, List.map_eq_nil_iff] at rows
          rw [rows] at there
          cases there
      · have none_older (place : String × Int) (member : place ∈ loaded.runtime.places) :
            cursor.orderKey ≤ place.2 := by
          by_contra below
          exact holds (held.mpr ⟨place, member, by omega⟩)
        have key : loaded.nextOlderKey (some cursor) 0 = some cursor.orderKey := by
          cases head : loaded.runtime.transcript.rows.head? with
          | none => simp [LoadedRuntime.nextOlderKey, unread, head]
          | some first =>
            have above : cursor.orderKey ≤ first.orderSeq :=
              none_older first.place (List.mem_map_of_mem (List.mem_of_mem_head? head))
            simp [LoadedRuntime.nextOlderKey, unread, head, Int.min_eq_left above]
        refine ⟨cursor.orderKey, by omega, Int.le_refl _, all fun place member _ => none_older place member,
          .inl ⟨by rw [next, key]; rfl, issued, .inr ⟨rfl, by simpa using holds, ?_⟩⟩⟩
        rw [unread]
        exact Option.some_ne_none position

end Sealwire.Transcript

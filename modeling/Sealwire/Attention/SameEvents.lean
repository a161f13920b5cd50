import Sealwire.Attention.Trackers

namespace Sealwire.Attention

def AttentionKind.toPush : AttentionKind → PushKind
  | needsInput => .needsInput
  | completed => .completed

theorem AttentionKind.toPush_injective : Function.Injective AttentionKind.toPush := by
  intro one other same
  cases one <;> cases other <;> first | rfl | cases same

section Diff

variable {prev next : ThreadStates} {suppressed : Finset String} {id : String}

/-- The job of one thread, told without the threads before it. -/
def jobFor (prev next : ThreadStates) (suppressed : Finset String) (id : String) : Option PushJob :=
  match transitionKind (prev.stateFor id) (next.stateFor id) with
  | some .needsInput => some { kind := .needsInput, threadId := id }
  | some .completed => if id ∈ suppressed then none else some { kind := .completed, threadId := id }
  | none => none

/-- What takes a thread's suppression away: a new working period, or the end of one. -/
def clears (before after : ThreadState) : Bool :=
  (!before.working && after.working) || (before.working && !after.working && !after.needsInput)

theorem transitionKind_idle : transitionKind {} {} = none := rfl

theorem jobFor_threadId {job : PushJob} (found : jobFor prev next suppressed id = some job) : job.threadId = id := by
  unfold jobFor at found
  split at found
  · cases found
    rfl
  · split_ifs at found
    cases found
    rfl
  · cases found

theorem jobFor_congr {other : Finset String} (same : id ∈ suppressed ↔ id ∈ other) :
    jobFor prev next suppressed id = jobFor prev next other id := by
  simp only [jobFor, same]

theorem diffThread_jobs (found : Finset String × List PushJob) :
    (PushAttentionTracker.diffThread prev next found id).2 = found.2 ++ (jobFor prev next found.1 id).toList := by
  simp only [PushAttentionTracker.diffThread, jobFor, transitionKind]
  generalize prev.stateFor id = before
  generalize next.stateFor id = after
  obtain ⟨working, waiting⟩ := before
  obtain ⟨working', waiting'⟩ := after
  by_cases member : id ∈ found.1 <;> cases working <;> cases waiting <;> cases working' <;> cases waiting' <;>
    simp [member]

theorem mem_diffThread {other : String} (found : Finset String × List PushJob) :
    other ∈ (PushAttentionTracker.diffThread prev next found id).1 ↔
      other ∈ found.1 ∧ ¬ (other = id ∧ clears (prev.stateFor id) (next.stateFor id) = true) := by
  simp only [PushAttentionTracker.diffThread, clears]
  generalize prev.stateFor id = before
  generalize next.stateFor id = after
  obtain ⟨working, waiting⟩ := before
  obtain ⟨working', waiting'⟩ := after
  by_cases member : id ∈ found.1 <;> by_cases same : other = id <;>
    cases working <;> cases waiting <;> cases working' <;> cases waiting' <;> simp [member, same]

/-- Each thread is looked at once, so its share does not depend on the others. -/
theorem foldl_diffThread {ids : List String} (nodup : ids.Nodup) (found : Finset String × List PushJob) :
    (ids.foldl (PushAttentionTracker.diffThread prev next) found).2 =
        found.2 ++ ids.filterMap (jobFor prev next found.1) ∧
      ∀ other, other ∈ (ids.foldl (PushAttentionTracker.diffThread prev next) found).1 ↔
        other ∈ found.1 ∧ ¬ (other ∈ ids ∧ clears (prev.stateFor other) (next.stateFor other) = true) := by
  induction ids generalizing found with
  | nil => simp
  | cons first rest ih =>
    obtain ⟨fresh, distinct⟩ := List.nodup_cons.mp nodup
    obtain ⟨jobs, suppressions⟩ := ih distinct (PushAttentionTracker.diffThread prev next found first)
    constructor
    · have later : rest.filterMap (jobFor prev next (PushAttentionTracker.diffThread prev next found first).1) =
          rest.filterMap (jobFor prev next found.1) := by
        refine List.filterMap_congr fun id member => jobFor_congr ?_
        have other : id ≠ first := fun same => fresh (same ▸ member)
        simp [mem_diffThread, other]
      rw [List.foldl_cons, jobs, later, diffThread_jobs, List.filterMap_cons, List.append_assoc]
      cases jobFor prev next found.1 first <;> rfl
    · intro other
      rw [List.foldl_cons, suppressions, mem_diffThread, List.mem_cons]
      by_cases same : other = first
      · subst same
        simp [fresh]
      · simp [same]

end Diff

section Ingest

variable {tracker : PushAttentionTracker} {prev next : ThreadStates}

theorem sortedIds_nodup (prev next : ThreadStates) : (PushAttentionTracker.sortedIds prev next).Nodup :=
  (List.mergeSort_perm _ _).nodup_iff.mpr (List.nodup_dedup _)

theorem mem_sortedIds {id : String} :
    id ∈ PushAttentionTracker.sortedIds prev next ↔ id ∈ prev.keys ∨ id ∈ next.keys := by
  rw [PushAttentionTracker.sortedIds, List.mem_mergeSort, List.mem_dedup, List.mem_append]

/-- A thread of neither map makes no transition. -/
theorem idle_of_not_mem {id : String} (absent : id ∉ PushAttentionTracker.sortedIds prev next) :
    prev.stateFor id = {} ∧ next.stateFor id = {} := by
  rw [mem_sortedIds, not_or] at absent
  exact ⟨ThreadStates.stateFor_of_not_mem absent.1, ThreadStates.stateFor_of_not_mem absent.2⟩

theorem ingestStates_jobs (seen : tracker.prev = some prev) : (tracker.ingestStates next).2 =
    (PushAttentionTracker.sortedIds prev next).filterMap (jobFor prev next tracker.suppressed) := by
  have looked := sortedIds_nodup prev next
  simp only [PushAttentionTracker.ingestStates, seen]
  exact (foldl_diffThread looked (tracker.suppressed, [])).1

theorem ingestStates_prev : (tracker.ingestStates next).1.prev = some next := by
  unfold PushAttentionTracker.ingestStates
  split <;> rfl

theorem mem_ingestStates_suppressed (seen : tracker.prev = some prev) {id : String} :
    id ∈ (tracker.ingestStates next).1.suppressed ↔
      id ∈ tracker.suppressed ∧ clears (prev.stateFor id) (next.stateFor id) = false := by
  have looked := sortedIds_nodup prev next
  simp only [PushAttentionTracker.ingestStates, seen]
  rw [(foldl_diffThread looked (tracker.suppressed, [])).2 id]
  by_cases member : id ∈ PushAttentionTracker.sortedIds prev next
  · simp [member]
  · obtain ⟨before, after⟩ := idle_of_not_mem member
    simp [member, before, after, clears]

/-- No step emits two jobs for one thread. -/
theorem ingestStates_nodup : ((tracker.ingestStates next).2.map (·.threadId)).Nodup := by
  cases seen : tracker.prev with
  | none => simp [PushAttentionTracker.ingestStates, seen]
  | some prev =>
    rw [ingestStates_jobs seen, List.map_filterMap]
    refine (sortedIds_nodup prev next).filterMap fun one other id found found' => ?_
    obtain ⟨job, first, rfl⟩ := Option.map_eq_some_iff.mp (Option.mem_def.mp found)
    obtain ⟨job', second, same⟩ := Option.map_eq_some_iff.mp (Option.mem_def.mp found')
    rw [← jobFor_threadId first, ← jobFor_threadId second, same]

theorem bothKeys_nodup (prev next : ThreadStates) : (ThreadAttentionTracker.bothKeys prev next).Nodup := by
  refine List.nodup_append.mpr ⟨prev.nodup, next.nodup.filter _, fun id first other second same => ?_⟩
  have fresh := List.of_mem_filter second
  simp only [decide_eq_true_eq] at fresh
  exact fresh (same ▸ first)

theorem mem_bothKeys {id : String} :
    id ∈ ThreadAttentionTracker.bothKeys prev next ↔ id ∈ prev.keys ∨ id ∈ next.keys := by
  simp only [ThreadAttentionTracker.bothKeys, List.mem_append, List.mem_filter, decide_eq_true_eq]
  tauto

theorem transitionKind_of_not_mem {id : String} (absent : ¬ (id ∈ prev.keys ∨ id ∈ next.keys)) :
    transitionKind (prev.stateFor id) (next.stateFor id) = none := by
  rw [not_or] at absent
  rw [ThreadStates.stateFor_of_not_mem absent.1, ThreadStates.stateFor_of_not_mem absent.2]
  rfl

end Ingest

section Agreement

variable {prev next prev' next' : ThreadStates} {viewing : ThreadAttentionTracker.Viewing} {suppressed : Finset String}

/-- What a job and an event say: a thread and what became of it. -/
def PushJob.told (job : PushJob) : String × PushKind := (job.threadId, job.kind)

def AttentionEvent.told (event : AttentionEvent) : String × PushKind := (event.threadId, event.kind.toPush)

/-- A completed event that an error push has taken the place of. -/
def AttentionEvent.swallowed (suppressed : Finset String) (event : AttentionEvent) : Bool :=
  event.kind = .completed && event.threadId ∈ suppressed

theorem mem_jobs_told {id : String} {kind : PushKind} :
    (id, kind) ∈ ((PushAttentionTracker.sortedIds prev next).filterMap (jobFor prev next suppressed)).map PushJob.told ↔
      ∃ transition, transitionKind (prev.stateFor id) (next.stateFor id) = some transition ∧
        kind = transition.toPush ∧ ¬ (transition = .completed ∧ id ∈ suppressed) := by
  simp only [List.mem_map, List.mem_filterMap]
  constructor
  · rintro ⟨job, ⟨other, -, found⟩, told⟩
    unfold jobFor at found
    split at found
    · rename_i known
      cases found
      cases told
      exact ⟨.needsInput, known, rfl, by simp⟩
    · rename_i known
      split_ifs at found with swallowed
      cases found
      cases told
      exact ⟨.completed, known, rfl, by simpa using swallowed⟩
    · cases found
  · rintro ⟨transition, known, rfl, kept⟩
    have there : id ∈ PushAttentionTracker.sortedIds prev next := by
      by_contra absent
      rw [mem_sortedIds] at absent
      rw [transitionKind_of_not_mem absent] at known
      cases known
    cases transition with
    | needsInput => exact ⟨{ kind := .needsInput, threadId := id }, ⟨id, there, by simp [jobFor, known]⟩, rfl⟩
    | completed =>
      have allowed : id ∉ suppressed := fun member => kept ⟨rfl, member⟩
      exact ⟨{ kind := .completed, threadId := id }, ⟨id, there, by simp [jobFor, known, allowed]⟩, rfl⟩

theorem mem_events_told {id : String} {kind : PushKind} :
    (id, kind) ∈ ((ThreadAttentionTracker.eventsFor prev next viewing).filter
        (fun event => !event.swallowed suppressed)).map AttentionEvent.told ↔
      ∃ transition, transitionKind (prev.stateFor id) (next.stateFor id) = some transition ∧
        kind = transition.toPush ∧ ¬ (transition = .completed ∧ id ∈ suppressed) := by
  simp only [List.mem_map, List.mem_filter, ThreadAttentionTracker.eventsFor, List.mem_filterMap, Option.map_eq_some_iff]
  constructor
  · rintro ⟨event, ⟨⟨other, -, transition, known, rfl⟩, kept⟩, told⟩
    cases told
    refine ⟨transition, known, rfl, ?_⟩
    simp only [AttentionEvent.swallowed, Bool.not_eq_true', Bool.and_eq_false_iff, beq_eq_false_iff_ne,
      decide_eq_false_iff_not] at kept
    tauto
  · rintro ⟨transition, known, rfl, kept⟩
    have there : id ∈ ThreadAttentionTracker.bothKeys prev next := by
      by_contra absent
      rw [mem_bothKeys] at absent
      rw [transitionKind_of_not_mem absent] at known
      cases known
    refine ⟨_, ⟨⟨id, there, transition, known, rfl⟩, ?_⟩, rfl⟩
    simp only [AttentionEvent.swallowed, Bool.not_eq_true', Bool.and_eq_false_iff, beq_eq_false_iff_ne,
      decide_eq_false_iff_not]
    tauto

theorem jobs_told_nodup :
    (((PushAttentionTracker.sortedIds prev next).filterMap (jobFor prev next suppressed)).map PushJob.told).Nodup := by
  have ids : (((PushAttentionTracker.sortedIds prev next).filterMap (jobFor prev next suppressed)).map
      (·.threadId)).Nodup := by
    let tracker : PushAttentionTracker := { prev := some prev, suppressed }
    have jobs : ((tracker.ingestStates next).2.map (·.threadId)).Nodup := ingestStates_nodup
    rwa [ingestStates_jobs rfl] at jobs
  refine List.Nodup.of_map Prod.fst ?_
  rwa [List.map_map]

theorem events_told_nodup : (((ThreadAttentionTracker.eventsFor prev next viewing).filter
    (fun event => !event.swallowed suppressed)).map AttentionEvent.told).Nodup := by
  have ids : ((ThreadAttentionTracker.eventsFor prev next viewing).map (·.threadId)).Nodup := by
    rw [ThreadAttentionTracker.eventsFor, List.map_filterMap]
    refine (bothKeys_nodup prev next).filterMap fun one other id found found' => ?_
    simp only [Option.mem_def, Option.map_eq_some_iff] at found found'
    obtain ⟨event, ⟨transition, -, rfl⟩, rfl⟩ := found
    obtain ⟨event', ⟨transition', -, rfl⟩, same⟩ := found'
    exact same.symm
  refine List.Nodup.of_map Prod.fst ?_
  rw [List.map_map]
  exact ids.sublist (List.filter_sublist.map _)

/-- On the same states the relay tells what the page tells, less what a suppression swallows. -/
theorem jobs_perm_events (before : ∀ id, prev.stateFor id = prev'.stateFor id)
    (after : ∀ id, next.stateFor id = next'.stateFor id) :
    (((PushAttentionTracker.sortedIds prev next).filterMap (jobFor prev next suppressed)).map PushJob.told).Perm
      (((ThreadAttentionTracker.eventsFor prev' next' viewing).filter
        (fun event => !event.swallowed suppressed)).map AttentionEvent.told) := by
  rw [List.perm_ext_iff_of_nodup jobs_told_nodup events_told_nodup]
  rintro ⟨id, kind⟩
  rw [mem_jobs_told, mem_events_told, before id, after id]

end Agreement

end Sealwire.Attention

import Sealwire.Attention.SameEvents

namespace Sealwire.Attention

/-- A snapshot that both trackers are fed, with what the reader looks at, or an error push. -/
inductive Step
  | snapshot (snapshot : SessionSnapshot) (viewing : ThreadAttentionTracker.Viewing)
  | suppress (threadId : String)

namespace PushAttentionTracker

def after (tracker : PushAttentionTracker) : Step → PushAttentionTracker
  | .snapshot snapshot _ => (tracker.ingest snapshot).1
  | .suppress threadId => tracker.suppressCompleted threadId

/-- The jobs of each snapshot in turn. -/
def jobsAlong (tracker : PushAttentionTracker) : List Step → List (List PushJob)
  | [] => []
  | .snapshot snapshot viewing :: rest =>
    (tracker.ingest snapshot).2 :: (tracker.after (.snapshot snapshot viewing)).jobsAlong rest
  | .suppress threadId :: rest => (tracker.after (.suppress threadId)).jobsAlong rest

end PushAttentionTracker

/-- The two trackers, fed from the same stream. -/
structure Trackers where
  push : PushAttentionTracker := {}
  page : ThreadAttentionTracker := {}

namespace Trackers

def after (trackers : Trackers) (step : Step) : Trackers :=
  match step with
  | .snapshot snapshot viewing => ⟨trackers.push.after step, (trackers.page.ingest snapshot viewing).1⟩
  | .suppress _ => { trackers with push := trackers.push.after step }

/-- The trackers have the same baseline. -/
def Level (trackers : Trackers) : Prop :=
  (trackers.push.prev = none ∧ trackers.page.prev = none) ∨
    ∃ seen seen', trackers.push.prev = some seen ∧ trackers.page.prev = some seen' ∧
      ∀ id, seen.stateFor id = seen'.stateFor id

variable {trackers : Trackers} {snapshot : SessionSnapshot} {viewing : ThreadAttentionTracker.Viewing}

theorem level_after_snapshot (alike : snapshot.ReadAlike) : (trackers.after (.snapshot snapshot viewing)).Level :=
  .inr ⟨_, _, ingestStates_prev, rfl, SessionSnapshot.stateFor_eq_of_readAlike alike⟩

theorem level_run {steps : List Step} (level : trackers.Level)
    (alike : ∀ snapshot viewing, .snapshot snapshot viewing ∈ steps → snapshot.ReadAlike) :
    (steps.foldl after trackers).Level := by
  induction steps generalizing trackers with
  | nil => exact level
  | cons step rest ih =>
    refine ih ?_ fun snapshot viewing member => alike snapshot viewing (List.mem_cons_of_mem _ member)
    cases step with
    | snapshot snapshot viewing => exact level_after_snapshot (alike snapshot viewing List.mem_cons_self)
    | suppress threadId => exact level

/-- From the same baseline both tell the same of the next snapshot. -/
theorem tells_the_same (level : trackers.Level) (alike : snapshot.ReadAlike) :
    ((trackers.push.ingest snapshot).2.map PushJob.told).Perm
      ((((trackers.page.ingest snapshot viewing).2).filter
        (fun event => !event.swallowed trackers.push.suppressed)).map AttentionEvent.told) := by
  rcases level with ⟨unseen, unseen'⟩ | ⟨seen, seen', is_seen, is_seen', same⟩
  · simp only [PushAttentionTracker.ingest, PushAttentionTracker.ingestStates, unseen, ThreadAttentionTracker.ingest,
      unseen', List.map_nil, List.filter_nil]
    exact .refl _
  · rw [PushAttentionTracker.ingest, ingestStates_jobs is_seen]
    simp only [ThreadAttentionTracker.ingest, is_seen']
    exact jobs_perm_events same (SessionSnapshot.stateFor_eq_of_readAlike alike)

end Trackers

section Suppression

variable {one other : PushAttentionTracker} {prev next : ThreadStates} {id : String}

/-- The step leaves the thread working, or is no snapshot. -/
def Step.KeepsWorking (id : String) : Step → Prop
  | .snapshot shown _ => (shown.computeThreadStates.stateFor id).working = true
  | .suppress _ => True

/-- The trackers differ in the suppression of one thread at most. -/
structure SameBut (id : String) (one other : PushAttentionTracker) : Prop where
  prev : one.prev = other.prev
  suppressed : ∀ thread, thread ≠ id → (thread ∈ one.suppressed ↔ thread ∈ other.suppressed)

theorem SameBut.suppress (same : SameBut id one other) (thread : String) :
    SameBut id (one.suppressCompleted thread) (other.suppressCompleted thread) where
  prev := same.prev
  suppressed named apart := by
    simp only [PushAttentionTracker.suppressCompleted, Finset.mem_insert, same.suppressed named apart]

theorem SameBut.ingestStates (same : SameBut id one other) (seen : one.prev = some prev) :
    SameBut id (one.ingestStates next).1 (other.ingestStates next).1 where
  prev := by rw [ingestStates_prev, ingestStates_prev]
  suppressed thread apart := by
    rw [mem_ingestStates_suppressed seen, mem_ingestStates_suppressed (same.prev ▸ seen), same.suppressed thread apart]

/-- A suppression tells on the end of a working period only. -/
theorem SameBut.jobs (same : SameBut id one other) (seen : one.prev = some prev)
    (no_end : transitionKind (prev.stateFor id) (next.stateFor id) ≠ some .completed) :
    (one.ingestStates next).2 = (other.ingestStates next).2 := by
  rw [ingestStates_jobs seen, ingestStates_jobs (same.prev ▸ seen)]
  refine List.filterMap_congr fun thread _ => ?_
  by_cases this : thread = id
  · subst this
    unfold jobFor
    split
    · rfl
    · rename_i ends
      exact absurd ends no_end
    · rfl
  · exact jobFor_congr (same.suppressed thread this)

/-- Once the thread is seen idle, a suppression of it has no effect any more. -/
theorem SameBut.idle (same : SameBut id one other) (seen : one.prev = some prev)
    (idle : (prev.stateFor id).working = false) (steps : List Step) : one.jobsAlong steps = other.jobsAlong steps := by
  induction steps generalizing one other prev with
  | nil => rfl
  | cons step rest ih =>
    cases step with
    | suppress thread => exact ih (same.suppress thread) seen idle
    | snapshot snapshot viewing =>
      have no_end : transitionKind (prev.stateFor id) (snapshot.computeThreadStates.stateFor id) ≠ some .completed := by
        unfold transitionKind
        rw [idle]
        split <;> simp
      have jobs := same.jobs seen no_end
      have next_same : SameBut id (one.ingestStates snapshot.computeThreadStates).1
          (other.ingestStates snapshot.computeThreadStates).1 := same.ingestStates seen
      simp only [PushAttentionTracker.jobsAlong, PushAttentionTracker.after, PushAttentionTracker.ingest, jobs]
      refine congrArg _ ?_
      cases works : (snapshot.computeThreadStates.stateFor id).working with
      | false => exact ih next_same ingestStates_prev works
      | true =>
        -- The new working period has taken the suppression away in both.
        have cleared : clears (prev.stateFor id) (snapshot.computeThreadStates.stateFor id) = true := by
          simp [clears, idle, works]
        have equal : (one.ingestStates snapshot.computeThreadStates).1 = (other.ingestStates snapshot.computeThreadStates).1 := by
          have members : (one.ingestStates snapshot.computeThreadStates).1.suppressed =
              (other.ingestStates snapshot.computeThreadStates).1.suppressed := by
            ext thread
            by_cases this : thread = id
            · subst this
              simp [mem_ingestStates_suppressed seen, mem_ingestStates_suppressed (same.prev ▸ seen), cleared]
            · exact next_same.suppressed thread this
          have prevs := next_same.prev
          generalize (one.ingestStates snapshot.computeThreadStates).1 = a at members prevs ⊢
          generalize (other.ingestStates snapshot.computeThreadStates).1 = b at members prevs ⊢
          cases a
          cases b
          simp only at members prevs
          rw [members, prevs]
        rw [equal]

/-- The tracker after a list of steps. -/
def PushAttentionTracker.afterAll (tracker : PushAttentionTracker) (steps : List Step) : PushAttentionTracker :=
  steps.foldl PushAttentionTracker.after tracker

theorem jobsAlong_append (tracker : PushAttentionTracker) (steps rest : List Step) :
    tracker.jobsAlong (steps ++ rest) = tracker.jobsAlong steps ++ (tracker.afterAll steps).jobsAlong rest := by
  induction steps generalizing tracker with
  | nil => rfl
  | cons step steps ih =>
    cases step with
    | snapshot snapshot viewing =>
      simp only [List.cons_append, PushAttentionTracker.jobsAlong, ih]
      rfl
    | suppress thread =>
      simp only [List.cons_append, PushAttentionTracker.jobsAlong, ih]
      rfl

/-- While the thread is seen working, a suppression of it is kept and has no effect. -/
theorem SameBut.working (same : SameBut id one other) (held : id ∈ other.suppressed) (seen : one.prev = some prev)
    (works : (prev.stateFor id).working = true) {steps : List Step} (keeps : ∀ step ∈ steps, step.KeepsWorking id) :
    one.jobsAlong steps = other.jobsAlong steps ∧ SameBut id (one.afterAll steps) (other.afterAll steps) ∧
      id ∈ (other.afterAll steps).suppressed ∧
      ∃ last, (one.afterAll steps).prev = some last ∧ (last.stateFor id).working = true := by
  induction steps generalizing one other prev with
  | nil => exact ⟨rfl, same, held, prev, seen, works⟩
  | cons step rest ih =>
    have later := fun step member => keeps step (List.mem_cons_of_mem _ member)
    cases step with
    | suppress thread => exact ih (same.suppress thread) (Finset.mem_insert_of_mem held) seen works later
    | snapshot snapshot viewing =>
      have still : (snapshot.computeThreadStates.stateFor id).working = true := keeps _ List.mem_cons_self
      have no_end : transitionKind (prev.stateFor id) (snapshot.computeThreadStates.stateFor id) ≠ some .completed := by
        unfold transitionKind
        rw [still]
        split <;> simp
      have kept : id ∈ (other.ingestStates snapshot.computeThreadStates).1.suppressed := by
        rw [mem_ingestStates_suppressed (same.prev ▸ seen)]
        exact ⟨held, by simp [clears, works, still]⟩
      obtain ⟨jobs, rest_same⟩ := ih (same.ingestStates seen) kept ingestStates_prev still later
      refine ⟨?_, rest_same⟩
      simp only [PushAttentionTracker.jobsAlong, PushAttentionTracker.after, PushAttentionTracker.ingest,
        same.jobs seen no_end]
      exact congrArg _ jobs

/-- The end of the working period: the one job that the suppression swallows. -/
theorem SameBut.ends (same : SameBut id one other) (held : id ∈ other.suppressed) (seen : one.prev = some prev) :
    (other.ingestStates next).2 =
      (one.ingestStates next).2.filter fun job => !(job.threadId == id && job.kind == .completed) := by
  rw [ingestStates_jobs seen, ingestStates_jobs (same.prev ▸ seen), List.filter_filterMap]
  refine List.filterMap_congr fun thread _ => ?_
  by_cases this : thread = id
  · subst this
    unfold jobFor
    split
    · simp [Option.filter]
    · rw [if_pos held]
      split_ifs <;> simp [Option.filter]
    · rfl
  · rw [← jobFor_congr (same.suppressed thread this)]
    cases found : jobFor prev next one.suppressed thread with
    | none => rfl
    | some job =>
      have named := jobFor_threadId found
      have apart : (job.threadId == id) = false := by
        rw [named]
        simpa using this
      simp [Option.filter, apart]

/-- What one suppression does to the jobs of the steps after it. -/
structure SwallowsOneEnd (id : String) (tracker : PushAttentionTracker) (steps : List Step) : Prop where
  /-- Set while the thread is seen idle, it has no effect. -/
  idle : ∀ seen, tracker.prev = some seen → (seen.stateFor id).working = false →
    (tracker.suppressCompleted id).jobsAlong steps = tracker.jobsAlong steps
  working : ∀ seen, tracker.prev = some seen → (seen.stateFor id).working = true →
    (∀ step ∈ steps, step.KeepsWorking id) → (tracker.suppressCompleted id).jobsAlong steps = tracker.jobsAlong steps
  /-- Set while it is seen working, it takes at most the end of that working period. -/
  ends : ∀ seen, tracker.prev = some seen → (seen.stateFor id).working = true → ∀ during snapshot viewing rest,
    steps = during ++ .snapshot snapshot viewing :: rest → (∀ step ∈ during, step.KeepsWorking id) →
    (snapshot.computeThreadStates.stateFor id).working = false → ∃ ended later,
      tracker.jobsAlong steps = tracker.jobsAlong during ++ ended :: later ∧
      (tracker.suppressCompleted id).jobsAlong steps = tracker.jobsAlong during ++
        (ended.filter fun job => !(job.threadId == id && job.kind == .completed)) :: later

theorem SameBut.of_suppress (tracker : PushAttentionTracker) (id : String) :
    SameBut id tracker (tracker.suppressCompleted id) where
  prev := rfl
  suppressed thread apart := by simp [PushAttentionTracker.suppressCompleted, apart]

theorem swallowsOneEnd (id : String) (tracker : PushAttentionTracker) (steps : List Step) :
    SwallowsOneEnd id tracker steps where
  idle seen is_seen idle := ((SameBut.of_suppress tracker id).idle is_seen idle steps).symm
  working seen is_seen works keeps :=
    ((SameBut.of_suppress tracker id).working (Finset.mem_insert_self _ _) is_seen works keeps).1.symm
  ends seen is_seen works during snapshot viewing rest split keeps stops := by
    have same := SameBut.of_suppress tracker id
    obtain ⟨jobs, still_same, held, last, is_last, -⟩ := same.working (Finset.mem_insert_self _ _) is_seen works keeps
    have next_same : SameBut id ((tracker.afterAll during).ingest snapshot).1
        (((tracker.suppressCompleted id).afterAll during).ingest snapshot).1 := still_same.ingestStates is_last
    -- The thread is seen idle now, so what is left of the suppression tells no more.
    have later := next_same.idle ingestStates_prev stops rest
    have ended : (((tracker.suppressCompleted id).afterAll during).ingest snapshot).2 = _ := still_same.ends held is_last
    refine ⟨((tracker.afterAll during).ingest snapshot).2, ((tracker.afterAll during).ingest snapshot).1.jobsAlong rest, ?_, ?_⟩
    · rw [split, jobsAlong_append]
      rfl
    · rw [split, jobsAlong_append, ← jobs, later]
      simp only [PushAttentionTracker.jobsAlong, PushAttentionTracker.after]
      rw [ended]
      rfl

/-- A suppressed thread was suppressed by a step of the run. -/
theorem suppress_mem_of_suppressed {trackers : Trackers} {steps : List Step}
    (member : id ∈ (steps.foldl Trackers.after trackers).push.suppressed) :
    id ∈ trackers.push.suppressed ∨ .suppress id ∈ steps := by
  induction steps generalizing trackers with
  | nil => exact .inl member
  | cons step rest ih =>
    rcases ih member with held | later
    · cases step with
      | suppress thread =>
        rcases Finset.mem_insert.mp held with rfl | before
        · exact .inr List.mem_cons_self
        · exact .inl before
      | snapshot snapshot viewing =>
        left
        cases seen : trackers.push.prev with
        | none =>
          simp only [Trackers.after, PushAttentionTracker.after, PushAttentionTracker.ingest,
            PushAttentionTracker.ingestStates, seen] at held
          exact held
        | some prev => exact ((mem_ingestStates_suppressed seen).mp held).1
    · exact .inr (List.mem_cons_of_mem _ later)

end Suppression

section Announcing

/-- What the run announces: at each snapshot the relay tells what the page tells, but for the
ends that a suppression of the run swallows, and tells no thread twice. -/
structure AnnouncesAlike (steps : List Step) : Prop where
  each : ∀ before snapshot viewing after, steps = before ++ .snapshot snapshot viewing :: after →
    let trackers := before.foldl Trackers.after {}
    let jobs := (trackers.push.ingest snapshot).2
    let events := (trackers.page.ingest snapshot viewing).2
    (jobs.map PushJob.told).Perm
        ((events.filter fun event => !event.swallowed trackers.push.suppressed).map AttentionEvent.told) ∧
      (∀ id ∈ trackers.push.suppressed, .suppress id ∈ before) ∧ (jobs.map (·.threadId)).Nodup
  swallows : ∀ before id after, steps = before ++ .suppress id :: after →
    SwallowsOneEnd id (before.foldl Trackers.after {}).push after

/-- Where every snapshot is read alike, push and open page announce the same. -/
theorem announces_alike (steps : List Step)
    (alike : ∀ snapshot viewing, Step.snapshot snapshot viewing ∈ steps → snapshot.ReadAlike) : AnnouncesAlike steps where
  each before snapshot viewing after split := by
    have baseline : ({} : Trackers).Level := .inl ⟨rfl, rfl⟩
    have level : (before.foldl Trackers.after {}).Level := Trackers.level_run baseline fun snapshot viewing member =>
      alike snapshot viewing (split ▸ List.mem_append_left _ member)
    have read := alike snapshot viewing (split ▸ List.mem_append_right _ List.mem_cons_self)
    refine ⟨Trackers.tells_the_same level read, fun id member => ?_, ingestStates_nodup⟩
    rcases suppress_mem_of_suppressed member with held | found
    · cases held
    · exact found
  swallows before id after _ := swallowsOneEnd id _ after

/-- A turn of one thread that fails: the error push suppresses its end. -/
def failedTurn : List Step :=
  [.snapshot {} {}, .snapshot { activeThreadId := some "t", activeTurnId := some "u" } {}, .suppress "t",
    .snapshot { activeThreadId := some "t", currentStatus := "idle" } {}]

theorem announces_alike_failedTurn : AnnouncesAlike failedTurn := by
  refine announces_alike failedTurn fun snapshot viewing member => ?_
  have idle : threadStatusIsWorking "idle" = isWorkingThreadStatus "idle" := by decide +kernel
  simp only [failedTurn, List.mem_cons, List.not_mem_nil, Step.snapshot.injEq, reduceCtorEq, false_or, or_false] at member
  rcases member with ⟨rfl, -⟩ | ⟨rfl, -⟩ | ⟨rfl, -⟩
  · exact ⟨fun named => (by cases named), fun _ named => (by cases named)⟩
  · exact ⟨fun named => (by simp at named), fun _ _ _ ended => (by cases ended)⟩
  · exact ⟨fun named => (by simp at named), fun _ _ _ _ _ => idle⟩

/-- A status with a byte order mark: working to the relay, idle to the page. -/
def markedStatus : List Step :=
  [.snapshot { activeThreadId := some "t", currentStatus := "idle\uFEFF" } {}, .snapshot {} {}]

theorem not_announcesAlike_markedStatus : ¬ AnnouncesAlike markedStatus := by
  intro alike
  obtain ⟨told, -⟩ := alike.each _ _ _ [] (show markedStatus = [_] ++ _ :: [] from rfl)
  have lengths := told.length_eq
  revert lengths
  decide +kernel

end Announcing

end Sealwire.Attention

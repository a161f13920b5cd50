import Sealwire.Team.Standing

namespace Sealwire.Team

section Lists

variable {α : Type}

/-- Collecting what passes a test, each once, loses nothing that passes it. -/
theorem mem_foldl_collect [DecidableEq α] (p : α → Prop) [DecidablePred p] (xs seen : List α) (x : α) :
    x ∈ xs.foldl (fun acc a => if p a ∧ a ∉ acc then acc ++ [a] else acc) seen ↔ x ∈ seen ∨ p x ∧ x ∈ xs := by
  induction xs generalizing seen with
  | nil => simp
  | cons a rest ih =>
    rw [List.foldl_cons, ih]
    split
    · rename_i fresh
      simp only [List.mem_append, List.mem_cons, List.not_mem_nil, or_false]
      constructor
      · rintro ((old | rfl) | later)
        · exact .inl old
        · exact .inr ⟨fresh.1, .inl rfl⟩
        · exact .inr ⟨later.1, .inr later.2⟩
      · rintro (old | ⟨passes, rfl | later⟩)
        · exact .inl (.inl old)
        · exact .inl (.inr rfl)
        · exact .inr ⟨passes, later⟩
    · rename_i known
      simp only [List.mem_cons]
      constructor
      · rintro (old | later)
        · exact .inl old
        · exact .inr ⟨later.1, .inr later.2⟩
      · rintro (old | ⟨passes, rfl | later⟩)
        · exact .inl old
        · exact .inl (by_contra fun absent => known ⟨passes, absent⟩)
        · exact .inr ⟨passes, later⟩

theorem exists_mem_modify {xs : List α} {index : Nat} {edit : α → α} {p : α → Prop} :
    (∃ x ∈ xs.modify index edit, p x) ↔ ∃ i x, xs[i]? = some x ∧ p (if index = i then edit x else x) := by
  constructor
  · rintro ⟨y, member, holds⟩
    obtain ⟨i, at_i⟩ := List.mem_iff_getElem?.mp member
    rw [List.getElem?_modify] at at_i
    obtain ⟨x, found, rfl⟩ := Option.map_eq_some_iff.mp at_i
    exact ⟨i, x, found, holds⟩
  · rintro ⟨i, x, found, holds⟩
    refine ⟨_, List.mem_iff_getElem?.mpr ⟨i, ?_⟩, holds⟩
    rw [List.getElem?_modify, found]
    rfl

theorem map_modify_same {β : Type} {xs : List α} {index : Nat} {edit : α → α} {f : α → β}
    (same : ∀ x, f (edit x) = f x) : (xs.modify index edit).map f = xs.map f := by
  apply List.ext_getElem?
  intro i
  rw [List.getElem?_map, List.getElem?_modify, List.getElem?_map]
  cases xs[i]? with
  | none => rfl
  | some x =>
    by_cases here : index = i
    · simp [here, same]
    · simp [here]

end Lists

/-- A seat or the list of the sub-task names the thread. -/
def SubTask.Names (task : SubTask) (threadId : String) : Prop :=
  threadId ∈ task.ownedThreadIds ∨ task.devThreadId = some threadId ∨ task.reviewerThreadId = some threadId

/-- A seat or a list of the run names the thread. -/
def TeamRun.Names (run : TeamRun) (threadId : String) : Prop :=
  run.tlThreadId = threadId ∨ (∃ generation ∈ run.tlSuccession, generation.threadId = threadId) ∨
    threadId ∈ run.runOwnedThreadIds ∨ run.mrDevThreadId = some threadId ∨ run.reviewerThreadId = some threadId ∨
    ∃ task ∈ run.subTasks, task.Names threadId

theorem mem_ownedThreadIds {run : TeamRun} {threadId : String} :
    threadId ∈ run.ownedThreadIds ↔ threadId ≠ "" ∧ run.Names threadId := by
  unfold TeamRun.ownedThreadIds
  rw [mem_foldl_collect (fun id => id ≠ "")]
  simp only [TeamRun.threadCandidates, TeamRun.Names, SubTask.Names, List.mem_append, List.mem_singleton, List.mem_map,
    List.mem_flatMap, Option.mem_toList, List.not_mem_nil, false_or, or_assoc, eq_comm]

/-- The sub-task with one of its seats emptied. -/
def SubTask.leaveSeat (role : TeamSubTaskRole) (task : SubTask) : SubTask :=
  { task with
    devThreadId := if role = .dev then none else task.devThreadId
    reviewerThreadId := if role = .reviewer then none else task.reviewerThreadId }

/-- The run with the seat emptied that the command is about to fill. -/
def TeamStateCommand.vacate (run : TeamRun) : TeamStateCommand → TeamRun
  | recordMrDevThread _ => { run with mrDevThreadId := none }
  | recordReviewerThread _ => { run with reviewerThreadId := none }
  | attachSubTaskThread index role _ _ => run.modifySubTask index (SubTask.leaveSeat role)
  | _ => run

/-- The threads a command names. -/
def TeamStateCommand.Brings (threadId : String) : TeamStateCommand → Prop
  | recordMrDevThread id | recordReviewerThread id | attachSubTaskThread _ _ id _ => id = threadId
  | replanSubTasks planned _ => ∃ task ∈ planned, task.Names threadId
  | _ => False

/-- The run with the developer seats emptied that a revival empties. -/
def TeamRun.vacateRevived (run : TeamRun) (named : Option (List String)) : TeamRun :=
  { run with subTasks := run.subTasks.map fun task =>
      if TeamRun.selectedForRevival named task then { task with devThreadId := none } else task }

/-- The seats of the sub-task and its list. -/
def SubTask.seats (task : SubTask) : List String × Option String × Option String :=
  (task.ownedThreadIds, task.devThreadId, task.reviewerThreadId)

/-- The two runs have the same threads in the same places. -/
structure SameSeats (run next : TeamRun) : Prop where
  lead : next.tlThreadId = run.tlThreadId
  succession : next.tlSuccession = run.tlSuccession
  owned : next.runOwnedThreadIds = run.runOwnedThreadIds
  mrDev : next.mrDevThreadId = run.mrDevThreadId
  reviewer : next.reviewerThreadId = run.reviewerThreadId
  tasks : next.subTasks.map SubTask.seats = run.subTasks.map SubTask.seats

/-- The commands that put threads in seats. -/
def TeamStateCommand.movesThreads : TeamStateCommand → Bool
  | recordMrDevThread _ | recordReviewerThread _ | attachSubTaskThread _ _ _ _ | replanSubTasks _ _ => true
  | _ => false

theorem SameSeats.task {run next : TeamRun} (same : SameSeats run next) {task : SubTask} (member : task ∈ next.subTasks) :
    ∃ old ∈ run.subTasks, old.seats = task.seats := by
  have seats : task.seats ∈ run.subTasks.map SubTask.seats := by
    rw [← same.tasks]
    exact List.mem_map_of_mem member
  exact List.mem_map.mp seats

theorem SameSeats.symm {run next : TeamRun} (same : SameSeats run next) : SameSeats next run :=
  ⟨same.lead.symm, same.succession.symm, same.owned.symm, same.mrDev.symm, same.reviewer.symm, same.tasks.symm⟩

theorem StandingOnly.sameSeats {run next : TeamRun} (standing : StandingOnly run next) : SameSeats run next := by
  obtain ⟨_, _, _, _, _, _, _, _, _, _, rfl⟩ := standing
  exact ⟨rfl, rfl, rfl, rfl, rfl, rfl⟩

theorem modifySubTask_sameSeats (run : TeamRun) (index : Nat) (edit : SubTask → SubTask)
    (same : ∀ task, (edit task).seats = task.seats) : SameSeats run (run.modifySubTask index edit) :=
  ⟨rfl, rfl, rfl, rfl, rfl, map_modify_same same⟩

/-- The other commands leave every thread where it is. -/
theorem applyEffects_sameSeats (mint : Nat → String) (run : TeamRun) (commandId : String) {command : TeamStateCommand}
    (quiet : command.movesThreads = false) : SameSeats run (applyEffects mint run commandId command).1 := by
  cases lifecycle : command.isLifecycleTransition with
  | true => exact (applyEffects_standing mint run commandId lifecycle).sameSeats
  | false =>
    cases command with
    | setRunStatus | failRun | blockRun | settleRun => cases lifecycle
    | recordMrDevThread | recordReviewerThread | attachSubTaskThread | replanSubTasks => cases quiet
    | setSubTaskStatus | pauseSubTaskWithoutCandidate | recordSubTaskStaleReview =>
      exact modifySubTask_sameSeats run _ _ fun _ => rfl
    | recordReviewRound index verdict status resultSummary escalated =>
      let edit (task : SubTask) : SubTask :=
        { task with
          roundsUsed := task.roundsUsed + 1
          status := status
          resultSummary := resultSummary
          lastVerdict := some verdict
          staleReviewRetries := 0 }
      exact ⟨rfl, rfl, rfl, rfl, rfl, (modifySubTask_sameSeats run index edit fun _ => rfl).tasks⟩
    | markSubTaskDigested index nextPhase =>
      let edit (task : SubTask) : SubTask := { task with digested := true }
      exact ⟨rfl, rfl, rfl, rfl, rfl, (modifySubTask_sameSeats run index edit fun _ => rfl).tasks⟩
    | _ => exact ⟨rfl, rfl, rfl, rfl, rfl, rfl⟩

section Names

variable {threadId : String}

theorem SubTask.names_of_seats {task other : SubTask} (same : task.seats = other.seats) :
    task.Names threadId ↔ other.Names threadId := by
  obtain ⟨owned, dev, reviewer⟩ := by simpa only [SubTask.seats, Prod.mk.injEq] using same
  unfold SubTask.Names
  rw [owned, dev, reviewer]

theorem SameSeats.names {run next : TeamRun} (same : SameSeats run next) :
    next.Names threadId ↔ run.Names threadId := by
  have one_way {a b : TeamRun} (same : SameSeats a b) (named : b.Names threadId) : a.Names threadId := by
    unfold TeamRun.Names at named ⊢
    rw [same.lead, same.succession, same.owned, same.mrDev, same.reviewer] at named
    refine named.imp_right fun rest => rest.imp_right fun rest => rest.imp_right fun rest => rest.imp_right fun rest =>
      rest.imp_right ?_
    rintro ⟨task, member, atTask⟩
    obtain ⟨old, inside, seats⟩ := same.task member
    exact ⟨old, inside, (SubTask.names_of_seats seats).mpr atTask⟩
  exact ⟨one_way same, one_way same.symm⟩

theorem attachThread_names (role : TeamSubTaskRole) (id : String) (baseCommit : Option String) (task : SubTask) :
    (task.attachThread role id baseCommit).Names threadId ↔ (task.leaveSeat role).Names threadId ∨ id = threadId := by
  have listed : threadId ∈ task.ownedThreadIds ++ [id] ↔ threadId ∈ task.ownedThreadIds ∨ id = threadId := by
    rw [List.mem_append, List.mem_singleton, eq_comm (a := threadId)]
  cases role with
  | dev =>
    simp only [SubTask.Names, SubTask.attachThread, SubTask.leaveSeat, listed, if_true, reduceCtorEq, if_false,
      Option.some.injEq, false_or]
    tauto
  | reviewer =>
    simp only [SubTask.Names, SubTask.attachThread, SubTask.leaveSeat, listed, if_true, reduceCtorEq, if_false,
      Option.some.injEq, or_false]
    tauto

theorem attach_names {run : TeamRun} {index : Nat} (role : TeamSubTaskRole) (id : String) (baseCommit : Option String)
    (inBounds : index < run.subTasks.length) :
    (run.modifySubTask index (SubTask.attachThread role id baseCommit)).Names threadId ↔
      (run.modifySubTask index (SubTask.leaveSeat role)).Names threadId ∨ id = threadId := by
  have seats : (∃ task ∈ run.subTasks.modify index (SubTask.attachThread role id baseCommit), task.Names threadId) ↔
      (∃ task ∈ run.subTasks.modify index (SubTask.leaveSeat role), task.Names threadId) ∨ id = threadId := by
    rw [exists_mem_modify, exists_mem_modify]
    constructor
    · rintro ⟨i, task, found, named⟩
      by_cases here : index = i
      · rw [if_pos here] at named
        rcases (attachThread_names role id baseCommit task).mp named with kept | brought
        · exact .inl ⟨i, task, found, by rwa [if_pos here]⟩
        · exact .inr brought
      · rw [if_neg here] at named
        exact .inl ⟨i, task, found, by rwa [if_neg here]⟩
    · rintro (⟨i, task, found, named⟩ | brought)
      · by_cases here : index = i
        · rw [if_pos here] at named
          exact ⟨i, task, found, by
            rw [if_pos here]
            exact (attachThread_names role id baseCommit task).mpr (.inl named)⟩
        · rw [if_neg here] at named
          exact ⟨i, task, found, by rwa [if_neg here]⟩
      · refine ⟨index, _, List.getElem?_eq_getElem inBounds, ?_⟩
        rw [if_pos rfl]
        exact (attachThread_names role id baseCommit _).mpr (.inr brought)
  unfold TeamRun.Names TeamRun.modifySubTask
  dsimp only
  rw [seats]
  simp only [or_assoc]

theorem retire_names (task : SubTask) : task.retire.Names threadId ↔ task.Names threadId := by
  unfold SubTask.retire
  split
  · rfl
  · rfl

theorem appendPlanned_names (mint : Nat → String) (cycle : UInt32) (kept planned : List SubTask) (index : Nat) :
    (∃ task ∈ TeamRun.appendPlanned mint cycle kept planned index, task.Names threadId) ↔
      (∃ task ∈ kept, task.Names threadId) ∨ ∃ task ∈ planned, task.Names threadId := by
  induction planned generalizing kept index with
  | nil => simp [TeamRun.appendPlanned]
  | cons task rest ih =>
    unfold TeamRun.appendPlanned
    dsimp only
    rw [ih]
    -- a new id and the cycle do not name threads
    have same : SubTask.Names
        { (if kept.any fun other => other.id = task.id then { task with id := mint index } else task) with
          cycle := cycle } threadId ↔ task.Names threadId := by
      split
      · rfl
      · rfl
    simp only [List.mem_append, List.mem_cons, List.not_mem_nil, or_false, or_and_right, exists_or, exists_eq_left,
      or_assoc, same]

theorem replanSubTasks_names (run : TeamRun) (mint : Nat → String) (planned : List SubTask) :
    (run.replanSubTasks mint planned).Names threadId ↔
      run.Names threadId ∨ ∃ task ∈ planned, task.Names threadId := by
  have retired : (∃ task ∈ run.subTasks.map SubTask.retire, task.Names threadId) ↔
      ∃ task ∈ run.subTasks, task.Names threadId := by
    simp only [List.mem_map, exists_exists_and_eq_and, retire_names]
  unfold TeamRun.Names TeamRun.replanSubTasks
  dsimp only
  rw [appendPlanned_names, retired]
  simp only [or_assoc]

theorem TeamStateCommand.vacate_quiet (run : TeamRun) (threadId : String) {command : TeamStateCommand}
    (quiet : command.movesThreads = false) : command.vacate run = run ∧ ¬command.Brings threadId := by
  cases command with
  | recordMrDevThread | recordReviewerThread | attachSubTaskThread | replanSubTasks => cases quiet
  | _ => exact ⟨rfl, id⟩

/-- The effects of a command name what the run names without the seat it fills, and what it brings. -/
theorem applyEffects_names (mint : Nat → String) (run : TeamRun) (commandId : String) (command : TeamStateCommand)
    (inBounds : ∀ index role id base, command = .attachSubTaskThread index role id base → index < run.subTasks.length) :
    (applyEffects mint run commandId command).1.Names threadId ↔
      (command.vacate run).Names threadId ∨ command.Brings threadId := by
  cases moves : command.movesThreads with
  | false =>
    obtain ⟨same, brings⟩ := TeamStateCommand.vacate_quiet run threadId moves
    rw [same, or_iff_left brings]
    exact (applyEffects_sameSeats mint run commandId moves).names
  | true =>
    cases command with
    | replanSubTasks planned phase => exact replanSubTasks_names run mint planned
    | attachSubTaskThread index role id base => exact attach_names role id base (inBounds index role id base rfl)
    | recordMrDevThread id =>
      simp only [applyEffects, TeamStateCommand.vacate, TeamStateCommand.Brings, TeamRun.Names, Option.some.injEq,
        reduceCtorEq, false_or]
      grind
    | recordReviewerThread id =>
      simp only [applyEffects, TeamStateCommand.vacate, TeamStateCommand.Brings, TeamRun.Names, Option.some.injEq,
        reduceCtorEq, false_or]
      grind
    | _ => cases moves

theorem effective_inBounds {codec : Codec} {run : TeamRun} {envelope : TeamCommandEnvelope} {command : TeamStateCommand}
    (reaches : ReachesEffects codec run envelope command) (index : Nat) (role : TeamSubTaskRole) (id : String)
    (base : Option String) (attaches : command = .attachSubTaskThread index role id base) :
    index < run.subTasks.length := by
  have payload := reaches.effectivePayload
  subst attaches
  unfold validatePayload at payload
  split at payload
  · cases payload
  · simp only [requireSubTaskIndex] at payload
    split at payload
    · assumption
    · cases payload

/-- A delivery names what the run named without the seat it fills, and what it brings. -/
theorem delivery_names {codec : Codec} {mint : Nat → String} {run : TeamRun} {runId : String}
    {envelope : TeamCommandEnvelope} {effectiveCommand : TeamStateCommand}
    (reaches : ReachesEffects codec run envelope effectiveCommand) :
    (applyTeamCommandWithEffective codec mint run runId envelope effectiveCommand).1.Names threadId ↔
      (effectiveCommand.vacate run).Names threadId ∨ effectiveCommand.Brings threadId := by
  have effects : (applyEffects mint run envelope.commandId effectiveCommand).1.Names threadId ↔
      (effectiveCommand.vacate run).Names threadId ∨ effectiveCommand.Brings threadId :=
    applyEffects_names mint run envelope.commandId effectiveCommand (effective_inBounds reaches)
  obtain ⟨phase, mrVerdict, unresolved, journal, notes, frame⟩ :=
    applyAndJournal_frame mint run envelope (codec.fingerprint runId envelope) effectiveCommand
  rw [apply_of_reaches reaches, frame]
  exact effects

theorem delivery_refused_names {codec : Codec} {mint : Nat → String} {run : TeamRun} {runId : String}
    {envelope : TeamCommandEnvelope} {effectiveCommand : TeamStateCommand}
    (refused : ¬ReachesEffects codec run envelope effectiveCommand) :
    (applyTeamCommandWithEffective codec mint run runId envelope effectiveCommand).1.Names threadId ↔
      run.Names threadId := by
  rcases apply_cases codec mint run runId envelope effectiveCommand with
    ⟨reaches, -⟩ | ⟨-, -, -, reason, result⟩ | ⟨-, receipt, result⟩
  · exact absurd reaches refused
  · obtain ⟨journal, notes, frame⟩ := rejectAndJournal_frame run envelope.commandId envelope.sequence
      envelope.command.kind (codec.fingerprint runId envelope) envelope.expectedRevision reason
    rw [result, frame]
    rfl
  · rw [result]

/-- A revived sub-task leaves its developer seat and nothing else. -/
theorem reviveSubTasks_names (run : TeamRun) (named : Option (List String)) :
    (run.reviveSubTasks named).1.Names threadId ↔ (run.vacateRevived named).Names threadId := by
  unfold TeamRun.reviveSubTasks
  split
  · rename_i idle
    have unselected : run.vacateRevived named = run := by
      unfold TeamRun.vacateRevived
      have same : (run.subTasks.map fun task =>
          if TeamRun.selectedForRevival named task then { task with devThreadId := none } else task) = run.subTasks := by
        refine (List.map_congr_left fun task member => ?_).trans (List.map_id _)
        rw [if_neg]
        · rfl
        · intro selected
          exact absurd (List.any_eq_true.mpr ⟨task, member, selected⟩) (by simpa using idle)
      rw [same]
    rw [unselected]
  · unfold TeamRun.Names TeamRun.vacateRevived
    simp only [List.mem_map, exists_exists_and_eq_and]
    have seat (task : SubTask) :
        SubTask.Names (if TeamRun.selectedForRevival named task then task.revive run.reopenedCount else task) threadId ↔
          SubTask.Names (if TeamRun.selectedForRevival named task then { task with devThreadId := none } else task)
            threadId := by
      split
      · rfl
      · rfl
    simp only [seat]
    rfl

/-- Retiring the lead moves it to the succession. -/
theorem retireTl_names (run : TeamRun) (reason : String) (nonempty : threadId ≠ "") :
    (run.retireTl reason).1.Names threadId ↔ run.Names threadId := by
  unfold TeamRun.retireTl
  split
  · rfl
  · by_cases vacant : run.tlThreadId = ""
    · unfold TeamRun.Names
      simp only [vacant, if_true]
    · unfold TeamRun.Names
      simp only [vacant, if_false, List.mem_append, List.mem_singleton, or_and_right, exists_or, exists_eq_left,
        nonempty.symm, false_or]
      grind

theorem recordRunThread_names (run : TeamRun) (id : String) (nonempty : threadId ≠ "") :
    (run.recordRunThread id).Names threadId ↔ run.Names threadId ∨ id = threadId := by
  unfold TeamRun.recordRunThread
  split
  · rename_i known
    refine (or_iff_left_of_imp ?_).symm
    rintro rfl
    rcases known with rfl | listed
    · exact absurd rfl nonempty
    · exact .inr (.inr (.inl listed))
  · unfold TeamRun.Names
    simp only [List.mem_append, List.mem_singleton]
    grind

theorem releaseThread_names (gone : String) (task : SubTask) :
    (task.releaseThread gone).Names threadId ↔ threadId ≠ gone ∧ task.Names threadId := by
  simp only [SubTask.Names, SubTask.releaseThread, List.mem_filter, Option.filter_eq_some_iff, decide_eq_true_eq]
  tauto

/-- A release takes the thread out of every seat and every list, and no other out of any. -/
theorem releaseOwnedThread_names (run : TeamRun) (gone : String) (nonempty : threadId ≠ "") :
    (run.releaseOwnedThread gone).Names threadId ↔ threadId ≠ gone ∧ run.Names threadId := by
  unfold TeamRun.releaseOwnedThread
  split
  · rename_i empty
    rw [empty]
    exact (and_iff_right nonempty).symm
  · have lead : (if run.tlThreadId = gone then "" else run.tlThreadId) = threadId ↔
        threadId ≠ gone ∧ run.tlThreadId = threadId := by
      split
      · rename_i same
        rw [same]
        exact iff_of_false nonempty.symm fun both => both.1 both.2.symm
      · rename_i other
        constructor
        · rintro rfl
          exact ⟨other, rfl⟩
        · exact And.right
    unfold TeamRun.Names
    simp only [lead, List.mem_filter, Option.filter_eq_some_iff, decide_eq_true_eq, List.mem_map,
      exists_exists_and_eq_and, releaseThread_names]
    grind

end Names

/-- The methods that settle a run, or take it back from a settlement, beside the user's own. -/
inductive SettleMethod
  | setStatus (status : TeamRunStatus)
  | fail (error : String)
  | block (error : String)
  | forceMarkStatus (status : TeamRunStatus)
  | beginResolvingBlocked
  | resolveAsPaused (reason : String) (kind : TeamPauseKind)
  | restoreResolvingAsBlocked (error : String)
  | markInterruptedIfStranded

def SettleMethod.run (run : TeamRun) : SettleMethod → TeamRun
  | setStatus status => run.setStatus status
  | fail error => run.fail error
  | block error => run.block error
  | forceMarkStatus status => (run.forceMarkStatus status).1
  | beginResolvingBlocked => run.beginResolvingBlocked.1
  | resolveAsPaused reason kind => (run.resolveAsPaused reason kind).1
  | restoreResolvingAsBlocked error => (run.restoreResolvingAsBlocked error).1
  | markInterruptedIfStranded => run.markInterruptedIfStranded.1

theorem SettleMethod.run_standing (run : TeamRun) (method : SettleMethod) : StandingOnly run (method.run run) := by
  cases method with
  | setStatus status => exact run.setStatus_standing status
  | fail error => exact run.fail_standing error
  | block error => exact run.block_standing error
  | forceMarkStatus status => exact run.forceMarkStatus_standing status
  | beginResolvingBlocked => exact run.beginResolvingBlocked_standing
  | resolveAsPaused reason kind => exact run.resolveAsPaused_standing reason kind
  | restoreResolvingAsBlocked error => exact run.restoreResolvingAsBlocked_standing error
  | markInterruptedIfStranded => exact run.markInterruptedIfStranded_standing

/-- What happens to a run that moves its threads, or might. -/
inductive OwnershipEvent
  | team (event : TeamEvent)
  | settle (method : SettleMethod)
  | retireTl (reason : String)
  | replanSubTasks (mint : Nat → String) (planned : List SubTask)
  | recordRunThread (threadId : String)
  | recordRunThreadRole (threadId role : String)
  | recordOwnedThreadProvider (threadId provider : String)
  | releaseOwnedThread (threadId : String)

def OwnershipEvent.run (codec : Codec) (runId : String) (run : TeamRun) : OwnershipEvent → TeamRun
  | team event => event.run codec runId run
  | settle method => method.run run
  | retireTl reason => (run.retireTl reason).1
  | replanSubTasks mint planned => run.replanSubTasks mint planned
  | recordRunThread threadId => run.recordRunThread threadId
  | recordRunThreadRole threadId role => run.recordRunThreadRole threadId role
  | recordOwnedThreadProvider threadId provider => run.recordOwnedThreadProvider threadId provider
  | releaseOwnedThread threadId => run.releaseOwnedThread threadId

/-- The event puts another thread in, or empties, the seat that alone still names the thread. -/
def Displaces (codec : Codec) (threadId : String) (run : TeamRun) : OwnershipEvent → Prop
  | .team (.delivery _ envelope effectiveCommand) =>
    ReachesEffects codec run envelope effectiveCommand ∧
      ¬((effectiveCommand.vacate run).Names threadId ∨ effectiveCommand.Brings threadId)
  | .team (.user (.reviveSubTasks named)) => ¬(run.vacateRevived named).Names threadId
  | _ => False

inductive OwnershipHistory (codec : Codec) (runId : String) (allowed : TeamRun → OwnershipEvent → Prop)
    (first : TeamRun) : TeamRun → Prop
  | start : OwnershipHistory codec runId allowed first first
  | next {run : TeamRun} (history : OwnershipHistory codec runId allowed first run) {event : OwnershipEvent}
      (permitted : allowed run event) : OwnershipHistory codec runId allowed first (event.run codec runId run)

/-- The event neither displaces the thread nor releases it. -/
def KeepsThread (codec : Codec) (threadId : String) (run : TeamRun) (event : OwnershipEvent) : Prop :=
  ¬Displaces codec threadId run event ∧ event ≠ .releaseOwnedThread threadId

section Ownership

variable {codec : Codec} {runId : String} {threadId : String}

theorem OwnershipEvent.keeps_of_standing {run : TeamRun} {event : OwnershipEvent}
    (standing : StandingOnly run (event.run codec runId run)) (harmless : KeepsThread codec threadId run event)
    (named : run.Names threadId) : (event.run codec runId run).Names threadId ↔ KeepsThread codec threadId run event :=
  iff_of_true (standing.sameSeats.names.mpr named) harmless

/-- One event keeps an owned thread exactly when it neither displaces nor releases it. -/
theorem OwnershipEvent.run_names_iff {run : TeamRun} (nonempty : threadId ≠ "") (named : run.Names threadId)
    (event : OwnershipEvent) :
    (event.run codec runId run).Names threadId ↔ KeepsThread codec threadId run event := by
  have harmless {quiet : OwnershipEvent} (never : ¬Displaces codec threadId run quiet)
      (other : quiet ≠ .releaseOwnedThread threadId) : KeepsThread codec threadId run quiet := ⟨never, other⟩
  cases event with
  | team event =>
    cases event with
    | delivery mint envelope effectiveCommand =>
      by_cases reaches : ReachesEffects codec run envelope effectiveCommand
      · refine (delivery_names reaches).trans ?_
        simp only [KeepsThread, Displaces, reaches, true_and, not_not, ne_eq, reduceCtorEq, not_false_eq_true, and_true]
      · refine iff_of_true ((delivery_refused_names reaches).mpr named) (harmless ?_ (by simp))
        exact fun both => reaches both.1
    | user action =>
      have standing := action.run_standing run
      cases action with
      | reviveSubTasks chosen =>
        refine (reviveSubTasks_names run chosen).trans ?_
        simp only [KeepsThread, Displaces, not_not, ne_eq, reduceCtorEq, not_false_eq_true, and_true]
      | _ => exact keeps_of_standing (standing (by simp)) (harmless id (by simp)) named
  | settle method => exact keeps_of_standing (method.run_standing run) (harmless id (by simp)) named
  | retireTl reason => exact iff_of_true ((retireTl_names run reason nonempty).mpr named) (harmless id (by simp))
  | replanSubTasks mint planned =>
    exact iff_of_true ((replanSubTasks_names run mint planned).mpr (.inl named)) (harmless id (by simp))
  | recordRunThread id' =>
    exact iff_of_true ((recordRunThread_names run id' nonempty).mpr (.inl named)) (harmless id (by simp))
  | recordRunThreadRole id' role =>
    refine iff_of_true ?_ (harmless id (by simp))
    simp only [OwnershipEvent.run, TeamRun.recordRunThreadRole]
    split
    · exact named
    · exact named
  | recordOwnedThreadProvider id' provider =>
    refine iff_of_true ?_ (harmless id (by simp))
    simp only [OwnershipEvent.run, TeamRun.recordOwnedThreadProvider]
    split
    · exact named
    · exact named
  | releaseOwnedThread gone =>
    refine (releaseOwnedThread_names run gone nonempty).trans ?_
    simp only [KeepsThread, Displaces, not_false_eq_true, true_and, named, and_true, ne_eq,
      OwnershipEvent.releaseOwnedThread.injEq, eq_comm]

theorem OwnershipHistory.names {first last : TeamRun} (nonempty : threadId ≠ "") (named : first.Names threadId)
    (history : OwnershipHistory codec runId (KeepsThread codec threadId) first last) : last.Names threadId := by
  induction history with
  | start => exact named
  | next _ permitted before => exact (OwnershipEvent.run_names_iff nonempty before _).mpr permitted

end Ownership

/-- No seat, list or map of the run names the thread. -/
structure Forgotten (run : TeamRun) (threadId : String) : Prop where
  seats : ¬run.Names threadId
  roles : run.runOwnedThreadRoles.get threadId = none
  providers : run.ownedThreadProviders.get threadId = none

theorem releaseOwnedThread_forgotten (run : TeamRun) {threadId : String} (nonempty : threadId ≠ "") :
    Forgotten (run.releaseOwnedThread threadId) threadId := by
  refine ⟨?_, ?_, ?_⟩
  · intro named
    exact ((releaseOwnedThread_names run threadId nonempty).mp named).1 rfl
  · unfold TeamRun.releaseOwnedThread
    rw [if_neg nonempty]
    exact (Table.get_drop _ _ _).trans (if_pos rfl)
  · unfold TeamRun.releaseOwnedThread
    rw [if_neg nonempty]
    exact (Table.get_drop _ _ _).trans (if_pos rfl)

/-- An owned thread stays owned through every history that does not release it or take the
last seat that names it, each event keeps it exactly when it does neither, and a release
leaves no trace. -/
theorem owned_thread_stays_owned {codec : Codec} {runId : String} {threadId : String} {first last : TeamRun}
    (owned : threadId ∈ first.ownedThreadIds)
    (history : OwnershipHistory codec runId (KeepsThread codec threadId) first last) :
    threadId ∈ last.ownedThreadIds ∧
      (∀ event : OwnershipEvent, threadId ∈ (event.run codec runId last).ownedThreadIds ↔
        KeepsThread codec threadId last event) ∧
      ∀ (run : TeamRun) (gone : String), gone ≠ "" → Forgotten (run.releaseOwnedThread gone) gone := by
  obtain ⟨nonempty, named⟩ := mem_ownedThreadIds.mp owned
  have still := history.names nonempty named
  refine ⟨mem_ownedThreadIds.mpr ⟨nonempty, still⟩, ?_, ?_⟩
  · intro event
    rw [mem_ownedThreadIds, and_iff_right nonempty]
    exact OwnershipEvent.run_names_iff nonempty still event
  · intro run gone present
    exact releaseOwnedThread_forgotten run present

/-- A run led by one thread. -/
def ledRun : TeamRun :=
  { runningRun with tlThreadId := "lead-1" }

/-- The lead's thread stays owned when it is retired and a developer is seated. -/
theorem retired_lead_stays_owned :
    "lead-1" ∈ (OwnershipEvent.run sequenceCodec "run-1" (ledRun.retireTl "the context ran out").1
      (.team (.delivery Nat.repr (numbered 1 0 (.recordMrDevThread "dev-1"))
        (.recordMrDevThread "dev-1")))).ownedThreadIds := by
  have owned : "lead-1" ∈ ledRun.ownedThreadIds := by decide
  have retired : KeepsThread sequenceCodec "lead-1" ledRun (.retireTl "the context ran out") := ⟨id, by simp⟩
  have history : OwnershipHistory sequenceCodec "run-1" (KeepsThread sequenceCodec "lead-1") ledRun
      (ledRun.retireTl "the context ran out").1 := .next .start retired
  have stays := owned_thread_stays_owned owned history
  refine (stays.2.1 _).mpr ⟨?_, by simp⟩
  rintro ⟨-, gone⟩
  exact gone (.inl (.inr (.inl ⟨_, List.mem_singleton_self _, rfl⟩)))

/-- A sub-task whose developer sits there without being on its list. -/
def unlistedSeat : SubTask where
  id := "task-1"
  title := "a task"
  brief := ""
  status := .escalated
  roundsUsed := 0
  reruns := 0
  baseCommit := ""
  roundBaseSha := ""
  candidateSha := ""
  verdictCandidateSha := ""
  reviewClaim := none
  staleReviewRetries := 0
  devThreadId := some "dev-1"
  reviewerThreadId := none
  ownedThreadIds := []
  lastVerdict := none
  resultSummary := none
  digested := false
  error := none
  devTurnsLanded := 0
  cycle := 0

def unlistedRun : TeamRun :=
  { runningRun with subTasks := [unlistedSeat] }

/-- Where a run forgets a thread that was not released: another thread is seated in the only
seat that names it, or a revival empties that seat. And releasing no thread releases nothing. -/
theorem last_seat_is_overwritten :
    ("dev-1" ∈ (deliver runningRun (numbered 1 0 (.recordMrDevThread "dev-1"))).1.ownedThreadIds ∧
      "dev-1" ∉ (deliver (deliver runningRun (numbered 1 0 (.recordMrDevThread "dev-1"))).1
        (numbered 2 1 (.recordMrDevThread "dev-2"))).1.ownedThreadIds) ∧
    ("rev-1" ∈ (deliver runningRun (numbered 1 0 (.recordReviewerThread "rev-1"))).1.ownedThreadIds ∧
      "rev-1" ∉ (deliver (deliver runningRun (numbered 1 0 (.recordReviewerThread "rev-1"))).1
        (numbered 2 1 (.recordReviewerThread "rev-2"))).1.ownedThreadIds) ∧
    "dev-1" ∈ unlistedRun.ownedThreadIds ∧
      "dev-1" ∉ (deliver unlistedRun (numbered 1 0 (.attachSubTaskThread 0 .dev "dev-2" none))).1.ownedThreadIds ∧
      "dev-1" ∉ (unlistedRun.reviveSubTasks none).1.ownedThreadIds ∧
    (TeamRun.new.releaseOwnedThread "").Names "" := by
  refine ⟨⟨by decide, by decide⟩, ⟨by decide, by decide⟩, by decide, by decide, by decide, .inl rfl⟩

/-- Who sits at the sub-task is on its list, as attaching a thread leaves it. -/
structure SubTask.Registered (task : SubTask) : Prop where
  dev : ∀ id, task.devThreadId = some id → id ∈ task.ownedThreadIds
  reviewer : ∀ id, task.reviewerThreadId = some id → id ∈ task.ownedThreadIds

/-- Who sits in a seat of the run is on a list, as the host leaves it by recording a thread
before a command names it. -/
structure Registered (run : TeamRun) : Prop where
  mrDev : ∀ id, run.mrDevThreadId = some id → id ∈ run.runOwnedThreadIds
  reviewer : ∀ id, run.reviewerThreadId = some id → id ∈ run.runOwnedThreadIds
  tasks : ∀ task ∈ run.subTasks, task.Registered

/-- A command that names only threads on a list. -/
def TeamStateCommand.Disciplined (run : TeamRun) : TeamStateCommand → Prop
  | recordMrDevThread id | recordReviewerThread id => id ∈ run.runOwnedThreadIds
  | replanSubTasks planned _ => ∀ task ∈ planned, task.Registered
  | _ => True

def OwnershipEvent.Disciplined (run : TeamRun) : OwnershipEvent → Prop
  | .team (.delivery _ _ effectiveCommand) => effectiveCommand.Disciplined run
  | .replanSubTasks _ planned => ∀ task ∈ planned, task.Registered
  | _ => True

theorem SubTask.Registered.leaveSeat_names {task : SubTask} (registered : task.Registered) (role : TeamSubTaskRole)
    {threadId : String} : (task.leaveSeat role).Names threadId ↔ task.Names threadId := by
  have dev := registered.dev threadId
  have reviewer := registered.reviewer threadId
  cases role with
  | dev =>
    simp only [SubTask.Names, SubTask.leaveSeat, if_true, reduceCtorEq, if_false, false_or]
    tauto
  | reviewer =>
    simp only [SubTask.Names, SubTask.leaveSeat, if_true, reduceCtorEq, if_false, or_false]
    tauto

theorem Registered.displaces_nothing {codec : Codec} {run : TeamRun} (registered : Registered run) {threadId : String}
    (named : run.Names threadId) (event : OwnershipEvent) : ¬Displaces codec threadId run event := by
  rcases event with (⟨mint, envelope, command⟩ | action) | _ | _ | _ | _ | _ | _ | _
  case team.delivery =>
    rintro ⟨reaches, gone⟩
    refine gone (.inl ?_)
    cases command with
    | recordMrDevThread id =>
      obtain lead | past | listed | seat | rest := named
      · exact .inl lead
      · exact .inr (.inl past)
      · exact .inr (.inr (.inl listed))
      · exact .inr (.inr (.inl (registered.mrDev threadId seat)))
      · exact .inr (.inr (.inr (.inr rest)))
    | recordReviewerThread id =>
      obtain lead | past | listed | mrDev | seat | rest := named
      · exact .inl lead
      · exact .inr (.inl past)
      · exact .inr (.inr (.inl listed))
      · exact .inr (.inr (.inr (.inl mrDev)))
      · exact .inr (.inr (.inl (registered.reviewer threadId seat)))
      · exact .inr (.inr (.inr (.inr (.inr rest))))
    | attachSubTaskThread index role id base =>
      obtain lead | past | listed | mrDev | seat | ⟨task, member, atTask⟩ := named
      · exact .inl lead
      · exact .inr (.inl past)
      · exact .inr (.inr (.inl listed))
      · exact .inr (.inr (.inr (.inl mrDev)))
      · exact .inr (.inr (.inr (.inr (.inl seat))))
      · refine .inr (.inr (.inr (.inr (.inr (exists_mem_modify.mpr ?_)))))
        obtain ⟨i, found⟩ := List.mem_iff_getElem?.mp member
        refine ⟨i, task, found, ?_⟩
        split
        · exact ((registered.tasks task member).leaveSeat_names role).mpr atTask
        · exact atTask
    | _ => exact named
  case team.user =>
    cases action with
    | reviveSubTasks chosen =>
      refine not_not_intro ?_
      obtain lead | past | listed | mrDev | seat | ⟨task, member, atTask⟩ := named
      · exact .inl lead
      · exact .inr (.inl past)
      · exact .inr (.inr (.inl listed))
      · exact .inr (.inr (.inr (.inl mrDev)))
      · exact .inr (.inr (.inr (.inr (.inl seat))))
      · refine .inr (.inr (.inr (.inr (.inr ⟨_, List.mem_map_of_mem member, ?_⟩))))
        split
        · exact ((registered.tasks task member).leaveSeat_names .dev).mpr atTask
        · exact atTask
    | _ => exact id
  all_goals exact id

theorem SubTask.Registered.of_seats {task other : SubTask} (same : task.seats = other.seats)
    (registered : task.Registered) : other.Registered := by
  obtain ⟨owned, dev, reviewer⟩ := by simpa only [SubTask.seats, Prod.mk.injEq] using same
  refine ⟨?_, ?_⟩
  · rw [← owned, ← dev]
    exact registered.dev
  · rw [← owned, ← reviewer]
    exact registered.reviewer

theorem SameSeats.registered {run next : TeamRun} (same : SameSeats run next) (registered : Registered run) :
    Registered next := by
  refine ⟨?_, ?_, ?_⟩
  · rw [same.mrDev, same.owned]
    exact registered.mrDev
  · rw [same.reviewer, same.owned]
    exact registered.reviewer
  · intro task member
    obtain ⟨old, inside, seats⟩ := same.task member
    exact (registered.tasks old inside).of_seats seats

theorem StandingOnly.registered {run next : TeamRun} (standing : StandingOnly run next) (registered : Registered run) :
    Registered next :=
  standing.sameSeats.registered registered

theorem Registered.modifySubTask {run : TeamRun} (registered : Registered run) (index : Nat) (edit : SubTask → SubTask)
    (keeps : ∀ task : SubTask, task.Registered → (edit task).Registered) :
    Registered (run.modifySubTask index edit) := by
  refine ⟨registered.mrDev, registered.reviewer, ?_⟩
  intro task member
  obtain ⟨i, at_i⟩ := List.mem_iff_getElem?.mp member
  rw [TeamRun.modifySubTask, List.getElem?_modify] at at_i
  obtain ⟨old, found, rfl⟩ := Option.map_eq_some_iff.mp at_i
  have before := registered.tasks old (List.mem_of_getElem? found)
  split
  · exact keeps old before
  · exact before

theorem SubTask.Registered.attachThread {task : SubTask} (registered : task.Registered) (role : TeamSubTaskRole)
    (id : String) (baseCommit : Option String) : (task.attachThread role id baseCommit).Registered := by
  have last : id ∈ task.ownedThreadIds ++ [id] := List.mem_append_right _ (List.mem_singleton_self id)
  have old (other : String) (listed : other ∈ task.ownedThreadIds) : other ∈ task.ownedThreadIds ++ [id] :=
    List.mem_append_left _ listed
  cases role with
  | dev =>
    refine ⟨?_, fun other seat => old other (registered.reviewer other seat)⟩
    intro other seat
    rw [← Option.some.inj seat]
    exact last
  | reviewer =>
    refine ⟨fun other seat => old other (registered.dev other seat), ?_⟩
    intro other seat
    rw [← Option.some.inj seat]
    exact last

theorem SubTask.Registered.revive {task : SubTask} (registered : task.Registered) (workingCycle : UInt32) :
    (task.revive workingCycle).Registered := by
  refine ⟨?_, registered.reviewer⟩
  intro id seat
  cases seat

/-- Who is left in a seat when a thread is taken out is still on the list it is taken out of. -/
theorem listed_filter {seat : Option String} {listed : List String} (gone : String)
    (registered : ∀ id, seat = some id → id ∈ listed) (id : String)
    (sits : (seat.filter fun other => other ≠ gone) = some id) : id ∈ listed.filter fun other => other ≠ gone := by
  obtain ⟨found, other⟩ := Option.filter_eq_some_iff.mp sits
  exact List.mem_filter.mpr ⟨registered id found, other⟩

theorem SubTask.Registered.releaseThread {task : SubTask} (registered : task.Registered) (gone : String) :
    (task.releaseThread gone).Registered := by
  exact ⟨listed_filter gone registered.dev, listed_filter gone registered.reviewer⟩

theorem appendPlanned_registered (mint : Nat → String) (cycle : UInt32) {kept planned : List SubTask} (index : Nat)
    (before : ∀ task ∈ kept, task.Registered) (new : ∀ task ∈ planned, task.Registered) :
    ∀ task ∈ TeamRun.appendPlanned mint cycle kept planned index, task.Registered := by
  induction planned generalizing kept index with
  | nil => exact before
  | cons task rest ih =>
    unfold TeamRun.appendPlanned
    refine ih _ ?_ fun other member => new other (List.mem_cons_of_mem _ member)
    have here := new task List.mem_cons_self
    intro other member
    rcases List.mem_append.mp member with old | last
    · exact before other old
    · rw [List.mem_singleton.mp last]
      split
      · exact ⟨here.dev, here.reviewer⟩
      · exact ⟨here.dev, here.reviewer⟩

theorem Registered.replanSubTasks {run : TeamRun} (registered : Registered run) (mint : Nat → String)
    {planned : List SubTask} (new : ∀ task ∈ planned, task.Registered) :
    Registered (run.replanSubTasks mint planned) := by
  refine ⟨registered.mrDev, registered.reviewer, appendPlanned_registered mint _ 0 ?_ new⟩
  intro task member
  obtain ⟨old, inside, rfl⟩ := List.mem_map.mp member
  have before := registered.tasks old inside
  unfold SubTask.retire
  split
  · exact before
  · exact ⟨before.dev, before.reviewer⟩

theorem Registered.applyEffects {run : TeamRun} (registered : Registered run) (mint : Nat → String)
    (commandId : String) {command : TeamStateCommand} (disciplined : command.Disciplined run) :
    Registered (applyEffects mint run commandId command).1 := by
  cases moves : command.movesThreads with
  | false => exact (applyEffects_sameSeats mint run commandId moves).registered registered
  | true =>
    cases command with
    | replanSubTasks planned phase =>
      have planned := registered.replanSubTasks mint disciplined
      exact ⟨planned.mrDev, planned.reviewer, planned.tasks⟩
    | attachSubTaskThread index role id base =>
      exact registered.modifySubTask index _ fun task before => before.attachThread role id base
    | recordMrDevThread id =>
      refine ⟨?_, registered.reviewer, registered.tasks⟩
      intro other seat
      rw [← Option.some.inj seat]
      exact disciplined
    | recordReviewerThread id =>
      refine ⟨registered.mrDev, ?_, registered.tasks⟩
      intro other seat
      rw [← Option.some.inj seat]
      exact disciplined
    | _ => cases moves

theorem Registered.delivery {codec : Codec} {mint : Nat → String} {run : TeamRun} {runId : String}
    {envelope : TeamCommandEnvelope} {effectiveCommand : TeamStateCommand} (registered : Registered run)
    (disciplined : effectiveCommand.Disciplined run) :
    Registered (applyTeamCommandWithEffective codec mint run runId envelope effectiveCommand).1 := by
  rcases apply_cases codec mint run runId envelope effectiveCommand with
    ⟨reaches, result⟩ | ⟨-, -, -, reason, result⟩ | ⟨-, receipt, result⟩
  · have effects := registered.applyEffects mint envelope.commandId disciplined
    obtain ⟨phase, mrVerdict, unresolved, journal, notes, frame⟩ :=
      applyAndJournal_frame mint run envelope (codec.fingerprint runId envelope) effectiveCommand
    rw [result, frame]
    exact ⟨effects.mrDev, effects.reviewer, effects.tasks⟩
  · obtain ⟨journal, notes, frame⟩ := rejectAndJournal_frame run envelope.commandId envelope.sequence
      envelope.command.kind (codec.fingerprint runId envelope) envelope.expectedRevision reason
    rw [result, frame]
    exact ⟨registered.mrDev, registered.reviewer, registered.tasks⟩
  · rw [result]
    exact registered

theorem Registered.reviveSubTasks {run : TeamRun} (registered : Registered run) (chosen : Option (List String)) :
    Registered (run.reviveSubTasks chosen).1 := by
  unfold TeamRun.reviveSubTasks
  split
  · exact registered
  · refine ⟨registered.mrDev, registered.reviewer, ?_⟩
    intro task member
    obtain ⟨old, inside, rfl⟩ := List.mem_map.mp member
    have before := registered.tasks old inside
    split
    · exact before.revive _
    · exact before

theorem Registered.releaseOwnedThread {run : TeamRun} (registered : Registered run) (gone : String) :
    Registered (run.releaseOwnedThread gone) := by
  unfold TeamRun.releaseOwnedThread
  split
  · exact registered
  · refine ⟨listed_filter gone registered.mrDev, listed_filter gone registered.reviewer, ?_⟩
    intro task member
    obtain ⟨old, inside, rfl⟩ := List.mem_map.mp member
    exact (registered.tasks old inside).releaseThread gone

/-- Every event whose commands name only threads on a list keeps the seats registered. -/
theorem Registered.run {codec : Codec} {runId : String} {run : TeamRun} (registered : Registered run)
    {event : OwnershipEvent} (disciplined : event.Disciplined run) : Registered (event.run codec runId run) := by
  cases event with
  | team event =>
    cases event with
    | delivery mint envelope effectiveCommand => exact registered.delivery disciplined
    | user action =>
      have standing := action.run_standing run
      cases action with
      | reviveSubTasks chosen => exact registered.reviveSubTasks chosen
      | _ => exact (standing (by simp)).registered registered
  | settle method => exact (method.run_standing run).registered registered
  | retireTl reason =>
    simp only [OwnershipEvent.run, TeamRun.retireTl]
    split
    · exact registered
    · exact ⟨registered.mrDev, registered.reviewer, registered.tasks⟩
  | replanSubTasks mint planned => exact registered.replanSubTasks mint disciplined
  | recordRunThread threadId =>
    simp only [OwnershipEvent.run, TeamRun.recordRunThread]
    split
    · exact registered
    · exact ⟨fun id seat => List.mem_append_left _ (registered.mrDev id seat),
        fun id seat => List.mem_append_left _ (registered.reviewer id seat), registered.tasks⟩
  | recordRunThreadRole threadId role =>
    simp only [OwnershipEvent.run, TeamRun.recordRunThreadRole]
    split
    · exact registered
    · exact ⟨registered.mrDev, registered.reviewer, registered.tasks⟩
  | recordOwnedThreadProvider threadId provider =>
    simp only [OwnershipEvent.run, TeamRun.recordOwnedThreadProvider]
    split
    · exact registered
    · exact ⟨registered.mrDev, registered.reviewer, registered.tasks⟩
  | releaseOwnedThread gone => exact registered.releaseOwnedThread gone

/-- Where the host records a thread before a command seats it, a thread stays owned until
it is released. -/
theorem registered_thread_stays_owned {codec : Codec} {runId : String} {threadId : String} {first last : TeamRun}
    (registered : Registered first) (owned : threadId ∈ first.ownedThreadIds)
    (history : OwnershipHistory codec runId
      (fun run event => event.Disciplined run ∧ event ≠ .releaseOwnedThread threadId) first last) :
    Registered last ∧ threadId ∈ last.ownedThreadIds := by
  obtain ⟨nonempty, named⟩ := mem_ownedThreadIds.mp owned
  induction history with
  | start => exact ⟨registered, owned⟩
  | next _ permitted before =>
    obtain ⟨stays, still⟩ := before
    obtain ⟨-, named⟩ := mem_ownedThreadIds.mp still
    refine ⟨stays.run permitted.1, mem_ownedThreadIds.mpr ⟨nonempty, ?_⟩⟩
    exact (OwnershipEvent.run_names_iff nonempty named _).mpr ⟨stays.displaces_nothing named _, permitted.2⟩

end Sealwire.Team

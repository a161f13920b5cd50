import Sealwire.Asks.Writes

namespace Sealwire.Asks

/-- The record that a call has yet to hand over, or to settle. -/
def AskTask.holds : AskTask → Option String
  | filling _ _ existing _ | choosing _ _ existing _ => existing
  | holding held _ _ | ensuring held _ _ | bringing held _ _ | reading held _ | recording held _ _ => held.existing
  | sending _ id _ | landing id _ | unsent _ id _ | failing id _ => some id
  | prechecking _ _ | accepting _ _ | committing _ _ _ _ | stopping _ _ | stopped _ _ _ => none

/-- A call that only has its error left to report. -/
def AskTask.failed : AskTask → Bool
  | failing _ _ => true
  | _ => false

/-- The asks that a call found handed over, and means to settle. -/
def AskTask.pursues : AskTask → List String
  | committing id _ _ _ => [id]
  | stopping _ asks | stopped _ asks _ => asks.map (·.id)
  | _ => []

theorem none_held {P : String → Prop} : ∀ id, (none : Option String) = some id → P id :=
  fun id held => absurd held.symm (Option.some_ne_none id)

theorem not_failed {P : Prop} (failed : false = true) : P :=
  absurd failed Bool.false_ne_true

/-- A send under way is for the record the request had from the start, where it had one. -/
def AskTask.Tidy : AskTask → Prop
  | sending existing id _ | unsent existing id _ => ∀ named ∈ existing, named = id
  | _ => True

/-- The asks the sweep found handed over, and has not got past. -/
def SweepStage.pursues : SweepStage → List LiveAsk
  | looking _ todo => todo
  | reading round | turnFailed round _ | turnSettling round _ _ | coldReading round _ _ | coldFailed round _ _
  | judging round _ _ _ | expiring round _ | matching round _ _ | nudging round _ | nudgeLanded round _ _
  | finishing round _ => round.ask :: round.todo
  | idle | gathering | calling _ _ | composing _ _ _ | marking _ _ _ | waking _ _ _ => []

/-- Not handed over, and waiting for nobody's decision. -/
structure Ask.Unsent (ask : Ask) : Prop where
  sentAt : ask.sentAt = none
  decided : ask.awaitingModelDecision = false

namespace AskEdit

variable (now : Nat) (ask : Ask)

@[simp] theorem id_apply (edit : AskEdit) : (edit.apply now ask).id = ask.id := by
  cases edit with
  | finish answer => exact id_finish now ask answer
  | reportBack cited answer => exact id_finish now _ answer
  | fail error =>
    simp only [apply, Ask.fail, Ask.setStatus]
    cases ask.status.isTerminal <;> rfl
  | decide decision chosen =>
    simp only [apply, Ask.setStatus]
    cases chosen.isNone <;> cases ask.status.isTerminal <;> rfl
  | _ => rfl

theorem asker_apply (edit : AskEdit) : (edit.apply now ask).askerThreadId = ask.askerThreadId := by
  cases edit with
  | finish answer | reportBack cited answer | fail error =>
    simp only [apply, Ask.finish, Ask.fail, Ask.setStatus]
    cases ask.status.isTerminal <;> rfl
  | decide decision chosen =>
    simp only [apply, Ask.setStatus]
    cases chosen.isNone <;> cases ask.status.isTerminal <;> rfl
  | _ => rfl

theorem sent_apply (edit : AskEdit) (sent : ask.sentAt.isSome = true) : (edit.apply now ask).sentAt.isSome = true := by
  cases edit with
  | finish answer | reportBack cited answer | fail error =>
    simp only [apply, Ask.finish, Ask.fail, Ask.setStatus]
    cases ask.status.isTerminal <;> exact sent
  | decide decision chosen =>
    simp only [apply, Ask.setStatus]
    cases chosen.isNone <;> cases ask.status.isTerminal <;> exact sent
  | sent turnId => rfl
  | _ => exact sent

/-- The edits after which an ask waits for a decision only if it did before, and was sent when it was. -/
def mild : AskEdit → Bool
  | finish _ | fail _ | reportBack _ _ | fillIn _ _ _ _ _ _ | nudged _ _ | deliver => true
  | hold _ _ _ _ | decide _ _ | sent _ => false

theorem mild_apply {edit : AskEdit} (mild : edit.mild = true) : (edit.apply now ask).sentAt = ask.sentAt ∧
    ((edit.apply now ask).awaitingModelDecision = true → ask.awaitingModelDecision = true) := by
  cases edit with
  | finish answer | reportBack cited answer | fail error =>
    simp only [apply, Ask.finish, Ask.fail, Ask.setStatus, Ask.awaitingModelDecision]
    cases past : ask.status.isTerminal <;> simp [past]
  | hold peerThreadId peerProvider message request => cases mild
  | decide decision chosen => cases mild
  | sent turnId => cases mild
  | _ => exact ⟨rfl, id⟩

end AskEdit

namespace AskWorld

/-- The sweep or a call means to settle this ask, which it found handed over. -/
def Pursued (w : AskWorld) (id : String) : Prop :=
  (∃ live ∈ w.sweep.pursues, live.id = id) ∨ ∃ k task, w.tasks.get k = some task ∧ id ∈ task.pursues

/-- Every request under way has its record to itself until its task is handed over. -/
structure Owned (w : AskWorld) : Prop where
  named : ∀ id ask, w.asks.get id = some ask → ask.id = id ∧ id ∈ w.issued
  waiting : ∀ id ask, w.asks.get id = some ask → ask.awaitingModelDecision = true → ask.sentAt = none
  held : ∀ k task id, w.tasks.get k = some task → task.holds = some id →
    id ∈ w.issued ∧ ∀ ask, w.asks.get id = some ask → ask.Unsent
  live : ∀ k task id, w.tasks.get k = some task → task.holds = some id → task.failed = false →
    ∃ ask, w.asks.get id = some ask ∧ ask.status.isTerminal = false
  alone : ∀ k other task beside id, w.tasks.get k = some task → task.holds = some id →
    w.tasks.get other = some beside → beside.holds = some id → k = other
  pursued : ∀ id, w.Pursued id → id ∈ w.issued ∧ ∀ ask, w.asks.get id = some ask → ask.sentAt.isSome = true
  tidy : ∀ k task, w.tasks.get k = some task → task.Tidy

theorem start_owned : start.Owned where
  named id ask found := by
    rw [start, Table.get_empty] at found
    cases found
  waiting id ask found := by
    rw [start, Table.get_empty] at found
    cases found
  held k task id found := by
    rw [start, Table.get_empty] at found
    cases found
  live k task id found := by
    rw [start, Table.get_empty] at found
    cases found
  alone k other task beside id found := by
    rw [start, Table.get_empty] at found
    cases found
  pursued id chased := by
    rcases chased with ⟨live, listed, -⟩ | ⟨k, task, found, -⟩
    · exact absurd listed List.not_mem_nil
    · rw [start, Table.get_empty] at found
      cases found
  tidy k task found := by
    rw [start, Table.get_empty] at found
    cases found

namespace Owned

variable {w : AskWorld}

/-- What is neither an ask nor a call is no matter. -/
theorem same {next : AskWorld} (owned : w.Owned) (asks : next.asks = w.asks) (tasks : next.tasks = w.tasks)
    (sweep : ∀ live ∈ next.sweep.pursues, ∃ was ∈ w.sweep.pursues, was.id = live.id) (issued : next.issued = w.issued) :
    next.Owned where
  named := by
    rw [asks, issued]
    exact owned.named
  waiting := by
    rw [asks]
    exact owned.waiting
  held := by
    rw [asks, tasks, issued]
    exact owned.held
  live := by
    rw [asks, tasks]
    exact owned.live
  alone := by
    rw [tasks]
    exact owned.alone
  pursued id chased := by
    rw [asks, issued]
    refine owned.pursued id ?_
    rcases chased with ⟨live, listed, is⟩ | chased
    · obtain ⟨was, among, same⟩ := sweep live listed
      exact .inl ⟨was, among, same.trans is⟩
    · rw [tasks] at chased
      exact .inr chased
  tidy := by
    rw [tasks]
    exact owned.tidy

theorem proceed_none (owned : w.Owned) (k : Nat) : (w.proceed k none).Owned := by
  have kept : ∀ j task, (w.proceed k none).tasks.get j = some task → w.tasks.get j = some task :=
    fun _ _ found => Table.get_of_get_drop found
  refine ⟨owned.named, owned.waiting, fun j task id found => owned.held j task id (kept j task found),
    fun j task id found => owned.live j task id (kept j task found), fun j other task beside id found holds also =>
      owned.alone j other task beside id (kept j task found) holds (kept other beside also), fun id chased => ?_,
    fun j task found => owned.tidy j task (kept j task found)⟩
  refine owned.pursued id ?_
  rcases chased with swept | ⟨j, task, found, chased⟩
  · exact .inl swept
  · exact .inr ⟨j, task, kept j task found, chased⟩

/-- A call goes on to a stage that holds what nobody else does. -/
theorem proceed_some (owned : w.Owned) {k : Nat} {task : AskTask} (tidy : task.Tidy)
    (held : ∀ id, task.holds = some id → id ∈ w.issued ∧ (∀ ask, w.asks.get id = some ask → ask.Unsent) ∧
      (task.failed = false → ∃ ask, w.asks.get id = some ask ∧ ask.status.isTerminal = false) ∧
      ∀ other beside, w.tasks.get other = some beside → beside.holds = some id → other = k)
    (pursued : ∀ id ∈ task.pursues, id ∈ w.issued ∧ ∀ ask, w.asks.get id = some ask → ask.sentAt.isSome = true) :
    (w.proceed k (some task)).Owned := by
  have now (j : Nat) (stage : AskTask) (found : (w.proceed k (some task)).tasks.get j = some stage) :
      j = k ∧ stage = task ∨ j ≠ k ∧ w.tasks.get j = some stage := by
    have put : (w.tasks.put k task).get j = some stage := found
    rw [Table.get_put] at put
    split at put
    · rename_i same
      cases put
      exact .inl ⟨same, rfl⟩
    · rename_i apart
      exact .inr ⟨apart, put⟩
  refine ⟨owned.named, owned.waiting, fun j stage id found holds => ?_, fun j stage id found holds working => ?_,
    fun j other stage beside id found holds also beside_holds => ?_, fun id chased => ?_, fun j stage found => ?_⟩
  · rcases now j stage found with ⟨rfl, rfl⟩ | ⟨_, was⟩
    · obtain ⟨known, unsent, -⟩ := held id holds
      exact ⟨known, unsent⟩
    · exact owned.held j stage id was holds
  · rcases now j stage found with ⟨rfl, rfl⟩ | ⟨_, was⟩
    · exact (held id holds).2.2.1 working
    · exact owned.live j stage id was holds working
  · rcases now j stage found with ⟨rfl, rfl⟩ | ⟨apart, was⟩
    · rcases now other beside also with ⟨rfl, rfl⟩ | ⟨_, others⟩
      · rfl
      · exact ((held id holds).2.2.2 other beside others beside_holds).symm
    · rcases now other beside also with ⟨rfl, rfl⟩ | ⟨_, others⟩
      · exact (held id beside_holds).2.2.2 j stage was holds
      · exact owned.alone j other stage beside id was holds others beside_holds
  · rcases chased with swept | ⟨j, stage, found, chased⟩
    · exact owned.pursued id (.inl swept)
    · rcases now j stage found with ⟨rfl, rfl⟩ | ⟨_, was⟩
      · exact pursued id chased
      · exact owned.pursued id (.inr ⟨j, stage, was, chased⟩)
  · rcases now j stage found with ⟨rfl, rfl⟩ | ⟨_, was⟩
    · exact tidy
    · exact owned.tidy j stage was

/-- A call goes on with the record it had, or lets go of it. -/
theorem proceed (owned : w.Owned) {k : Nat} {stage task : AskTask} (at_ : w.tasks.get k = some stage) (tidy : task.Tidy)
    (holds : ∀ id, task.holds = some id → stage.holds = some id)
    (failed : stage.failed = true → task.failed = true) (pursues : ∀ id ∈ task.pursues, id ∈ stage.pursues) :
    (w.proceed k (some task)).Owned := by
  refine owned.proceed_some tidy (fun id held => ?_) fun id chased =>
    owned.pursued id (.inr ⟨k, stage, at_, pursues id chased⟩)
  have had := holds id held
  refine ⟨(owned.held k stage id at_ had).1, (owned.held k stage id at_ had).2, fun working => ?_,
    fun other beside also beside_holds => (owned.alone k other stage beside id at_ had also beside_holds).symm⟩
  refine owned.live k stage id at_ had ?_
  cases past : stage.failed with
  | false => rfl
  | true =>
    rw [failed past] at working
    cases working

theorem proceed_refused (owned : w.Owned) {k : Nat} {stage : AskTask} (at_ : w.tasks.get k = some stage)
    {existing : Option String} (holds : ∀ id ∈ existing, stage.holds = some id) (error : AskError) :
    (w.proceed k (refused existing error)).Owned := by
  cases existing with
  | none => exact owned.proceed_none k
  | some id =>
    refine owned.proceed at_ trivial (fun other is => ?_) (fun _ => rfl) fun other chased => absurd chased List.not_mem_nil
    cases is
    exact holds id rfl

/-- An edit that leaves the records of the requests under way as these need them. -/
theorem update (owned : w.Owned) {now : Nat} {id : String} {edit : AskEdit}
    (waits : ∀ ask, w.asks.get id = some ask → (edit.apply now ask).awaitingModelDecision = true →
      (edit.apply now ask).sentAt = none)
    (keeps : ∀ k task, w.tasks.get k = some task → task.holds = some id → ∀ ask, w.asks.get id = some ask →
      (edit.apply now ask).Unsent ∧ (task.failed = false → (edit.apply now ask).status.isTerminal = false)) :
    (w.update now id edit).Owned := by
  have was (other : String) (ask : Ask) (found : (w.update now id edit).asks.get other = some ask) :
      w.asks.get other = some ask ∨ other = id ∧ ∃ before, w.asks.get id = some before ∧ ask = edit.apply now before := by
    have edited : (w.asks.updateAsk now id edit).get other = some ask := found
    rw [AskTable.get_updateAsk] at edited
    split at edited
    · rename_i same
      obtain ⟨before, held, rfl⟩ := Option.map_eq_some_iff.mp edited
      exact .inr ⟨same, before, held, rfl⟩
    · exact .inl edited
  refine ⟨fun other ask found => ?_, fun other ask found => ?_, fun k task other at_ holds => ?_,
    fun k task other at_ holds working => ?_, owned.alone, fun other chased => ?_, owned.tidy⟩
  · rcases was other ask found with held | ⟨rfl, before, held, rfl⟩
    · exact owned.named other ask held
    · rw [AskEdit.id_apply]
      exact owned.named other before held
  · rcases was other ask found with held | ⟨rfl, before, held, rfl⟩
    · exact owned.waiting other ask held
    · exact waits before held
  · refine ⟨(owned.held k task other at_ holds).1, fun ask found => ?_⟩
    rcases was other ask found with held | ⟨rfl, before, held, rfl⟩
    · exact (owned.held k task other at_ holds).2 ask held
    · exact (keeps k task at_ holds before held).1
  · obtain ⟨ask, held, live⟩ := owned.live k task other at_ holds working
    have edited : (w.update now id edit).asks.get other =
        if other = id then (w.asks.get id).map (edit.apply now) else w.asks.get other :=
      AskTable.get_updateAsk _ _ _ _ _
    by_cases same : other = id
    · subst same
      rw [if_pos rfl, held] at edited
      exact ⟨_, edited, (keeps k task at_ holds ask held).2 working⟩
    · rw [if_neg same] at edited
      exact ⟨ask, edited.trans held, live⟩
  · obtain ⟨known, sent⟩ := owned.pursued other chased
    refine ⟨known, fun ask found => ?_⟩
    rcases was other ask found with held | ⟨rfl, before, held, rfl⟩
    · exact sent ask held
    · exact AskEdit.sent_apply now before edit (sent before held)

theorem waits_mild (owned : w.Owned) {now : Nat} {id : String} {edit : AskEdit} (mild : edit.mild = true) (ask : Ask)
    (found : w.asks.get id = some ask) (awaits : (edit.apply now ask).awaitingModelDecision = true) :
    (edit.apply now ask).sentAt = none := by
  obtain ⟨sent, before⟩ := AskEdit.mild_apply now ask mild
  rw [sent]
  exact owned.waiting id ask found (before awaits)

theorem update_pursued (owned : w.Owned) {now : Nat} {id : String} {edit : AskEdit} (pursued : w.Pursued id)
    (mild : edit.mild = true) : (w.update now id edit).Owned := by
  refine owned.update (owned.waits_mild mild) fun k task at_ holds ask found => ?_
  have unsent := ((owned.held k task id at_ holds).2 ask found).sentAt
  have sent := (owned.pursued id pursued).2 ask found
  rw [unsent] at sent
  cases sent

theorem update_unheld (owned : w.Owned) {now : Nat} {id : String} {edit : AskEdit}
    (waits : ∀ ask, w.asks.get id = some ask → (edit.apply now ask).awaitingModelDecision = true →
      (edit.apply now ask).sentAt = none)
    (unheld : ∀ k task, w.tasks.get k = some task → task.holds ≠ some id) : (w.update now id edit).Owned :=
  owned.update waits fun k task at_ holds => absurd holds (unheld k task at_)

/-- A new record, under an id of its own. -/
theorem insert (owned : w.Owned) {ask : Ask} (fresh : ask.id ∉ w.issued) (unsent : ask.sentAt = none) :
    (w.insert ask).Owned := by
  have was (other : String) (found : Ask) (at_ : (w.insert ask).asks.get other = some found) :
      other = ask.id ∧ found = ask ∨ w.asks.get other = some found := by
    by_cases same : other = ask.id
    · subst same
      have here : (w.asks.insertAsk ask).get ask.id = some found := at_
      rw [AskTable.get_insertAsk_self] at here
      exact .inl ⟨rfl, (Option.some.inj here).symm⟩
    · have here : (w.asks.insertAsk ask).get other = some found := at_
      rw [AskTable.get_insertAsk_ne _ same] at here
      rcases w.asks.get_pruneAsks other with kept | ⟨gone, -⟩
      · exact .inr (kept ▸ here)
      · rw [gone] at here
        cases here
  have known (other : String) (issued : other ∈ w.issued) (found : Ask)
      (at_ : (w.insert ask).asks.get other = some found) : w.asks.get other = some found := by
    rcases was other found at_ with ⟨rfl, -⟩ | held
    · exact absurd issued fresh
    · exact held
  refine ⟨fun other found at_ => ?_, fun other found at_ awaits => ?_, fun k task other at_ holds => ?_,
    fun k task other at_ holds working => ?_, owned.alone, fun other chased => ?_, owned.tidy⟩
  · rcases was other found at_ with ⟨rfl, rfl⟩ | held
    · exact ⟨rfl, List.mem_cons_self⟩
    · exact ⟨(owned.named other found held).1, List.mem_cons_of_mem _ (owned.named other found held).2⟩
  · rcases was other found at_ with ⟨-, rfl⟩ | held
    · exact unsent
    · exact owned.waiting other found held awaits
  · obtain ⟨issued, unsent⟩ := owned.held k task other at_ holds
    exact ⟨List.mem_cons_of_mem _ issued, fun found here => unsent found (known other issued found here)⟩
  · obtain ⟨found, held, live⟩ := owned.live k task other at_ holds working
    have issued := (owned.named other found held).2
    refine ⟨found, ?_, live⟩
    have apart : other ≠ ask.id := fun same => fresh (same ▸ issued)
    have kept : (w.asks.insertAsk ask).get other = some found := by
      rw [AskTable.get_insertAsk_ne _ apart]
      rcases w.asks.get_pruneAsks other with kept | ⟨-, pruned, was_held, past, -⟩
      · exact kept.trans held
      · rw [held] at was_held
        cases was_held
        rw [live] at past
        cases past
    exact kept
  · obtain ⟨issued, sent⟩ := owned.pursued other chased
    exact ⟨List.mem_cons_of_mem _ issued, fun found here => sent found (known other issued found here)⟩

end Owned

end AskWorld

end Sealwire.Asks

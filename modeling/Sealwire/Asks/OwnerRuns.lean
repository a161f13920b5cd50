import Sealwire.Asks.Owners

namespace Sealwire.Asks

theorem PrecheckedAsk.acceptedAsk_unsent (checked : PrecheckedAsk) (request : AskRequest) (facts : AskFacts) :
    (checked.acceptedAsk request facts).Unsent :=
  ⟨rfl, rfl⟩

theorem HeldAsk.newAsk_unsent (held : HeldAsk) (id : String) (peer : ChosenPeer) (baseline : Option String) (now : Nat) :
    (held.newAsk id peer baseline now).Unsent :=
  ⟨rfl, rfl⟩

/-- Choosing the peer of a request starts nothing: it is refused, or goes on with the record it has. -/
theorem choosePeer_cases (held : HeldAsk) (chooser : ModelChooser) (facts : AskFacts) :
    (∃ error, choosePeer held chooser facts = refused held.existing error) ∨
      ∃ task, choosePeer held chooser facts = some task ∧ task.holds = held.existing ∧ task.failed = false ∧
        task.pursues = [] ∧ task.Tidy := by
  unfold choosePeer
  split
  · split
    · exact .inl ⟨_, rfl⟩
    · split
      · exact .inr ⟨_, rfl, rfl, rfl, rfl, trivial⟩
      · split
        · exact .inr ⟨_, rfl, rfl, rfl, rfl, trivial⟩
        · exact .inr ⟨_, rfl, rfl, rfl, rfl, trivial⟩
        · exact .inl ⟨_, rfl⟩
  · split
    · exact .inl ⟨_, rfl⟩
    · split
      · exact .inr ⟨_, rfl, rfl, rfl, rfl, trivial⟩
      · exact .inr ⟨_, rfl, rfl, rfl, rfl, trivial⟩
      · exact .inl ⟨_, rfl⟩

namespace AskWorld

theorem update_proceed (w : AskWorld) (now : Nat) (id : String) (edit : AskEdit) (k : Nat) (task : Option AskTask) :
    (w.update now id edit).proceed k task = (w.proceed k task).update now id edit := by
  cases task <;> rfl

namespace Owned

variable {w : AskWorld} {k : Nat} {facts : AskFacts}

/-- Once a call has ended, nobody holds the record it held. -/
theorem unheld_after (owned : w.Owned) {stage : AskTask} (at_ : w.tasks.get k = some stage) {id : String}
    (holds : stage.holds = some id) (j : Nat) (task : AskTask) (found : (w.proceed k none).tasks.get j = some task) :
    task.holds ≠ some id := by
  intro also
  have dropped : (w.tasks.drop k).get j = some task := found
  have was := Table.get_of_get_drop dropped
  have same := owned.alone k j stage task id at_ holds was also
  rw [Table.get_drop, if_pos same.symm] at dropped
  cases dropped

/-- Whoever holds a refused call's record is the call, with its error left to report. -/
theorem failed_of_refused (owned : w.Owned) {stage : AskTask} (at_ : w.tasks.get k = some stage) {id : String}
    (holds : stage.holds = some id) {existing : Option String} {error : AskError} {j : Nat} {task : AskTask}
    (found : (w.proceed k (refused existing error)).tasks.get j = some task) (also : task.holds = some id) :
    task.failed = true := by
  cases existing with
  | none => exact absurd also (owned.unheld_after at_ holds j task found)
  | some named =>
    have put : (w.tasks.put k (.failing named error.message)).get j = some task := found
    by_cases same : j = k
    · rw [Table.get_put, if_pos same] at put
      cases put
      rfl
    · rw [Table.get_put_ne _ _ same] at put
      exact absurd (owned.alone k j stage task id at_ holds put also).symm same

/-- A call goes on with the record that it has just put on record. -/
theorem proceed_new (owned : w.Owned) {ask : Ask} (fresh : ask.id ∉ w.issued) (live : ask.status.isTerminal = false)
    (unsent : ask.Unsent) {task : AskTask} (holds : task.holds = some ask.id) (pursues : task.pursues = [])
    (tidy : task.Tidy) : ((w.insert ask).proceed k (some task)).Owned := by
  have there : (w.insert ask).asks.get ask.id = some ask := AskTable.get_insertAsk_self _ _
  refine (owned.insert fresh unsent.sentAt).proceed_some tidy (fun id held => ?_) fun id chased => ?_
  · rw [holds] at held
    cases held
    refine ⟨List.mem_cons_self, fun found here => ?_, fun _ => ⟨ask, there, live⟩, fun other beside at_ also => ?_⟩
    · rw [there] at here
      cases here
      exact unsent
    · exact absurd (owned.held other beside ask.id at_ also).1 fresh
  · rw [pursues] at chased
    exact absurd chased List.not_mem_nil

theorem endStopped (owned : w.Owned) (now : Nat) (latest : Option Reply) {ask : Ask} (pursued : w.Pursued ask.id) :
    (w.endStopped now latest ask).Owned := by
  unfold AskWorld.endStopped
  split
  · rename_i reply _
    have taken : (w.update now ask.id (.finish reply.text)).Owned := owned.update_pursued pursued rfl
    exact taken.same rfl rfl (fun live listed => ⟨live, listed, rfl⟩) rfl
  · exact owned.update_pursued pursued rfl

theorem foldl_stopped (owned : w.Owned) {asks : List Ask} (now : Nat) (latest : Option Reply)
    (pursued : ∀ ask ∈ asks, w.Pursued ask.id) :
    (asks.foldl (fun w ask => w.endStopped now latest ask) w).Owned := by
  induction asks generalizing w with
  | nil => exact owned
  | cons ask rest ih =>
    have same : (w.endStopped now latest ask).tasks = w.tasks ∧ (w.endStopped now latest ask).sweep = w.sweep := by
      unfold AskWorld.endStopped
      split <;> exact ⟨rfl, rfl⟩
    refine ih (owned.endStopped now latest (pursued ask List.mem_cons_self)) fun other member => ?_
    have before := pursued other (List.mem_cons_of_mem _ member)
    unfold Pursued at before ⊢
    rw [same.1, same.2]
    exact before

theorem runTask (owned : w.Owned) (fresh : facts.freshId ∉ w.issued) {stage : AskTask}
    (at_ : w.tasks.get k = some stage) : (w.runTask k facts stage).Owned := by
  cases stage with
  | prechecking asker request =>
    simp only [AskWorld.runTask]
    split
    · exact owned.proceed_none k
    · exact owned.proceed at_ trivial none_held not_failed (List.forall_mem_nil _)
  | accepting checked request =>
    simp only [AskWorld.runTask]
    exact owned.proceed_new fresh rfl (checked.acceptedAsk_unsent request facts) rfl rfl trivial
  | filling asker request existing chooser =>
    simp only [AskWorld.runTask]
    split
    · exact owned.proceed_refused at_ (fun id named => named) _
    · exact owned.proceed at_ trivial (fun _ holds => holds) not_failed (List.forall_mem_nil _)
  | choosing checked request existing chooser =>
    simp only [AskWorld.runTask]
    split
    · exact owned.proceed_refused at_ (fun id named => named) _
    · rename_i message _
      rcases choosePeer_cases { checked := checked, request := request, existing := existing, message := message }
        chooser facts with ⟨error, same⟩ | ⟨task, same, holds, working, pursues, tidy⟩
      · rw [same]
        exact owned.proceed_refused at_ (fun id named => named) _
      · rw [same]
        refine owned.proceed at_ tidy (fun id held => ?_) not_failed fun id chased => ?_
        · rw [holds] at held
          exact held
        · rw [pursues] at chased
          exact absurd chased List.not_mem_nil
  | holding held provider request =>
    simp only [AskWorld.runTask]
    cases named : held.existing with
    | some id =>
      have holds : (AskTask.holding held provider request).holds = some id := named
      dsimp only
      rw [update_proceed]
      refine (owned.proceed_none k).update_unheld (fun ask found _ => ?_) (owned.unheld_after at_ holds)
      exact ((owned.held k _ id at_ holds).2 ask found).sentAt
    | none => exact (owned.insert fresh rfl).proceed_none k
  | ensuring held provider model =>
    simp only [AskWorld.runTask]
    rw [Bool.cond_eq_ite]
    split
    · exact owned.proceed_refused at_ (fun id named => named) _
    · exact owned.proceed at_ trivial (fun _ holds => holds) not_failed (List.forall_mem_nil _)
  | bringing held provider model =>
    simp only [AskWorld.runTask]
    split
    · exact owned.proceed_refused at_ (fun id named => named) _
    · rename_i peer _
      have brought : ({ w with brought := { asker := held.checked.askerThreadId, peer := peer } :: w.brought } :
          AskWorld).Owned := owned.same rfl rfl (fun live listed => ⟨live, listed, rfl⟩) rfl
      have here : ({ w with brought := { asker := held.checked.askerThreadId, peer := peer } :: w.brought } :
          AskWorld).tasks.get k = some (.bringing held provider model) := at_
      exact brought.proceed here trivial (fun _ holds => holds) not_failed (List.forall_mem_nil _)
  | reading held peer =>
    simp only [AskWorld.runTask]
    exact owned.proceed at_ trivial (fun _ holds => holds) not_failed (List.forall_mem_nil _)
  | recording held peer baseline =>
    simp only [AskWorld.runTask]
    rw [Bool.cond_eq_ite]
    split
    · exact owned.proceed_refused at_ (fun id named => named) _
    · cases named : held.existing with
      | some id =>
        have holds : (AskTask.recording held peer baseline).holds = some id := named
        have filled : (w.update facts.now id (.fillIn peer.threadId peer.provider peer.model held.message baseline
            held.checked.askerProvider)).Owned := by
          refine owned.update (owned.waits_mild rfl) fun j task found also ask there => ?_
          obtain ⟨sent, decided⟩ := (owned.held j task id found also).2 ask there
          refine ⟨⟨sent, decided⟩, fun working => ?_⟩
          obtain ⟨other, same, live⟩ := owned.live j task id found also working
          rw [there] at same
          cases same
          exact live
        have here : (w.update facts.now id (.fillIn peer.threadId peer.provider peer.model held.message baseline
            held.checked.askerProvider)).tasks.get k = some (.recording held peer baseline) := at_
        refine filled.proceed here (fun other is => ?_) (fun other is => ?_)
          not_failed (List.forall_mem_nil _)
        · cases is
          rfl
        · have same : some id = some other := is
          rw [← same]
          exact named
      | none => exact owned.proceed_new fresh rfl (held.newAsk_unsent _ peer baseline facts.now) rfl rfl fun _ named => absurd named (Option.not_mem_none _)
  | sending existing askId peer =>
    simp only [AskWorld.runTask]
    split
    · rename_i turnId _
      have handed : (w.handOver askId turnId).Owned := owned.same rfl rfl (fun live listed => ⟨live, listed, rfl⟩) rfl
      have here : (w.handOver askId turnId).tasks.get k = some (.sending existing askId peer) := at_
      exact handed.proceed here trivial (fun _ holds => holds) not_failed (List.forall_mem_nil _)
    · have tidy : ∀ named ∈ existing, named = askId := owned.tidy k _ at_
      exact owned.proceed at_ tidy (fun _ holds => holds) not_failed (List.forall_mem_nil _)
  | landing askId turnId =>
    simp only [AskWorld.runTask]
    rw [update_proceed]
    refine (owned.proceed_none k).update_unheld (fun ask found awaits => ?_) (owned.unheld_after at_ rfl)
    have decided := ((owned.held k _ askId at_ rfl).2 ask found).decided
    have still : ask.awaitingModelDecision = true := awaits
    rw [decided] at still
    cases still
  | unsent existing askId reason =>
    simp only [AskWorld.runTask]
    rw [update_proceed]
    have tidy : ∀ named ∈ existing, named = askId := owned.tidy k _ at_
    have going : (w.proceed k (refused existing (.failed reason))).Owned :=
      owned.proceed_refused at_ (fun id named => congrArg some (tidy id named).symm) _
    refine going.update (going.waits_mild rfl) fun j task found also ask there => ?_
    have was : w.asks.get askId = some ask := by
      rw [asks_proceed] at there
      exact there
    obtain ⟨sent, decided⟩ := (owned.held k _ askId at_ rfl).2 ask was
    refine ⟨⟨?_, ?_⟩, fun working => ?_⟩
    · rw [(AskEdit.mild_apply facts.now ask rfl).1]
      exact sent
    · cases awaits : ((AskEdit.fail reason).apply facts.now ask).awaitingModelDecision with
      | false => rfl
      | true =>
        rw [(AskEdit.mild_apply facts.now ask rfl).2 awaits] at decided
        cases decided
    -- The record is held by the call itself, which has only its error left to report.
    · have past : task.failed = true := owned.failed_of_refused at_ rfl found also
      rw [past] at working
      cases working
  | failing askId reason =>
    simp only [AskWorld.runTask]
    rw [update_proceed]
    exact (owned.proceed_none k).update_unheld ((owned.proceed_none k).waits_mild rfl) (owned.unheld_after at_ rfl)
  | committing askId peer answer cited =>
    simp only [AskWorld.runTask]
    have taken : (w.update facts.now askId (.reportBack cited answer)).Owned :=
      owned.update_pursued (.inr ⟨k, _, at_, List.mem_singleton_self askId⟩) rfl
    refine Owned.proceed_none ?_ k
    exact taken.same rfl rfl (fun live listed => ⟨live, listed, rfl⟩) rfl
  | stopping peer asks =>
    simp only [AskWorld.runTask]
    exact owned.proceed at_ trivial none_held not_failed fun _ chased => chased
  | stopped peer asks latest =>
    simp only [AskWorld.runTask]
    refine (owned.foldl_stopped facts.now latest fun ask member => ?_).proceed_none k
    exact .inr ⟨k, _, at_, List.mem_map_of_mem member⟩

/-- The sweep goes on to a stage that pursues asks which were handed over. -/
theorem resume (owned : w.Owned) {stage : SweepStage}
    (pursued : ∀ live ∈ stage.pursues, live.id ∈ w.issued ∧
      ∀ ask, w.asks.get live.id = some ask → ask.sentAt.isSome = true) : (w.resume stage).Owned := by
  refine ⟨owned.named, owned.waiting, owned.held, owned.live, owned.alone, fun id chased => ?_, owned.tidy⟩
  rcases chased with ⟨live, listed, rfl⟩ | task
  · exact pursued live listed
  · exact owned.pursued id (.inr task)

/-- The sweep goes on with no more asks than it had. -/
theorem resume_on (owned : w.Owned) {stage : SweepStage} (fewer : ∀ live ∈ stage.pursues, live ∈ w.sweep.pursues) :
    (w.resume stage).Owned :=
  owned.resume fun live listed => owned.pursued live.id (.inl ⟨live, fewer live listed, rfl⟩)

theorem values_get (owned : w.Owned) {ask : Ask} (listed : ask ∈ w.asks.values) : w.asks.get ask.id = some ask := by
  obtain ⟨entry, member, rfl⟩ := List.mem_map.mp listed
  obtain ⟨pair, there, rfl⟩ := List.mem_map.mp member
  have found : w.asks.get pair.1 = some pair.2 := Table.get_eq_some_iff.mpr there
  rw [(owned.named pair.1 pair.2 found).1]
  exact found

theorem pursues_of_sent (owned : w.Owned) {ask : Ask} (listed : ask ∈ w.asks.values) (sent : ask.sentAt.isSome = true) :
    ask.id ∈ w.issued ∧ ∀ found, w.asks.get ask.id = some found → found.sentAt.isSome = true := by
  have here := owned.values_get listed
  refine ⟨(owned.named ask.id ask here).2, fun found there => ?_⟩
  rw [here] at there
  cases there
  exact sent

theorem idle (owned : w.Owned) : (w.runSweep facts .idle).Owned := by
  have looking : (w.resume (.looking facts.now w.liveAsks)).Owned := by
    refine owned.resume fun live listed => ?_
    obtain ⟨ask, among, made⟩ := List.mem_filterMap.mp listed
    obtain ⟨sentAt, kept, rfl⟩ := Option.map_eq_some_iff.mp made
    exact owned.pursues_of_sent among (Option.isSome_iff_exists.mpr ⟨sentAt, (Option.filter_eq_some_iff.mp kept).1⟩)
  exact looking.same rfl rfl (fun live listed => ⟨live, listed, rfl⟩) rfl

theorem foldl_deliver (owned : w.Owned) (now : Nat) (ids : List String) :
    (ids.foldl (fun w id => w.update now id .deliver) w).Owned ∧
      (ids.foldl (fun w id => w.update now id .deliver) w).sweep = w.sweep := by
  induction ids generalizing w with
  | nil => exact ⟨owned, rfl⟩
  | cons id rest ih =>
    have marked : (w.update now id .deliver).Owned := by
      refine owned.update (owned.waits_mild rfl) fun k task at_ holds ask found => ?_
      obtain ⟨sent, decided⟩ := (owned.held k task id at_ holds).2 ask found
      refine ⟨⟨sent, decided⟩, fun working => ?_⟩
      obtain ⟨other, same, live⟩ := owned.live k task id at_ holds working
      rw [found] at same
      cases same
      exact live
    exact ih marked

theorem take (owned : w.Owned) {now : Nat} {id itemId text : String} (pursued : w.Pursued id) :
    (w.take now id itemId text).Owned := by
  have taken : (w.update now id (.finish text)).Owned := owned.update_pursued pursued rfl
  exact taken.same rfl rfl (fun live listed => ⟨live, listed, rfl⟩) rfl

theorem salvage (owned : w.Owned) (now : Nat) {id : String} (pursued : w.Pursued id)
    (salvaged : Option (String × String)) (reason : String) :
    (w.salvage now id salvaged reason).Owned ∧ (w.salvage now id salvaged reason).sweep = w.sweep := by
  cases salvaged with
  | none => exact ⟨owned.update_pursued pursued rfl, rfl⟩
  | some found => exact ⟨owned.take pursued, rfl⟩

theorem mem_pursues {round : SweepRound} {live : LiveAsk} (listed : live ∈ round.todo) :
    live ∈ round.ask :: round.todo :=
  List.mem_cons_of_mem _ listed

theorem readCold (owned : w.Owned) {round : SweepRound} {provider turnId : String}
    (at_ : w.sweep = .coldReading round provider turnId) : (w.readCold round provider turnId facts).Owned := by
  have kept : ∀ live ∈ round.ask :: round.todo, live ∈ w.sweep.pursues := fun live listed => at_ ▸ listed
  unfold AskWorld.readCold
  split
  · exact owned.resume_on kept
  · dsimp only
    split
    · exact owned.resume_on kept
    · refine Owned.resume_on ?_ kept
      exact owned.same rfl rfl (fun live listed => ⟨live, listed, rfl⟩) rfl

theorem runSweep (owned : w.Owned) {stage : SweepStage} (at_ : w.sweep = stage) : (w.runSweep facts stage).Owned := by
  have pursued {round : SweepRound} (here : stage.pursues = round.ask :: round.todo) : w.Pursued round.ask.id := by
    refine .inl ⟨round.ask, ?_, rfl⟩
    rw [at_, here]
    exact List.mem_cons_self
  have onward {next : AskWorld} (sound : next.Owned) (sweep : next.sweep = w.sweep) {now : Nat} {todo : List LiveAsk}
      (fewer : ∀ live ∈ todo, live ∈ stage.pursues) : (next.resume (.looking now todo)).Owned :=
    sound.resume_on fun live listed => by
      rw [sweep, at_]
      exact fewer live listed
  have stays {later : SweepStage} (fewer : ∀ live ∈ later.pursues, live ∈ stage.pursues) : (w.resume later).Owned :=
    owned.resume_on fun live listed => by
      rw [at_]
      exact fewer live listed
  cases stage with
  | idle => exact owned.idle
  | looking now todo =>
    cases todo with
    | nil => exact stays (List.forall_mem_nil _)
    | cons ask todo =>
      simp only [AskWorld.runSweep]
      rw [Bool.cond_eq_ite]
      split
      · exact stays fun _ listed => List.mem_cons_of_mem _ listed
      · exact stays fun _ listed => listed
  | reading round =>
    simp only [AskWorld.runSweep]
    split
    · exact stays fun _ listed => mem_pursues listed
    · rename_i ask _
      refine stays ?_
      unfold afterReading
      rw [Bool.cond_eq_ite]
      split
      · exact fun _ listed => listed
      · split
        · exact fun _ listed => listed
        · simp only [Bool.cond_eq_ite]
          split
          · exact fun _ listed => listed
          · split
            · exact fun _ listed => listed
            · split <;> exact fun _ listed => listed
  | turnFailed round turnId => exact stays fun _ listed => listed
  | turnSettling round reason salvaged =>
    obtain ⟨sound, sweep⟩ := owned.salvage facts.now (pursued rfl) salvaged reason
    exact onward sound sweep fun _ listed => mem_pursues listed
  | coldReading round provider turnId => exact owned.readCold at_
  | coldFailed round views reason =>
    obtain ⟨sound, sweep⟩ := owned.salvage facts.now (pursued rfl)
      ((w.asks.get round.ask.id).bind (nudgedBaselineAnswer · views)) reason
    exact onward sound sweep fun _ listed => mem_pursues listed
  | judging round provider reply coldQuiet =>
    refine stays ?_
    unfold judge
    simp only [Bool.cond_eq_ite]
    split
    · exact fun _ listed => listed
    · split
      · exact fun _ listed => mem_pursues listed
      · split
        · exact fun _ listed => mem_pursues listed
        · exact fun _ listed => listed
  | expiring round latest =>
    simp only [AskWorld.runSweep]
    obtain ⟨sound, sweep⟩ := owned.salvage facts.now (pursued rfl) ((latest.filter fun reply =>
      (w.asks.get round.ask.id).any fun ask => replyAnswersAsk ask reply.itemId reply.turnId).map
        fun reply => (reply.itemId, reply.text)) "it stopped without answering"
    exact onward sound sweep fun _ listed => mem_pursues listed
  | matching round provider reply =>
    refine stays ?_
    unfold matchReply
    split
    · exact fun _ listed => mem_pursues listed
    · simp only [Bool.cond_eq_ite]
      split
      · exact fun _ listed => mem_pursues listed
      · split <;> exact fun _ listed => listed
  | nudging round reply =>
    simp only [AskWorld.runSweep]
    split
    · rename_i turnId _
      have handed : (w.handOver round.ask.id turnId).Owned :=
        owned.same rfl rfl (fun live listed => ⟨live, listed, rfl⟩) rfl
      refine handed.resume_on fun live listed => ?_
      have here : live ∈ w.sweep.pursues := by
        rw [at_]
        exact listed
      exact here
    · exact stays fun _ listed => listed
  | nudgeLanded round reply turnId =>
    exact onward (owned.update_pursued (pursued rfl) rfl) rfl fun _ listed => mem_pursues listed
  | finishing round reply => exact onward (owned.take (pursued rfl)) rfl fun _ listed => mem_pursues listed
  | gathering => exact stays (List.forall_mem_nil _)
  | calling found askers =>
    cases askers with
    | nil => exact stays (List.forall_mem_nil _)
    | cons asker askers =>
      simp only [AskWorld.runSweep]
      rw [Bool.cond_eq_ite]
      split <;> exact stays (List.forall_mem_nil _)
  | composing found asker askers =>
    simp only [AskWorld.runSweep]
    split <;> exact stays (List.forall_mem_nil _)
  | marking found wake askers =>
    simp only [AskWorld.runSweep]
    rw [Bool.cond_eq_ite]
    split
    · exact (owned.foldl_deliver facts.now wake.askIds).1.resume_on (List.forall_mem_nil _)
    · exact stays (List.forall_mem_nil _)
  | waking found wake askers =>
    refine Owned.resume_on ?_ (List.forall_mem_nil _)
    exact owned.same rfl rfl (fun live listed => ⟨live, listed, rfl⟩) rfl

theorem waitingOn_sent (owned : w.Owned) {peer : String} {ask : Ask} (listed : ask ∈ w.waitingOn peer) :
    ask.id ∈ w.issued ∧ ∀ found, w.asks.get ask.id = some found → found.sentAt.isSome = true := by
  obtain ⟨among, waits⟩ := List.mem_filter.mp listed
  simp only [Bool.and_eq_true] at waits
  exact owned.pursues_of_sent among waits.2

theorem reportBack (owned : w.Owned) (k : Nat) (peer answer : String) (cited : List String) :
    (w.reportBack k peer answer cited).Owned := by
  unfold AskWorld.reportBack
  simp only [Bool.cond_eq_ite]
  split
  · exact owned
  · split
    · exact owned
    · rename_i ask picked
      refine owned.proceed_some trivial none_held fun id chased => ?_
      cases List.mem_singleton.mp chased
      exact owned.waitingOn_sent (List.mem_mergeSort.mp (List.mem_of_mem_head? picked))

theorem stopPeer (owned : w.Owned) (k : Nat) (peer : String) : (w.stopPeer k peer).Owned := by
  unfold AskWorld.stopPeer
  split
  · exact owned
  · rename_i asks _
    refine owned.proceed_some trivial none_held fun id chased => ?_
    obtain ⟨ask, member, rfl⟩ := List.mem_map.mp chased
    exact owned.waitingOn_sent member

theorem decided_not_awaiting {decided : ModelDecision} (ran : decided ≠ .pending) {now : Nat} {ask : Ask}
    {model : Option String} : ((AskEdit.decide decided model).apply now ask).awaitingModelDecision = false := by
  have request : ((AskEdit.decide decided model).apply now ask).modelRequest.any
      (fun request => decide (request.decision = .pending)) = false := by
    simp only [AskEdit.apply, Ask.setStatus]
    cases model.isNone <;> cases ask.status.isTerminal <;> cases ask.modelRequest <;> simp [ran]
  unfold Ask.awaitingModelDecision
  rw [request, Bool.and_false]

theorem decideModelRequest (owned : w.Owned) (id decision : String) (model scopeDevice : Option String) :
    (w.decideModelRequest k id decision model scopeDevice facts).1.Owned := by
  rcases @decide_cases w k facts id decision model scopeDevice with
    same | ⟨ask, decided, chosen, found, awaiting, ran, models, same⟩
  · rw [same]
    exact owned
  · have past (model : Option String) : ((AskEdit.decide decided model).apply facts.now ask).awaitingModelDecision = false :=
      decided_not_awaiting ran
    have edited (model : Option String) : (w.update facts.now id (.decide decided model)).Owned := by
      refine owned.update_unheld (fun other there awaits => ?_) fun j task at_ holds => ?_
      · rw [found] at there
        cases there
        rw [past] at awaits
        cases awaits
      · have waits := ((owned.held j task id at_ holds).2 ask found).decided
        rw [awaiting] at waits
        cases waits
    rw [same]
    cases chosen with
    | none => exact edited none
    | some retry =>
      obtain ⟨model, named⟩ := Option.isSome_iff_exists.mp (models retry rfl)
      have there : (w.update facts.now id (.decide decided retry.model)).asks.get id =
          some ((AskEdit.decide decided retry.model).apply facts.now ask) := by
        have here := AskTable.get_updateAsk w.asks facts.now id id (.decide decided retry.model)
        rw [if_pos rfl, found] at here
        exact here
      refine (edited retry.model).proceed_some trivial (fun other is => ?_) (List.forall_mem_nil _)
      cases is
      refine ⟨(owned.named id ask found).2, fun other here => ?_, fun _ => ⟨_, there, ?_⟩, fun j beside at_ holds => ?_⟩
      · rw [there] at here
        cases here
        refine ⟨?_, past retry.model⟩
        rw [named]
        exact owned.waiting id ask found awaiting
      · rw [named]
        have live := awaiting
        simp only [Ask.awaitingModelDecision, Bool.and_eq_true, Bool.not_eq_true'] at live
        exact live.1
      · have waits := ((owned.held j beside id at_ holds).2 ask found).decided
        rw [awaiting] at waits
        cases waits

end Owned

theorem Owned.step {w : AskWorld} (owned : w.Owned) {move : AskMove} (may : move.May w) : (move.run w).Owned := by
  cases move with
  | delegate k asker request detached =>
    simp only [AskMove.run, delegate]
    rw [Bool.cond_eq_ite]
    split <;> exact owned.proceed_some trivial none_held (List.forall_mem_nil _)
  | decide k id decision model scopeDevice facts => exact owned.decideModelRequest id decision model scopeDevice
  | task k facts =>
    simp only [AskMove.run]
    split
    · rename_i stage at_
      exact owned.runTask may.1 at_
    · exact owned
  | reportBack k peer answer cited => exact owned.reportBack k peer answer cited
  | stopPeer k peer => exact owned.stopPeer k peer
  | sweep facts => exact owned.runSweep rfl
  | turnStarts turnId => exact owned.same rfl rfl (fun live listed => ⟨live, listed, rfl⟩) rfl
  | rowWritten row => exact owned.same rfl rfl (fun live listed => ⟨live, listed, rfl⟩) rfl

end AskWorld

/-- The states that the asks can get into, from none. -/
abbrev AskReached (w : AskWorld) : Prop := Reaches AskMove.run (fun w move => move.May w) .start w

theorem AskReached.owned {w : AskWorld} (reached : AskReached w) : w.Owned :=
  reached.invariant AskWorld.start_owned fun _ _ owned may => owned.step may

end Sealwire.Asks

import Sealwire.Asks.Provenance
import Sealwire.Asks.Settled

namespace Sealwire.Asks

namespace AskWorld

theorem choosePeer_traced (w : AskWorld) (held : HeldAsk) (chooser : ModelChooser) (facts : AskFacts) :
    ∀ task ∈ choosePeer held chooser facts, w.TracedTask task := by
  intro task is
  have refusal (error : AskError) (is : task ∈ refused held.existing error) : w.TracedTask task := by
    obtain ⟨id, _, rfl⟩ := Option.map_eq_some_iff.mp is
    trivial
  unfold choosePeer at is
  split at is
  · split at is
    · exact refusal _ is
    · split at is
      · cases is
        trivial
      · split at is
        · cases is
          trivial
        · cases is
          trivial
        · exact refusal _ is
  · split at is
    · exact refusal _ is
    · split at is
      · cases is
        trivial
      · cases is
        trivial
      · exact refusal _ is

namespace Traced

variable {w : AskWorld} {k : Nat} {facts : AskFacts}

/-- A turn that was never started before is handed over to the ask. -/
theorem handOver (traced : w.Traced) (id : String) {turnId : Option String} (fresh : ∀ turn ∈ turnId, turn ∉ w.turns) :
    (w.handOver id turnId).Traced ∧ (w.handOver id turnId).HandedTurn id turnId := by
  have grows : w.Grows (w.handOver id turnId) :=
    ⟨fun _ member => member, fun _ member => List.mem_cons_of_mem _ member, fun _ member => member, fun _ member => member⟩
  refine ⟨traced.grow grows ⟨fun row member kind => ?_, traced.rows.oneTurn, fun handed member turn is => ?_⟩ rfl rfl rfl,
    _, List.mem_cons_self, rfl, rfl⟩
  · obtain ⟨⟨turn, known, is⟩, named⟩ := traced.rows.turns row member kind
    exact ⟨⟨turn, List.mem_append_right _ known, is⟩, named⟩
  · rcases List.mem_cons.mp member with rfl | before
    · have started : turnId = some turn := is
      refine ⟨List.mem_append_left _ (by rw [started]; exact List.mem_singleton_self turn), fun row there kind same => ?_⟩
      obtain ⟨⟨own, known, is_own⟩, _⟩ := traced.rows.turns row there kind
      rw [is_own] at same
      cases same
      exact fresh _ started known
    · obtain ⟨known, apart⟩ := traced.rows.handed handed before turn is
      exact ⟨List.mem_append_right _ known, apart⟩

theorem edit (traced : w.Traced) {now : Nat} {id : String} {edit : AskEdit}
    (asks : ∀ ask, w.asks.get id = some ask → w.TracedAsk (edit.apply now ask))
    (kept : edit.rewrites = false) : (w.update now id edit).Traced :=
  traced.update asks fun _ _ _ => peer_apply now kept

theorem fail (traced : w.Traced) (now : Nat) (id reason : String) : (w.update now id (.fail reason)).Traced :=
  traced.edit (fun ask found => (traced.asks id ask found).fail now reason) rfl

/-- A reply of its own is taken as the answer of an ask that was handed over. -/
theorem take (traced : w.Traced) (owned : w.Owned) (now : Nat) {id peer itemId text : String} (sent : w.SentTo id peer)
    (source : ∃ reply, w.Genuine id peer reply ∧ reply.text = text) : (w.take now id itemId text).Traced := by
  have finished : (w.update now id (.finish text)).Traced := by
    refine traced.edit (fun ask found => ?_) rfl
    obtain ⟨reply, genuine, same⟩ := source
    have named := (owned.named id ask found).1
    have to_peer := (sent.2 ask found).2
    refine (traced.asks id ask found).finish now (.inr ⟨reply, ?_, same⟩)
    rw [named, to_peer]
    exact genuine
  exact finished.same ⟨rfl, rfl, rfl, rfl, rfl⟩ rfl rfl rfl

theorem salvage (traced : w.Traced) (owned : w.Owned) (now : Nat) {id peer : String} (sent : w.SentTo id peer)
    {salvaged : Option (String × String)} (source : ∀ found ∈ salvaged, w.Salvageable id peer found) (reason : String) :
    (w.salvage now id salvaged reason).Traced := by
  cases salvaged with
  | none => exact traced.fail now id reason
  | some found => exact traced.take owned now sent (source found rfl)

/-- A user stop takes the peer's last reply for the asks that it answers. -/
theorem endStopped (traced : w.Traced) (owned : w.Owned) (now : Nat) {peer : String} {latest : Option Reply} {copy : Ask}
    (handed : w.HandedTurn copy.id copy.turnId) (sent : w.SentTo copy.id peer)
    (written : ∀ reply ∈ latest, w.Written peer reply) : (w.endStopped now latest copy).Traced := by
  unfold AskWorld.endStopped
  split
  · rename_i reply answers
    obtain ⟨is, fits⟩ := Option.filter_eq_some_iff.mp answers
    exact traced.take owned now sent ⟨reply, genuine_of_answers traced.rows handed (written reply is) fits, rfl⟩
  · exact traced.fail now copy.id _

/-- A user stop ends one ask, and leaves the rest of the world as it was. -/
theorem endStopped_frame (w : AskWorld) (now : Nat) (latest : Option Reply) (copy : Ask) :
    w.SameLogs (w.endStopped now latest copy) ∧ (w.endStopped now latest copy).tasks = w.tasks ∧
      (w.endStopped now latest copy).sweep = w.sweep ∧
      ∀ id peer, w.SentTo id peer → (w.endStopped now latest copy).SentTo id peer := by
  unfold AskWorld.endStopped
  split
  · rename_i reply _
    have taken := @sentTo_update w now copy.id (.finish reply.text) fun _ _ _ =>
      peer_apply now rfl
    exact ⟨⟨rfl, rfl, rfl, rfl, rfl⟩, rfl, rfl, fun id peer sent => taken id peer sent⟩
  · exact ⟨⟨rfl, rfl, rfl, rfl, rfl⟩, rfl, rfl, sentTo_update fun _ _ _ => peer_apply now rfl⟩

theorem foldl_stopped (traced : w.Traced) (owned : w.Owned) (now : Nat) {peer : String} {latest : Option Reply}
    {asks : List Ask} (pursued : ∀ copy ∈ asks, w.Pursued copy.id)
    (copies : ∀ copy ∈ asks, w.HandedTurn copy.id copy.turnId ∧ w.SentTo copy.id peer)
    (written : ∀ reply ∈ latest, w.Written peer reply) :
    (asks.foldl (fun w ask => w.endStopped now latest ask) w).Traced := by
  induction asks generalizing w with
  | nil => exact traced
  | cons copy rest ih =>
    obtain ⟨handed, sent⟩ := copies copy List.mem_cons_self
    obtain ⟨same, tasks, sweep, kept⟩ := endStopped_frame w now latest copy
    have sound := owned.endStopped now latest (pursued copy List.mem_cons_self)
    refine ih (traced.endStopped owned now handed sent written) sound (fun other member => ?_) (fun other member => ?_)
      fun reply is => (written reply is).mono same.grows
    · have before := pursued other (List.mem_cons_of_mem _ member)
      unfold Pursued at before ⊢
      rw [tasks, sweep]
      exact before
    · obtain ⟨turn, to_peer⟩ := copies other (List.mem_cons_of_mem _ member)
      exact ⟨turn.mono same.grows, kept _ _ to_peer⟩

theorem runTask (traced : w.Traced) (owned : w.Owned) {stage : AskTask} (at_ : w.tasks.get k = some stage)
    (possible : facts.Possible w stage.reads) : (w.runTask k facts stage).Traced := by
  obtain ⟨fresh, -, fresh_turn, read⟩ := possible
  have new_turn {turnId : Option String} (dispatched : facts.dispatched = .ok turnId) : ∀ turn ∈ turnId, turn ∉ w.turns := by
    intro turn is
    refine fresh_turn turn ?_
    rw [dispatched]
    exact is
  cases stage with
  | prechecking asker request =>
    simp only [AskWorld.runTask]
    split
    · exact traced.proceed_none k
    · exact traced.proceed_some k trivial
  | accepting checked request =>
    simp only [AskWorld.runTask]
    have accepted : (w.insert (checked.acceptedAsk request facts)).Traced := traced.insert fresh rfl rfl rfl rfl
    exact accepted.proceed_some k trivial
  | filling asker request existing chooser =>
    simp only [AskWorld.runTask]
    split
    · exact traced.proceed_refused k existing _
    · exact traced.proceed_some k trivial
  | choosing checked request existing chooser =>
    simp only [AskWorld.runTask]
    split
    · exact traced.proceed_refused k existing _
    · exact traced.proceed k _ (w.choosePeer_traced _ chooser facts)
  | holding held provider request =>
    simp only [AskWorld.runTask]
    cases named : held.existing with
    | some id =>
      have holds : (AskTask.holding held provider request).holds = some id := named
      obtain ⟨other, there, working⟩ := owned.live k _ id at_ holds rfl
      have unsent := ((owned.held k _ id at_ holds).2 other there).sentAt
      refine Traced.proceed_none (traced.update (fun ask found => ?_) fun ask found sent => ?_) k
      · rw [there] at found
        cases found
        exact (traced.asks id other there).rewritten unsent working rfl rfl rfl rfl
      · rw [there] at found
        cases found
        rw [unsent] at sent
        cases sent
    | none =>
      have waits : (w.insert (held.heldAsk facts.freshId provider request facts.now)).Traced :=
        traced.insert fresh rfl rfl rfl rfl
      exact waits.proceed_none k
  | ensuring held provider model =>
    simp only [AskWorld.runTask]
    rw [Bool.cond_eq_ite]
    split
    · exact traced.proceed_refused k held.existing _
    · exact traced.proceed_some k trivial
  | bringing held provider model =>
    simp only [AskWorld.runTask]
    split
    · exact traced.proceed_refused k held.existing _
    · rename_i peer _
      have brought : ({ w with brought := { asker := held.checked.askerThreadId, peer := peer } :: w.brought } :
          AskWorld).Traced := traced.same ⟨rfl, rfl, rfl, rfl, rfl⟩ rfl rfl rfl
      exact brought.proceed_some k trivial
  | reading held peer => exact traced.proceed_some k trivial
  | recording held peer baseline =>
    simp only [AskWorld.runTask]
    rw [Bool.cond_eq_ite]
    split
    · exact traced.proceed_refused k held.existing _
    · cases named : held.existing with
      | some id =>
        have holds : (AskTask.recording held peer baseline).holds = some id := named
        obtain ⟨other, there, working⟩ := owned.live k _ id at_ holds rfl
        have unsent := ((owned.held k _ id at_ holds).2 other there).sentAt
        refine Traced.proceed_some (traced.update (fun ask found => ?_) fun ask found sent => ?_) k trivial
        · rw [there] at found
          cases found
          exact (traced.asks id other there).rewritten unsent working rfl rfl rfl rfl
        · rw [there] at found
          cases found
          rw [unsent] at sent
          cases sent
      | none =>
        have recorded : (w.insert (held.newAsk facts.freshId peer baseline facts.now)).Traced :=
          traced.insert fresh rfl rfl rfl rfl
        exact recorded.proceed_some k trivial
  | sending existing askId peer =>
    simp only [AskWorld.runTask]
    split
    · rename_i turnId dispatched
      obtain ⟨handed, turn⟩ := traced.handOver askId (new_turn dispatched)
      exact handed.proceed_some k turn
    · exact traced.proceed_some k trivial
  | landing askId turnId =>
    have turn : w.HandedTurn askId turnId := traced.tasks k _ at_
    refine Traced.proceed_none (traced.edit (fun ask found => ?_) rfl) k
    have unsent := ((owned.held k _ askId at_ rfl).2 ask found).sentAt
    have was := traced.asks askId ask found
    refine ⟨fun unsent => absurd unsent (Option.some_ne_none _), fun _ => ?_, fun nudged => ?_, was.answer⟩
    · rw [AskEdit.id_apply, (owned.named askId ask found).1]
      exact turn
    · have still : ask.nudged = true := nudged
      rw [(was.unsent unsent).2] at still
      cases still
  | unsent existing askId reason => exact (traced.fail facts.now askId reason).proceed_refused k existing _
  | failing askId reason => exact (traced.fail facts.now askId reason).proceed_none k
  | committing askId peer answer cited =>
    simp only [AskWorld.runTask]
    refine Traced.proceed_none ?_ k
    let told := { w with reported := { askId := askId, answer := answer, found := w.asks.get askId } :: w.reported }
    have grows : w.Grows told :=
      ⟨fun _ member => member, fun _ member => member, fun _ member => List.mem_cons_of_mem _ member, fun _ member => member⟩
    have traced_told : told.Traced :=
      traced.grow grows ⟨traced.rows.turns, traced.rows.oneTurn, traced.rows.handed⟩ rfl rfl rfl
    have answered : (told.update facts.now askId (.reportBack cited answer)).Traced := by
      refine traced_told.edit (fun ask found => ?_) rfl
      have was : told.TracedAsk { ask with answeredWithTool := true, cited := cited } :=
        (traced_told.asks askId ask found).same rfl rfl rfl rfl rfl rfl fun done => ⟨done, rfl⟩
      exact was.finish facts.now (.inl ⟨_, List.mem_cons_self, (owned.named askId ask found).1.symm, rfl⟩)
    exact answered
  | stopping peer asks =>
    have copies : ∀ copy ∈ asks, w.HandedTurn copy.id copy.turnId ∧ w.SentTo copy.id peer := traced.tasks k _ at_
    exact traced.proceed_some k ⟨copies, fun reply latest => (written_of_latest traced.rows (read peer rfl) latest).1⟩
  | stopped peer asks latest =>
    obtain ⟨copies, written⟩ : (∀ copy ∈ asks, w.HandedTurn copy.id copy.turnId ∧ w.SentTo copy.id peer) ∧
      ∀ reply ∈ latest, w.Written peer reply := traced.tasks k _ at_
    refine Traced.proceed_none (traced.foldl_stopped owned facts.now (fun copy member => ?_) copies written) k
    exact .inr ⟨k, _, at_, List.mem_map_of_mem member⟩

/-- The sweep goes on with no more asks than it had. -/
theorem resume_on (traced : w.Traced) {stage : SweepStage} (fewer : ∀ live ∈ stage.pursues, live ∈ w.sweep.pursues)
    (read : w.TracedRead stage) : (w.resume stage).Traced :=
  traced.resume (fun live listed => traced.pursued live (fewer live listed)) read

theorem onward (traced : w.Traced) {now : Nat} {todo : List LiveAsk} (fewer : ∀ live ∈ todo, live ∈ w.sweep.pursues) :
    (w.resume (.looking now todo)).Traced :=
  traced.resume_on fewer trivial

theorem sentTo_of_listed (owned : w.Owned) {ask : Ask} (listed : ask ∈ w.asks.values) (sent : ask.sentAt.isSome = true) :
    w.SentTo ask.id ask.peerThreadId := by
  have here := owned.values_get listed
  refine ⟨(owned.named ask.id ask here).2, fun found there => ?_⟩
  rw [here] at there
  cases there
  exact ⟨sent, rfl⟩

theorem idle (traced : w.Traced) (owned : w.Owned) : (w.runSweep facts .idle).Traced := by
  have looking : (w.resume (.looking facts.now w.liveAsks)).Traced := by
    refine traced.resume (fun live listed => ?_) trivial
    obtain ⟨ask, among, made⟩ := List.mem_filterMap.mp listed
    obtain ⟨sentAt, kept, rfl⟩ := Option.map_eq_some_iff.mp made
    have sent := (Option.filter_eq_some_iff.mp kept).1
    exact sentTo_of_listed owned among (Option.isSome_iff_exists.mpr ⟨sentAt, sent⟩)
  exact looking.same ⟨rfl, rfl, rfl, rfl, rfl⟩ rfl rfl rfl

/-- The turn that an ask was sent in, and the reply that stands in it. -/
theorem reading (traced : w.Traced) (owned : w.Owned) {round : SweepRound} {ask : Ask}
    (found : w.asks.get round.ask.id = some ask) (sent : w.SentTo round.ask.id round.ask.peerThreadId)
    (read : ∀ view ∈ facts.views, { threadId := round.ask.peerThreadId, view := view } ∈ w.rows)
    (terminal : Option TurnOutcome) :
    w.TracedRead (w.afterReading round ask terminal (ask.turnId.bind (agentEntryForTurn facts.views))) ∧
      ∀ live ∈ (w.afterReading round ask terminal (ask.turnId.bind (agentEntryForTurn facts.views))).pursues,
        live ∈ round.ask :: round.todo := by
  obtain ⟨is_sent, to_peer⟩ := sent.2 ask found
  have named := (owned.named round.ask.id ask found).1
  have turn := (traced.asks round.ask.id ask found).turn is_sent
  rw [named] at turn
  have genuine : ∀ reply ∈ ask.turnId.bind (agentEntryForTurn facts.views),
      w.Genuine round.ask.id round.ask.peerThreadId reply := by
    intro reply is
    obtain ⟨turnId, own, entry⟩ := Option.bind_eq_some_iff.mp is
    obtain ⟨written, same⟩ := written_of_turn traced.rows read entry
    refine ⟨written, .inl ?_⟩
    rw [same, ← own]
    exact turn
  unfold afterReading
  rw [Bool.cond_eq_ite]
  split
  · exact ⟨trivial, fun _ listed => listed⟩
  · split
    · exact ⟨genuine, fun _ listed => listed⟩
    · rename_i turnId cold
      have own : ask.turnId = some turnId := by
        rw [Bool.cond_eq_ite] at cold
        split at cold
        · exact cold
        · cases cold
      rw [own] at turn
      simp only [Bool.cond_eq_ite]
      split
      · exact ⟨genuine, fun _ listed => listed⟩
      · split
        · exact ⟨genuine, fun _ listed => listed⟩
        · split
          · exact ⟨genuine, fun _ listed => listed⟩
          · exact ⟨turn, fun _ listed => listed⟩

theorem readCold (traced : w.Traced) {round : SweepRound} {provider turnId : String}
    (at_ : w.sweep = .coldReading round provider turnId)
    (read : ∀ view ∈ facts.views, { threadId := round.ask.peerThreadId, view := view } ∈ w.rows) :
    (w.readCold round provider turnId facts).Traced := by
  have kept : ∀ live ∈ round.ask :: round.todo, live ∈ w.sweep.pursues := fun live listed => at_ ▸ listed
  have turn : w.HandedTurn round.ask.id (some turnId) := by
    have here := traced.sweep
    rw [at_] at here
    exact here
  have genuine : ∀ reply ∈ agentEntryForTurn facts.views turnId,
      w.Genuine round.ask.id round.ask.peerThreadId reply := by
    intro reply entry
    obtain ⟨written, same⟩ := written_of_turn traced.rows read entry
    refine ⟨written, .inl ?_⟩
    rw [same]
    exact turn
  unfold AskWorld.readCold
  split
  · exact traced.resume_on kept fun _ is => by cases is
  · dsimp only
    split
    · exact traced.resume_on kept read
    · have checked {coldChecked : Table String String} : ({ w with coldChecked := coldChecked } : AskWorld).Traced :=
        traced.same ⟨rfl, rfl, rfl, rfl, rfl⟩ rfl rfl rfl
      exact checked.resume_on kept genuine

theorem foldl_deliver (traced : w.Traced) (now : Nat) (ids : List String) :
    (ids.foldl (fun w id => w.update now id .deliver) w).Traced := by
  induction ids generalizing w with
  | nil => exact traced
  | cons id rest ih =>
    refine ih (traced.edit (fun ask found => ?_) rfl)
    exact (traced.asks id ask found).same rfl rfl rfl rfl rfl rfl fun done => ⟨done, rfl⟩

theorem runSweep (traced : w.Traced) (owned : w.Owned) {stage : SweepStage} (at_ : w.sweep = stage)
    (possible : facts.Possible w stage.reads) : (w.runSweep facts stage).Traced := by
  obtain ⟨-, -, fresh_turn, read⟩ := possible
  have told : w.TracedRead stage := at_ ▸ traced.sweep
  have sent {round : SweepRound} (here : stage.pursues = round.ask :: round.todo) :
      w.SentTo round.ask.id round.ask.peerThreadId := by
    refine traced.pursued round.ask ?_
    rw [at_, here]
    exact List.mem_cons_self
  have stays {later : SweepStage} (fewer : ∀ live ∈ later.pursues, live ∈ stage.pursues) (read : w.TracedRead later) :
      (w.resume later).Traced :=
    traced.resume_on (fun live listed => by
      rw [at_]
      exact fewer live listed) read
  have onward {next : AskWorld} (kept : next.Traced) (sweep : next.sweep = w.sweep) {round : SweepRound}
      (here : stage.pursues = round.ask :: round.todo) : (next.resume (.looking round.now round.todo)).Traced :=
    kept.onward fun live listed => by
      rw [sweep, at_, here]
      exact List.mem_cons_of_mem _ listed
  cases stage with
  | idle => exact traced.idle owned
  | looking now todo =>
    cases todo with
    | nil => exact stays (List.forall_mem_nil _) trivial
    | cons ask todo =>
      simp only [AskWorld.runSweep]
      rw [Bool.cond_eq_ite]
      split
      · exact stays (fun _ listed => List.mem_cons_of_mem _ listed) trivial
      · exact stays (fun _ listed => listed) trivial
  | reading round =>
    simp only [AskWorld.runSweep]
    split
    · exact onward traced rfl rfl
    · rename_i ask found
      obtain ⟨known, fewer⟩ := traced.reading owned found (sent rfl) (read _ rfl) (ask.turnId.bind fun _ => facts.terminal)
      exact stays fewer known
  | turnFailed round turnId =>
    refine stays (fun _ listed => listed) fun salvaged is => ?_
    obtain ⟨ask, found, baseline⟩ := Option.bind_eq_some_iff.mp is
    have own := salvageable_of_baseline traced.rows (read _ rfl) (traced.asks _ ask found) ((sent rfl).2 ask found).2 baseline
    rw [(owned.named _ ask found).1] at own
    exact own
  | turnSettling round reason salvaged =>
    have settled := traced.salvage owned facts.now (sent rfl) told reason
    refine onward settled ?_ rfl
    cases salvaged <;> rfl
  | coldReading round provider turnId => exact traced.readCold at_ (read _ rfl)
  | coldFailed round views reason =>
    have settled : (w.salvage facts.now round.ask.id ((w.asks.get round.ask.id).bind (nudgedBaselineAnswer · views))
        reason).Traced := by
      refine traced.salvage owned facts.now (sent rfl) (fun salvaged is => ?_) reason
      obtain ⟨ask, found, baseline⟩ := Option.bind_eq_some_iff.mp is
      have own := salvageable_of_baseline traced.rows told (traced.asks _ ask found) ((sent rfl).2 ask found).2 baseline
      rw [(owned.named _ ask found).1] at own
      exact own
    refine onward settled ?_ rfl
    cases (w.asks.get round.ask.id).bind (nudgedBaselineAnswer · views) <;> rfl
  | judging round provider reply coldQuiet =>
    have latest : ∀ found ∈ reply.or (latestAgentEntryWithTurn facts.views), w.Written round.ask.peerThreadId found := by
      intro found is
      rcases Option.or_eq_some_iff.mp is with own | ⟨-, last⟩
      · exact (told found own).1
      · exact (written_of_latest traced.rows (read _ rfl) last).1
    simp only [AskWorld.runSweep]
    unfold judge
    simp only [Bool.cond_eq_ite]
    split
    · exact stays (fun _ listed => listed) latest
    · split
      · exact onward traced rfl rfl
      · split
        · exact onward traced rfl rfl
        · rename_i found is
          exact stays (fun _ listed => listed) (latest found is)
  | expiring round latest =>
    simp only [AskWorld.runSweep]
    refine onward (traced.salvage owned facts.now (sent rfl) (fun salvaged is => ?_) _) ?_ rfl
    · obtain ⟨reply, kept, rfl⟩ := Option.map_eq_some_iff.mp is
      obtain ⟨last, answers⟩ := Option.filter_eq_some_iff.mp kept
      obtain ⟨ask, found, fits⟩ := (Option.any_eq_true _ _).mp answers
      have turn := (traced.asks _ ask found).turn ((sent rfl).2 ask found).1
      have genuine := genuine_of_answers traced.rows turn (told reply last) fits
      rw [(owned.named _ ask found).1] at genuine
      exact ⟨reply, genuine, rfl⟩
    · cases ((latest.filter fun reply => (w.asks.get round.ask.id).any fun ask =>
        replyAnswersAsk ask reply.itemId reply.turnId).map fun reply => (reply.itemId, reply.text)) <;> rfl
  | matching round provider reply =>
    simp only [AskWorld.runSweep]
    unfold matchReply
    split
    · exact onward traced rfl rfl
    · rename_i ask found
      simp only [Bool.cond_eq_ite]
      split
      · exact onward traced rfl rfl
      · rename_i fits
        have answers : replyAnswersAsk ask reply.itemId reply.turnId = true := by
          cases own : replyAnswersAsk ask reply.itemId reply.turnId with
          | true => rfl
          | false => simp [own] at fits
        have turn := (traced.asks _ ask found).turn ((sent rfl).2 ask found).1
        have genuine := genuine_of_answers traced.rows turn told answers
        rw [(owned.named _ ask found).1] at genuine
        split
        · exact stays (fun _ listed => listed) genuine
        · exact stays (fun _ listed => listed) genuine
  | nudging round reply =>
    simp only [AskWorld.runSweep]
    split
    · rename_i turnId dispatched
      have fresh : ∀ turn ∈ turnId, turn ∉ w.turns := fun turn is => fresh_turn turn (by
        rw [dispatched]
        exact is)
      obtain ⟨handed, turn⟩ := traced.handOver round.ask.id fresh
      have grown : w.Grows (w.handOver round.ask.id turnId) :=
        ⟨fun _ member => member, fun _ member => List.mem_cons_of_mem _ member, fun _ member => member, fun _ member => member⟩
      refine handed.resume_on (fun live listed => ?_) ⟨Genuine.mono grown told, turn⟩
      have here : live ∈ w.sweep.pursues := by
        rw [at_]
        exact listed
      exact here
    · exact stays (fun _ listed => listed) told
  | nudgeLanded round reply turnId =>
    obtain ⟨genuine, turn⟩ := told
    have nudged : (w.update facts.now round.ask.id (.nudged turnId reply.itemId)).Traced := by
      refine traced.edit (fun ask found => ?_) rfl
      have was := traced.asks _ ask found
      obtain ⟨is_sent, to_peer⟩ := (sent rfl).2 ask found
      have named := (owned.named _ ask found).1
      refine ⟨fun unsent => ?_, fun _ => ?_, fun _ => ⟨reply, ?_, rfl⟩, was.answer⟩
      · have still : ask.sentAt = none := unsent
        rw [still] at is_sent
        cases is_sent
      · rw [AskEdit.id_apply, named]
        exact turn
      · rw [AskEdit.id_apply, named, peer_apply facts.now rfl, to_peer]
        exact genuine
    exact onward nudged rfl rfl
  | finishing round reply => exact onward (traced.take owned facts.now (sent rfl) ⟨reply, told, rfl⟩) rfl rfl
  | gathering => exact stays (List.forall_mem_nil _) trivial
  | calling found askers =>
    cases askers with
    | nil => exact stays (List.forall_mem_nil _) trivial
    | cons asker askers =>
      simp only [AskWorld.runSweep]
      rw [Bool.cond_eq_ite]
      split <;> exact stays (List.forall_mem_nil _) trivial
  | composing found asker askers =>
    simp only [AskWorld.runSweep]
    split <;> exact stays (List.forall_mem_nil _) trivial
  | marking found wake askers =>
    simp only [AskWorld.runSweep]
    rw [Bool.cond_eq_ite]
    split
    · exact (traced.foldl_deliver facts.now wake.askIds).resume_on (List.forall_mem_nil _) trivial
    · exact stays (List.forall_mem_nil _) trivial
  | waking found wake askers =>
    have woken : ({ w with wakes := { wake := wake, found := found } :: w.wakes } : AskWorld).Traced :=
      traced.same ⟨rfl, rfl, rfl, rfl, rfl⟩ rfl rfl rfl
    exact woken.resume_on (List.forall_mem_nil _) trivial

theorem stopPeer (traced : w.Traced) (owned : w.Owned) (k : Nat) (peer : String) : (w.stopPeer k peer).Traced := by
  unfold AskWorld.stopPeer
  split
  · exact traced
  · rename_i asks _
    refine traced.proceed_some k fun copy member => ?_
    obtain ⟨among, waits⟩ := List.mem_filter.mp member
    simp only [Bool.and_eq_true, beq_iff_eq] at waits
    obtain ⟨⟨rfl, -⟩, sent⟩ := waits
    exact ⟨(traced.asks _ copy (owned.values_get among)).turn sent, sentTo_of_listed owned among sent⟩

theorem reportBack (traced : w.Traced) (k : Nat) (peer answer : String) (cited : List String) :
    (w.reportBack k peer answer cited).Traced := by
  unfold AskWorld.reportBack
  simp only [Bool.cond_eq_ite]
  split
  · exact traced
  · split
    · exact traced
    · exact traced.proceed_some k trivial

theorem decideModelRequest (traced : w.Traced) (id decision : String) (model scopeDevice : Option String) :
    (w.decideModelRequest k id decision model scopeDevice facts).1.Traced := by
  have decided (decision : ModelDecision) (chosen : Option String) :
      (w.update facts.now id (.decide decision chosen)).Traced :=
    traced.edit (fun ask found => (traced.asks id ask found).decide facts.now decision chosen) rfl
  rcases @decide_cases w k facts id decision model scopeDevice with same | ⟨_, ruled, chosen, -, -, -, -, same⟩
  · rw [same]
    exact traced
  · rw [same]
    cases chosen with
    | none => exact decided ruled none
    | some retry => exact (decided ruled retry.model).proceed_some k trivial

/-- A row that is written names its turn, under a name that no other turn of its thread has. -/
theorem rowWritten (traced : w.Traced) {row : AgentRow} (sound : row.sound w.rows w.turns = true) :
    ({ w with rows := row :: w.rows } : AskWorld).Traced := by
  have of_agent (kind : row.view.kind = .agentText) : (∃ turn ∈ w.turns, row.view.turnId = some turn) ∧
      row.view.knownAs.isSome = true ∧ ∀ other ∈ w.rows, other.view.kind = .agentText → other.threadId = row.threadId →
        ∀ name, row.view.bears name = true → other.view.bears name = true → other.view.turnId = row.view.turnId := by
    simp only [AgentRow.sound, kind, Bool.or_eq_true, Bool.and_eq_true, bne_self_eq_false, Bool.false_eq_true, false_or,
      List.all_eq_true, Option.any_eq_true] at sound
    obtain ⟨⟨⟨turn, is, started⟩, known⟩, others⟩ := sound
    refine ⟨⟨turn, List.contains_iff_mem.mp started, is⟩, known, fun other member also thread name bears beside => ?_⟩
    have fits := others other member
    simp only [thread, also, bne_self_eq_false, Bool.false_eq_true, false_or, beq_iff_eq] at fits
    rcases fits with same | apart
    · exact same
    · have own : row.view.rowId = some name ∨ row.view.itemId = some name := by
        simpa [EntryView.bears] using bears
      rcases own with own | own
      · have apart_row := apart row.view.rowId List.mem_cons_self
        simp [own, beside] at apart_row
      · have apart_item := apart row.view.itemId (List.mem_cons_of_mem _ List.mem_cons_self)
        simp [own, beside] at apart_item
  have grows : w.Grows { w with rows := row :: w.rows } :=
    ⟨fun _ member => List.mem_cons_of_mem _ member, fun _ member => member, fun _ member => member, fun _ member => member⟩
  refine traced.grow grows ⟨fun other member kind => ?_, fun one first other second => ?_, traced.rows.handed⟩ rfl rfl rfl
  · rcases List.mem_cons.mp member with rfl | before
    · exact ⟨(of_agent kind).1, (of_agent kind).2.1⟩
    · exact traced.rows.turns other before kind
  · intro kind also thread name bears beside
    rcases List.mem_cons.mp first with rfl | before
    · rcases List.mem_cons.mp second with rfl | earlier
      · rfl
      · exact (of_agent kind).2.2 other earlier also thread name bears beside
    · rcases List.mem_cons.mp second with rfl | earlier
      · exact ((of_agent also).2.2 one before kind thread.symm name beside bears).symm
      · exact traced.rows.oneTurn one before other earlier kind also thread name bears beside

theorem turnStarts (traced : w.Traced) (turnId : String) : ({ w with turns := turnId :: w.turns } : AskWorld).Traced := by
  have grows : w.Grows { w with turns := turnId :: w.turns } :=
    ⟨fun _ member => member, fun _ member => member, fun _ member => member, fun _ member => member⟩
  refine traced.grow grows ⟨fun row member kind => ?_, traced.rows.oneTurn, fun handed member turn is => ?_⟩ rfl rfl rfl
  · obtain ⟨⟨turn, started, is⟩, known⟩ := traced.rows.turns row member kind
    exact ⟨⟨turn, List.mem_cons_of_mem _ started, is⟩, known⟩
  · obtain ⟨started, apart⟩ := traced.rows.handed handed member turn is
    exact ⟨List.mem_cons_of_mem _ started, apart⟩

theorem step (traced : w.Traced) (owned : w.Owned) {move : AskMove} (may : move.May w) : (move.run w).Traced := by
  cases move with
  | delegate k asker request detached =>
    simp only [AskMove.run, AskWorld.delegate]
    rw [Bool.cond_eq_ite]
    split <;> exact traced.proceed_some k trivial
  | decide k id decision model scopeDevice facts => exact traced.decideModelRequest id decision model scopeDevice
  | task k facts =>
    simp only [AskMove.run]
    split
    · rename_i stage at_
      refine traced.runTask owned at_ ?_
      have possible : facts.Possible w ((w.tasks.get k).bind AskTask.reads) := may
      rw [at_] at possible
      exact possible
    · exact traced
  | reportBack k peer answer cited => exact traced.reportBack k peer answer cited
  | stopPeer k peer => exact traced.stopPeer owned k peer
  | sweep facts => exact traced.runSweep owned rfl may
  | turnStarts turnId => exact traced.turnStarts turnId
  | rowWritten row => exact traced.rowWritten may

end Traced

theorem start_traced : start.Traced where
  rows := ⟨nofun, nofun, nofun⟩
  asks id ask found := by
    rw [start, Table.get_empty] at found
    cases found
  tasks k task found := by
    rw [start, Table.get_empty] at found
    cases found
  pursued := nofun
  sweep := trivial

end AskWorld

theorem AskReached.traced {w : AskWorld} (reached : AskReached w) : w.Traced := by
  have both := reached.invariant (P := fun w => w.Owned ∧ w.Traced) ⟨AskWorld.start_owned, AskWorld.start_traced⟩
    fun _ _ holds may => ⟨holds.1.step may, holds.2.step holds.1 may⟩
  exact both.2

end Sealwire.Asks

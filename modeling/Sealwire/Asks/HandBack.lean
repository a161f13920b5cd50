import Sealwire.Asks.Settled

namespace Sealwire.Asks

namespace AskWorld

/-- A call writes to the asks, the turns, the rows and the logs of the calls. What depends on none of these it leaves. -/
theorem runTask_frame {β : Type} (F : AskWorld → β) (proceed : ∀ w k task, F (w.proceed k task) = F w)
    (update : ∀ w now id edit, F (w.update now id edit) = F w) (insert : ∀ w ask, F (w.insert ask) = F w)
    (take : ∀ w now id itemId text, F (w.take now id itemId text) = F w)
    (handOver : ∀ w id turnId, F (w.handOver id turnId) = F w)
    (brought : ∀ (w : AskWorld) brought, F { w with brought := brought } = F w)
    (reported : ∀ (w : AskWorld) reported, F { w with reported := reported } = F w)
    (w : AskWorld) (k : Nat) (facts : AskFacts) (stage : AskTask) : F (w.runTask k facts stage) = F w := by
  have stopped (now : Nat) (latest : Option Reply) (asks : List Ask) (w : AskWorld) :
      F (asks.foldl (fun w ask => w.endStopped now latest ask) w) = F w := by
    induction asks generalizing w with
    | nil => rfl
    | cons ask rest ih =>
      rw [List.foldl_cons, ih]
      unfold endStopped
      split
      · exact take _ _ _ _ _
      · exact update _ _ _ _
  cases stage with
  | prechecking asker request | filling asker request existing chooser =>
    simp only [runTask]
    split <;> exact proceed _ _ _
  | accepting checked request =>
    simp only [runTask]
    rw [proceed, insert]
  | choosing checked request existing chooser =>
    simp only [runTask]
    split <;> exact proceed _ _ _
  | holding held provider request =>
    simp only [runTask]
    split
    · rw [proceed, update]
    · rw [proceed, insert]
  | ensuring held provider model =>
    simp only [runTask, Bool.cond_eq_ite]
    split <;> exact proceed _ _ _
  | bringing held provider model =>
    simp only [runTask]
    split
    · exact proceed _ _ _
    · rw [proceed, brought]
  | reading held peer | stopping peer asks =>
    simp only [runTask]
    exact proceed _ _ _
  | recording held peer baseline =>
    simp only [runTask, Bool.cond_eq_ite]
    split
    · exact proceed _ _ _
    · split
      · rw [proceed, update]
      · rw [proceed, insert]
  | sending existing askId peer =>
    simp only [runTask]
    split
    · rw [proceed, handOver]
    · exact proceed _ _ _
  | landing askId turnId | unsent existing askId reason | failing askId reason =>
    simp only [runTask]
    rw [proceed, update]
  | committing askId peer answer cited =>
    simp only [runTask]
    rw [proceed, reported, update]
  | stopped peer asks latest =>
    simp only [runTask]
    rw [proceed, stopped]

/-- So does every move but the sweep's own, and the starts of turns and rows elsewhere. -/
theorem run_frame {β : Type} (F : AskWorld → β) (proceed : ∀ w k task, F (w.proceed k task) = F w)
    (update : ∀ w now id edit, F (w.update now id edit) = F w) (insert : ∀ w ask, F (w.insert ask) = F w)
    (take : ∀ w now id itemId text, F (w.take now id itemId text) = F w)
    (handOver : ∀ w id turnId, F (w.handOver id turnId) = F w)
    (brought : ∀ (w : AskWorld) brought, F { w with brought := brought } = F w)
    (reported : ∀ (w : AskWorld) reported, F { w with reported := reported } = F w)
    (turns : ∀ (w : AskWorld) turns, F { w with turns := turns } = F w)
    (rows : ∀ (w : AskWorld) rows, F { w with rows := rows } = F w)
    (w : AskWorld) (move : AskMove) (calls : ∀ facts, move ≠ .sweep facts) : F (move.run w) = F w := by
  cases move with
  | delegate k asker request detached =>
    simp only [AskMove.run, delegate]
    exact proceed _ _ _
  | decide k id decision model scopeDevice facts =>
    simp only [AskMove.run]
    rcases @decide_cases w k facts id decision model scopeDevice with
      same | ⟨ask, decided, chosen, found, awaiting, ran, models, same⟩
    · rw [same]
    · rw [same]
      cases chosen with
      | none => exact update _ _ _ _
      | some retry => exact (proceed _ _ _).trans (update _ _ _ _)
  | task k facts =>
    simp only [AskMove.run]
    split
    · exact runTask_frame F proceed update insert take handOver brought reported w k facts _
    · rfl
  | reportBack k peer answer cited =>
    simp only [AskMove.run, reportBack, Bool.cond_eq_ite]
    split
    · rfl
    · split
      · rfl
      · exact proceed _ _ _
  | stopPeer k peer =>
    simp only [AskMove.run, stopPeer]
    split
    · rfl
    · exact proceed _ _ _
  | sweep facts => exact absurd rfl (calls facts)
  | turnStarts turnId => exact turns _ _
  | rowWritten row => exact rows _ _

theorem sweep_run (w : AskWorld) (move : AskMove) (calls : ∀ facts, move ≠ .sweep facts) :
    (move.run w).sweep = w.sweep ∧ (move.run w).wakes = w.wakes := by
  have same := run_frame (fun w => (w.sweep, w.wakes)) (fun w k task => by rw [sweep_proceed, wakes_proceed])
    (fun _ _ _ _ => rfl) (fun _ _ => rfl) (fun _ _ _ _ _ => rfl) (fun _ _ _ => rfl) (fun _ _ => rfl) (fun _ _ => rfl)
    (fun _ _ => rfl) (fun _ _ => rfl) w move calls
  exact Prod.mk.inj same

end AskWorld

namespace AskEdit

variable (now : Nat) (ask : Ask)

theorem delivered_apply {edit : AskEdit} (other : edit ≠ .deliver) : (edit.apply now ask).delivered = ask.delivered := by
  cases edit with
  | finish answer | reportBack cited answer | fail error =>
    simp only [apply, Ask.finish, Ask.fail, Ask.setStatus]
    cases ask.status.isTerminal <;> rfl
  | decide decision chosen =>
    simp only [apply, Ask.setStatus]
    cases chosen.isNone <;> cases ask.status.isTerminal <;> rfl
  | deliver => exact absurd rfl other
  | _ => rfl

theorem deliver_given (edit : AskEdit) (given : ask.delivered = true) : (edit.apply now ask).delivered = true := by
  by_cases marks : edit = .deliver
  · subst marks
    rfl
  · rw [delivered_apply now ask marks]
    exact given

theorem terminal_apply (edit : AskEdit) (past : ask.status.isTerminal = true) :
    (edit.apply now ask).status.isTerminal = true := by
  cases edit with
  | finish answer | reportBack cited answer | fail error =>
    simp only [apply, Ask.finish, Ask.fail, Ask.setStatus, past, cond_true]
  | decide decision chosen =>
    simp only [apply, Ask.setStatus]
    cases chosen.isNone <;> simp [past]
  | _ => exact past

end AskEdit

/-- The answers that are marked as handed back, and not yet sent. -/
def SweepStage.onItsWay : SweepStage → List String
  | waking _ wake _ => wake.askIds
  | _ => []

/-- The stages at which the sweep settles asks. -/
def SweepStage.settling : SweepStage → Bool
  | gathering | calling _ _ | composing _ _ _ | marking _ _ _ | waking _ _ _ => false
  | _ => true

namespace WakeBatch

/-- What a wake carries was settled, and is its asker's own. -/
structure Sound (wake : WakeBatch) : Prop where
  asker : ∀ ask ∈ wake.mine, ask.askerThreadId = wake.asker
  settled : ∀ ask ∈ wake.mine, ask.status.isTerminal = true

end WakeBatch

namespace AskWorld

/-- The asks that were handed back, or are on their way. -/
def handedBack (w : AskWorld) : List String :=
  w.sweep.onItsWay ++ w.wakes.flatMap (·.wake.askIds)

/-- An answer that is still owed to its asker. -/
def Owes (w : AskWorld) (id : String) : Prop :=
  ∃ ask, w.asks.get id = some ask ∧ ask.status.isTerminal = true ∧ ask.delivered = false

/-- Where the sweep stands with the wakes it is about. -/
def WakesWell (w : AskWorld) : SweepStage → Prop
  | .calling found askers => ∀ asker ∈ askers, asker ∈ askersReadyToWake found
  | .composing found asker askers => ∀ other ∈ asker :: askers, other ∈ askersReadyToWake found
  | .marking found wake askers => (∀ other ∈ wake.asker :: askers, other ∈ askersReadyToWake found) ∧ wake.Sound ∧
      wake.askIds.Nodup ∧ ∀ id ∈ wake.askIds, w.Owes id
  | .waking found wake askers => (∀ other ∈ wake.asker :: askers, other ∈ askersReadyToWake found) ∧ wake.Sound
  | _ => True

/-- Every answer is handed back once, after it was settled. -/
structure HandsBack (w : AskWorld) : Prop where
  once : w.handedBack.Nodup
  given : ∀ id ∈ w.handedBack, id ∈ w.issued ∧ ∀ ask, w.asks.get id = some ask → ask.delivered = true
  marked : ∀ id ask, w.asks.get id = some ask → ask.delivered = true → id ∈ w.handedBack
  sent : ∀ sent ∈ w.wakes, sent.wake.Sound ∧ sent.wake.asker ∈ askersReadyToWake sent.found
  stage : w.WakesWell w.sweep

theorem start_handsBack : start.HandsBack where
  once := List.nodup_nil
  given id member := absurd member List.not_mem_nil
  marked id ask found := by
    rw [start, Table.get_empty] at found
    cases found
  sent sent member := absurd member List.not_mem_nil
  stage := trivial

variable {w next : AskWorld} {move : AskMove}

section Rows

variable (owned : w.Owned) (may : move.May w) {writes : List Write} (wrote : Wrote w move next writes)
include may wrote

theorem given_kept {id : String} (issued : id ∈ w.issued)
    (given : ∀ ask, w.asks.get id = some ask → ask.delivered = true) {after : Ask}
    (still : next.asks.get id = some after) : after.delivered = true := by
  have kept := wrote.row id (P := fun row => ∀ here, row = some here → here.delivered = true) given
    (fun _ _ _ _ here is => by cases is) (fun new inserted named => ?_) fun here now edit _ holds later is => ?_
  · exact kept after still
  · have fresh := fresh_of_insert may inserted
    rw [named] at fresh
    exact absurd issued fresh
  · cases is
    exact AskEdit.deliver_given now here edit (holds here rfl)

include owned in
theorem owes_kept {id : String} (owes : w.Owes id)
    (quiet : ∀ now, ¬ Writes w move (.edit now id .deliver)) : next.Owes id := by
  obtain ⟨ask, found, past, undelivered⟩ := owes
  have issued := (owned.named id ask found).2
  have kept := wrote.row id (P := fun row => ∃ here, row = some here ∧ here.status.isTerminal = true ∧
    here.delivered = false) ⟨ask, found, past, undelivered⟩ ?_ ?_ ?_
  · obtain ⟨here, still, settled⟩ := kept
    exact ⟨here, still, settled⟩
  · rintro pruned _ given ⟨here, is, _, not_given⟩
    cases is
    rw [given] at not_given
    cases not_given
  · intro new inserted named
    have fresh := fresh_of_insert may inserted
    rw [named] at fresh
    exact absurd issued fresh
  · rintro here now edit granted ⟨same, is, settled, not_given⟩
    cases is
    have other : edit ≠ .deliver := fun is => quiet now (is ▸ granted)
    refine ⟨_, rfl, AskEdit.terminal_apply now here edit settled, ?_⟩
    rw [AskEdit.delivered_apply now here other]
    exact not_given

/-- What was not marked in this move was marked before it. -/
theorem marked_before {id : String} {after : Ask} (still : next.asks.get id = some after)
    (given : after.delivered = true) (quiet : ∀ now, ¬ Writes w move (.edit now id .deliver)) :
    ∃ ask, w.asks.get id = some ask ∧ ask.delivered = true := by
  have kept := wrote.row id (P := fun row => ∀ here, row = some here → here.delivered = true →
    ∃ ask, w.asks.get id = some ask ∧ ask.delivered = true) (fun here found given => ⟨here, found, given⟩)
    (fun _ _ _ _ here is => by cases is) (fun new inserted _ here is given => ?_)
    fun here now edit granted holds later is given => ?_
  · exact kept after still given
  · cases is
    cases inserted <;> cases given
  · cases is
    have other : edit ≠ .deliver := fun is => quiet now (is ▸ granted)
    rw [AskEdit.delivered_apply now here other] at given
    exact holds here rfl given

end Rows

theorem not_delivers (calm : ∀ facts found wake askers, move = .sweep facts → w.sweep ≠ .marking found wake askers)
    (id : String) (now : Nat) : ¬Writes w move (.edit now id .deliver) := by
  intro writes
  cases writes with
  | deliver stage mine => exact calm _ _ _ _ rfl stage

theorem WakesWell.kept {stage : SweepStage} (well : w.WakesWell stage) (owes : ∀ id, w.Owes id → next.Owes id) :
    next.WakesWell stage := by
  cases stage with
  | marking found wake askers =>
    obtain ⟨ready, sound, distinct, owed⟩ := well
    exact ⟨ready, sound, distinct, fun id mine => owes id (owed id mine)⟩
  | _ => exact well

namespace HandsBack

/-- A move that marks nothing, and leaves what was handed back. -/
theorem onward (back : w.HandsBack) (may : move.May w) {writes : List Write}
    (wrote : Wrote w move next writes) (quiet : ∀ id now, ¬Writes w move (.edit now id .deliver))
    (same : next.handedBack = w.handedBack)
    (sent : ∀ sent ∈ next.wakes, sent.wake.Sound ∧ sent.wake.asker ∈ askersReadyToWake sent.found)
    (stage : next.WakesWell next.sweep) : next.HandsBack := by
  refine ⟨same ▸ back.once, fun id member => ?_, fun id ask still given => ?_, sent, stage⟩
  · rw [same] at member
    obtain ⟨issued, given⟩ := back.given id member
    refine ⟨?_, fun ask still => given_kept may wrote issued given still⟩
    rw [wrote.issued]
    exact List.mem_append_right _ issued
  · rw [same]
    obtain ⟨before, found, was⟩ := marked_before may wrote still given (quiet id)
    exact back.marked id before found was

end HandsBack

/-- While the sweep settles asks it hands nothing back. -/
theorem settling_runSweep (facts : AskFacts) {stage : SweepStage} (settles : stage.settling = true) :
    (w.runSweep facts stage).wakes = w.wakes ∧
      ((w.runSweep facts stage).sweep.settling = true ∨ (w.runSweep facts stage).sweep = .gathering) := by
  have salvaged (now : Nat) (id : String) (found : Option (String × String)) (reason : String) :
      (w.salvage now id found reason).wakes = w.wakes := by
    cases found <;> rfl
  cases stage with
  | looking now todo =>
    cases todo with
    | nil => exact ⟨rfl, .inr rfl⟩
    | cons ask todo =>
      simp only [runSweep, Bool.cond_eq_ite]
      split <;> exact ⟨rfl, .inl rfl⟩
  | reading round =>
    simp only [runSweep]
    split
    · exact ⟨rfl, .inl rfl⟩
    · refine ⟨rfl, .inl ?_⟩
      simp only [resume, afterReading, Bool.cond_eq_ite]
      split
      · rfl
      · split
        · rfl
        · split
          · rfl
          · split
            · rfl
            · split <;> rfl
  | turnSettling round reason found => exact ⟨salvaged _ _ _ _, .inl rfl⟩
  | coldReading round provider turnId =>
    simp only [runSweep, readCold]
    split
    · exact ⟨rfl, .inl rfl⟩
    · split <;> exact ⟨rfl, .inl rfl⟩
  | coldFailed round views reason => exact ⟨salvaged _ _ _ _, .inl rfl⟩
  | judging round provider reply coldQuiet =>
    refine ⟨rfl, .inl ?_⟩
    simp only [runSweep, resume, judge, Bool.cond_eq_ite]
    split
    · rfl
    · split
      · rfl
      · split <;> rfl
  | expiring round latest => exact ⟨salvaged _ _ _ _, .inl rfl⟩
  | matching round provider reply =>
    refine ⟨rfl, .inl ?_⟩
    simp only [runSweep, resume, matchReply, Bool.cond_eq_ite]
    split
    · rfl
    · split
      · rfl
      · split <;> rfl
  | nudging round reply =>
    simp only [runSweep]
    split <;> exact ⟨rfl, .inl rfl⟩
  | idle | turnFailed _ _ | nudgeLanded _ _ _ | finishing _ _ => exact ⟨rfl, .inl rfl⟩
  | gathering => cases settles
  | calling found askers => cases settles
  | composing found asker askers => cases settles
  | marking found wake askers => cases settles
  | waking found wake askers => cases settles

theorem quiet_stage {stage : SweepStage} (calm : stage.settling = true ∨ stage = .gathering) :
    stage.onItsWay = [] ∧ w.WakesWell stage := by
  rcases calm with settles | rfl
  · cases stage with
    | calling found askers => cases settles
    | composing found asker askers => cases settles
    | marking found wake askers => cases settles
    | waking found wake askers => cases settles
    | _ => exact ⟨rfl, trivial⟩
  · exact ⟨rfl, trivial⟩

theorem get_foldl_deliver (w : AskWorld) (now : Nat) (ids : List String) (id : String) :
    (ids.foldl (fun w id => w.update now id .deliver) w).asks.get id =
      if id ∈ ids then (w.asks.get id).map fun ask => { ask with delivered := true } else w.asks.get id := by
  induction ids generalizing w with
  | nil => rfl
  | cons first rest ih =>
    rw [List.foldl_cons, ih]
    have marked : (w.update now first .deliver).asks.get id =
        if id = first then (w.asks.get first).map (AskEdit.deliver.apply now) else w.asks.get id :=
      AskTable.get_updateAsk w.asks now first id .deliver
    by_cases here : id = first
    · subst here
      rw [marked, if_pos rfl, if_pos List.mem_cons_self]
      cases w.asks.get id <;> split <;> rfl
    · rw [marked, if_neg here]
      have same : id ∈ first :: rest ↔ id ∈ rest := by simp [here]
      simp only [same]

theorem Owned.values_nodup (owned : w.Owned) : (w.asks.values.map (·.id)).Nodup := by
  have keys : w.asks.values.map (·.id) = w.asks.entries.map Sigma.fst := by
    unfold AskTable.values Table.pairs
    rw [List.map_map, List.map_map]
    refine List.map_congr_left fun entry member => ?_
    have found : w.asks.get entry.1 = some entry.2 := Table.get_eq_some_iff.mpr member
    exact (owned.named entry.1 entry.2 found).1
  rw [keys]
  exact w.asks.nodupKeys

/-- What the sweep gathers for one asker. -/
theorem Owned.gathers (owned : w.Owned) {asker : String} {mine : List Ask} (gathered :
    (((w.asks.asksOfAsker asker).filter Ask.owedToAsker).mergeSort fun a b => decide (a.askedAt ≤ b.askedAt)) = mine) :
    WakeBatch.Sound { asker := asker, mine := mine } ∧ (mine.map (·.id)).Nodup ∧
      ∀ id ∈ mine.map (·.id), w.Owes id := by
  have sorted : mine.Perm ((w.asks.asksOfAsker asker).filter Ask.owedToAsker) := gathered ▸ List.mergeSort_perm _ _
  have listed (ask : Ask) (member : ask ∈ mine) :
      ask ∈ w.asks.values ∧ ask.askerThreadId = asker ∧ ask.status.isTerminal = true ∧ ask.delivered = false := by
    obtain ⟨among, owed⟩ := List.mem_filter.mp (sorted.mem_iff.mp member)
    obtain ⟨present, asked⟩ := List.mem_filter.mp among
    simp only [Ask.owedToAsker, Bool.and_eq_true, Bool.not_eq_true'] at owed
    exact ⟨present, beq_iff_eq.mp asked, owed⟩
  refine ⟨⟨fun ask among => (listed ask among).2.1, fun ask among => (listed ask among).2.2.1⟩, ?_, fun id among => ?_⟩
  · have sub : (mine.map (·.id)).Perm (((w.asks.asksOfAsker asker).filter Ask.owedToAsker).map (·.id)) := sorted.map _
    refine sub.nodup_iff.mpr (owned.values_nodup.sublist (List.Sublist.map _ ?_))
    exact List.filter_sublist.trans List.filter_sublist
  · obtain ⟨ask, member, rfl⟩ := List.mem_map.mp among
    obtain ⟨present, _, settled⟩ := listed ask member
    exact ⟨ask, owned.values_get present, settled⟩

namespace HandsBack

/-- The answers of a wake are marked just before it is sent. -/
theorem marking (back : w.HandsBack) (owned : w.Owned) {facts : AskFacts}
    {found : List Ask} {wake : WakeBatch} {askers : List String} (at_ : w.sweep = .marking found wake askers) :
    ((wake.askIds.foldl (fun w id => w.update facts.now id .deliver) w).resume (.waking found wake askers)).HandsBack := by
  obtain ⟨ready, sound, distinct, owed⟩ : w.WakesWell (.marking found wake askers) := at_ ▸ back.stage
  have was : w.handedBack = w.wakes.flatMap (·.wake.askIds) := by
    unfold handedBack
    rw [at_]
    rfl
  have wakes : (wake.askIds.foldl (fun w id => w.update facts.now id .deliver) w).wakes = w.wakes := by
    generalize wake.askIds = ids
    clear was at_ owned back owed distinct sound ready
    induction ids generalizing w with
    | nil => rfl
    | cons id rest ih => rw [List.foldl_cons, ih, update]
  have now : ((wake.askIds.foldl (fun w id => w.update facts.now id .deliver) w).resume
      (.waking found wake askers)).handedBack = wake.askIds ++ w.handedBack := by
    unfold handedBack
    rw [at_]
    exact congrArg (fun wakes : List SentWake => wake.askIds ++ wakes.flatMap (·.wake.askIds)) wakes
  have rows (id : String) := get_foldl_deliver w facts.now wake.askIds id
  have issued : (wake.askIds.foldl (fun w id => w.update facts.now id .deliver) w).issued = w.issued := by
    generalize wake.askIds = ids
    clear rows now wakes was at_ owned back owed distinct sound ready
    induction ids generalizing w with
    | nil => rfl
    | cons id rest ih => rw [List.foldl_cons, ih, update]
  refine ⟨?_, fun id member => ?_, fun id ask still given => ?_, ?_, ?_⟩
  · rw [now]
    refine List.nodup_append.mpr ⟨distinct, back.once, fun id mine other before same => ?_⟩
    subst same
    obtain ⟨ask, there, _, undelivered⟩ := owed id mine
    rw [(back.given id before).2 ask there] at undelivered
    cases undelivered
  · rw [now] at member
    have known : id ∈ w.issued := by
      rcases List.mem_append.mp member with mine | before
      · obtain ⟨ask, there, _⟩ := owed id mine
        exact (owned.named id ask there).2
      · exact (back.given id before).1
    refine ⟨by rw [resume, issued]; exact known, fun ask still => ?_⟩
    have here : (wake.askIds.foldl (fun w id => w.update facts.now id .deliver) w).asks.get id = some ask := still
    rw [rows id] at here
    split at here
    · obtain ⟨before, _, rfl⟩ := Option.map_eq_some_iff.mp here
      rfl
    · rename_i other
      rcases List.mem_append.mp member with mine | before
      · exact absurd mine other
      · exact (back.given id before).2 ask here
  · rw [now]
    have here : (wake.askIds.foldl (fun w id => w.update facts.now id .deliver) w).asks.get id = some ask := still
    rw [rows id] at here
    split at here
    · rename_i mine
      exact List.mem_append_left _ mine
    · exact List.mem_append_right _ (back.marked id ask here given)
  · intro sent member
    have before : sent ∈ w.wakes := by
      rw [← wakes]
      exact member
    exact back.sent sent before
  · exact ⟨ready, sound⟩

/-- The sweep goes on to another stage, and nothing else changes. -/
theorem resume (back : w.HandsBack) {stage : SweepStage} (same : stage.onItsWay = w.sweep.onItsWay)
    (well : w.WakesWell stage) : (w.resume stage).HandsBack := by
  have kept : (w.resume stage).handedBack = w.handedBack := by
    unfold handedBack
    exact congrArg (· ++ w.wakes.flatMap (·.wake.askIds)) same
  refine ⟨kept ▸ back.once, fun id member => ?_, fun id ask found given => ?_, back.sent, well⟩
  · rw [kept] at member
    exact back.given id member
  · rw [kept]
    exact back.marked id ask found given

theorem runSweep (back : w.HandsBack) (owned : w.Owned) {facts : AskFacts} (may : AskMove.May w (.sweep facts)) :
    (w.runSweep facts w.sweep).HandsBack := by
  by_cases settles : w.sweep.settling = true
  · obtain ⟨writes, wrote⟩ := AskMove.wrote w (.sweep facts)
    obtain ⟨wakes, stage⟩ := w.settling_runSweep facts settles
    have before := quiet_stage (w := w) (.inl settles)
    have after := quiet_stage (w := w.runSweep facts w.sweep) stage
    have quiet : ∀ id now, ¬Writes w (.sweep facts) (.edit now id .deliver) := by
      refine not_delivers fun _ found wake askers _ at_ => ?_
      rw [at_] at settles
      cases settles
    refine back.onward may wrote quiet ?_ (fun sent member => back.sent sent ?_) after.2
    · unfold handedBack
      exact (congrArg₂ (fun stage wakes => stage ++ wakes.flatMap fun sent : SentWake => sent.wake.askIds)
        after.1 wakes).trans (congrArg (· ++ w.wakes.flatMap (·.wake.askIds)) before.1.symm)
    · have same : (AskMove.run w (.sweep facts)).wakes = w.wakes := wakes
      rw [← same]
      exact member
  · have stage := back.stage
    cases at_ : w.sweep with
    | gathering =>
      simp only [AskWorld.runSweep]
      exact back.resume (by rw [at_]; rfl) fun _ listed => listed
    | calling found askers =>
      rw [at_] at stage
      cases askers with
      | nil => exact back.resume (by rw [at_]; rfl) trivial
      | cons asker askers =>
        simp only [AskWorld.runSweep, Bool.cond_eq_ite]
        split
        · exact back.resume (by rw [at_]; rfl) fun other listed => stage other (List.mem_cons_of_mem _ listed)
        · exact back.resume (by rw [at_]; rfl) stage
    | composing found asker askers =>
      rw [at_] at stage
      simp only [AskWorld.runSweep]
      split
      · exact back.resume (by rw [at_]; rfl) fun other listed => stage other (List.mem_cons_of_mem _ listed)
      · obtain ⟨sound, distinct, owes⟩ := @Owned.gathers w owned asker _ rfl
        exact back.resume (by rw [at_]; rfl) ⟨stage, sound, distinct, owes⟩
    | marking found wake askers =>
      rw [at_] at stage
      simp only [AskWorld.runSweep, Bool.cond_eq_ite]
      split
      · exact back.marking owned at_
      · exact back.resume (by rw [at_]; rfl) fun other listed => stage.1 other (List.mem_cons_of_mem _ listed)
    | waking found wake askers =>
      rw [at_] at stage
      obtain ⟨ready, sound⟩ := stage
      have same : ({ w with wakes := { wake := wake, found := found } :: w.wakes }.resume
          (.calling found askers)).handedBack = w.handedBack := by
        unfold handedBack
        rw [at_]
        rfl
      simp only [AskWorld.runSweep]
      refine ⟨same ▸ back.once, fun id member => ?_, fun id ask there given => ?_, fun sent member => ?_,
        fun other listed => ready other (List.mem_cons_of_mem _ listed)⟩
      · rw [same] at member
        exact back.given id member
      · rw [same]
        exact back.marked id ask there given
      · rcases List.mem_cons.mp member with rfl | before
        · exact ⟨sound, ready wake.asker List.mem_cons_self⟩
        · exact back.sent sent before
    | _ =>
      rw [at_] at settles
      exact absurd rfl settles

theorem step (back : w.HandsBack) (owned : w.Owned) (may : move.May w) : (move.run w).HandsBack := by
  by_cases sweeps : ∃ facts, move = .sweep facts
  · obtain ⟨facts, rfl⟩ := sweeps
    exact back.runSweep owned may
  · have calls : ∀ facts, move ≠ .sweep facts := fun facts is => sweeps ⟨facts, is⟩
    obtain ⟨writes, wrote⟩ := AskMove.wrote w move
    obtain ⟨sweep, wakes⟩ := sweep_run w move calls
    have quiet : ∀ id now, ¬Writes w move (.edit now id .deliver) :=
      not_delivers fun facts _ _ _ is => absurd is (calls facts)
    refine back.onward may wrote quiet ?_ ?_ ?_
    · unfold handedBack
      rw [sweep, wakes]
    · rw [wakes]
      exact back.sent
    · rw [sweep]
      exact back.stage.kept fun id owes => owes_kept owned may wrote owes (quiet id)

end HandsBack

end AskWorld

theorem AskReached.handsBack {w : AskWorld} (reached : AskReached w) : w.HandsBack := by
  have along := reached.invariant (P := fun w => w.Owned ∧ w.HandsBack)
    ⟨AskWorld.start_owned, AskWorld.start_handsBack⟩ fun w move sound may =>
      ⟨sound.1.step may, sound.2.step sound.1 may⟩
  exact along.2

theorem mem_askersReadyToWake {asks : List Ask} {asker : String} (ready : asker ∈ askersReadyToWake asks) :
    ∀ ask ∈ asks, ask.askerThreadId = asker → ask.status.isTerminal = true := by
  let blocked := (asks.filter fun ask => !ask.status.isTerminal).map (·.askerThreadId)
  have unblocked : ∀ (rest : List Ask) (found : List String), (∀ other ∈ found, other ∉ blocked) →
      ∀ other ∈ rest.foldl (fun ready ask => bif ask.owedToAsker && !blocked.contains ask.askerThreadId &&
        !ready.contains ask.askerThreadId then ready ++ [ask.askerThreadId] else ready) found, other ∉ blocked := by
    intro rest
    induction rest with
    | nil => exact fun _ free => free
    | cons ask rest ih =>
      intro found free
      refine ih _ fun other listed => ?_
      cases adds : ask.owedToAsker && !blocked.contains ask.askerThreadId && !found.contains ask.askerThreadId with
      | false =>
        simp only [adds, cond_false] at listed
        exact free other listed
      | true =>
        simp only [adds, cond_true] at listed
        rcases List.mem_append.mp listed with before | new
        · exact free other before
        · simp only [Bool.and_eq_true, Bool.not_eq_true', List.contains_eq_mem, decide_eq_false_iff_not] at adds
          rw [List.mem_singleton.mp new]
          exact adds.1.2
  have free : asker ∉ blocked := unblocked asks [] nofun asker (List.mem_mergeSort.mp ready)
  intro ask listed named
  cases past : ask.status.isTerminal with
  | true => rfl
  | false =>
    refine absurd (List.mem_map.mpr ⟨ask, List.mem_filter.mpr ⟨listed, ?_⟩, named⟩) free
    rw [past]
    rfl

/-- Every answer is handed back in one wake at most, and only once it is settled: to the session that asked, with
nothing that the session was still waiting for when it was found ready. What is marked as handed back is in a wake that
was sent, or in the one about to be. -/
theorem each_answer_is_handed_back_once {w : AskWorld} (reached : AskReached w) :
    (w.wakes.flatMap (·.wake.askIds)).Nodup ∧
    (∀ sent ∈ w.wakes, (∀ ask ∈ sent.wake.mine, ask.askerThreadId = sent.wake.asker ∧ ask.status.isTerminal = true) ∧
      ∀ ask ∈ sent.found, ask.askerThreadId = sent.wake.asker → ask.status.isTerminal = true) ∧
    ∀ id ask, w.asks.get id = some ask →
      (ask.delivered = true ↔ id ∈ w.sweep.onItsWay ∨ ∃ sent ∈ w.wakes, id ∈ sent.wake.askIds) := by
  have back := reached.handsBack
  refine ⟨(List.nodup_append.mp back.once).2.1, fun sent member => ?_, fun id ask found => ?_⟩
  · obtain ⟨sound, ready⟩ := back.sent sent member
    exact ⟨fun ask mine => ⟨sound.asker ask mine, sound.settled ask mine⟩, mem_askersReadyToWake ready⟩
  · have listed : id ∈ w.handedBack ↔ id ∈ w.sweep.onItsWay ∨ ∃ sent ∈ w.wakes, id ∈ sent.wake.askIds := by
      unfold AskWorld.handedBack
      rw [List.mem_append, List.mem_flatMap]
    rw [← listed]
    exact ⟨back.marked id ask found, fun member => (back.given id member).2 ask found⟩

theorem woken_is_handed_back_once : (Sample.woken.wakes.flatMap (·.wake.askIds)).Nodup ∧
    (∀ sent ∈ Sample.woken.wakes, (∀ ask ∈ sent.wake.mine, ask.askerThreadId = sent.wake.asker ∧
        ask.status.isTerminal = true) ∧
      ∀ ask ∈ sent.found, ask.askerThreadId = sent.wake.asker → ask.status.isTerminal = true) ∧
    ∀ id ask, Sample.woken.asks.get id = some ask →
      (ask.delivered = true ↔ id ∈ Sample.woken.sweep.onItsWay ∨ ∃ sent ∈ Sample.woken.wakes, id ∈ sent.wake.askIds) :=
  each_answer_is_handed_back_once (Sample.answered_reached.trans Sample.woken_of_answered)

end Sealwire.Asks

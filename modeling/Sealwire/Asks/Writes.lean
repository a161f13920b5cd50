import Sealwire.Asks.Moves

namespace Sealwire.Asks

/-- What a section that holds the relay's lock writes to the asks. -/
inductive Write
  | insert (ask : Ask)
  | edit (now : Nat) (id : String) (edit : AskEdit)

namespace AskTable

def write (asks : AskTable) : Write → AskTable
  | .insert ask => asks.insertAsk ask
  | .edit now id edit => asks.updateAsk now id edit

variable (asks : AskTable)

theorem get_updateAsk (now : Nat) (id other : String) (edit : AskEdit) : (asks.updateAsk now id edit).get other =
    if other = id then (asks.get id).map (edit.apply now) else asks.get other :=
  Table.get_modify asks id other (edit.apply now)

theorem get_updateAsk_ne (now : Nat) {id other : String} (edit : AskEdit) (apart : other ≠ id) :
    (asks.updateAsk now id edit).get other = asks.get other := by
  rw [get_updateAsk, if_neg apart]

theorem get_dropAll (entries : List (String × Ask)) (id : String) :
    let kept := entries.foldl
      (fun (asks : AskTable) entry => bif decide (asks.len < maxAsks) then asks else asks.drop entry.1) asks
    kept.get id = asks.get id ∨ kept.get id = none ∧ ∃ entry ∈ entries, entry.1 = id := by
  intro kept
  induction entries generalizing asks with
  | nil => exact .inl rfl
  | cons entry rest ih =>
    have later := ih (bif decide (asks.len < maxAsks) then asks else asks.drop entry.1)
    have dropped : (bif decide (asks.len < maxAsks) then asks else asks.drop entry.1).get id = asks.get id ∨
        (bif decide (asks.len < maxAsks) then asks else asks.drop entry.1).get id = none ∧ entry.1 = id := by
      cases decide (asks.len < maxAsks) with
      | true => exact .inl rfl
      | false =>
        rw [cond_false, Table.get_drop]
        by_cases same : id = entry.1
        · exact .inr ⟨if_pos same, same.symm⟩
        · exact .inl (if_neg same)
    rcases later with kept | ⟨gone, found, member, named⟩
    · rcases dropped with held | ⟨gone, named⟩
      · exact .inl (kept.trans held)
      · exact .inr ⟨kept.trans gone, entry, List.mem_cons_self, named⟩
    · exact .inr ⟨gone, found, List.mem_cons_of_mem _ member, named⟩

/-- Making room removes only what was settled and handed back. -/
theorem get_pruneAsks (id : String) : asks.pruneAsks.get id = asks.get id ∨
    asks.pruneAsks.get id = none ∧
      ∃ ask, asks.get id = some ask ∧ ask.status.isTerminal = true ∧ ask.delivered = true := by
  unfold pruneAsks
  cases decide (asks.len < maxAsks) with
  | true => exact .inl rfl
  | false =>
    rw [cond_false]
    rcases get_dropAll asks _ id with same | ⟨gone, entry, member, named⟩
    · exact .inl same
    · refine .inr ⟨gone, entry.2, ?_⟩
      have listed := List.mem_mergeSort.mp member
      obtain ⟨present, past⟩ := List.mem_filter.mp listed
      obtain ⟨pair, held, rfl⟩ := List.mem_map.mp present
      have found : asks.get id = some pair.2 := by
        rw [← named]
        exact Table.get_eq_some_iff.mpr held
      simp only [Bool.and_eq_true] at past
      exact ⟨found, past⟩

theorem get_insertAsk_self (ask : Ask) : (asks.insertAsk ask).get ask.id = some ask :=
  Table.get_put_self _ _ _

theorem get_insertAsk_ne {ask : Ask} {id : String} (apart : id ≠ ask.id) :
    (asks.insertAsk ask).get id = asks.pruneAsks.get id :=
  Table.get_put_ne _ _ apart

end AskTable

/-- The round the sweep is in the middle of. -/
def SweepStage.round : SweepStage → Option SweepRound
  | reading round | turnFailed round _ | turnSettling round _ _ | coldReading round _ _ | coldFailed round _ _
  | judging round _ _ _ | expiring round _ | matching round _ _ | nudging round _ | nudgeLanded round _ _
  | finishing round _ => some round
  | idle | looking _ _ | gathering | calling _ _ | composing _ _ _ | marking _ _ _ | waking _ _ _ => none

/-- The sections that write to the asks, and what each of them may write. -/
inductive Writes (w : AskWorld) : AskMove → Write → Prop
  | accept {k facts checked request} (stage : w.tasks.get k = some (.accepting checked request)) :
      Writes w (.task k facts) (.insert (checked.acceptedAsk request facts))
  | holdNew {k facts held provider request} (stage : w.tasks.get k = some (.holding held provider request))
      (unnamed : held.existing = none) :
      Writes w (.task k facts) (.insert (held.heldAsk facts.freshId provider request facts.now))
  | hold {k facts held provider request id} (stage : w.tasks.get k = some (.holding held provider request))
      (named : held.existing = some id) (peer message : String) :
      Writes w (.task k facts) (.edit facts.now id (.hold peer provider message request))
  | recordNew {k facts held peer baseline} (stage : w.tasks.get k = some (.recording held peer baseline))
      (unnamed : held.existing = none) :
      Writes w (.task k facts) (.insert (held.newAsk facts.freshId peer baseline facts.now))
  | record {k facts held peer baseline id} (stage : w.tasks.get k = some (.recording held peer baseline))
      (named : held.existing = some id) (live : ∀ ask, w.asks.get id = some ask → ask.status.isTerminal = false)
      (provider : String) :
      Writes w (.task k facts)
        (.edit facts.now id (.fillIn peer.threadId peer.provider peer.model held.message baseline provider))
  | land {k facts id turnId} (stage : w.tasks.get k = some (.landing id turnId)) :
      Writes w (.task k facts) (.edit facts.now id (.sent turnId))
  | unsent {k facts existing id reason} (stage : w.tasks.get k = some (.unsent existing id reason)) :
      Writes w (.task k facts) (.edit facts.now id (.fail reason))
  | failing {k facts id reason} (stage : w.tasks.get k = some (.failing id reason)) :
      Writes w (.task k facts) (.edit facts.now id (.fail reason))
  | commit {k facts id peer answer cited} (stage : w.tasks.get k = some (.committing id peer answer cited)) :
      Writes w (.task k facts) (.edit facts.now id (.reportBack cited answer))
  | stopTake {k facts peer asks latest ask} (stage : w.tasks.get k = some (.stopped peer asks latest))
      (stopped : ask ∈ asks) (text : String) : Writes w (.task k facts) (.edit facts.now ask.id (.finish text))
  | stopFail {k facts peer asks latest ask} (stage : w.tasks.get k = some (.stopped peer asks latest))
      (stopped : ask ∈ asks) (reason : String) : Writes w (.task k facts) (.edit facts.now ask.id (.fail reason))
  | decide {k id decision model scopeDevice facts ask} (found : w.asks.get id = some ask)
      (awaiting : ask.awaitingModelDecision = true) (decided : ModelDecision) (chosen : Option String)
      (ran : decided ≠ .pending) :
      Writes w (.decide k id decision model scopeDevice facts) (.edit facts.now id (.decide decided chosen))
  | sweepTake {facts round} (pursued : w.sweep.round = some round) (text : String) :
      Writes w (.sweep facts) (.edit facts.now round.ask.id (.finish text))
  | sweepFail {facts round} (pursued : w.sweep.round = some round) (reason : String) :
      Writes w (.sweep facts) (.edit facts.now round.ask.id (.fail reason))
  | nudge {facts round reply turnId} (stage : w.sweep = .nudgeLanded round reply turnId) :
      Writes w (.sweep facts) (.edit facts.now round.ask.id (.nudged turnId reply.itemId))
  | deliver {facts found wake askers id} (stage : w.sweep = .marking found wake askers) (mine : id ∈ wake.askIds) :
      Writes w (.sweep facts) (.edit facts.now id .deliver)

/-- The id of the ask that a write puts on record. -/
def Write.inserted : Write → Option String
  | insert ask => some ask.id
  | edit _ _ _ => none

/-- A state follows from another by writes that the move may make. -/
structure Wrote (w : AskWorld) (move : AskMove) (next : AskWorld) (writes : List Write) : Prop where
  asks : next.asks = writes.foldl AskTable.write w.asks
  issued : next.issued = writes.filterMap Write.inserted ++ w.issued
  granted : ∀ write ∈ writes, Writes w move write

namespace Wrote

variable {w next : AskWorld} {move : AskMove}

theorem nothing (asks : next.asks = w.asks) (issued : next.issued = w.issued) : ∃ writes, Wrote w move next writes :=
  ⟨[], asks, issued, fun _ member => absurd member List.not_mem_nil⟩

theorem inserting {ask : Ask} (granted : Writes w move (.insert ask)) (asks : next.asks = w.asks.insertAsk ask)
    (issued : next.issued = ask.id :: w.issued) : ∃ writes, Wrote w move next writes :=
  ⟨[.insert ask], asks, issued, fun _ member => List.mem_singleton.mp member ▸ granted⟩

theorem editing {now : Nat} {id : String} {edit : AskEdit} (granted : Writes w move (.edit now id edit))
    (asks : next.asks = w.asks.updateAsk now id edit) (issued : next.issued = w.issued) :
    ∃ writes, Wrote w move next writes :=
  ⟨[.edit now id edit], asks, issued, fun _ member => List.mem_singleton.mp member ▸ granted⟩

/-- One edit for each element of a list. -/
theorem editingEach {α : Type} {now : Nat} {id : α → String} {edit : α → AskEdit} {each : AskWorld → α → AskWorld}
    (asks : ∀ w a, (each w a).asks = w.asks.updateAsk now (id a) (edit a)) (issued : ∀ w a, (each w a).issued = w.issued)
    {list : List α} (granted : ∀ a ∈ list, Writes w move (.edit now (id a) (edit a))) :
    ∃ writes, Wrote w move (list.foldl each w) writes := by
  refine ⟨list.map fun a => .edit now (id a) (edit a), ?_, ?_, ?_⟩
  · clear granted
    induction list generalizing w with
    | nil => rfl
    | cons a rest ih =>
      rw [List.foldl_cons, ih, asks]
      rfl
  · have none_inserted : (list.map fun a => Write.edit now (id a) (edit a)).filterMap Write.inserted = [] := by
      rw [List.filterMap_map]
      exact List.filterMap_eq_nil_iff.mpr fun _ _ => rfl
    rw [none_inserted, List.nil_append]
    clear granted none_inserted
    induction list generalizing w with
    | nil => rfl
    | cons a rest ih => rw [List.foldl_cons, ih, issued]
  · intro write member
    obtain ⟨a, listed, rfl⟩ := List.mem_map.mp member
    exact granted a listed

/-- What else the move changes is no matter to the asks. -/
theorem elsewhere {other : AskWorld} (wrote : ∃ writes, Wrote w move next writes) (asks : other.asks = next.asks)
    (issued : other.issued = next.issued) : ∃ writes, Wrote w move other writes := by
  obtain ⟨writes, same, ids, granted⟩ := wrote
  exact ⟨writes, asks.trans same, issued.trans ids, granted⟩

end Wrote

section Sections

variable {w : AskWorld} {k : Nat} {facts : AskFacts}

theorem asks_proceed (w : AskWorld) (k : Nat) (task : Option AskTask) : (w.proceed k task).asks = w.asks := by
  cases task <;> rfl

theorem issued_proceed (w : AskWorld) (k : Nat) (task : Option AskTask) : (w.proceed k task).issued = w.issued := by
  cases task <;> rfl

@[simp] theorem sweep_proceed (w : AskWorld) (k : Nat) (task : Option AskTask) : (w.proceed k task).sweep = w.sweep := by
  cases task <;> rfl

@[simp] theorem rows_proceed (w : AskWorld) (k : Nat) (task : Option AskTask) : (w.proceed k task).rows = w.rows := by
  cases task <;> rfl

@[simp] theorem turns_proceed (w : AskWorld) (k : Nat) (task : Option AskTask) : (w.proceed k task).turns = w.turns := by
  cases task <;> rfl

@[simp] theorem handed_proceed (w : AskWorld) (k : Nat) (task : Option AskTask) :
    (w.proceed k task).handed = w.handed := by
  cases task <;> rfl

@[simp] theorem taken_proceed (w : AskWorld) (k : Nat) (task : Option AskTask) : (w.proceed k task).taken = w.taken := by
  cases task <;> rfl

@[simp] theorem reported_proceed (w : AskWorld) (k : Nat) (task : Option AskTask) :
    (w.proceed k task).reported = w.reported := by
  cases task <;> rfl

@[simp] theorem wakes_proceed (w : AskWorld) (k : Nat) (task : Option AskTask) : (w.proceed k task).wakes = w.wakes := by
  cases task <;> rfl

theorem wrote_proceed {move : AskMove} {next : AskWorld} (wrote : ∃ writes, Wrote w move next writes) (task : Option AskTask) :
    ∃ writes, Wrote w move (next.proceed k task) writes :=
  Wrote.elsewhere wrote (asks_proceed next k task) (issued_proceed next k task)

theorem wrote_update {move : AskMove} {now : Nat} {id : String} {edit : AskEdit}
    (granted : Writes w move (.edit now id edit)) : ∃ writes, Wrote w move (w.update now id edit) writes :=
  Wrote.editing granted rfl rfl

theorem wrote_insert {move : AskMove} {ask : Ask} (granted : Writes w move (.insert ask)) :
    ∃ writes, Wrote w move (w.insert ask) writes :=
  Wrote.inserting granted rfl rfl

theorem wrote_only_proceed {move : AskMove} (task : Option AskTask) : ∃ writes, Wrote w move (w.proceed k task) writes :=
  wrote_proceed (Wrote.nothing rfl rfl) task

/-- How a user stop ends one of the asks it copied. -/
def stopEdit (latest : Option Reply) (ask : Ask) : AskEdit :=
  match latest.filter fun reply => replyAnswersAsk ask reply.itemId reply.turnId with
  | some reply => .finish reply.text
  | none => .fail "you stopped it before it answered"

theorem wrote_stopped {peer : String} {asks : List Ask} {latest : Option Reply}
    (stage : w.tasks.get k = some (.stopped peer asks latest)) :
    ∃ writes, Wrote w (.task k facts) (asks.foldl (fun w ask => w.endStopped facts.now latest ask) w) writes := by
  refine @Wrote.editingEach w (.task k facts) Ask facts.now Ask.id (stopEdit latest) _ (fun w ask => ?_) (fun w ask => ?_) _
    fun ask listed => ?_
  · unfold AskWorld.endStopped stopEdit
    cases latest.filter fun reply => replyAnswersAsk ask reply.itemId reply.turnId <;> rfl
  · unfold AskWorld.endStopped
    split <;> rfl
  · unfold stopEdit
    split
    · exact .stopTake stage listed _
    · exact .stopFail stage listed _

theorem wrote_task {stage : AskTask} (at_ : w.tasks.get k = some stage) :
    ∃ writes, Wrote w (.task k facts) (w.runTask k facts stage) writes := by
  cases stage with
  | prechecking asker request =>
    simp only [AskWorld.runTask]
    split <;> exact wrote_only_proceed _
  | accepting checked request =>
    simp only [AskWorld.runTask]
    exact wrote_proceed (wrote_insert (.accept at_)) _
  | filling asker request existing chooser =>
    simp only [AskWorld.runTask]
    split <;> exact wrote_only_proceed _
  | choosing checked request existing chooser =>
    simp only [AskWorld.runTask]
    split <;> exact wrote_only_proceed _
  | holding held provider request =>
    simp only [AskWorld.runTask]
    split
    · rename_i named
      exact wrote_proceed (wrote_update (.hold at_ named _ _)) _
    · rename_i unnamed
      exact wrote_proceed (wrote_insert (.holdNew at_ unnamed)) _
  | ensuring held provider model =>
    simp only [AskWorld.runTask]
    rw [Bool.cond_eq_ite]
    split <;> exact wrote_only_proceed _
  | bringing held provider model =>
    simp only [AskWorld.runTask]
    split
    · exact wrote_only_proceed _
    · refine wrote_proceed ?_ _
      exact Wrote.nothing rfl rfl
  | reading held peer =>
    simp only [AskWorld.runTask]
    exact wrote_only_proceed _
  | recording held peer baseline =>
    simp only [AskWorld.runTask]
    cases past : (w.asks.get (held.existing.getD facts.freshId)).any fun ask => ask.status.isTerminal with
    | true =>
      rw [cond_true]
      exact wrote_only_proceed _
    | false =>
      rw [cond_false]
      cases named : held.existing with
      | some id =>
        have live : ∀ ask, w.asks.get id = some ask → ask.status.isTerminal = false := by
          intro ask found
          simpa [named, found] using past
        exact wrote_proceed (wrote_update (.record at_ named live _)) _
      | none => exact wrote_proceed (wrote_insert (.recordNew at_ named)) _
  | sending existing askId peer =>
    simp only [AskWorld.runTask]
    split
    · refine wrote_proceed ?_ _
      exact Wrote.nothing rfl rfl
    · exact wrote_only_proceed _
  | landing askId turnId =>
    simp only [AskWorld.runTask]
    exact wrote_proceed (wrote_update (.land at_)) _
  | unsent existing askId reason =>
    simp only [AskWorld.runTask]
    exact wrote_proceed (wrote_update (.unsent at_)) _
  | failing askId reason =>
    simp only [AskWorld.runTask]
    exact wrote_proceed (wrote_update (.failing at_)) _
  | committing askId peer answer cited =>
    simp only [AskWorld.runTask]
    refine wrote_proceed (Wrote.elsewhere (wrote_update (.commit at_)) ?_ ?_) _ <;> rfl
  | stopping peer asks =>
    simp only [AskWorld.runTask]
    exact wrote_only_proceed _
  | stopped peer asks latest =>
    simp only [AskWorld.runTask]
    exact wrote_proceed (wrote_stopped at_) _

theorem wrote_resume {move : AskMove} {next : AskWorld} (wrote : ∃ writes, Wrote w move next writes) (stage : SweepStage) :
    ∃ writes, Wrote w move (next.resume stage) writes :=
  Wrote.elsewhere wrote rfl rfl

theorem wrote_only_resume {move : AskMove} (stage : SweepStage) : ∃ writes, Wrote w move (w.resume stage) writes :=
  Wrote.nothing rfl rfl

theorem wrote_take {round : SweepRound} (pursued : w.sweep.round = some round) (itemId text : String) :
    ∃ writes, Wrote w (.sweep facts) (w.take facts.now round.ask.id itemId text) writes :=
  Wrote.elsewhere (wrote_update (.sweepTake pursued text)) rfl rfl

theorem wrote_salvage {round : SweepRound} (pursued : w.sweep.round = some round)
    (salvaged : Option (String × String)) (reason : String) :
    ∃ writes, Wrote w (.sweep facts) (w.salvage facts.now round.ask.id salvaged reason) writes := by
  cases salvaged with
  | none => exact wrote_update (.sweepFail pursued reason)
  | some found => exact wrote_take pursued found.1 found.2

theorem wrote_sweep {stage : SweepStage} (at_ : w.sweep = stage) :
    ∃ writes, Wrote w (.sweep facts) (w.runSweep facts stage) writes := by
  cases stage with
  | idle => exact Wrote.nothing rfl rfl
  | looking now todo =>
    cases todo with
    | nil => exact wrote_only_resume _
    | cons ask todo =>
      simp only [AskWorld.runSweep]
      rw [Bool.cond_eq_ite]
      split <;> exact wrote_only_resume _
  | reading round =>
    simp only [AskWorld.runSweep]
    split <;> exact wrote_only_resume _
  | turnFailed round turnId => exact wrote_only_resume _
  | turnSettling round reason salvaged => exact wrote_resume (wrote_salvage (at_ ▸ rfl) _ _) _
  | coldReading round provider turnId =>
    simp only [AskWorld.runSweep, AskWorld.readCold]
    split
    · exact wrote_only_resume _
    · split
      · exact wrote_only_resume _
      · exact Wrote.nothing rfl rfl
  | coldFailed round views reason => exact wrote_resume (wrote_salvage (at_ ▸ rfl) _ _) _
  | judging round provider reply coldQuiet => exact wrote_only_resume _
  | expiring round latest => exact wrote_resume (wrote_salvage (at_ ▸ rfl) _ _) _
  | matching round provider reply => exact wrote_only_resume _
  | nudging round reply =>
    simp only [AskWorld.runSweep]
    split
    · exact Wrote.nothing rfl rfl
    · exact wrote_only_resume _
  | nudgeLanded round reply turnId => exact wrote_resume (wrote_update (.nudge at_)) _
  | finishing round reply => exact wrote_resume (wrote_take (at_ ▸ rfl) _ _) _
  | gathering => exact wrote_only_resume _
  | calling found askers =>
    cases askers with
    | nil => exact wrote_only_resume _
    | cons asker askers =>
      simp only [AskWorld.runSweep]
      rw [Bool.cond_eq_ite]
      split <;> exact wrote_only_resume _
  | composing found asker askers =>
    simp only [AskWorld.runSweep]
    split <;> exact wrote_only_resume _
  | marking found wake askers =>
    simp only [AskWorld.runSweep]
    rw [Bool.cond_eq_ite]
    split
    · refine wrote_resume ?_ _
      have each (w : AskWorld) (id : String) : (w.update facts.now id .deliver).asks =
          w.asks.updateAsk facts.now id .deliver := rfl
      exact @Wrote.editingEach w (.sweep facts) String facts.now id (fun _ => .deliver) _ each (fun _ _ => rfl) _
        fun id mine => .deliver at_ mine
    · exact wrote_only_resume _
  | waking found wake askers => exact Wrote.nothing rfl rfl

theorem readDecision_ran {pending : ModelRequest} {decision : String} {model chosen : Option String}
    {decided : ModelDecision} (read : AskWorld.readDecision pending decision model = .ok (decided, chosen)) :
    decided ≠ .pending := by
  unfold AskWorld.readDecision at read
  split at read
  · cases read
    exact nofun
  · split at read
    · cases read
      exact nofun
    · cases read
  · cases read
    exact nofun
  · cases read

/-- A decision changes nothing, or it settles a request that waits for one, and starts the chosen model. -/
theorem decide_cases (id decision : String) (model scopeDevice : Option String) :
    (w.decideModelRequest k id decision model scopeDevice facts).1 = w ∨
      ∃ ask decided chosen, w.asks.get id = some ask ∧ ask.awaitingModelDecision = true ∧ decided ≠ ModelDecision.pending ∧
        (∀ retry ∈ chosen, retry.model.isSome = true) ∧ (w.decideModelRequest k id decision model scopeDevice facts).1 =
          match (chosen : Option AskRequest) with
          | none => w.update facts.now id (.decide decided none)
          | some retry => (w.update facts.now id (.decide decided retry.model)).proceed k
              (some (.filling ask.askerThreadId retry (some id) .person)) := by
  unfold AskWorld.decideModelRequest
  cases found : w.asks.get id with
  | none => exact .inl rfl
  | some ask =>
    cases refusal : facts.deviceRefusal with
    | some reason => exact .inl rfl
    | none =>
      cases pending : ask.modelRequest.filter fun _ => ask.awaitingModelDecision with
      | none =>
        simp only [pending]
        exact .inl trivial
      | some request =>
        obtain ⟨_, awaiting⟩ := Option.filter_eq_some_iff.mp pending
        cases read : AskWorld.readDecision request decision model with
        | error reason =>
          simp only [pending, read]
          exact .inl trivial
        | ok answer =>
          obtain ⟨decided, chosen⟩ := answer
          cases chosen with
          | none =>
            simp only [pending, read]
            exact .inr ⟨ask, decided, none, rfl, awaiting, readDecision_ran read, nofun, rfl⟩
          | some chosen =>
            simp only [pending, read]
            exact .inr ⟨ask, decided, some (AskWorld.retryOf ask request chosen scopeDevice), rfl, awaiting,
              readDecision_ran read, fun retry is => Option.some.inj is ▸ rfl, rfl⟩

theorem wrote_decide (id decision : String) (model scopeDevice : Option String) :
    ∃ writes, Wrote w (.decide k id decision model scopeDevice facts)
      (w.decideModelRequest k id decision model scopeDevice facts).1 writes := by
  rcases @decide_cases w k facts id decision model scopeDevice with
    same | ⟨ask, decided, chosen, found, awaiting, ran, -, same⟩
  · rw [same]
    exact Wrote.nothing rfl rfl
  · rw [same]
    cases chosen with
    | none => exact wrote_update (.decide found awaiting decided _ ran)
    | some retry => exact wrote_proceed (wrote_update (.decide found awaiting decided _ ran)) _

end Sections

theorem AskMove.wrote (w : AskWorld) (move : AskMove) : ∃ writes, Wrote w move (move.run w) writes := by
  cases move with
  | delegate k asker request detached =>
    simp only [AskMove.run, AskWorld.delegate]
    exact wrote_only_proceed _
  | decide k id decision model scopeDevice facts => exact wrote_decide id decision model scopeDevice
  | task k facts =>
    cases at_ : w.tasks.get k with
    | none =>
      simp only [AskMove.run, at_]
      exact Wrote.nothing rfl rfl
    | some stage =>
      simp only [AskMove.run, at_]
      exact wrote_task at_
  | reportBack k peer answer cited =>
    simp only [AskMove.run, AskWorld.reportBack]
    rw [Bool.cond_eq_ite]
    split
    · exact Wrote.nothing rfl rfl
    · split
      · exact Wrote.nothing rfl rfl
      · exact wrote_only_proceed _
  | stopPeer k peer =>
    simp only [AskMove.run, AskWorld.stopPeer]
    split
    · exact Wrote.nothing rfl rfl
    · exact wrote_only_proceed _
  | sweep facts => exact wrote_sweep rfl
  | turnStarts turnId => exact Wrote.nothing rfl rfl
  | rowWritten row => exact Wrote.nothing rfl rfl

namespace Wrote

variable {w next : AskWorld} {move : AskMove} {writes : List Write}

/-- What every write to the ask under an id keeps, the whole move keeps. -/
theorem row (wrote : Wrote w move next writes) (id : String) {P : Option Ask → Prop} (start : P (w.asks.get id))
    (pruned : ∀ ask, ask.status.isTerminal = true → ask.delivered = true → P (some ask) → P none)
    (born : ∀ ask, Writes w move (.insert ask) → ask.id = id → P (some ask))
    (edited : ∀ ask now edit, Writes w move (.edit now id edit) → P (some ask) → P (some (edit.apply now ask))) :
    P (next.asks.get id) := by
  rw [wrote.asks]
  have granted := wrote.granted
  have along : ∀ (rest : List Write) (asks : AskTable), (∀ write ∈ rest, Writes w move write) → P (asks.get id) →
      P ((rest.foldl AskTable.write asks).get id) := by
    intro rest
    induction rest with
    | nil => exact fun asks _ holds => holds
    | cons write rest ih =>
      intro asks may holds
      refine ih (asks.write write) (fun other member => may other (List.mem_cons_of_mem _ member)) ?_
      have grant := may write List.mem_cons_self
      cases write with
      | insert ask =>
        by_cases same : id = ask.id
        · have here : (asks.insertAsk ask).get id = some ask := by
            rw [same]
            exact asks.get_insertAsk_self ask
          rw [AskTable.write, here]
          exact born ask grant same.symm
        · rw [AskTable.write, asks.get_insertAsk_ne same]
          rcases asks.get_pruneAsks id with kept | ⟨gone, ask, found, past, given⟩
          · rw [kept]
            exact holds
          · rw [gone]
            rw [found] at holds
            exact pruned ask past given holds
      | edit now other edit =>
        rw [AskTable.write, asks.get_updateAsk]
        split
        · rename_i same
          subst same
          cases found : asks.get id with
          | none =>
            rw [found] at holds
            exact holds
          | some ask =>
            rw [found] at holds
            exact edited ask now edit grant holds
        · exact holds
  exact along writes w.asks granted start

end Wrote

end Sealwire.Asks

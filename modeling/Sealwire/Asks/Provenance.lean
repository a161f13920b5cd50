import Sealwire.Asks.OwnerRuns

namespace Sealwire.Asks

/-- The edits that say anew whose ask a record is. -/
def AskEdit.rewrites : AskEdit → Bool
  | fillIn _ _ _ _ _ _ | hold _ _ _ _ => true
  | _ => false

namespace AskWorld

/-- A task or a reminder of the ask was handed over in this turn. -/
def HandedTurn (w : AskWorld) (id : String) (turn : Option String) : Prop :=
  ∃ handed ∈ w.handed, handed.askId = id ∧ handed.turnId = turn

/-- An assistant row of the thread says this. -/
def Written (w : AskWorld) (peer : String) (reply : Reply) : Prop :=
  ∃ row ∈ w.rows, row.threadId = peer ∧ row.view.kind = .agentText ∧ row.view.said = some reply.text ∧
    row.view.knownAs = some reply.itemId ∧ row.view.turnId = reply.turnId

/-- It was said in a turn of the ask's own, as far as its turns were told. -/
def Genuine (w : AskWorld) (id peer : String) (reply : Reply) : Prop :=
  w.Written peer reply ∧ (w.HandedTurn id reply.turnId ∨ w.HandedTurn id none)

/-- A salvaged text is a reply of the ask's own. -/
def Salvageable (w : AskWorld) (id peer : String) (salvaged : String × String) : Prop :=
  ∃ reply, w.Genuine id peer reply ∧ reply.text = salvaged.2

/-- The ask was handed over to this peer. -/
def SentTo (w : AskWorld) (id peer : String) : Prop :=
  id ∈ w.issued ∧ ∀ ask, w.asks.get id = some ask → ask.sentAt.isSome = true ∧ ask.peerThreadId = peer

/-- What a record says of its turns and of its answer is so. -/
structure TracedAsk (w : AskWorld) (ask : Ask) : Prop where
  unsent : ask.sentAt = none → ask.turnId = none ∧ ask.nudged = false
  turn : ask.sentAt.isSome = true → w.HandedTurn ask.id ask.turnId
  nudged : ask.nudged = true → ∃ reply, w.Genuine ask.id ask.peerThreadId reply ∧ ask.baselineItemId = some reply.itemId
  answer : ask.status = .done → ∃ text, ask.answer = some text ∧
    ((∃ report ∈ w.reported, report.askId = ask.id ∧ report.answer = text) ∨
      ∃ reply, w.Genuine ask.id ask.peerThreadId reply ∧ reply.text = text)

def TracedTask (w : AskWorld) : AskTask → Prop
  | .landing id turnId => w.HandedTurn id turnId
  | .stopping peer asks => ∀ copy ∈ asks, w.HandedTurn copy.id copy.turnId ∧ w.SentTo copy.id peer
  | .stopped peer asks latest => (∀ copy ∈ asks, w.HandedTurn copy.id copy.turnId ∧ w.SentTo copy.id peer) ∧
      ∀ reply ∈ latest, w.Written peer reply
  | _ => True

/-- What the sweep has read for the ask it is at. -/
def TracedRead (w : AskWorld) : SweepStage → Prop
  | .turnSettling round _ salvaged => ∀ found ∈ salvaged, w.Salvageable round.ask.id round.ask.peerThreadId found
  | .coldReading round _ turnId => w.HandedTurn round.ask.id (some turnId)
  | .coldFailed round views _ => ∀ view ∈ views, { threadId := round.ask.peerThreadId, view := view } ∈ w.rows
  | .judging round _ reply _ => ∀ found ∈ reply, w.Genuine round.ask.id round.ask.peerThreadId found
  | .expiring round latest => ∀ reply ∈ latest, w.Written round.ask.peerThreadId reply
  | .matching round _ reply => w.Written round.ask.peerThreadId reply
  | .nudging round reply | .finishing round reply => w.Genuine round.ask.id round.ask.peerThreadId reply
  | .nudgeLanded round reply turnId =>
    w.Genuine round.ask.id round.ask.peerThreadId reply ∧ w.HandedTurn round.ask.id turnId
  | _ => True

/-- The rows name their turns, and no name stands for two turns of a thread. -/
structure RowsSound (w : AskWorld) : Prop where
  turns : ∀ row ∈ w.rows, row.view.kind = .agentText →
    (∃ turn ∈ w.turns, row.view.turnId = some turn) ∧ row.view.knownAs.isSome = true
  oneTurn : ∀ row ∈ w.rows, ∀ other ∈ w.rows, row.view.kind = .agentText → other.view.kind = .agentText →
    other.threadId = row.threadId → ∀ name, row.view.bears name = true → other.view.bears name = true →
      other.view.turnId = row.view.turnId
  handed : ∀ handed ∈ w.handed, ∀ turn, handed.turnId = some turn → turn ∈ w.turns ∧
    ∀ row ∈ handed.before, row.view.kind = .agentText → row.view.turnId ≠ some turn

/-- Every answer can be traced to a turn of its ask. -/
structure Traced (w : AskWorld) : Prop where
  rows : w.RowsSound
  asks : ∀ id ask, w.asks.get id = some ask → w.TracedAsk ask
  tasks : ∀ k task, w.tasks.get k = some task → w.TracedTask task
  pursued : ∀ live ∈ w.sweep.pursues, w.SentTo live.id live.peerThreadId
  sweep : w.TracedRead w.sweep

section Grows

/-- Rows, hand-overs and reports are only added to. -/
structure Grows (w next : AskWorld) : Prop where
  rows : ∀ row ∈ w.rows, row ∈ next.rows
  handed : ∀ handed ∈ w.handed, handed ∈ next.handed
  reported : ∀ report ∈ w.reported, report ∈ next.reported
  issued : ∀ id ∈ w.issued, id ∈ next.issued

variable {w next : AskWorld} (grows : w.Grows next)
include grows

theorem HandedTurn.mono {id : String} {turn : Option String} (handed : w.HandedTurn id turn) : next.HandedTurn id turn := by
  obtain ⟨record, member, named⟩ := handed
  exact ⟨record, grows.handed record member, named⟩

theorem Written.mono {peer : String} {reply : Reply} (written : w.Written peer reply) : next.Written peer reply := by
  obtain ⟨row, member, of_reply⟩ := written
  exact ⟨row, grows.rows row member, of_reply⟩

theorem Genuine.mono {id peer : String} {reply : Reply} (genuine : w.Genuine id peer reply) :
    next.Genuine id peer reply := by
  obtain ⟨written, turn⟩ := genuine
  exact ⟨written.mono grows, turn.imp (HandedTurn.mono grows) (HandedTurn.mono grows)⟩

theorem Salvageable.mono {id peer : String} {found : String × String} (genuine : w.Salvageable id peer found) :
    next.Salvageable id peer found := by
  obtain ⟨reply, genuine, text⟩ := genuine
  exact ⟨reply, genuine.mono grows, text⟩

theorem TracedAsk.mono {ask : Ask} (traced : w.TracedAsk ask) : next.TracedAsk ask := by
  refine ⟨traced.unsent, fun sent => (traced.turn sent).mono grows, fun nudged => ?_, fun done => ?_⟩
  · obtain ⟨reply, genuine, baseline⟩ := traced.nudged nudged
    exact ⟨reply, genuine.mono grows, baseline⟩
  · obtain ⟨text, is, source⟩ := traced.answer done
    refine ⟨text, is, source.imp ?_ ?_⟩
    · rintro ⟨report, member, named⟩
      exact ⟨report, grows.reported report member, named⟩
    · rintro ⟨reply, genuine, same⟩
      exact ⟨reply, genuine.mono grows, same⟩

theorem TracedTask.mono (sent : ∀ id peer, w.SentTo id peer → next.SentTo id peer) {task : AskTask}
    (traced : w.TracedTask task) : next.TracedTask task := by
  cases task with
  | landing id turnId => exact HandedTurn.mono grows traced
  | stopping peer asks =>
    exact fun copy member => ⟨(traced copy member).1.mono grows, sent _ _ (traced copy member).2⟩
  | stopped peer asks latest =>
    exact ⟨fun copy member => ⟨(traced.1 copy member).1.mono grows, sent _ _ (traced.1 copy member).2⟩,
      fun reply is => (traced.2 reply is).mono grows⟩
  | _ => trivial

theorem TracedRead.mono {stage : SweepStage} (traced : w.TracedRead stage) : next.TracedRead stage := by
  cases stage with
  | turnSettling round reason salvaged => exact fun found is => (traced found is).mono grows
  | coldReading round provider turnId => exact HandedTurn.mono grows traced
  | coldFailed round views reason => exact fun view listed => grows.rows _ (traced view listed)
  | judging round provider reply coldQuiet => exact fun found is => (traced found is).mono grows
  | expiring round latest => exact fun reply is => (traced reply is).mono grows
  | matching round provider reply => exact Written.mono grows traced
  | nudging round reply => exact Genuine.mono grows traced
  | finishing round reply => exact Genuine.mono grows traced
  | nudgeLanded round reply turnId => exact ⟨traced.1.mono grows, traced.2.mono grows⟩
  | _ => trivial

end Grows

theorem kind_of_said {entry : EntryView} {text : String} (said : entry.said = some text) : entry.kind = .agentText := by
  unfold EntryView.said at said
  rw [Bool.cond_eq_ite] at said
  split at said
  · rename_i kind
    exact of_decide_eq_true kind
  · cases said

section Reading

variable {w : AskWorld} {peer : String} {views : List EntryView} (sound : w.RowsSound)
  (there : ∀ view ∈ views, { threadId := peer, view := view } ∈ w.rows)
include sound there

/-- What an assistant row of a transcript says. -/
theorem written_of_said {entry : EntryView} {text : String} (listed : entry ∈ views) (said : entry.said = some text) :
    ∃ itemId, entry.knownAs = some itemId ∧ w.Written peer { itemId := itemId, text := text, turnId := entry.turnId } := by
  have kind := kind_of_said said
  obtain ⟨_, known⟩ := sound.turns _ (there entry listed) kind
  obtain ⟨itemId, named⟩ := Option.isSome_iff_exists.mp known
  exact ⟨itemId, named, _, there entry listed, rfl, kind, said, named, rfl⟩

theorem written_of_latest {reply : Reply} (latest : latestAgentEntryWithTurn views = some reply) :
    w.Written peer reply ∧ ∃ entry ∈ views, entry.turnId = reply.turnId := by
  obtain ⟨⟨itemId, text⟩, found, rfl⟩ := Option.map_eq_some_iff.mp latest
  obtain ⟨⟨entry, index⟩, among, made⟩ := List.exists_of_findSome?_eq_some found
  obtain ⟨said, is, named⟩ := Option.map_eq_some_iff.mp made
  have listed : entry ∈ views := List.fst_mem_of_mem_zipIdx (List.mem_reverse.mp among)
  obtain ⟨known, has, written⟩ := written_of_said sound there listed is
  simp only [has, Option.getD_some, Prod.mk.injEq] at named
  obtain ⟨rfl, rfl⟩ := named
  have kind := kind_of_said is
  have bears := EntryView.bears_of_knownAs has
  -- The turn is read off a row of the same name, which is of the same turn.
  have turn : ((views.reverse.find? fun entry => decide (entry.kind = .agentText) && entry.bears known).bind
      (·.turnId)) = entry.turnId := by
    cases first : views.reverse.find? fun entry => decide (entry.kind = .agentText) && entry.bears known with
    | none =>
      have none_there := List.find?_eq_none.mp first entry (List.mem_reverse.mpr listed)
      simp [kind, bears] at none_there
    | some other =>
      have fits := List.find?_some first
      simp only [Bool.and_eq_true, decide_eq_true_eq] at fits
      have other_there := there other (List.mem_reverse.mp (List.mem_of_find?_eq_some first))
      exact sound.oneTurn _ (there entry listed) _ other_there kind fits.1 rfl known bears fits.2
  refine ⟨?_, entry, listed, turn.symm⟩
  dsimp only
  rw [turn]
  exact written

theorem written_of_turn {turnId : String} {reply : Reply} (found : agentEntryForTurn views turnId = some reply) :
    w.Written peer reply ∧ reply.turnId = some turnId := by
  have kept : ∀ view ∈ views.filter fun entry => entry.turnId == some turnId,
      { threadId := peer, view := view } ∈ w.rows := fun view listed => there view (List.mem_filter.mp listed).1
  obtain ⟨written, entry, listed, same⟩ := written_of_latest sound kept found
  exact ⟨written, same.symm.trans (beq_iff_eq.mp (List.mem_filter.mp listed).2)⟩

/-- The reply that preceded a reminder is of a turn of the ask's own, whenever it is read again. -/
theorem salvageable_of_baseline {ask : Ask} {found : String × String} (traced : w.TracedAsk ask)
    (same : ask.peerThreadId = peer) (salvaged : nudgedBaselineAnswer ask views = some found) :
    w.Salvageable ask.id peer found := by
  obtain ⟨baseline, nudged, answered⟩ := Option.bind_eq_some_iff.mp salvaged
  obtain ⟨is, told⟩ := Option.filter_eq_some_iff.mp nudged
  obtain ⟨entry, among, made⟩ := List.exists_of_findSome?_eq_some answered
  rw [Bool.cond_eq_ite] at made
  split at made
  · rename_i bears
    obtain ⟨text, said, rfl⟩ := Option.map_eq_some_iff.mp made
    have listed := List.mem_reverse.mp among
    obtain ⟨itemId, _, written⟩ := written_of_said sound there listed said
    obtain ⟨reply, ⟨⟨row, member, thread, kind, _, known, turn⟩, handed⟩, base⟩ := traced.nudged told
    have name : reply.itemId = baseline := Option.some.inj (base.symm.trans is)
    have entry_kind := kind_of_said said
    have named : row.view.bears baseline = true := EntryView.bears_of_knownAs (name ▸ known)
    have one := sound.oneTurn row member _ (there entry listed) kind entry_kind (same ▸ thread.symm) baseline named bears
    refine ⟨_, ⟨written, ?_⟩, rfl⟩
    have entry_turn : entry.turnId = reply.turnId := one.trans turn
    rw [entry_turn]
    exact handed
  · cases made

omit there in
theorem genuine_of_answers {ask : Ask} {reply : Reply} (handed : w.HandedTurn ask.id ask.turnId)
    (written : w.Written peer reply) (answers : replyAnswersAsk ask reply.itemId reply.turnId = true) :
    w.Genuine ask.id peer reply := by
  refine ⟨written, ?_⟩
  obtain ⟨row, member, _, kind, _, _, turn⟩ := written
  obtain ⟨⟨own, _, told⟩, _⟩ := sound.turns row member kind
  have got : reply.turnId = some own := turn.symm.trans told
  unfold replyAnswersAsk at answers
  rw [Bool.cond_eq_ite] at answers
  split at answers
  · cases answers
  · rw [got] at answers ⊢
    cases want : ask.turnId with
    | none =>
      rw [want] at handed
      exact .inr handed
    | some wanted =>
      rw [want] at answers handed
      have same : wanted = own := beq_iff_eq.mp answers
      exact .inl (same ▸ handed)

end Reading

section Edits

variable {w : AskWorld} {ask : Ask} (now : Nat)

/-- Edits that leave a record's turn, peer and answer as they were. -/
theorem TracedAsk.same (traced : w.TracedAsk ask) {edited : Ask} (id : edited.id = ask.id)
    (turn : edited.turnId = ask.turnId) (sent : edited.sentAt = ask.sentAt) (nudged : edited.nudged = ask.nudged)
    (baseline : edited.baselineItemId = ask.baselineItemId) (peer : edited.peerThreadId = ask.peerThreadId)
    (answer : edited.status = .done → ask.status = .done ∧ edited.answer = ask.answer) : w.TracedAsk edited := by
  refine ⟨?_, ?_, ?_, fun done => ?_⟩
  · rw [sent, turn, nudged]
    exact traced.unsent
  · rw [sent, turn, id]
    exact traced.turn
  · rw [nudged, id, peer, baseline]
    exact traced.nudged
  · obtain ⟨was, kept⟩ := answer done
    rw [kept, id, peer]
    exact traced.answer was

theorem TracedAsk.fail (traced : w.TracedAsk ask) (reason : String) :
    w.TracedAsk ((AskEdit.fail reason).apply now ask) := by
  cases past : ask.status.isTerminal with
  | true =>
    have kept : (AskEdit.fail reason).apply now ask = ask := Ask.fail_terminal past now reason
    rw [kept]
    exact traced
  | false =>
    have failed : (AskEdit.fail reason).apply now ask =
        { ask with error := some reason, status := .failed, updatedAt := now, finishedAt := some now } :=
      Ask.fail_live past now reason
    rw [failed]
    exact traced.same rfl rfl rfl rfl rfl rfl fun done => by cases done

/-- A live ask takes a reply of its own as the answer; a settled one keeps what it has. -/
theorem TracedAsk.finish (traced : w.TracedAsk ask) {text : String}
    (source : (∃ report ∈ w.reported, report.askId = ask.id ∧ report.answer = text) ∨
      ∃ reply, w.Genuine ask.id ask.peerThreadId reply ∧ reply.text = text) : w.TracedAsk (ask.finish text now) := by
  cases past : ask.status.isTerminal with
  | true =>
    rw [Ask.finish_terminal past now text]
    exact traced
  | false =>
    rw [Ask.finish_live past now text]
    exact ⟨traced.unsent, traced.turn, traced.nudged, fun _ => ⟨text, rfl, source⟩⟩

theorem TracedAsk.decide (traced : w.TracedAsk ask) (decision : ModelDecision) (chosen : Option String) :
    w.TracedAsk ((AskEdit.decide decision chosen).apply now ask) := by
  simp only [AskEdit.apply, Ask.setStatus]
  cases chosen.isNone with
  | false => exact traced.same rfl rfl rfl rfl rfl rfl fun done => ⟨done, rfl⟩
  | true =>
    cases past : ask.status.isTerminal with
    | true =>
      simp only [cond_true]
      exact traced.same rfl rfl rfl rfl rfl rfl fun done => ⟨done, rfl⟩
    | false =>
      simp only [cond_true, cond_false]
      exact traced.same rfl rfl rfl rfl rfl rfl fun done => by cases done

/-- A record is filled in, or put on hold, while it has no turn yet. -/
theorem TracedAsk.rewritten (traced : w.TracedAsk ask) (sentAt : ask.sentAt = none)
    (live : ask.status.isTerminal = false) {edited : Ask} (sent : edited.sentAt = ask.sentAt)
    (turn : edited.turnId = ask.turnId) (nudged : edited.nudged = ask.nudged) (status : edited.status = ask.status) :
    w.TracedAsk edited := by
  obtain ⟨no_turn, not_nudged⟩ := traced.unsent sentAt
  refine ⟨fun _ => ⟨turn.trans no_turn, nudged.trans not_nudged⟩, fun is => ?_, fun is => ?_, fun done => ?_⟩
  · rw [sent, sentAt] at is
    cases is
  · rw [nudged, not_nudged] at is
    cases is
  · rw [← status, done] at live
    cases live

theorem peer_apply {edit : AskEdit} (kept : edit.rewrites = false) :
    (edit.apply now ask).peerThreadId = ask.peerThreadId := by
  cases edit with
  | fillIn peer provider model message baseline asker => cases kept
  | hold peer provider message request => cases kept
  | finish answer | reportBack cited answer | fail error =>
    simp only [AskEdit.apply, Ask.finish, Ask.fail, Ask.setStatus]
    cases ask.status.isTerminal <;> rfl
  | decide decision chosen =>
    simp only [AskEdit.apply, Ask.setStatus]
    cases chosen.isNone <;> cases ask.status.isTerminal <;> rfl
  | _ => rfl

end Edits

/-- The logs of the turns, the rows and the reports are what they were. -/
structure SameLogs (w next : AskWorld) : Prop where
  rows : next.rows = w.rows
  turns : next.turns = w.turns
  handed : next.handed = w.handed
  reported : next.reported = w.reported
  issued : next.issued = w.issued

namespace SameLogs

variable {w next : AskWorld} (same : w.SameLogs next)
include same

theorem grows : w.Grows next where
  rows _ member := same.rows ▸ member
  handed _ member := same.handed ▸ member
  reported _ member := same.reported ▸ member
  issued _ member := same.issued ▸ member

theorem rowsSound (sound : w.RowsSound) : next.RowsSound := by
  refine ⟨?_, ?_, ?_⟩
  · rw [same.rows, same.turns]
    exact sound.turns
  · rw [same.rows]
    exact sound.oneTurn
  · rw [same.handed, same.turns]
    exact sound.handed

end SameLogs

namespace Traced

variable {w next : AskWorld}

/-- What was traced before a move is traced after it. -/
theorem after (grows : w.Grows next) (rows : next.RowsSound) (sent : ∀ id peer, w.SentTo id peer → next.SentTo id peer)
    (asks : ∀ id ask, next.asks.get id = some ask → w.TracedAsk ask)
    (tasks : ∀ k task, next.tasks.get k = some task → w.TracedTask task)
    (pursued : ∀ live ∈ next.sweep.pursues, w.SentTo live.id live.peerThreadId) (sweep : w.TracedRead next.sweep) :
    next.Traced where
  rows := rows
  asks id ask found := (asks id ask found).mono grows
  tasks k task found := (tasks k task found).mono grows sent
  pursued live listed := sent _ _ (pursued live listed)
  sweep := sweep.mono grows

theorem sentTo_same (asks : next.asks = w.asks) (issued : ∀ id ∈ w.issued, id ∈ next.issued) (id peer : String)
    (sent : w.SentTo id peer) : next.SentTo id peer := by
  refine ⟨issued id sent.1, ?_⟩
  rw [asks]
  exact sent.2

/-- What is added to the logs takes nothing away. -/
theorem grow (traced : w.Traced) (grows : w.Grows next) (rows : next.RowsSound) (asks : next.asks = w.asks)
    (tasks : next.tasks = w.tasks) (sweep : next.sweep = w.sweep) : next.Traced := by
  refine after grows rows (sentTo_same asks grows.issued) ?_ ?_ ?_ ?_
  · rw [asks]
    exact traced.asks
  · rw [tasks]
    exact traced.tasks
  · rw [sweep]
    exact traced.pursued
  · rw [sweep]
    exact traced.sweep

theorem same (traced : w.Traced) (logs : w.SameLogs next) (asks : next.asks = w.asks) (tasks : next.tasks = w.tasks)
    (sweep : next.sweep = w.sweep) : next.Traced :=
  traced.grow logs.grows (logs.rowsSound traced.rows) asks tasks sweep

theorem sameLogs_proceed (w : AskWorld) (k : Nat) (task : Option AskTask) : w.SameLogs (w.proceed k task) where
  rows := rows_proceed w k task
  turns := turns_proceed w k task
  handed := handed_proceed w k task
  reported := reported_proceed w k task
  issued := issued_proceed w k task

theorem proceed (traced : w.Traced) (k : Nat) (task : Option AskTask) (now : ∀ stage ∈ task, w.TracedTask stage) :
    (w.proceed k task).Traced := by
  have same := sameLogs_proceed w k task
  refine after same.grows (same.rowsSound traced.rows) (sentTo_same (asks_proceed w k task) same.grows.issued) ?_ ?_ ?_ ?_
  · rw [asks_proceed]
    exact traced.asks
  · intro j stage found
    cases task with
    | none =>
      have dropped : (w.tasks.drop k).get j = some stage := found
      exact traced.tasks j stage (Table.get_of_get_drop dropped)
    | some task =>
      have put : (w.tasks.put k task).get j = some stage := found
      rw [Table.get_put] at put
      split at put
      · cases put
        exact now _ rfl
      · exact traced.tasks j stage put
  · rw [sweep_proceed]
    exact traced.pursued
  · rw [sweep_proceed]
    exact traced.sweep

theorem proceed_none (traced : w.Traced) (k : Nat) : (w.proceed k none).Traced :=
  traced.proceed k none fun _ is => by cases is

theorem proceed_some (traced : w.Traced) (k : Nat) {task : AskTask} (now : w.TracedTask task) :
    (w.proceed k (some task)).Traced :=
  traced.proceed k (some task) fun _ is => Option.some.inj is ▸ now

theorem proceed_refused (traced : w.Traced) (k : Nat) (existing : Option String) (error : AskError) :
    (w.proceed k (refused existing error)).Traced := by
  cases existing with
  | none => exact traced.proceed_none k
  | some id => exact traced.proceed_some k trivial

theorem resume (traced : w.Traced) {stage : SweepStage}
    (pursued : ∀ live ∈ stage.pursues, w.SentTo live.id live.peerThreadId) (read : w.TracedRead stage) :
    (w.resume stage).Traced := by
  have same : w.SameLogs (w.resume stage) := ⟨rfl, rfl, rfl, rfl, rfl⟩
  exact after same.grows (same.rowsSound traced.rows) (sentTo_same rfl same.grows.issued) traced.asks traced.tasks
    pursued read

theorem was_of_update {now : Nat} {id other : String} {edit : AskEdit} {ask : Ask}
    (found : (w.update now id edit).asks.get other = some ask) : w.asks.get other = some ask ∨
      ∃ before, w.asks.get id = some before ∧ other = id ∧ ask = edit.apply now before := by
  have edited : (w.asks.updateAsk now id edit).get other = some ask := found
  rw [AskTable.get_updateAsk] at edited
  split at edited
  · rename_i is
    obtain ⟨before, held, rfl⟩ := Option.map_eq_some_iff.mp edited
    exact .inr ⟨before, held, is, rfl⟩
  · exact .inl edited

theorem sentTo_update {now : Nat} {id : String} {edit : AskEdit}
    (peer : ∀ ask, w.asks.get id = some ask → ask.sentAt.isSome = true →
      (edit.apply now ask).peerThreadId = ask.peerThreadId) (other thread : String) (sent : w.SentTo other thread) :
    (w.update now id edit).SentTo other thread := by
  refine ⟨sent.1, fun ask found => ?_⟩
  rcases was_of_update found with held | ⟨before, held, rfl, rfl⟩
  · exact sent.2 ask held
  · obtain ⟨there, is_peer⟩ := sent.2 before held
    exact ⟨AskEdit.sent_apply now before edit there, (peer before held there).trans is_peer⟩

theorem update (traced : w.Traced) {now : Nat} {id : String} {edit : AskEdit}
    (asks : ∀ ask, w.asks.get id = some ask → w.TracedAsk (edit.apply now ask))
    (peer : ∀ ask, w.asks.get id = some ask → ask.sentAt.isSome = true →
      (edit.apply now ask).peerThreadId = ask.peerThreadId) : (w.update now id edit).Traced := by
  have same : w.SameLogs (w.update now id edit) := ⟨rfl, rfl, rfl, rfl, rfl⟩
  refine after same.grows (same.rowsSound traced.rows) (sentTo_update peer) (fun other ask found => ?_) traced.tasks
    traced.pursued traced.sweep
  rcases was_of_update found with held | ⟨before, held, -, rfl⟩
  · exact traced.asks other ask held
  · exact asks before held

theorem insert (traced : w.Traced) {ask : Ask} (fresh : ask.id ∉ w.issued) (unsent : ask.sentAt = none)
    (no_turn : ask.turnId = none) (not_nudged : ask.nudged = false) (live : ask.status.isTerminal = false) :
    (w.insert ask).Traced := by
  have grows : w.Grows (w.insert ask) :=
    ⟨fun _ member => member, fun _ member => member, fun _ member => member, fun _ member => List.mem_cons_of_mem _ member⟩
  have was (other : String) (found : Ask) (at_ : (w.insert ask).asks.get other = some found) :
      other = ask.id ∧ found = ask ∨ w.asks.get other = some found := by
    by_cases same : other = ask.id
    · subst same
      have here : (w.asks.insertAsk ask).get ask.id = some found := at_
      rw [AskTable.get_insertAsk_self] at here
      exact .inl ⟨rfl, (Option.some.inj here).symm⟩
    · have here : (w.asks.insertAsk ask).get other = some found := at_
      rw [AskTable.get_insertAsk_ne _ same] at here
      rcases w.asks.get_pruneAsks other with kept | ⟨gone, -⟩
      · exact .inr (kept ▸ here)
      · rw [gone] at here
        cases here
  refine after grows ⟨traced.rows.turns, traced.rows.oneTurn, traced.rows.handed⟩
    (fun other peer' sent => ⟨List.mem_cons_of_mem _ sent.1, fun found at_ => ?_⟩) (fun other found at_ => ?_) traced.tasks
    traced.pursued traced.sweep
  · rcases was other found at_ with ⟨rfl, -⟩ | held
    · exact absurd sent.1 fresh
    · exact sent.2 found held
  · rcases was other found at_ with ⟨-, rfl⟩ | held
    · refine ⟨fun _ => ⟨no_turn, not_nudged⟩, fun sent => ?_, fun nudged => ?_, fun done => ?_⟩
      · rw [unsent] at sent
        cases sent
      · rw [not_nudged] at nudged
        cases nudged
      · rw [done] at live
        cases live
    · exact traced.asks other found held

end Traced

end AskWorld

end Sealwire.Asks

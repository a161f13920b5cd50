import Sealwire.Asks.OwnerRuns

namespace Sealwire.Asks

/-- What became of an ask, and what was decided on it. -/
structure Verdict where
  status : AskStatus
  answer : Option String
  error : Option String
  peerThreadId : String
  modelRequest : Option ModelRequest
  deriving DecidableEq, Repr

def Ask.verdict (ask : Ask) : Verdict where
  status := ask.status
  answer := ask.answer
  error := ask.error
  peerThreadId := ask.peerThreadId
  modelRequest := ask.modelRequest

namespace AskEdit

/-- The edits that a settled ask's record may still meet with. -/
def late : AskEdit → Bool
  | finish _ | fail _ | reportBack _ _ | sent _ | nudged _ _ | deliver => true
  | fillIn _ _ _ _ _ _ | hold _ _ _ _ | decide _ _ => false

variable {ask : Ask} {edit : AskEdit} (now : Nat)

theorem verdict_late (late : edit.late = true) (past : ask.status.isTerminal = true) :
    (edit.apply now ask).verdict = ask.verdict := by
  cases edit with
  | finish answer => exact congrArg Ask.verdict (Ask.finish_terminal past now answer)
  | fail error => exact congrArg Ask.verdict (Ask.fail_terminal past now error)
  | reportBack cited answer =>
    have kept := @Ask.finish_terminal { ask with answeredWithTool := true, cited := cited } past now answer
    exact (congrArg Ask.verdict kept).trans rfl
  | sent turnId => rfl
  | nudged turnId baselineItemId => rfl
  | deliver => rfl
  | fillIn peerThreadId peerProvider peerModel message baselineItemId askerProvider => cases late
  | hold peerThreadId peerProvider message request => cases late
  | decide decision chosen => cases late

end AskEdit

namespace AskWorld

variable {w : AskWorld} {move : AskMove} {id : String}

/-- A record is written when the id it has was never given out. -/
theorem fresh_of_insert (may : move.May w) {ask : Ask} (writes : Writes w move (.insert ask)) : ask.id ∉ w.issued := by
  cases writes with
  | accept stage => exact may.1
  | holdNew stage unnamed => exact may.1
  | recordNew stage unnamed => exact may.1

/-- Only what comes too late is written to an ask that was settled. -/
theorem Owned.late (owned : w.Owned) {ask : Ask} (found : w.asks.get id = some ask)
    (past : ask.status.isTerminal = true) {now : Nat} {edit : AskEdit} (writes : Writes w move (.edit now id edit)) :
    edit.late = true := by
  cases writes with
  | hold stage named peer message =>
    obtain ⟨live, there, working⟩ := owned.live _ _ id stage named rfl
    rw [found] at there
    cases there
    rw [past] at working
    cases working
  | record stage named live provider =>
    rw [live ask found] at past
    cases past
  | decide there awaiting decided chosen ran =>
    rw [found] at there
    cases there
    simp [Ask.awaitingModelDecision, past] at awaiting
  | _ => rfl

/-- One section leaves a settled ask with its verdict, or removes it. -/
theorem Owned.verdict_kept (owned : w.Owned) (may : move.May w) {ask after : Ask} (found : w.asks.get id = some ask)
    (past : ask.status.isTerminal = true) (still : (move.run w).asks.get id = some after) :
    after.verdict = ask.verdict ∧ after.status.isTerminal = true := by
  obtain ⟨writes, wrote⟩ := AskMove.wrote w move
  have issued := (owned.named id ask found).2
  have kept := wrote.row id (P := fun row => ∀ here, row = some here →
      here.verdict = ask.verdict ∧ here.status.isTerminal = true) ?_ ?_ ?_ ?_
  · exact kept after still
  · intro here there
    rw [found] at there
    cases there
    exact ⟨rfl, past⟩
  · intro _ _ _ _ here there
    cases there
  · intro new inserted named
    have fresh := fresh_of_insert may inserted
    rw [named] at fresh
    exact absurd issued fresh
  · intro here now edit granted holds later is
    cases is
    obtain ⟨same, settled⟩ := holds here rfl
    have verdict := AskEdit.verdict_late now (owned.late found past granted) settled
    refine ⟨verdict.trans same, ?_⟩
    have status : (edit.apply now here).status = here.status := congrArg Verdict.status verdict
    rw [status]
    exact settled

/-- A record that was removed does not come back. -/
theorem gone_stays (may : move.May w) (issued : id ∈ w.issued) (gone : w.asks.get id = none) :
    (move.run w).asks.get id = none := by
  obtain ⟨writes, wrote⟩ := AskMove.wrote w move
  refine wrote.row id (P := fun row => row = none) gone (fun _ _ _ holds => rfl) (fun ask inserted named => ?_) ?_
  · have fresh := fresh_of_insert may inserted
    rw [named] at fresh
    exact absurd issued fresh
  · intro ask now edit granted holds
    cases holds

theorem issued_grows (w : AskWorld) (move : AskMove) {id : String} (issued : id ∈ w.issued) : id ∈ (move.run w).issued := by
  obtain ⟨writes, wrote⟩ := AskMove.wrote w move
  rw [wrote.issued]
  exact List.mem_append_right _ issued

theorem reported_stopped (w : AskWorld) (now : Nat) (latest : Option Reply) (asks : List Ask) :
    (asks.foldl (fun w ask => w.endStopped now latest ask) w).reported = w.reported := by
  induction asks generalizing w with
  | nil => rfl
  | cons ask rest ih =>
    rw [List.foldl_cons, ih]
    unfold endStopped
    split <;> rfl

/-- A section reports nothing, or it hands one answer to the ask that its call had picked. -/
theorem reported_runTask (w : AskWorld) (k : Nat) (facts : AskFacts) (stage : AskTask) :
    (w.runTask k facts stage).reported = w.reported ∨
      ∃ id peer answer cited, stage = .committing id peer answer cited ∧
        (w.runTask k facts stage).reported =
          { askId := id, answer := answer, found := w.asks.get id } :: w.reported := by
  cases stage with
  | committing id peer answer cited =>
    refine .inr ⟨id, peer, answer, cited, rfl, ?_⟩
    simp only [runTask, reported_proceed]
  | stopped peer asks latest =>
    refine .inl ?_
    simp only [runTask, reported_proceed]
    exact reported_stopped w facts.now latest asks
  | choosing checked request existing chooser =>
    refine .inl ?_
    simp only [runTask]
    split <;> exact reported_proceed _ _ _
  | recording held peer baseline =>
    refine .inl ?_
    simp only [runTask, Bool.cond_eq_ite]
    split
    · exact reported_proceed _ _ _
    · cases held.existing <;> exact reported_proceed _ _ _
  | ensuring held provider model =>
    refine .inl ?_
    simp only [runTask, Bool.cond_eq_ite]
    split <;> exact reported_proceed _ _ _
  | prechecking _ _ | filling _ _ _ _ | holding _ _ _ | bringing _ _ _ | sending _ _ _ =>
    refine .inl ?_
    simp only [runTask]
    split <;> exact reported_proceed _ _ _
  | accepting _ _ | reading _ _ | landing _ _ | unsent _ _ _ | failing _ _ | stopping _ _ =>
    exact .inl (reported_proceed _ _ _)

theorem reported_deliver (w : AskWorld) (now : Nat) (ids : List String) :
    (ids.foldl (fun w id => w.update now id .deliver) w).reported = w.reported := by
  induction ids generalizing w with
  | nil => rfl
  | cons id rest ih => rw [List.foldl_cons, ih, update]

theorem reported_salvage (w : AskWorld) (now : Nat) (id : String) (salvaged : Option (String × String))
    (reason : String) : (w.salvage now id salvaged reason).reported = w.reported := by
  cases salvaged <;> rfl

theorem reported_runSweep (w : AskWorld) (facts : AskFacts) (stage : SweepStage) :
    (w.runSweep facts stage).reported = w.reported := by
  cases stage with
  | looking now todo =>
    cases todo with
    | nil => rfl
    | cons ask todo =>
      simp only [runSweep, Bool.cond_eq_ite]
      split <;> rfl
  | calling found askers =>
    cases askers with
    | nil => rfl
    | cons asker askers =>
      simp only [runSweep, Bool.cond_eq_ite]
      split <;> rfl
  | coldReading round provider turnId =>
    simp only [runSweep, readCold]
    split
    · rfl
    · split <;> rfl
  | marking found wake askers =>
    simp only [runSweep, Bool.cond_eq_ite]
    split
    · exact reported_deliver w facts.now wake.askIds
    · rfl
  | reading _ | nudging _ _ | composing _ _ _ =>
    simp only [runSweep]
    split <;> rfl
  | turnSettling _ _ _ | coldFailed _ _ _ | expiring _ _ => exact reported_salvage w _ _ _ _
  | idle | turnFailed _ _ | judging _ _ _ _ | matching _ _ _ | nudgeLanded _ _ _ | finishing _ _ | gathering
  | waking _ _ _ => rfl

/-- A move reports nothing, or it hands one answer to the ask that a call had picked. -/
theorem reported_run (w : AskWorld) (move : AskMove) : (move.run w).reported = w.reported ∨
    ∃ k facts id peer answer cited, move = .task k facts ∧ w.tasks.get k = some (.committing id peer answer cited) ∧
      (move.run w).reported = { askId := id, answer := answer, found := w.asks.get id } :: w.reported := by
  cases move with
  | task k facts =>
    simp only [AskMove.run]
    split
    · rename_i stage at_
      rcases reported_runTask w k facts stage with same | ⟨id, peer, answer, cited, rfl, same⟩
      · exact .inl same
      · exact .inr ⟨k, facts, id, peer, answer, cited, rfl, at_, same⟩
    · exact .inl rfl
  | delegate k asker request detached => exact .inl (reported_proceed _ _ _)
  | decide k id decision model scopeDevice facts =>
    refine .inl ?_
    simp only [AskMove.run]
    rcases @decide_cases w k facts id decision model scopeDevice with
      same | ⟨ask, decided, chosen, found, awaiting, ran, models, same⟩
    · rw [same]
    · rw [same]
      cases chosen with
      | none => rfl
      | some retry => exact reported_proceed _ _ _
  | reportBack k peer answer cited =>
    refine .inl ?_
    simp only [AskMove.run, reportBack, Bool.cond_eq_ite]
    split
    · rfl
    · split
      · rfl
      · exact reported_proceed _ _ _
  | stopPeer k peer =>
    refine .inl ?_
    simp only [AskMove.run, stopPeer]
    split
    · rfl
    · exact reported_proceed _ _ _
  | sweep facts => exact .inl (reported_runSweep w facts w.sweep)
  | turnStarts turnId => exact .inl rfl
  | rowWritten row => exact .inl rfl

/-- An ask that was settled, and what a later state has kept of it. -/
structure Settled (since : List Reported) (id : String) (ask : Ask) (w : AskWorld) : Prop where
  issued : id ∈ w.issued
  verdict : ∀ here, w.asks.get id = some here → here.verdict = ask.verdict ∧ here.status.isTerminal = true
  cited : (∀ here, w.asks.get id = some here → here.settlement = ask.settlement) ∨
    ∃ report ∈ since, report.askId = id ∧ ∃ found, report.found = some found ∧ found.status.isTerminal = true

/-- Without a report of its own, a section leaves a settled ask with all that its settlement says. -/
theorem Owned.settlement_kept (owned : w.Owned) (may : move.May w) {ask after : Ask} (found : w.asks.get id = some ask)
    (past : ask.status.isTerminal = true) (quiet : ∀ now edit, Writes w move (.edit now id edit) → edit.guarded = true)
    (still : (move.run w).asks.get id = some after) : after.settlement = ask.settlement := by
  obtain ⟨writes, wrote⟩ := AskMove.wrote w move
  have issued := (owned.named id ask found).2
  have kept := wrote.row id (P := fun row => ∀ here, row = some here →
      here.settlement = ask.settlement ∧ here.status.isTerminal = true) ?_ ?_ ?_ ?_
  · exact (kept after still).1
  · intro here there
    rw [found] at there
    cases there
    exact ⟨rfl, past⟩
  · intro _ _ _ _ here there
    cases there
  · intro new inserted named
    have fresh := fresh_of_insert may inserted
    rw [named] at fresh
    exact absurd issued fresh
  · intro here now edit granted holds later is
    cases is
    obtain ⟨same, settled⟩ := holds here rfl
    have kept := AskEdit.settlement_of_guarded now (quiet now edit granted) settled
    refine ⟨kept.trans same, ?_⟩
    have status : (edit.apply now here).status = here.status := congrArg Settlement.status kept
    rw [status]
    exact settled

/-- What comes too late for a settled ask is passed over, or is a report that its peer had under way. -/
theorem guarded_or_committing {now : Nat} {edit : AskEdit} (writes : Writes w move (.edit now id edit))
    (late : edit.late = true) : edit.guarded = true ∨
      ∃ k facts peer answer cited, move = .task k facts ∧ w.tasks.get k = some (.committing id peer answer cited) := by
  cases writes with
  | commit stage => exact .inr ⟨_, _, _, _, _, rfl, stage⟩
  | hold stage named peer message => cases late
  | record stage named live provider => cases late
  | decide found awaiting decided chosen ran => cases late
  | _ => exact .inl rfl

theorem Settled.step {since : List Reported} {ask : Ask} (settled : Settled since id ask w) (owned : w.Owned)
    (may : move.May w) :
    ∃ new, (move.run w).reported = new ++ w.reported ∧ Settled (new ++ since) id ask (move.run w) := by
  have issued := issued_grows w move settled.issued
  cases found : w.asks.get id with
  | none =>
    have gone := gone_stays may settled.issued found
    have empty {P : Ask → Prop} : ∀ here, (move.run w).asks.get id = some here → P here := by
      intro here there
      rw [gone] at there
      cases there
    rcases reported_run w move with same | ⟨k, facts, other, peer, answer, cited, rfl, at_, same⟩
    · exact ⟨[], same, issued, empty, .inl empty⟩
    · exact ⟨[_], same, issued, empty, .inl empty⟩
  | some here =>
    obtain ⟨verdict, past⟩ := settled.verdict here found
    have kept : ∀ after, (move.run w).asks.get id = some after →
        after.verdict = ask.verdict ∧ after.status.isTerminal = true := by
      intro after still
      obtain ⟨same, settled⟩ := owned.verdict_kept may found past still
      exact ⟨same.trans verdict, settled⟩
    have quiet (calm : ∀ now edit, Writes w move (.edit now id edit) → edit.guarded = true)
        (same : ∀ here, w.asks.get id = some here → here.settlement = ask.settlement) :
        ∀ after, (move.run w).asks.get id = some after → after.settlement = ask.settlement := by
      intro after still
      exact (owned.settlement_kept may found past calm still).trans (same here found)
    rcases reported_run w move with same | ⟨k, facts, other, peer, answer, cited, rfl, at_, same⟩
    · refine ⟨[], same, issued, kept, ?_⟩
      rcases settled.cited with cited | reported
      · refine .inl (quiet (fun now edit writes => ?_) cited)
        rcases guarded_or_committing writes (owned.late found past writes) with
          guarded | ⟨k, facts, peer, answer, cited, rfl, at_⟩
        · exact guarded
        · have grew : (AskMove.run w (.task k facts)).reported =
              { askId := id, answer := answer, found := w.asks.get id } :: w.reported := by
            simp only [AskMove.run, at_, runTask, reported_proceed]
          rw [grew] at same
          have length := congrArg List.length same
          rw [List.length_cons] at length
          omega
      · exact .inr reported
    · refine ⟨[_], same, issued, kept, ?_⟩
      rcases settled.cited with cited' | ⟨report, member, named⟩
      · by_cases its : other = id
        · subst its
          exact .inr ⟨_, List.mem_cons_self, rfl, here, found, past⟩
        · refine .inl (quiet (fun now edit writes => ?_) cited')
          rcases guarded_or_committing writes (owned.late found past writes) with
            guarded | ⟨k', facts', peer', answer', cited', same_move, at_'⟩
          · exact guarded
          · cases same_move
            rw [at_] at at_'
            cases at_'
            exact absurd rfl its
      · exact .inr ⟨report, List.mem_cons_of_mem _ member, named⟩

/-- A report that found its ask live is that ask's answer. -/
def Stands (w : AskWorld) (report : Reported) : Prop :=
  ∀ found, report.found = some found → found.status.isTerminal = false → report.askId ∈ w.issued ∧
    ∀ after, w.asks.get report.askId = some after → after.status = .done ∧ after.answer = some report.answer

theorem Stands.step {report : Reported} (stands : w.Stands report) (owned : w.Owned) (may : move.May w) :
    (move.run w).Stands report := by
  intro found was live
  obtain ⟨issued, kept⟩ := stands found was live
  refine ⟨issued_grows w move issued, fun after still => ?_⟩
  cases here : w.asks.get report.askId with
  | none =>
    rw [gone_stays may issued here] at still
    cases still
  | some before =>
    obtain ⟨done, answer⟩ := kept before here
    have past : before.status.isTerminal = true := by rw [done, AskStatus.isTerminal_done]
    have verdict := (owned.verdict_kept may here past still).1
    exact ⟨(congrArg Verdict.status verdict).trans done, (congrArg Verdict.answer verdict).trans answer⟩

theorem stands_of_committing (owned : w.Owned) {k : Nat} {facts : AskFacts} {peer answer : String} {cited : List String}
    (at_ : w.tasks.get k = some (.committing id peer answer cited)) :
    (AskMove.run w (.task k facts)).Stands { askId := id, answer := answer, found := w.asks.get id } := by
  intro found was live
  refine ⟨issued_grows w _ (owned.named id found was).2, fun after still => ?_⟩
  have written : (AskMove.run w (.task k facts)).asks = w.asks.updateAsk facts.now id (.reportBack cited answer) := by
    simp only [AskMove.run, at_, runTask, asks_proceed]
    rfl
  have edited := AskTable.get_updateAsk w.asks facts.now id id (.reportBack cited answer)
  have same : w.asks.get id = some found := was
  rw [if_pos rfl, same, ← written, still, Option.map_some] at edited
  have finished := @Ask.finish_live { found with answeredWithTool := true, cited := cited } live facts.now answer
  have is : after = { found with answeredWithTool := true, cited := cited }.finish answer facts.now :=
    Option.some.inj edited
  rw [is, finished]
  exact ⟨rfl, rfl⟩

end AskWorld

namespace Sample

def plain : AskFacts where
  freshId := "ask-2"
  freshThread := .ok "peer-2"

def brings : AskFacts where
  peerProvider := "codex"
  defaultModel := .ok "small"
  freshId := "ask-1"
  freshThread := .ok "peer-1"

/-- A session brings in a peer and hands it a task. -/
def sending : List AskMove :=
  [.delegate 0 "boss" { message := "find the bug", startedBy := .agent } false, .task 0 brings, .task 0 brings,
    .task 0 brings, .task 0 brings, .task 0 plain, .task 0 { brings with freshThread := .ok "peer-2" },
    .task 0 { plain with dispatched := .ok (some "turn-1") }, .task 0 plain]

/-- The peer answers through its tool. -/
def answering : List AskMove :=
  [.reportBack 1 "peer-1" "the cache" [], .task 1 plain]

def answered : AskWorld := (sending ++ answering).foldl AskMove.run .start

theorem answered_reached : AskReached answered :=
  Reaches.foldl (by decide +kernel)

/-- The sweep hands the answer back. -/
def waking : List AskMove := List.replicate 7 (.sweep plain)

def woken : AskWorld := waking.foldl AskMove.run answered

theorem woken_of_answered : Reaches AskMove.run (fun w move => move.May w) answered woken :=
  Reaches.foldl (by decide +kernel)

/-- The record as the answer finds it. -/
def asked : Ask where
  id := "ask-1"
  askerThreadId := "boss"
  askerProvider := none
  peerThreadId := "peer-1"
  peerProvider := "codex"
  peerModel := some "small"
  peerEffort := none
  message := "find the bug"
  baselineItemId := none
  startedBy := .agent
  turnId := some "turn-1"
  nudged := false
  answer := none
  cited := []
  status := .working
  error := none
  delivered := false
  cwd := ""
  askedAt := 0
  updatedAt := 0
  finishedAt := none
  answeredWithTool := false
  sentAt := some 0
  modelRequest := none

def done : Ask :=
  (AskEdit.reportBack [] "the cache").apply 0 asked

end Sample

/-- Once an ask is settled, its status, answer, error, peer and model request never change. The places it cites and the
mark of its peer's tool change only where a `report_back` that was under way finds it settled. -/
theorem settled_asks_stay_settled {w later : AskWorld} (reached : AskReached w)
    (run : Reaches AskMove.run (fun w move => move.May w) w later) {id : String} {ask after : Ask}
    (held : w.asks.get id = some ask) (past : ask.status.isTerminal = true) (still : later.asks.get id = some after) :
    after.verdict = ask.verdict ∧ ∃ since, later.reported = since ++ w.reported ∧
      (after.settlement = ask.settlement ∨ ∃ report ∈ since, report.askId = id ∧
        ∃ found, report.found = some found ∧ found.status.isTerminal = true) := by
  have along := run.invariant (P := fun v => v.Owned ∧
    ∃ since, v.reported = since ++ w.reported ∧ AskWorld.Settled since id ask v) ?_ ?_
  · obtain ⟨_, since, same, settled⟩ := along
    refine ⟨(settled.verdict after still).1, since, same, ?_⟩
    rcases settled.cited with cited | reported
    · exact .inl (cited after still)
    · exact .inr reported
  · refine ⟨reached.owned, [], rfl, (reached.owned.named id ask held).2, fun here there => ?_, .inl fun here there => ?_⟩
    · rw [held] at there
      cases there
      exact ⟨rfl, past⟩
    · rw [held] at there
      cases there
      rfl
  · rintro v move ⟨owned, since, same, settled⟩ may
    obtain ⟨new, grew, kept⟩ := settled.step owned may
    exact ⟨owned.step may, new ++ since, by rw [grew, same, List.append_assoc], kept⟩

theorem woken_stays_settled : { Sample.done with delivered := true }.verdict = Sample.done.verdict ∧
    ∃ since, Sample.woken.reported = since ++ Sample.answered.reported ∧
      ({ Sample.done with delivered := true }.settlement = Sample.done.settlement ∨
        ∃ report ∈ since, report.askId = "ask-1" ∧ ∃ found, report.found = some found ∧ found.status.isTerminal = true) :=
  settled_asks_stay_settled Sample.answered_reached Sample.woken_of_answered (by decide +kernel) (by decide +kernel)
    (by decide +kernel)

/-- A `report_back` that found its ask live has given it its answer, for good. -/
theorem reported_answers_stand {w : AskWorld} (reached : AskReached w) {report : Reported} (made : report ∈ w.reported)
    {found after : Ask} (was : report.found = some found) (live : found.status.isTerminal = false)
    (still : w.asks.get report.askId = some after) :
    after.status = .done ∧ after.answer = some report.answer := by
  have along := reached.invariant (P := fun v => v.Owned ∧ ∀ report ∈ v.reported, v.Stands report)
    ⟨AskWorld.start_owned, fun report made => absurd made List.not_mem_nil⟩ ?_
  · exact (along.2 report made found was live).2 after still
  · rintro v move ⟨owned, stands⟩ may
    refine ⟨owned.step may, fun report made => ?_⟩
    rcases AskWorld.reported_run v move with same | ⟨k, facts, id, peer, answer, cited, rfl, at_, same⟩
    · rw [same] at made
      exact (stands report made).step owned may
    · rw [same] at made
      rcases List.mem_cons.mp made with rfl | before
      · exact AskWorld.stands_of_committing owned at_
      · exact (stands report before).step owned may

theorem answered_report_stands : Sample.done.status = .done ∧ Sample.done.answer = some "the cache" :=
  @reported_answers_stand _ Sample.answered_reached
    { askId := "ask-1", answer := "the cache", found := some Sample.asked }
    (by decide +kernel) _ _ rfl rfl (by decide +kernel)

end Sealwire.Asks

import Sealwire.Requests.Waiters

namespace Sealwire.Requests

namespace RelayState

variable {boot : String} {s : RelayState} {d a : String} {record : WriteRecord} {nowMs : UInt64}

theorem openLedger_kept (held : s.writeRecord d a = some record) (kept : record.kept nowMs = true) (deviceId : String) :
    (s.openLedger deviceId nowMs).writeRecord d a = some record := by
  rw [openLedger_writeRecord, held]
  split
  · simp [Option.filter, kept]
  · rfl

/-- An attempt at the write itself, while its record is kept: it joins the waiters of a running write, or leaves the
record as it is. -/
theorem admitWrite_record {facts : SignedRequestFacts} (held : s.writeRecord facts.deviceId facts.actionId = some record)
    (kept : record.kept nowMs = true) :
    ((s.admitWrite boot facts nowMs).1.writeRecord facts.deviceId facts.actionId = some record ∧
      ∀ wait, (s.admitWrite boot facts nowMs).2 ≠ .inFlight wait) ∨
    ∃ finished waiters, record.state = .running finished waiters ∧
      (s.admitWrite boot facts nowMs).1.writeRecord facts.deviceId facts.actionId =
        some { record with state := .running finished (waiters + 1) } ∧
      (s.admitWrite boot facts nowMs).2 =
        .inFlight { finished := finished, ticket := waiters + 1, source := .writeLedger } := by
  obtain ⟨records, at_device⟩ := s.openLedger_records facts.deviceId nowMs
  have opened := openLedger_kept held kept facts.deviceId
  have at_action : records.get facts.actionId = some record := by simpa [writeRecord, at_device] using opened
  unfold admitWrite
  simp only [at_device, Option.getD_some, at_action]
  split
  · exact .inl ⟨held, by simp⟩
  split
  · exact .inl ⟨held, by simp⟩
  split
  · exact .inl ⟨opened, by simp⟩
  split
  · rename_i finished waiters running
    exact .inr ⟨finished, waiters, running, (putsRecord_setRecords _ _ _ at_device _).self, rfl⟩
  · left
    split
    · split <;> exact ⟨opened, by simp⟩
    · exact ⟨opened, by simp⟩

/-- An attempt at another write leaves the record as it is. -/
theorem AdmitWriteEffect.other {facts : SignedRequestFacts} {out : RelayState × RequestAdmission}
    (effect : AdmitWriteEffect s facts nowMs out) (held : s.writeRecord d a = some record) (kept : record.kept nowMs = true)
    (other : ¬(d = facts.deviceId ∧ a = facts.actionId)) : out.1.writeRecord d a = some record := by
  have opened := openLedger_kept held kept facts.deviceId
  cases effect with
  | untouched _ => exact held
  | opened _ => exact opened
  | joined _ _ _ puts => rw [puts, if_neg other, opened]
  | executed _ _ _ _ _ puts => rw [puts, if_neg other, opened]

theorem storeRemoteActionResult_woken (s : RelayState) (deviceId actionId : String) (result : CachedRemoteActionResult)
    (now : UInt64) : s.woken <+: (s.storeRemoteActionResult deviceId actionId result now).woken := by
  have trim (t : RelayState) : t.trimRemoteActionReplays.woken = t.woken := by
    unfold trimRemoteActionReplays
    split <;> rfl
  unfold storeRemoteActionResult
  simp only [notifyWaiters, trim]
  exact (List.prefix_append _ _).trans (List.prefix_append _ _)

/-- Completing the write finishes its record and wakes who waits, or does nothing to it. -/
theorem completeRemoteWrite_record (s : RelayState) (d a : String) (token : NotifyId) (result : CachedRemoteActionResult)
    (nowSecs nowMs : UInt64) {record : WriteRecord} (held : s.writeRecord d a = some record) :
    (s.completeRemoteWrite d a token result nowSecs nowMs).writeRecord d a = some record ∨
    ∃ waiters, record.state = .running token waiters ∧
      (s.completeRemoteWrite d a token result nowSecs nowMs).writeRecord d a =
        some { record with state := .done nowMs waiters } ∧
      token ∈ (s.completeRemoteWrite d a token result nowSecs nowMs).woken.drop s.woken.length := by
  obtain ⟨records, at_device, at_action⟩ := Option.bind_eq_some_iff.mp held
  unfold completeRemoteWrite
  simp only [at_device, at_action]
  split
  · exact .inl held
  rename_i finished waiters running
  split
  · exact .inl held
  rename_i same
  have same : token = finished := not_not.mp same
  subst same
  refine .inr ⟨waiters, running, ?_, ?_⟩
  · rw [writeRecord_notifyWaiters, (storeRemoteActionResult_sameBook _ _ _ _ _).writeRecord,
      (putsRecord_setRecords s d a at_device _).self]
  · obtain ⟨more, woken⟩ := (s.setRecords d (records.put a { record with state := .done nowMs waiters })
      ).storeRemoteActionResult_woken d a result nowSecs
    have woken : s.woken ++ more = _ := woken
    simp [notifyWaiters, ← woken]

/-- Completing another write leaves the record as it is. -/
theorem completeRemoteWrite_other {deviceId actionId : String} {token : NotifyId} {result : CachedRemoteActionResult}
    {nowSecs : UInt64} (held : s.writeRecord d a = some record) (other : ¬(deviceId = d ∧ actionId = a)) :
    (s.completeRemoteWrite deviceId actionId token result nowSecs nowMs).writeRecord d a = some record := by
  unfold completeRemoteWrite
  split
  · exact held
  rename_i records at_device
  split
  · exact held
  split
  · exact held
  split
  · exact held
  rw [writeRecord_notifyWaiters, (storeRemoteActionResult_sameBook _ _ _ _ _).writeRecord,
    putsRecord_setRecords s deviceId actionId at_device _ d a, if_neg fun same => other ⟨same.1.symm, same.2.symm⟩]
  exact held

theorem reserve_wait {s : RelayState} {deviceId actionId actionKind digest : String} {now : UInt64} {t : RelayState}
    {wait : RemoteActionWait}
    (reserves : s.reserveRemoteActionWithDigest deviceId actionId actionKind digest now = (t, .ok (.inFlight wait))) :
    wait.source = .resultCache := by
  unfold reserveRemoteActionWithDigest at reserves
  simp only at reserves
  split at reserves
  · cases reserves
  · split at reserves <;> cases reserves
    rfl
  · split at reserves <;> cases reserves

end RelayState

/-- What a call on the book does to the record of a write that is kept: nothing; or a retry joins its waiters under
the next ticket; or the call completes the write, and everyone who waits is woken. -/
inductive RecordStep (completes : NotifyId → Prop) (nowMs : UInt64) (record : WriteRecord) :
    Option WriteRecord → List Waiter → List NotifyId → Prop
  | same (woken : List NotifyId) : RecordStep completes nowMs record (some record) [] woken
  | joins (finished : NotifyId) (waiters : UInt64) (running : record.state = .running finished waiters)
      (woken : List NotifyId) :
      RecordStep completes nowMs record (some { record with state := .running finished (waiters + 1) })
        [{ wait := { finished := finished, ticket := waiters + 1, source := .writeLedger }
           point := .ticketed, notified := false }] woken
  | finishes (finished : NotifyId) (waiters : UInt64) (running : record.state = .running finished waiters)
      (woken : List NotifyId) (wakes : finished ∈ woken) (call : completes finished) :
      RecordStep completes nowMs record (some { record with state := .done nowMs waiters }) [] woken

theorem joined_none {d a : String} {attempt : Attempt}
    (none_waits : ∀ wait, attempt.admission = .inFlight wait → wait.source = .writeLedger →
      ¬(attempt.facts.deviceId = d ∧ attempt.facts.actionId = a)) : joined d a [attempt] = [] := by
  simp only [joined, List.filterMap_cons, List.filterMap_nil]
  split
  · rfl
  · rename_i x is
    split at is
    · rename_i wait decided
      split at is
      · rename_i own
        exact absurd own.2 (none_waits wait decided own.1)
      · cases is
    · cases is

theorem RecordStep.unjoined {completes : NotifyId → Prop} {nowMs : UInt64} {record : WriteRecord} {d a : String} {attempt : Attempt}
    {after : Option WriteRecord} {woken : List NotifyId} (held : after = some record)
    (none_waits : ∀ wait, attempt.admission = .inFlight wait → wait.source = .writeLedger →
      ¬(attempt.facts.deviceId = d ∧ attempt.facts.actionId = a)) :
    RecordStep completes nowMs record after (joined d a [attempt]) woken := by
  rw [held, joined_none none_waits]
  exact .same woken

section Calls

variable {boot d a : String} {s : RelayState} {record : WriteRecord} {nowMs : UInt64} {completes : NotifyId → Prop}

theorem admitOperation_recordStep {facts : SignedRequestFacts} {nowSecs : UInt64}
    (held : s.writeRecord d a = some record) (kept : record.kept nowMs = true) (woken : List NotifyId) :
    RecordStep completes nowMs record ((s.admitOperation boot facts nowMs nowSecs).1.writeRecord d a)
      (joined d a [{ facts := facts, admission := (s.admitOperation boot facts nowMs nowSecs).2 }]) woken := by
  have reserved := ((s.reserveRemoteActionWithDigest_sameBook facts.deviceId facts.actionId facts.actionKind
    facts.digest nowSecs).writeRecord d a).trans held
  cases kind : facts.requestClass with
  | untracked =>
    simp only [RelayState.admitOperation, kind]
    exact .unjoined held (by simp)
  | write =>
    simp only [RelayState.admitOperation, kind]
    by_cases own : d = facts.deviceId ∧ a = facts.actionId
    · obtain ⟨rfl, rfl⟩ := own
      rcases RelayState.admitWrite_record held kept with ⟨same, silent⟩ | ⟨finished, waiters, running, after, decided⟩
      · exact .unjoined same fun wait decided => absurd decided (silent wait)
      · rw [after, decided]
        have joins : RecordStep completes nowMs record _ _ woken := .joins finished waiters running woken
        simpa [joined] using joins
    · refine .unjoined ((s.admitWrite_effect boot facts nowMs).other held kept own) ?_
      intro wait _ _ same
      exact own ⟨same.1.symm, same.2.symm⟩
  | read | stream =>
    simp only [RelayState.admitOperation, kind]
    rcases reserve : s.reserveRemoteActionWithDigest facts.deviceId facts.actionId facts.actionKind facts.digest nowSecs
      with ⟨t, error | execute | ⟨result⟩ | ⟨wait⟩⟩
    all_goals rw [reserve] at reserved
    · exact .unjoined reserved (by simp)
    · simp only
      split
      · exact .unjoined reserved (by simp)
      · exact .unjoined reserved (by simp)
    · exact .unjoined reserved (by simp)
    · refine .unjoined reserved ?_
      intro other decided source
      cases decided
      rw [RelayState.reserve_wait reserve] at source
      cases source

theorem admitSigned_recordStep {facts : SignedRequestFacts} {nowSecs : UInt64}
    (held : s.writeRecord d a = some record) (kept : record.kept nowMs = true) (woken : List NotifyId) :
    RecordStep completes nowMs record ((s.admitSignedRequest boot facts nowMs nowSecs).1.writeRecord d a)
      (joined d a [{ facts := facts, admission := (s.admitSignedRequest boot facts nowMs nowSecs).2 }]) woken := by
  by_cases passes : ∃ session, RelayState.PassesChecks boot s facts nowMs session
  · obtain ⟨session, passes⟩ := passes
    cases fresh : session.seqIsUnused facts.seq with
    | false =>
      rw [RelayState.admitSignedRequest_duplicate passes fresh]
      exact .unjoined held (by simp)
    | true =>
      rw [RelayState.admitSignedRequest_answer passes fresh]
      have live : (s.withoutExpired nowMs).writeRecord d a = some record := held
      exact admitOperation_recordStep live kept woken
  · rw [RelayState.admitSignedRequest_reauthorize fun session h => passes ⟨session, h⟩]
    exact .unjoined held (by simp)

/-- The call completes the write under this reservation. -/
def BookCall.Completes (d a : String) (c : BookCall) (token : NotifyId) : Prop :=
  match c with
  | .complete deviceId actionId given _ _ => deviceId = d ∧ actionId = a ∧ given = token
  | _ => False

theorem BookCall.run_recordStep (boot : String) {c : BookCall} (keeps : c.KeepsDevice d) (held : s.writeRecord d a = some record)
    (kept : record.kept nowMs = true) :
    RecordStep (c.Completes d a) nowMs record ((c.run boot nowMs s).1.writeRecord d a) (joined d a (c.run boot nowMs s).2)
      ((c.run boot nowMs s).1.woken.drop s.woken.length) := by
  have still {after : Option WriteRecord} (same : after = some record) (woken : List NotifyId) :
      RecordStep (c.Completes d a) nowMs record after [] woken := same ▸ .same woken
  cases c with
  | openSession deviceId peerId sid nowSecs =>
    exact still ((s.openRequestSession_writeRecord boot deviceId peerId sid nowMs nowSecs d a).trans held) _
  | dropForPeer _ => exact still held _
  | dropExceptPeers _ => exact still held _
  | admitSigned facts nowSecs => exact admitSigned_recordStep held kept _
  | forget deviceId => exact still ((s.forgetRemoteRequestsForDevice_writeRecord keeps a).trans held) _
  | clear => exact keeps.elim
  | complete deviceId actionId token result nowSecs =>
    by_cases own : deviceId = d ∧ actionId = a
    · obtain ⟨rfl, rfl⟩ := own
      rcases s.completeRemoteWrite_record deviceId actionId token result nowSecs nowMs held with
        same | ⟨waiters, running, after, wakes⟩
      · exact still same _
      · simp only [BookCall.run]
        rw [after]
        exact .finishes token waiters running _ wakes ⟨rfl, rfl, rfl⟩
    · exact still (RelayState.completeRemoteWrite_other held own) _

end Calls

namespace Waiter

/-- The retry is woken, or will find so at its next look. -/
def Awake (x : Waiter) : Prop :=
  x.point = .woken ∨ x.registered = true ∧ x.notified = true

def Returned (x : Waiter) : Prop :=
  ∃ result, x.point = .returned result

def Answered (x : Waiter) : Prop :=
  ∃ result, x.point = .returned result ∧ result ≠ .nothing

theorem Answered.returned {x : Waiter} (answered : x.Answered) : x.Returned := by
  obtain ⟨result, at_, -⟩ := answered
  exact ⟨result, at_⟩

section Wake

variable (finished : List NotifyId) (x : Waiter)

@[simp] theorem wake_wait : (x.wake finished).wait = x.wait := by
  unfold wake
  split <;> rfl

@[simp] theorem wake_point : (x.wake finished).point = x.point := by
  unfold wake
  split <;> rfl

@[simp] theorem answered_wake : (x.wake finished).Answered ↔ x.Answered := by
  simp [Answered]

@[simp] theorem returned_wake : (x.wake finished).Returned ↔ x.Returned := by
  simp [Returned]

theorem Awake.wake {x : Waiter} (awake : x.Awake) : (x.wake finished).Awake := by
  rcases awake with woken | ⟨registered, notified⟩
  · exact .inl (by simpa using woken)
  · have same : (x.wake finished).registered = x.registered := by simp [Waiter.registered]
    refine .inr ⟨same.trans registered, ?_⟩
    unfold Waiter.wake
    split
    · rfl
    · exact notified

/-- Whoever has polled its future is woken by `notify_waiters`, or has returned. -/
theorem wake_subscribed {x : Waiter} {finished : List NotifyId} (subscribed : x.point ≠ .ticketed)
    (wakes : x.wait.finished ∈ finished) : (x.wake finished).Awake ∨ (x.wake finished).Returned := by
  cases at_ : x.point with
  | ticketed => exact absurd at_ subscribed
  | woken => exact .inl (.inl (by simpa using at_))
  | returned result => exact .inr ⟨result, by simpa using at_⟩
  | subscribed | notice | parked | elapsed =>
    exact .inl (.inr (by simp [wake, wakes, Waiter.registered, at_]))

end Wake

section Resume

variable {outcome : UInt64 → RelayState.WaitOutcome} {now : Nat} {x : Waiter}

@[simp] theorem resume_wait : (x.resume outcome now).wait = x.wait := by
  unfold resume
  repeat' split
  all_goals rfl

/-- A step answers only where the outcome is an answer. -/
theorem resume_answered (answered : (x.resume outcome now).Answered) :
    x.Answered ∨ outcome x.wait.ticket ≠ .superseded := by
  cases at_ : x.point with
  | returned result => exact .inl (by simpa [resume, at_] using answered)
  | woken =>
    right
    intro superseded
    obtain ⟨result, after, answers⟩ := answered
    simp only [resume, at_, superseded, WaiterPoint.returned.injEq] at after
    exact answers after.symm
  | ticketed | subscribed | notice | parked | elapsed =>
    obtain ⟨result, after, answers⟩ := answered
    simp only [resume, at_] at after
    repeat' split at after
    all_goals simp_all

/-- A retry that is awake goes on to answer, unless it gives up first. -/
theorem Awake.resume (awake : x.Awake) (answers : outcome x.wait.ticket ≠ .superseded)
    (holds : x.notified = true → x.point.givesUp now = false) :
    (x.resume outcome now).Awake ∨ (x.resume outcome now).Answered := by
  rcases awake with woken | ⟨registered, notified⟩
  · right
    cases learned : outcome x.wait.ticket with
    | result result => exact ⟨.result result, by simp [Waiter.resume, woken, learned]⟩
    | alreadyCompleted => exact ⟨.alreadyCompleted, by simp [Waiter.resume, woken, learned]⟩
    | superseded => exact absurd learned answers
  · left
    cases at_ : x.point with
    | ticketed | woken | returned => simp [Waiter.registered, at_] at registered
    | subscribed | parked => exact .inl (by simp [Waiter.resume, at_, notified])
    | notice giveUpAt => exact .inr (by simp [Waiter.resume, at_, notified, Waiter.registered])
    | elapsed giveUpAt =>
      have early : ¬giveUpAt ≤ now := by simpa [at_, WaiterPoint.givesUp] using holds notified
      exact .inr (by simp [Waiter.resume, at_, notified, Waiter.registered, early])

end Resume

end Waiter

/-- While the write runs nobody has answered; once it is done only the newest retry answers, and it is awake or has
returned. -/
def WriteState.Tends (waiters : List Waiter) : WriteState → Prop
  | .running finished count => ∀ x ∈ waiters, x.wait.finished = finished ∧ x.wait.ticket ≤ count ∧ ¬x.Answered
  | .done _ count => ∀ x ∈ waiters,
    (x.Answered → x.wait.ticket = count) ∧ (x.wait.ticket = count → x.Awake ∨ x.Returned)

def tickets (waiters : List Waiter) : List UInt64 :=
  waiters.map fun x => x.wait.ticket

theorem tickets_wake (waiters : List Waiter) (finished : List NotifyId) :
    tickets (waiters.map (Waiter.wake finished)) = tickets waiters := by
  simp [tickets]

theorem tickets_resume (waiters : List Waiter) (k : Nat) (outcome : UInt64 → RelayState.WaitOutcome) (now : Nat) :
    tickets (waiters.modify k (Waiter.resume outcome now)) = tickets waiters := by
  apply List.ext_getElem?
  intro j
  simp only [tickets, List.getElem?_map, List.getElem?_modify]
  cases waiters[j]? with
  | none => rfl
  | some x => by_cases same : k = j <;> simp [same]

namespace Waits

/-- The retries of the write are tended, and each has its own ticket. -/
structure Tended (d a : String) (w : Waits) : Prop where
  record : ∃ record, w.relay.writeRecord d a = some record ∧ record.state.Tends w.waiters
  distinct : (tickets w.waiters).Nodup

section Steps

variable {boot d a : String} {w : Waits}

theorem tends_wake {state : WriteState} {waiters : List Waiter} (tends : state.Tends waiters) (finished : List NotifyId) :
    state.Tends (waiters.map (Waiter.wake finished)) := by
  cases state with
  | running _ _ =>
    intro x member
    obtain ⟨old, there, rfl⟩ := List.mem_map.mp member
    simpa using tends old there
  | done _ _ =>
    intro x member
    obtain ⟨old, there, rfl⟩ := List.mem_map.mp member
    obtain ⟨only, awake⟩ := tends old there
    refine ⟨by simpa using only, ?_⟩
    intro newest
    rcases awake (by simpa using newest) with awake | returned
    · exact .inl (awake.wake finished)
    · exact .inr (by simpa using returned)

theorem Tended.book (tended : w.Tended d a) {call : BookCall} (scope : w.InScope d a (.book call))
    (meets : w.Meets d a (.book call)) : (w.step boot d a (.book call)).Tended d a := by
  obtain ⟨record, held, tends⟩ := tended.record
  obtain ⟨keeps, kept, left⟩ := scope
  have step := BookCall.run_recordStep boot keeps held (kept record held)
  simp only [Waits.step]
  generalize after : (call.run boot w.nowMs w.relay).1.writeRecord d a = next at step
  generalize joined d a (call.run boot w.nowMs w.relay).2 = more at step ⊢
  generalize (call.run boot w.nowMs w.relay).1.woken.drop w.relay.woken.length = finished at step ⊢
  cases step with
  | same =>
    refine ⟨⟨record, after, ?_⟩, ?_⟩
    · simpa using tends_wake tends finished
    · simpa [tickets_wake] using tended.distinct
  | joins notify count running =>
    rw [running] at tends
    have room : count.toNat + 1 < 2 ^ 64 := by simpa [running, WriteState.hasTicket] using left record held
    have next_ticket : (count + 1).toNat = count.toNat + 1 := by
      rw [UInt64.toNat_add]
      exact Nat.mod_eq_of_lt room
    have below (x : Waiter) (member : x ∈ w.waiters) : x.wait.ticket.toNat ≤ count.toNat :=
      UInt64.le_iff_toNat_le.mp (tends x member).2.1
    refine ⟨⟨_, after, ?_⟩, ?_⟩
    · intro x member
      rcases List.mem_append.mp member with old | new
      · obtain ⟨before, there, rfl⟩ := List.mem_map.mp old
        obtain ⟨same, le, silent⟩ := tends before there
        refine ⟨by simpa using same, ?_, by simpa using silent⟩
        rw [UInt64.le_iff_toNat_le, Waiter.wake_wait, next_ticket]
        exact Nat.le_succ_of_le (below before there)
      · cases List.mem_singleton.mp new
        refine ⟨rfl, UInt64.le_refl _, ?_⟩
        rintro ⟨result, at_, -⟩
        cases at_
    · simp only [tickets, List.map_append]
      rw [← tickets, tickets_wake]
      refine List.nodup_append.mpr ⟨tended.distinct, List.nodup_singleton _, ?_⟩
      intro ticket old other new same
      obtain ⟨before, there, rfl⟩ := List.mem_map.mp old
      rw [List.mem_singleton.mp new] at same
      have ticket := congrArg UInt64.toNat same
      rw [next_ticket] at ticket
      have le := below before there
      omega
  | finishes notify count running _ wakes call_ =>
    rw [running] at tends
    refine ⟨⟨_, after, ?_⟩, by simpa [tickets_wake] using tended.distinct⟩
    intro x member
    rw [List.append_nil] at member
    obtain ⟨before, there, rfl⟩ := List.mem_map.mp member
    obtain ⟨same, -, silent⟩ := tends before there
    refine ⟨fun answered => absurd (by simpa using answered) silent, ?_⟩
    intro newest
    cases call with
    | complete device action token result nowSecs =>
      obtain ⟨rfl, rfl, rfl⟩ := call_
      have newest : before.wait.ticket = count := by simpa using newest
      have subscribed := meets rfl rfl record held before there (by simp [running, WriteState.runsUnder, newest])
      exact Waiter.wake_subscribed subscribed (same ▸ wakes)
    | _ => exact call_.elim

theorem outcome_of_running {s : RelayState} {record : WriteRecord} {finished : NotifyId} {count : UInt64}
    (held : s.writeRecord d a = some record) (running : record.state = .running finished count) (ticket : UInt64) :
    s.remoteWriteWaitOutcome d a ticket = .superseded := by
  obtain ⟨actionKind, digest, opBoot, opT0, state⟩ := record
  subst running
  simp only [RelayState.writeRecord] at held
  simp only [RelayState.remoteWriteWaitOutcome, held]

theorem outcome_of_done {s : RelayState} {record : WriteRecord} {doneMs count : UInt64}
    (held : s.writeRecord d a = some record) (done : record.state = .done doneMs count) (ticket : UInt64) :
    s.remoteWriteWaitOutcome d a ticket ≠ .superseded ↔ ticket = count := by
  obtain ⟨actionKind, digest, opBoot, opT0, state⟩ := record
  subst done
  simp only [RelayState.writeRecord] at held
  simp only [RelayState.remoteWriteWaitOutcome, held]
  by_cases same : count = ticket
  · simp only [same, if_true, iff_true]
    split <;> simp
  · simp [same, Ne.symm same]

theorem Tended.resume (tended : w.Tended d a) {k : Nat} (meets : w.Meets d a (.resume k)) :
    (w.step boot d a (.resume k)).Tended d a := by
  obtain ⟨record, held, tends⟩ := tended.record
  have resumed {x : Waiter} (member : x ∈ (w.step boot d a (.resume k)).waiters) :
      x ∈ w.waiters ∨ ∃ old, w.waiters[k]? = some old ∧ x = old.resume (w.relay.remoteWriteWaitOutcome d a) w.now := by
    obtain ⟨j, at_j⟩ := List.mem_iff_getElem?.mp member
    simp only [Waits.step, List.getElem?_modify] at at_j
    obtain ⟨old, there, is⟩ := Option.map_eq_some_iff.mp at_j
    by_cases same : k = j
    · subst same
      exact .inr ⟨old, there, by simpa using is.symm⟩
    · have unchanged : old = x := by simpa [same] using is
      exact .inl (unchanged ▸ List.mem_of_getElem? there)
  refine ⟨⟨record, held, ?_⟩, ?_⟩
  · cases state : record.state with
    | running finished count =>
      rw [state] at tends
      intro x member
      rcases resumed member with old | ⟨old, at_k, rfl⟩
      · exact tends x old
      · obtain ⟨same, le, silent⟩ := tends old (List.mem_of_getElem? at_k)
        refine ⟨by simpa using same, by simpa using le, ?_⟩
        intro answered
        rcases Waiter.resume_answered answered with before | learned
        · exact silent before
        · exact learned (outcome_of_running held state _)
    | done doneMs count =>
      rw [state] at tends
      intro x member
      rcases resumed member with old | ⟨old, at_k, rfl⟩
      · exact tends x old
      · obtain ⟨only, awake⟩ := tends old (List.mem_of_getElem? at_k)
        refine ⟨?_, ?_⟩
        · intro answered
          rw [Waiter.resume_wait]
          rcases Waiter.resume_answered answered with before | learned
          · exact only before
          · exact (outcome_of_done held state _).mp learned
        · intro newest
          rw [Waiter.resume_wait] at newest
          rcases awake newest with awake | ⟨result, returned⟩
          · have newest_done : w.NewestOfDone d a old := ⟨record, held, by simp [state, WriteState.doneWith, newest]⟩
            have goes := awake.resume ((outcome_of_done held state _).mpr newest) (meets old at_k newest_done)
            exact goes.imp_right Waiter.Answered.returned
          · exact .inr ⟨result, by simp [Waiter.resume, returned]⟩
  · simpa only [Waits.step, tickets_resume] using tended.distinct

theorem Tended.step (tended : w.Tended d a) {event : WaitEvent} (scope : w.InScope d a event) (meets : w.Meets d a event) :
    (w.step boot d a event).Tended d a := by
  cases event with
  | book call => exact tended.book scope meets
  | resume k => exact tended.resume meets
  | cache cache => exact ⟨tended.record, tended.distinct⟩
  | tick later elapsed =>
    simp only [Waits.step]
    split
    · exact ⟨tended.record, tended.distinct⟩
    · exact tended

theorem tended_run (run : WaitRuns boot d a (fun w event => w.InScope d a event ∧ w.Meets d a event) w) :
    w.Tended d a := by
  induction run with
  | start w alone record finished held running =>
    refine ⟨⟨record, held, ?_⟩, ?_⟩
    · rw [running, alone]
      simp [WriteState.Tends]
    · simp [alone, tickets]
  | step run event is tended => exact tended.step is.1 is.2

theorem done_of_newest {x : Waiter} (newest : w.NewestOfDone d a x) :
    ∃ record doneMs, w.relay.writeRecord d a = some record ∧ record.state = .done doneMs x.wait.ticket := by
  obtain ⟨record, held, done⟩ := newest
  cases state : record.state with
  | running finished count => simp [state, WriteState.doneWith] at done
  | done doneMs count =>
    have same : count = x.wait.ticket := by simpa [state, WriteState.doneWith] using done
    exact ⟨record, doneMs, held, same ▸ state⟩

theorem outcome_of_newest {x : Waiter} (newest : w.NewestOfDone d a x) :
    w.relay.remoteWriteWaitOutcome d a x.wait.ticket ≠ .superseded := by
  obtain ⟨record, doneMs, held, done⟩ := done_of_newest newest
  exact (outcome_of_done held done _).mpr rfl

/-- Whoever holds the newest ticket of a write that is done is awake, or has returned. -/
theorem Tended.awake (tended : w.Tended d a) {x : Waiter} (member : x ∈ w.waiters) (newest : w.NewestOfDone d a x) :
    x.Awake ∨ x.Returned := by
  obtain ⟨record, held, tends⟩ := tended.record
  obtain ⟨other, doneMs, also, done⟩ := done_of_newest newest
  cases held.symm.trans also
  rw [done] at tends
  exact (tends x member).2 rfl

/-- And does not turn to nothing. -/
theorem Tended.not_nothing (tended : w.Tended d a) {event : WaitEvent} (meets : w.Meets d a event) {k : Nat} {x y : Waiter}
    (before : w.waiters[k]? = some x) (after : (w.step boot d a event).waiters[k]? = some y) (waits : ¬x.Returned)
    (newest : w.NewestOfDone d a x) : y.point ≠ .returned .nothing := by
  have awake := (tended.awake (List.mem_of_getElem? before) newest).resolve_right waits
  intro nothing
  have k_lt : k < w.waiters.length := (List.getElem?_eq_some_iff.mp before).1
  have still (same : y.point = x.point) : False := waits ⟨.nothing, same.symm.trans nothing⟩
  cases event with
  | cache cache => exact still (by rw [Option.some.inj (before.symm.trans after)])
  | tick later elapsed =>
    simp only [Waits.step] at after
    split at after
    · exact still (by rw [Option.some.inj (before.symm.trans after)])
    · exact still (by rw [Option.some.inj (before.symm.trans after)])
  | book call =>
    simp only [Waits.step] at after
    rw [List.getElem?_append_left (by simpa using k_lt), List.getElem?_map, before, Option.map_some, Option.some.injEq] at after
    exact still (by rw [← after, Waiter.wake_point])
  | resume j =>
    simp only [Waits.step, List.getElem?_modify, before, Option.map_eq_map, Option.map_some, Option.some.injEq] at after
    by_cases same : j = k
    · subst same
      simp only [if_true] at after
      have goes := awake.resume (outcome_of_newest newest) (meets x before newest)
      rw [after] at goes
      rcases goes with (woken | ⟨registered, -⟩) | ⟨result, returned, answers⟩
      · simp [nothing] at woken
      · simp [Waiter.registered, nothing] at registered
      · rw [nothing] at returned
        cases returned
        exact answers rfl
    · simp only [same, if_false] at after
      exact still (by rw [after])

/-- Two retries that answered are the same. -/
theorem Tended.one_answers (tended : w.Tended d a) {i j : Nat} {x y : Waiter} (at_i : w.waiters[i]? = some x)
    (at_j : w.waiters[j]? = some y) (first : x.Answered) (second : y.Answered) : i = j := by
  obtain ⟨record, held, tends⟩ := tended.record
  cases state : record.state with
  | running finished count =>
    rw [state] at tends
    exact absurd first (tends x (List.mem_of_getElem? at_i)).2.2
  | done doneMs count =>
    rw [state] at tends
    have ticket_x := (tends x (List.mem_of_getElem? at_i)).1 first
    have ticket_y := (tends y (List.mem_of_getElem? at_j)).1 second
    have i_lt : i < (tickets w.waiters).length := by
      simpa [tickets] using (List.getElem?_eq_some_iff.mp at_i).1
    refine (List.getElem?_inj i_lt tended.distinct).mp ?_
    simp [tickets, List.getElem?_map, at_i, at_j, ticket_x, ticket_y]

end Steps

end Waits

/-- While the record of a write is kept, if the write is not completed before the newest retry polls its future nor
between a retry's last look and its giving up: whoever holds the newest ticket is woken once the write is done, and
does not return nothing; and of all retries that wait at most one answers. -/
theorem newest_retry_answers {boot d a : String} {w : Waits}
    (run : WaitRuns boot d a (fun w event => w.InScope d a event ∧ w.Meets d a event) w) :
    (∀ x ∈ w.waiters, w.NewestOfDone d a x → x.Awake ∨ x.Returned) ∧
      (∀ event, w.Meets d a event → ∀ (k : Nat) (x y : Waiter), w.waiters[k]? = some x →
        (w.step boot d a event).waiters[k]? = some y → ¬x.Returned → w.NewestOfDone d a x →
          y.point ≠ .returned .nothing) ∧
      ∀ (i j : Nat) (x y : Waiter), w.waiters[i]? = some x → w.waiters[j]? = some y → x.Answered → y.Answered → i = j := by
  have tended := Waits.tended_run run
  refine ⟨fun x member newest => tended.awake member newest, ?_, ?_⟩
  · intro event meets k x y before after waits newest
    exact tended.not_nothing meets before after waits newest
  · intro i j x y at_i at_j first second
    exact tended.one_answers at_i at_j first second

section OneRetry

/-- The relay runs the phone's write, and nobody waits yet. -/
def writeRunning : Waits :=
  let opened := (BookCall.openSession "phone" "peer" "sid" 1).run "boot" 1000 relayWithPhone
  let sent := (BookCall.admitSigned (phoneAttempt .write 1) 1).run "boot" 1000 opened.1
  { relay := sent.1, nowMs := 1000, now := 0, waiters := [] }

def retryOfWrite : WaitEvent :=
  .book (.admitSigned (phoneAttempt .write 2) 1)

def writeCompletes : WaitEvent :=
  .book (.complete "phone" "action" 0 { actionKind := "kind", reply := "done" } 1)

def waitsAfter (events : List WaitEvent) : Waits :=
  events.foldl (Waits.step "boot" "phone" "action") writeRunning

theorem writeRunning_runs (allowed : Waits → WaitEvent → Prop) : WaitRuns "boot" "phone" "action" allowed writeRunning :=
  .start writeRunning rfl
    { actionKind := "kind", digest := "digest", opBoot := "boot", opT0 := 1000, state := .running 0 0 } 0 rfl rfl

/-- The retry is parked when the write completes: it is woken and answers. -/
theorem parked_retry_answers :
    (waitsAfter [retryOfWrite, .resume 0, .resume 0, .resume 0, writeCompletes, .resume 0]).waiters.map (·.point) =
        [.woken] ∧
      ∀ x ∈ (waitsAfter [retryOfWrite, .resume 0, .resume 0, .resume 0, writeCompletes, .resume 0]).waiters,
        (waitsAfter [retryOfWrite, .resume 0, .resume 0, .resume 0, writeCompletes, .resume 0]).NewestOfDone
          "phone" "action" x → x.Awake ∨ x.Returned := by
  refine ⟨by decide, ?_⟩
  have run := (writeRunning_runs fun w event => w.InScope "phone" "action" event ∧ w.Meets "phone" "action" event).along
    [retryOfWrite, .resume 0, .resume 0, .resume 0, writeCompletes, .resume 0] (by decide)
  exact (newest_retry_answers run).1

/-- The write completes after the retry got its ticket and before it polled its future. Nobody wakes it: it waits out
its two minutes and returns nothing, though the write is done and its ticket is the newest. -/
theorem unsubscribed_retry_returns_nothing :
    WaitRuns "boot" "phone" "action" (fun w event => w.InScope "phone" "action" event)
        (waitsAfter [retryOfWrite, writeCompletes, .resume 0, .resume 0, .resume 0, .tick 1000 120000, .resume 0,
          .resume 0]) ∧
      ∃ x ∈ (waitsAfter [retryOfWrite, writeCompletes, .resume 0, .resume 0, .resume 0, .tick 1000 120000, .resume 0,
          .resume 0]).waiters, x.point = .returned .nothing ∧
        (waitsAfter [retryOfWrite, writeCompletes, .resume 0, .resume 0, .resume 0, .tick 1000 120000, .resume 0,
          .resume 0]).NewestOfDone "phone" "action" x :=
  ⟨(writeRunning_runs _).along _ (by decide), by decide⟩

end OneRetry

end Sealwire.Requests

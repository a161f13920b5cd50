import Sealwire.Requests.Admission

namespace Sealwire.Requests

/-- How the state of a write on record may move during one call: it finishes at the
call's time, or stays what it is. -/
inductive WriteState.Follows (nowMs : UInt64) : WriteState → WriteState → Prop
  | stillRunning (finished finished' : NotifyId) (waiters waiters' : UInt64) :
      Follows nowMs (.running finished waiters) (.running finished' waiters')
  | finished (finished : NotifyId) (waiters waiters' : UInt64) :
      Follows nowMs (.running finished waiters) (.done nowMs waiters')
  | stillDone (doneMs waiters : UInt64) : Follows nowMs (.done doneMs waiters) (.done doneMs waiters)

theorem WriteState.Follows.refl (nowMs : UInt64) (state : WriteState) : state.Follows nowMs state := by
  cases state with
  | running finished waiters => exact .stillRunning _ _ _ _
  | done doneMs waiters => exact .stillDone _ _

/-- The record's retention is over. -/
def WriteRecord.RetentionOver (nowMs : UInt64) (record : WriteRecord) : Prop :=
  ∃ doneMs waiters, record.state = .done doneMs waiters ∧ doneMs.toNat + 600000 < nowMs.toNat

theorem WriteRecord.retentionOver_of_not_kept {nowMs : UInt64} {record : WriteRecord}
    (gone : record.kept nowMs = false) : record.RetentionOver nowMs := by
  unfold kept at gone
  split at gone
  · cases gone
  · rename_i doneMs waiters state
    refine ⟨doneMs, waiters, state, ?_⟩
    have late : ¬nowMs ≤ saturatingAdd doneMs writeRecordRetentionMs := by simpa using gone
    rw [le_saturatingAdd] at late
    have retention : writeRecordRetentionMs.toNat = 600000 := rfl
    omega

/-- What one call may do to the record of a write: keep it as the same operation, or
let it go once its retention is over. -/
def LedgerStep (nowMs : UInt64) (before after : Option WriteRecord) : Prop :=
  ∀ record, before = some record →
    (∃ next, after = some next ∧ next.opT0 = record.opT0 ∧ record.state.Follows nowMs next.state) ∨
      record.RetentionOver nowMs

theorem LedgerStep.same {nowMs : UInt64} {before after : Option WriteRecord} (same : after = before) :
    LedgerStep nowMs before after := by
  subst same
  intro record at_before
  exact .inl ⟨record, at_before, rfl, .refl nowMs record.state⟩

theorem LedgerStep.filter {nowMs : UInt64} {before after : Option WriteRecord}
    (step : LedgerStep nowMs (before.filter fun record => record.kept nowMs) after) :
    LedgerStep nowMs before after := by
  intro record at_before
  cases keep : record.kept nowMs with
  | false => exact .inr (WriteRecord.retentionOver_of_not_kept keep)
  | true => exact step record (Option.filter_eq_some_iff.mpr ⟨at_before, keep⟩)

namespace RelayState

theorem openLedger_writeRecord (s : RelayState) (deviceId : String) (nowMs : UInt64) (d a : String) :
    (s.openLedger deviceId nowMs).writeRecord d a =
      if d = deviceId then (s.writeRecord d a).filter (fun record => record.kept nowMs) else s.writeRecord d a := by
  unfold openLedger
  simp only [writeRecord_setRecords]
  split
  · rename_i same
    subst same
    simp only [RemoteRequestBook.pruneWrites, Table.get_modify, if_pos, writeRecord]
    cases s.remoteRequests.writes.get d with
    | none => simp
    | some records => simp [Table.get_retain]
  · rename_i other
    simp [writeRecord, RemoteRequestBook.pruneWrites, Table.get_modify, other]

theorem openLedger_step (s : RelayState) (deviceId : String) (nowMs : UInt64) (d a : String)
    {after : Option WriteRecord} (step : LedgerStep nowMs ((s.openLedger deviceId nowMs).writeRecord d a) after) :
    LedgerStep nowMs (s.writeRecord d a) after := by
  rw [openLedger_writeRecord] at step
  split at step
  · exact step.filter
  · exact step

/-- `t` is `s` with one record of the ledger replaced. -/
def PutsRecord (s t : RelayState) (deviceId actionId : String) (record : WriteRecord) : Prop :=
  ∀ d a, t.writeRecord d a = if d = deviceId ∧ a = actionId then some record else s.writeRecord d a

theorem putsRecord_setRecords (s : RelayState) (deviceId actionId : String) {records : Table String WriteRecord}
    (held : s.remoteRequests.writes.get deviceId = some records) (record : WriteRecord) :
    PutsRecord s (s.setRecords deviceId (records.put actionId record)) deviceId actionId record := by
  intro d a
  rw [writeRecord_setRecords]
  by_cases device : d = deviceId
  · subst device
    simp [Table.get_put, writeRecord, held]
  · simp [device]

/-- Everything the admission of a write may do to the ledger. Only the last case runs it. -/
inductive AdmitWriteEffect (s : RelayState) (facts : SignedRequestFacts) (nowMs : UInt64) :
    RelayState × RequestAdmission → Prop
  | untouched {decision : RequestAdmission} (still : ∀ token, decision ≠ .execute token) :
      AdmitWriteEffect s facts nowMs (s, decision)
  | opened {decision : RequestAdmission} (still : ∀ token, decision ≠ .execute token) :
      AdmitWriteEffect s facts nowMs (s.openLedger facts.deviceId nowMs, decision)
  | joined {t : RelayState} {decision : RequestAdmission} {record : WriteRecord} {finished : NotifyId}
      {waiters : UInt64} (still : ∀ token, decision ≠ .execute token)
      (held : (s.openLedger facts.deviceId nowMs).writeRecord facts.deviceId facts.actionId = some record)
      (running : record.state = .running finished waiters)
      (puts : PutsRecord (s.openLedger facts.deviceId nowMs) t facts.deviceId facts.actionId
        { record with state := .running finished (waiters + 1) }) :
      AdmitWriteEffect s facts nowMs (t, decision)
  | executed {t : RelayState} {decision : RequestAdmission} {record : WriteRecord} {finished : NotifyId}
      {waiters : UInt64}
      (free : (s.openLedger facts.deviceId nowMs).writeRecord facts.deviceId facts.actionId = none)
      (near : facts.opT0.toNat ≤ nowMs.toNat + 5000) (recent : nowMs.toNat ≤ facts.opT0.toNat + 300000)
      (identity : record.opT0 = facts.opT0) (running : record.state = .running finished waiters)
      (puts : PutsRecord (s.openLedger facts.deviceId nowMs) t facts.deviceId facts.actionId record) :
      AdmitWriteEffect s facts nowMs (t, decision)

theorem openLedger_records (s : RelayState) (deviceId : String) (nowMs : UInt64) :
    ∃ records, (s.openLedger deviceId nowMs).remoteRequests.writes.get deviceId = some records :=
  ⟨_, Table.get_put_self _ _ _⟩

theorem admitWrite_effect (boot : String) (s : RelayState) (facts : SignedRequestFacts) (nowMs : UInt64) :
    AdmitWriteEffect s facts nowMs (s.admitWrite boot facts nowMs) := by
  obtain ⟨records, at_device⟩ := s.openLedger_records facts.deviceId nowMs
  have at_action : (s.openLedger facts.deviceId nowMs).writeRecord facts.deviceId facts.actionId =
      records.get facts.actionId := by
    simp [writeRecord, at_device]
  unfold admitWrite
  simp only [at_device, Option.getD_some]
  split
  · refine .untouched ?_
    simp
  split
  · refine .untouched ?_
    simp
  rename_i clock
  rw [saturatingAdd_lt] at clock
  have allowance : remoteRequestMaxFutureMs.toNat = 5000 := rfl
  split
  · rename_i record held
    split
    · refine .opened ?_
      simp
    split
    · rename_i finished waiters running
      refine .joined ?_ (at_action.trans held) running (putsRecord_setRecords _ _ _ at_device _)
      simp
    · split
      · split <;> refine .opened ?_ <;> simp
      · refine .opened ?_
        simp
  · rename_i free
    split
    · refine .opened ?_
      simp
    rename_i recent
    rw [lt_saturatingSub] at recent
    have window : writeRetryWindowMs.toNat = 300000 := rfl
    split
    · refine .opened ?_
      simp
    · exact .executed (at_action.trans free) (by omega) (by omega)
        (by rfl) (by rfl) (putsRecord_setRecords _ _ _ at_device _)

theorem PutsRecord.self {s t : RelayState} {deviceId actionId : String} {record : WriteRecord}
    (puts : PutsRecord s t deviceId actionId record) : t.writeRecord deviceId actionId = some record := by
  rw [puts, if_pos ⟨rfl, rfl⟩]

theorem AdmitWriteEffect.step {s : RelayState} {facts : SignedRequestFacts} {nowMs : UInt64}
    {out : RelayState × RequestAdmission} (effect : AdmitWriteEffect s facts nowMs out) (d a : String) :
    LedgerStep nowMs (s.writeRecord d a) (out.1.writeRecord d a) := by
  cases effect with
  | untouched _ => exact .same rfl
  | opened _ => exact openLedger_step s _ nowMs d a (.same rfl)
  | joined _ held running puts =>
    refine openLedger_step s facts.deviceId nowMs d a ?_
    rw [puts]
    split
    · rename_i here
      rw [here.1, here.2, held]
      intro record same
      obtain rfl := Option.some.inj same
      refine .inl ⟨_, rfl, rfl, ?_⟩
      rw [running]
      exact .stillRunning _ _ _ _
    · exact .same rfl
  | executed free _ _ _ _ puts =>
    refine openLedger_step s facts.deviceId nowMs d a ?_
    rw [puts]
    split
    · rename_i here
      rw [here.1, here.2, free]
      intro record none_held
      cases none_held
    · exact .same rfl

theorem admitOperation_step (boot : String) (s : RelayState) (facts : SignedRequestFacts) (nowMs nowSecs : UInt64)
    (d a : String) :
    LedgerStep nowMs (s.writeRecord d a) ((s.admitOperation boot facts nowMs nowSecs).1.writeRecord d a) := by
  have reserved := (s.reserveRemoteActionWithDigest_sameBook facts.deviceId facts.actionId facts.actionKind
    facts.digest nowSecs).writeRecord d a
  unfold admitOperation
  rcases reserve : s.reserveRemoteActionWithDigest facts.deviceId facts.actionId facts.actionKind facts.digest nowSecs
    with ⟨t, decision⟩
  rw [reserve] at reserved
  cases facts.requestClass with
  | untracked => exact .same rfl
  | write => exact (s.admitWrite_effect boot facts nowMs).step d a
  | read | stream =>
    refine .same ?_
    rcases decision with _ | decision
    · exact reserved
    · cases decision with
      | execute => simp only; split <;> exact reserved
      | replay _ => exact reserved
      | inFlight _ => exact reserved

/-- A write the relay runs: nothing on record stands in its way, its start lies within
the retry window, and it is on record afterwards. -/
structure Executes (s t : RelayState) (facts : SignedRequestFacts) (nowMs : UInt64) : Prop where
  free : ∀ record, s.writeRecord facts.deviceId facts.actionId = some record → record.RetentionOver nowMs
  near : facts.opT0.toNat ≤ nowMs.toNat + 5000
  recent : nowMs.toNat ≤ facts.opT0.toNat + 300000
  recorded : ∃ record finished waiters, t.writeRecord facts.deviceId facts.actionId = some record ∧
    record.opT0 = facts.opT0 ∧ record.state = .running finished waiters

theorem AdmitWriteEffect.executes {s : RelayState} {facts : SignedRequestFacts} {nowMs : UInt64}
    {out : RelayState × RequestAdmission} (effect : AdmitWriteEffect s facts nowMs out) {token : NotifyId}
    (runs : out.2 = .execute token) : Executes s out.1 facts nowMs := by
  cases effect with
  | untouched still => exact absurd runs (still token)
  | opened still => exact absurd runs (still token)
  | joined still _ _ _ => exact absurd runs (still token)
  | @executed t decision record finished waiters free near recent identity running puts =>
    refine ⟨?_, near, recent, record, finished, waiters, puts.self, identity, running⟩
    intro old held
    rw [openLedger_writeRecord, if_pos rfl, held] at free
    exact WriteRecord.retentionOver_of_not_kept (by simpa [Option.filter] using free)

theorem admitSignedRequest_step (boot : String) (s : RelayState) (facts : SignedRequestFacts)
    (nowMs nowSecs : UInt64) (d a : String) :
    LedgerStep nowMs (s.writeRecord d a) ((s.admitSignedRequest boot facts nowMs nowSecs).1.writeRecord d a) := by
  by_cases passes : ∃ held, PassesChecks boot s facts nowMs held
  · obtain ⟨held, passes⟩ := passes
    cases fresh : held.seqIsUnused facts.seq with
    | false =>
      rw [admitSignedRequest_duplicate passes fresh]
      exact .same rfl
    | true =>
      rw [admitSignedRequest_answer passes fresh]
      exact admitOperation_step boot (s.withoutExpired nowMs) facts nowMs nowSecs d a
  · rw [admitSignedRequest_reauthorize fun held h => passes ⟨held, h⟩]
    exact .same rfl

theorem admitSignedRequest_executes {boot : String} {s : RelayState} {facts : SignedRequestFacts}
    {nowMs nowSecs : UInt64} {token : NotifyId} (write : facts.requestClass = .write)
    (runs : (s.admitSignedRequest boot facts nowMs nowSecs).2 = .execute token) :
    Executes s (s.admitSignedRequest boot facts nowMs nowSecs).1 facts nowMs := by
  by_cases passes : ∃ held, PassesChecks boot s facts nowMs held
  · obtain ⟨held, passes⟩ := passes
    cases fresh : held.seqIsUnused facts.seq with
    | false =>
      rw [admitSignedRequest_duplicate passes fresh] at runs
      cases runs
    | true =>
      rw [admitSignedRequest_answer passes fresh] at runs ⊢
      simp only [admitOperation, write] at runs ⊢
      have executes := ((s.withoutExpired nowMs).admitWrite_effect boot facts nowMs).executes runs
      exact ⟨executes.free, executes.near, executes.recent, executes.recorded⟩
  · rw [admitSignedRequest_reauthorize fun held h => passes ⟨held, h⟩] at runs
    cases runs

theorem completeRemoteWrite_step (s : RelayState) (deviceId actionId : String) (token : NotifyId)
    (result : CachedRemoteActionResult) (nowSecs nowMs : UInt64) (d a : String) :
    LedgerStep nowMs (s.writeRecord d a)
      ((s.completeRemoteWrite deviceId actionId token result nowSecs nowMs).writeRecord d a) := by
  unfold completeRemoteWrite
  split
  · exact .same rfl
  rename_i records at_device
  split
  · exact .same rfl
  rename_i record held
  split
  · exact .same rfl
  rename_i finished waiters running
  split
  · exact .same rfl
  simp only [writeRecord_notifyWaiters, (storeRemoteActionResult_sameBook _ _ _ _ _).writeRecord,
    putsRecord_setRecords s deviceId actionId at_device _ d a]
  split
  · rename_i here
    rw [here.1, here.2]
    intro old at_old
    obtain rfl : record = old := by simpa [writeRecord, at_device, held] using at_old
    refine .inl ⟨_, rfl, rfl, ?_⟩
    rw [running]
    exact .finished _ _ _
  · exact .same rfl

theorem forgetRemoteRequestsForDevice_writeRecord (s : RelayState) {deviceId d : String} (other : deviceId ≠ d)
    (a : String) : (s.forgetRemoteRequestsForDevice deviceId).writeRecord d a = s.writeRecord d a := by
  unfold forgetRemoteRequestsForDevice
  simp only
  split
  · simp only [writeRecord_notifyWaiters]
    simp [writeRecord, setSessions, Table.get_drop, other.symm]
  · rfl

theorem openRequestSession_writeRecord (boot : String) (s : RelayState) (deviceId peerId sid : String)
    (nowMs nowSecs : UInt64) (d a : String) :
    (s.openRequestSession boot deviceId peerId sid nowMs nowSecs).1.writeRecord d a = s.writeRecord d a := by
  unfold openRequestSession
  split <;> rfl

end RelayState

/-- The call neither revokes the device nor clears the book. -/
def BookCall.KeepsDevice (device : String) : BookCall → Prop
  | .forget deviceId => deviceId ≠ device
  | .clear => False
  | _ => True

theorem BookCall.run_step (boot : String) {device : String} {c : BookCall} (keeps : c.KeepsDevice device)
    (s : RelayState) (nowMs : UInt64) (a : String) :
    LedgerStep nowMs (s.writeRecord device a) ((c.run boot nowMs s).1.writeRecord device a) := by
  cases c with
  | openSession deviceId peerId sid nowSecs =>
    exact .same (s.openRequestSession_writeRecord boot deviceId peerId sid nowMs nowSecs device a)
  | dropForPeer _ => exact .same rfl
  | dropExceptPeers _ => exact .same rfl
  | admitSigned facts nowSecs => exact s.admitSignedRequest_step boot facts nowMs nowSecs device a
  | complete deviceId actionId token result nowSecs =>
    exact s.completeRemoteWrite_step deviceId actionId token result nowSecs nowMs device a
  | forget deviceId => exact .same (s.forgetRemoteRequestsForDevice_writeRecord keeps a)
  | clear => exact keeps.elim

theorem Elsewhere.writeRecord {s t : RelayState} (change : Elsewhere s t) (d a : String) :
    t.writeRecord d a = s.writeRecord d a := by
  cases change <;> rfl

/-- The operation this attempt made the relay run for the device, if it did. -/
def Attempt.executedWrite (device : String) (attempt : Attempt) : Option (String × UInt64) :=
  match attempt.admission with
  | .execute _ =>
    if attempt.facts.requestClass = .write ∧ attempt.facts.deviceId = device then
      some (attempt.facts.actionId, attempt.facts.opT0)
    else none
  | _ => none

def executedWrites (device : String) (attempts : List Attempt) : List (String × UInt64) :=
  attempts.filterMap fun attempt => attempt.executedWrite device

/-- An operation that ran stays on record until its start is too old for any retry. -/
def Remembered (s : RelayState) (device : String) (clock : UInt64) (op : String × UInt64) : Prop :=
  (∃ record, s.writeRecord device op.1 = some record ∧ record.opT0 = op.2 ∧
    match record.state with
    | .running _ _ => op.2.toNat ≤ clock.toNat + 5000
    | .done doneMs _ => op.2.toNat ≤ doneMs.toNat + 5000) ∨
  op.2.toNat + 300000 < clock.toNat

theorem Remembered.step {s t : RelayState} {device : String} {clock later : UInt64} {op : String × UInt64}
    (remembered : Remembered s device clock op) (forward : clock ≤ later)
    (ledger : LedgerStep later (s.writeRecord device op.1) (t.writeRecord device op.1)) :
    Remembered t device later op := by
  have ahead := UInt64.le_iff_toNat_le.mp forward
  rcases remembered with ⟨record, held, identity, within⟩ | expired
  · rcases ledger record held with ⟨next, at_next, same, follows⟩ | ⟨doneMs, waiters, state, past⟩
    · refine .inl ⟨next, at_next, same.trans identity, ?_⟩
      generalize record.state = old at follows within
      generalize next.state = new at follows
      cases follows <;> simp only at within ⊢ <;> omega
    · rw [state] at within
      simp only at within
      exact .inr (by omega)
  · exact .inr (by omega)

theorem Remembered.of_executes {s t : RelayState} {facts : SignedRequestFacts} {nowMs : UInt64}
    (executes : s.Executes t facts nowMs) :
    Remembered t facts.deviceId nowMs (facts.actionId, facts.opT0) := by
  obtain ⟨record, finished, waiters, held, identity, running⟩ := executes.recorded
  refine .inl ⟨record, held, identity, ?_⟩
  rw [running]
  exact executes.near

/-- A write is on record, or too old to be run, for every attempt at it that names this start. -/
def Covered (s : RelayState) (device : String) (clock : UInt64) (actionId : String) (t0 : Nat) : Prop :=
  (∃ record, s.writeRecord device actionId = some record ∧
    match record.state with
    | .running _ _ => t0 ≤ clock.toNat + 5000
    | .done doneMs _ => t0 ≤ doneMs.toNat + 5000) ∨
  t0 + 300000 < clock.toNat

theorem Covered.step {s t : RelayState} {device actionId : String} {clock later : UInt64} {t0 : Nat}
    (covered : Covered s device clock actionId t0) (forward : clock ≤ later)
    (ledger : LedgerStep later (s.writeRecord device actionId) (t.writeRecord device actionId)) :
    Covered t device later actionId t0 := by
  have ahead := UInt64.le_iff_toNat_le.mp forward
  rcases covered with ⟨record, held, within⟩ | expired
  · rcases ledger record held with ⟨next, at_next, -, follows⟩ | ⟨doneMs, waiters, state, past⟩
    · refine .inl ⟨next, at_next, ?_⟩
      generalize record.state = old at follows within
      generalize next.state = new at follows
      cases follows <;> simp only at within ⊢ <;> omega
    · rw [state] at within
      simp only at within
      exact .inr (by omega)
  · exact .inr (by omega)

theorem Covered.of_executes {s t : RelayState} {facts : SignedRequestFacts} {nowMs : UInt64} {t0 : Nat}
    (executes : s.Executes t facts nowMs) (near : t0 ≤ nowMs.toNat + 5000) :
    Covered t facts.deviceId nowMs facts.actionId t0 := by
  obtain ⟨record, finished, waiters, held, -, running⟩ := executes.recorded
  refine .inl ⟨record, held, ?_⟩
  rw [running]
  exact near

theorem Covered.not_executes {s t : RelayState} {facts : SignedRequestFacts} {clock nowMs : UInt64}
    (covered : Covered s facts.deviceId clock facts.actionId facts.opT0.toNat) (forward : clock ≤ nowMs) :
    ¬s.Executes t facts nowMs := by
  intro executes
  have recent := executes.recent
  have ahead := UInt64.le_iff_toNat_le.mp forward
  rcases covered with ⟨record, held, within⟩ | expired
  · obtain ⟨doneMs, waiters, state, past⟩ := executes.free record held
    rw [state] at within
    simp only at within
    omega
  · omega

theorem Remembered.covered {s : RelayState} {device : String} {clock : UInt64} {op : String × UInt64}
    (remembered : Remembered s device clock op) : Covered s device clock op.1 op.2.toNat := by
  rcases remembered with ⟨record, held, -, within⟩ | expired
  · exact .inl ⟨record, held, within⟩
  · exact .inr expired

theorem Remembered.not_executes {s t : RelayState} {facts : SignedRequestFacts} {clock nowMs : UInt64}
    (remembered : Remembered s facts.deviceId clock (facts.actionId, facts.opT0)) (forward : clock ≤ nowMs) :
    ¬s.Executes t facts nowMs :=
  remembered.covered.not_executes forward

theorem executedWrite_eq_some {device : String} {attempt : Attempt} {op : String × UInt64}
    (executed : attempt.executedWrite device = some op) :
    ∃ token, attempt.admission = .execute token ∧ attempt.facts.requestClass = .write ∧
      attempt.facts.deviceId = device ∧ op = (attempt.facts.actionId, attempt.facts.opT0) := by
  unfold Attempt.executedWrite at executed
  split at executed
  · rename_i token runs
    split at executed
    · rename_i own
      exact ⟨token, runs, own.1, own.2, (Option.some.inj executed).symm⟩
    · cases executed
  · cases executed

theorem executedWrites_single {device : String} {attempt : Attempt} {op : String × UInt64}
    (member : op ∈ executedWrites device [attempt]) :
    attempt.executedWrite device = some op ∧ executedWrites device [attempt] = [op] := by
  unfold executedWrites at member ⊢
  cases executed : attempt.executedWrite device with
  | none => simp [executed] at member
  | some other =>
    obtain rfl : op = other := by simpa [executed] using member
    simp [executed]

theorem BookCall.run_executes {boot device : String} {c : BookCall} {s : RelayState} {nowMs : UInt64}
    {op : String × UInt64} (executed : op ∈ executedWrites device (c.run boot nowMs s).2) :
    ∃ facts, facts.deviceId = device ∧ op = (facts.actionId, facts.opT0) ∧
      s.Executes (c.run boot nowMs s).1 facts nowMs ∧ executedWrites device (c.run boot nowMs s).2 = [op] := by
  cases c with
  | admitSigned facts nowSecs =>
    obtain ⟨runs, single⟩ := executedWrites_single executed
    obtain ⟨token, admission, write, own, identity⟩ := executedWrite_eq_some runs
    exact ⟨facts, own, identity, RelayState.admitSignedRequest_executes write admission, single⟩
  | _ => simp [executedWrites, run] at executed

/-- Everything the run executed for the device is remembered, and nothing ran twice. -/
theorem BookRun.remembers {boot device : String} {first s : RelayState} {clock : UInt64} {attempts : List Attempt}
    (run : BookRun boot (BookCall.KeepsDevice device) first s clock attempts) :
    (∀ op ∈ executedWrites device attempts, Remembered s device clock op) ∧
      (executedWrites device attempts).Nodup := by
  induction run with
  | start now => simp [executedWrites]
  | @call s now attempts run later forward c permitted ih =>
    obtain ⟨remembered, once⟩ := ih
    have kept (op : String × UInt64) (member : op ∈ executedWrites device attempts) :
        Remembered (c.run boot later s).1 device later op :=
      (remembered op member).step forward (c.run_step boot permitted s later op.1)
    have split : executedWrites device ((c.run boot later s).2 ++ attempts) =
        executedWrites device (c.run boot later s).2 ++ executedWrites device attempts := List.filterMap_append
    rw [split]
    rcases fresh : executedWrites device (c.run boot later s).2 with _ | ⟨op, rest⟩
    · exact ⟨kept, once⟩
    · obtain ⟨facts, rfl, rfl, executes, single⟩ := c.run_executes (fresh ▸ List.mem_cons_self)
      obtain rfl : rest = [] := by simpa [single] using fresh.symm
      have is_new : (facts.actionId, facts.opT0) ∉ executedWrites facts.deviceId attempts := fun earlier =>
        (remembered _ earlier).not_executes forward executes
      refine ⟨?_, List.nodup_cons.mpr ⟨is_new, once⟩⟩
      intro op member
      rcases List.mem_cons.mp member with rfl | earlier
      · exact .of_executes executes
      · exact kept op earlier
  | @elsewhere s now attempts run t change ih =>
    obtain ⟨remembered, once⟩ := ih
    exact ⟨fun op member => (remembered op member).step (UInt64.le_refl now) (.same (change.writeRecord device op.1)),
      once⟩

/-- A write operation runs at most once, whatever the phone sends and whatever the relay
forgets meanwhile. -/
theorem write_executes_at_most_once {boot device : String} {first s : RelayState} {clock : UInt64}
    {attempts : List Attempt} (run : BookRun boot (BookCall.KeepsDevice device) first s clock attempts) :
    (executedWrites device attempts).Nodup :=
  run.remembers.2

/-- The phone's write runs on its first attempt and not on the retry under the next number. -/
theorem write_and_retry_run_once :
    let opened := (BookCall.openSession "phone" "peer" "sid" 1).run "boot" 1000 relayWithPhone
    let sent := (BookCall.admitSigned (phoneAttempt .write 1) 1).run "boot" 1000 opened.1
    let retried := (BookCall.admitSigned (phoneAttempt .write 2) 1).run "boot" 2000 sent.1
    let attempts := retried.2 ++ (sent.2 ++ (opened.2 ++ []))
    (executedWrites "phone" attempts).Nodup ∧ executedWrites "phone" attempts = [("action", 1000)] := by
  intro opened sent retried attempts
  have start : BookRun "boot" (BookCall.KeepsDevice "phone") relayWithPhone relayWithPhone 1000 [] := .start 1000
  have first := start.call (c := .openSession "phone" "peer" "sid" 1) (UInt64.le_refl 1000) trivial
  have second := first.call (c := .admitSigned (phoneAttempt .write 1) 1) (UInt64.le_refl 1000) trivial
  have third : BookRun "boot" (BookCall.KeepsDevice "phone") relayWithPhone retried.1 2000 attempts :=
    second.call (c := .admitSigned (phoneAttempt .write 2) 1) (by decide) trivial
  exact ⟨write_executes_at_most_once third, by decide⟩

end Sealwire.Requests

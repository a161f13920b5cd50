import Sealwire.Requests.Calls

namespace Sealwire.Requests

namespace RelayState

/-- The session, boot, pairing and clock checks of an attempt. -/
structure PassesChecks (boot : String) (s : RelayState) (facts : SignedRequestFacts) (nowMs : UInt64)
    (session : RequestSession) : Prop where
  held : s.session facts.sid = some session
  live : nowMs < session.expiresMs
  device : session.deviceId = facts.deviceId
  peer : session.peerId = facts.peerId
  boot : facts.bootId = boot
  paired : facts.deviceId ∈ s.pairedDevices
  clock : clockIsBad facts nowMs = false

/-- The state every attempt starts from: expired sessions are gone. -/
def withoutExpired (s : RelayState) (nowMs : UInt64) : RelayState :=
  { s with remoteRequests := s.remoteRequests.pruneSessions nowMs }

theorem withoutExpired_session (s : RelayState) (nowMs : UInt64) (sid : String) :
    (s.withoutExpired nowMs).session sid = (s.session sid).filter fun session => nowMs < session.expiresMs :=
  Table.get_retain _ _ _

theorem admitWrite_session (boot : String) (s : RelayState) (facts : SignedRequestFacts) (nowMs : UInt64)
    (sid : String) : (s.admitWrite boot facts nowMs).1.session sid = s.session sid := by
  unfold admitWrite
  simp only
  repeat' split
  all_goals rfl

theorem admitOperation_session (boot : String) (s : RelayState) (facts : SignedRequestFacts) (nowMs nowSecs : UInt64)
    (sid : String) : (s.admitOperation boot facts nowMs nowSecs).1.session sid = s.session sid := by
  have reserved := (s.reserveRemoteActionWithDigest_sameBook facts.deviceId facts.actionId facts.actionKind
    facts.digest nowSecs).session sid
  unfold admitOperation
  rcases reserve : s.reserveRemoteActionWithDigest facts.deviceId facts.actionId facts.actionKind facts.digest nowSecs
    with ⟨t, decision⟩
  rw [reserve] at reserved
  cases facts.requestClass with
  | untracked => rfl
  | write => exact s.admitWrite_session boot facts nowMs sid
  | read | stream =>
    rcases decision with _ | decision
    · exact reserved
    · cases decision with
      | execute => simp only; split <;> exact reserved
      | replay _ => exact reserved
      | inFlight _ => exact reserved

theorem admitWrite_answered (boot : String) (s : RelayState) (facts : SignedRequestFacts) (nowMs : UInt64) :
    (s.admitWrite boot facts nowMs).2.answered = true := by
  unfold admitWrite
  simp only
  repeat' split
  all_goals rfl

theorem admitOperation_answered (boot : String) (s : RelayState) (facts : SignedRequestFacts)
    (nowMs nowSecs : UInt64) : (s.admitOperation boot facts nowMs nowSecs).2.answered = true := by
  unfold admitOperation
  cases facts.requestClass with
  | untracked => rfl
  | write => exact s.admitWrite_answered boot facts nowMs
  | read | stream =>
    rcases s.reserveRemoteActionWithDigest facts.deviceId facts.actionId facts.actionKind facts.digest nowSecs
      with ⟨t, _ | _ | _ | _⟩
    · rfl
    · simp only; split <;> rfl
    · rfl
    · rfl

/-- The three ways an attempt can go: a failed check, a number the session refuses,
or an answer that uses the number. -/
theorem admitSignedRequest_reauthorize {boot : String} {s : RelayState} {facts : SignedRequestFacts}
    {nowMs nowSecs : UInt64} (fails : ∀ session, ¬PassesChecks boot s facts nowMs session) :
    s.admitSignedRequest boot facts nowMs nowSecs = (s.withoutExpired nowMs, .reauthorize) := by
  unfold admitSignedRequest
  simp only
  split
  · rfl
  rename_i matching
  split
  · rfl
  rename_i clock
  simp only [Bool.or_eq_true, Bool.not_eq_true', decide_eq_true_eq, not_or, Bool.not_eq_false,
    Decidable.not_not] at matching
  obtain ⟨⟨matches_session, boot_ok⟩, paired⟩ := matching
  unfold sessionMatches at matches_session
  split at matches_session
  · rename_i session held
    have at_start := s.withoutExpired_session nowMs facts.sid
    rw [session_eq_get, withoutExpired, held] at at_start
    obtain ⟨present, live⟩ := Option.filter_eq_some_iff.mp at_start.symm
    simp only [Bool.and_eq_true, decide_eq_true_eq] at matches_session live
    exact absurd ⟨present, live, matches_session.1, matches_session.2, boot_ok, paired, by simpa using clock⟩
      (fails session)
  · cases matches_session

theorem PassesChecks.at_start {boot : String} {s : RelayState} {facts : SignedRequestFacts} {nowMs : UInt64}
    {session : RequestSession} (passes : PassesChecks boot s facts nowMs session) :
    (s.withoutExpired nowMs).session facts.sid = some session := by
  rw [withoutExpired_session, passes.held]
  simp [passes.live]

theorem PassesChecks.matched {boot : String} {s : RelayState} {facts : SignedRequestFacts} {nowMs : UInt64}
    {session : RequestSession} (passes : PassesChecks boot s facts nowMs session) :
    (s.withoutExpired nowMs).sessionMatches facts = true := by
  have start := passes.at_start
  rw [session_eq_get] at start
  simp [sessionMatches, start, passes.device, passes.peer]

theorem admitSignedRequest_duplicate {boot : String} {s : RelayState} {facts : SignedRequestFacts}
    {nowMs nowSecs : UInt64} {session : RequestSession} (passes : PassesChecks boot s facts nowMs session)
    (used : session.seqIsUnused facts.seq = false) :
    s.admitSignedRequest boot facts nowMs nowSecs = (s.withoutExpired nowMs, .duplicate) := by
  have start := passes.at_start
  have matched := passes.matched
  rw [session_eq_get] at start
  unfold withoutExpired at start matched ⊢
  simp [admitSignedRequest, start, matched, passes.boot, passes.paired, passes.clock, used]

theorem admitSignedRequest_answer {boot : String} {s : RelayState} {facts : SignedRequestFacts}
    {nowMs nowSecs : UInt64} {session : RequestSession} (passes : PassesChecks boot s facts nowMs session)
    (unused : session.seqIsUnused facts.seq = true) :
    s.admitSignedRequest boot facts nowMs nowSecs =
      (((s.withoutExpired nowMs).admitOperation boot facts nowMs nowSecs).1.useSessionSeq facts.sid facts.seq,
        ((s.withoutExpired nowMs).admitOperation boot facts nowMs nowSecs).2) := by
  have start := passes.at_start
  have matched := passes.matched
  rw [session_eq_get] at start
  unfold withoutExpired at start matched ⊢
  simp [admitSignedRequest, start, matched, passes.boot, passes.paired, passes.clock, unused]

end RelayState

end Sealwire.Requests

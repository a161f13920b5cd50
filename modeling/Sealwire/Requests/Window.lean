import Mathlib.Data.Finset.Image
import Sealwire.Lib.ReplayWindow
import Sealwire.Requests.Admission

namespace Sealwire.Requests

/-- The session's sequence memory, as a replay window over the naturals. -/
def RequestSession.window (session : RequestSession) : ReplayWindow where
  high := session.highSeq.toNat
  used := session.used.image UInt64.toNat

theorem RequestSession.seqIsUnused_iff (session : RequestSession) (seq : UInt64) :
    session.seqIsUnused seq = true ↔ session.window.Fresh 256 seq.toNat := by
  have member : seq.toNat ∈ session.window.used ↔ seq ∈ session.used := by
    simp [window, UInt64.toNat_inj]
  unfold seqIsUnused ReplayWindow.Fresh
  rw [member]
  by_cases zero : seq = 0
  · simp [zero]
  have nonzero : seq.toNat ≠ 0 := fun h => zero (UInt64.toNat_inj.mp h)
  rw [if_neg zero]
  by_cases above : session.highSeq < seq
  · rw [if_pos above]
    simp [nonzero, window, UInt64.lt_iff_toNat_lt.mp above]
  · rw [if_neg above]
    have below : seq ≤ session.highSeq := UInt64.not_lt.mp above
    have apart : session.highSeq - seq < requestSeqWindow ↔ session.highSeq.toNat - seq.toNat < 256 := by
      rw [UInt64.lt_iff_toNat_lt, UInt64.toNat_sub_of_le _ _ below]
      rfl
    have still : ¬session.highSeq.toNat < seq.toNat := fun h => above (UInt64.lt_iff_toNat_lt.mpr h)
    simp [nonzero, window, still, apart]

theorem RequestSession.window_useSeq (session : RequestSession) (seq : UInt64) :
    (session.useSeq seq).window = session.window.take 256 seq.toNat := by
  have top := toNat_max session.highSeq seq
  have inside (m : UInt64) : saturatingSub (max session.highSeq seq) (requestSeqWindow - 1) ≤ m ↔
      max session.highSeq.toNat seq.toNat < m.toNat + 256 := by
    rw [UInt64.le_iff_toNat_le, toNat_saturatingSub, top]
    have width : (requestSeqWindow - 1).toNat = 255 := rfl
    omega
  unfold window ReplayWindow.take useSeq
  simp only [top, ReplayWindow.mk.injEq, true_and]
  ext n
  simp only [Finset.mem_image, Finset.mem_filter, Finset.mem_insert, inside]
  constructor
  · rintro ⟨m, ⟨rfl | earlier, near⟩, rfl⟩
    · exact ⟨.inl rfl, near⟩
    · exact ⟨.inr ⟨m, earlier, rfl⟩, near⟩
  · rintro ⟨rfl | ⟨m, earlier, rfl⟩, near⟩
    · exact ⟨seq, ⟨.inl rfl, near⟩, rfl⟩
    · exact ⟨m, ⟨.inr earlier, near⟩, rfl⟩

namespace RelayState

theorem evictOldestSessions_get {rounds : Nat} {sessions : Table String RequestSession} {deviceId sid : String}
    {session : RequestSession} (found : (evictOldestSessions rounds sessions deviceId).get sid = some session) :
    sessions.get sid = some session := by
  induction rounds generalizing sessions with
  | zero => exact found
  | succ rounds ih =>
    unfold evictOldestSessions at found
    split at found
    · split at found
      · exact Table.get_of_get_drop (ih found)
      · exact found
    · exact found

theorem openRequestSession_session {boot : String} {s : RelayState} {deviceId peerId drawn sid : String}
    {nowMs nowSecs : UInt64} {session : RequestSession} (other : sid ≠ drawn)
    (found : (s.openRequestSession boot deviceId peerId drawn nowMs nowSecs).1.session sid = some session) :
    s.session sid = some session := by
  unfold openRequestSession at found
  split at found
  · exact found
  · simp only [session_setSessions, Table.get_put_ne _ _ other] at found
    have unexpired := Table.get_of_get_retain (evictOldestSessions_get found)
    exact Table.get_of_get_retain unexpired

theorem completeRemoteWrite_session (s : RelayState) (deviceId actionId : String) (token : NotifyId)
    (result : CachedRemoteActionResult) (nowSecs nowMs : UInt64) (sid : String) :
    (s.completeRemoteWrite deviceId actionId token result nowSecs nowMs).session sid = s.session sid := by
  unfold completeRemoteWrite
  split
  · rfl
  split
  · rfl
  split
  · rfl
  split
  · rfl
  · exact (storeRemoteActionResult_sameBook _ deviceId actionId result nowSecs).session sid

theorem forgetRemoteRequestsForDevice_session {s : RelayState} {deviceId sid : String} {session : RequestSession}
    (found : (s.forgetRemoteRequestsForDevice deviceId).session sid = some session) :
    s.session sid = some session := by
  unfold forgetRemoteRequestsForDevice at found
  simp only at found
  split at found <;> exact Table.get_of_get_retain found

theorem admitSignedRequest_session {boot : String} {s : RelayState} {facts : SignedRequestFacts}
    {nowMs nowSecs : UInt64} {sid : String} {session : RequestSession}
    (found : (s.admitSignedRequest boot facts nowMs nowSecs).1.session sid = some session) :
    ∃ before, s.session sid = some before ∧ session =
      if facts.sid = sid ∧ (s.admitSignedRequest boot facts nowMs nowSecs).2.answered = true then
        before.useSeq facts.seq else before := by
  have unchanged {t : RelayState} (at_t : t = s.withoutExpired nowMs) (here : t.session sid = some session) :
      s.session sid = some session := by
    rw [at_t] at here
    exact Table.get_of_get_retain here
  by_cases passes : ∃ held, PassesChecks boot s facts nowMs held
  · obtain ⟨held, passes⟩ := passes
    cases fresh : held.seqIsUnused facts.seq with
    | false =>
      rw [admitSignedRequest_duplicate passes fresh] at found ⊢
      exact ⟨session, unchanged rfl found, by simp [RequestAdmission.answered]⟩
    | true =>
      rw [admitSignedRequest_answer passes fresh] at found ⊢
      rw [admitOperation_answered]
      have kept := admitOperation_session boot (s.withoutExpired nowMs) facts nowMs nowSecs sid
      unfold useSessionSeq at found
      rw [session_setSessions, Table.get_modify] at found
      by_cases same : facts.sid = sid
      · subst same
        rw [if_pos rfl, ← session_eq_get, kept, passes.at_start] at found
        exact ⟨held, passes.held, by simpa using found.symm⟩
      · rw [if_neg (fun h => same h.symm), ← session_eq_get, kept] at found
        exact ⟨session, unchanged rfl found, by simp [same]⟩
  · rw [admitSignedRequest_reauthorize (fun held h => passes ⟨held, h⟩)] at found ⊢
    exact ⟨session, unchanged rfl found, by simp [RequestAdmission.answered]⟩

end RelayState

/-- The numbers used by the answered attempts under the session, latest first. -/
def consumedBy (sid : String) (attempts : List Attempt) : List UInt64 :=
  (attempts.filter fun attempt => attempt.facts.sid = sid && attempt.admission.answered).map (·.facts.seq)

theorem consumedBy_append (sid : String) (later earlier : List Attempt) :
    consumedBy sid (later ++ earlier) = consumedBy sid later ++ consumedBy sid earlier := by
  simp [consumedBy]

def BookCall.Opens (sid : String) : BookCall → Prop
  | .openSession _ _ drawn _ => drawn = sid
  | _ => False

def useSeqs (session : RequestSession) (seqs : List UInt64) : RequestSession :=
  seqs.foldr (fun seq held => held.useSeq seq) session

/-- A call on the book leaves a session it does not open as it is, drops it, or uses the
number it answered. -/
theorem BookCall.run_session {boot sid : String} {c : BookCall} (other : ¬c.Opens sid) {s : RelayState}
    {nowMs : UInt64} {session : RequestSession} (found : (c.run boot nowMs s).1.session sid = some session) :
    ∃ before, s.session sid = some before ∧ session = useSeqs before (consumedBy sid (c.run boot nowMs s).2) := by
  cases c with
  | openSession deviceId peerId drawn nowSecs =>
    exact ⟨session, RelayState.openRequestSession_session (fun h => other h.symm) found, rfl⟩
  | dropForPeer peerId => exact ⟨session, Table.get_of_get_retain found, rfl⟩
  | dropExceptPeers online => exact ⟨session, Table.get_of_get_retain found, rfl⟩
  | admitSigned facts nowSecs =>
    obtain ⟨before, held, after⟩ := RelayState.admitSignedRequest_session found
    refine ⟨before, held, ?_⟩
    rw [after]
    by_cases own : facts.sid = sid <;>
      cases answer : (s.admitSignedRequest boot facts nowMs nowSecs).2.answered <;>
      simp [run, consumedBy, useSeqs, own, answer]
  | complete deviceId actionId token result nowSecs =>
    rw [run, RelayState.completeRemoteWrite_session] at found
    exact ⟨session, found, rfl⟩
  | forget deviceId => exact ⟨session, RelayState.forgetRemoteRequestsForDevice_session found, rfl⟩
  | clear => simp [run, RelayState.session_eq_get] at found

theorem Elsewhere.session {s t : RelayState} (change : Elsewhere s t) (sid : String) : t.session sid = s.session sid := by
  cases change with
  | cache _ => rfl
  | pairing _ => rfl
  | rehash sessions same => exact (Table.get_perm same sid).symm

def seqSet (seqs : List UInt64) : Set Nat := {n | ∃ seq ∈ seqs, seq.toNat = n}

theorem mem_seqSet {seqs : List UInt64} {seq : UInt64} : seq.toNat ∈ seqSet seqs ↔ seq ∈ seqs := by
  simp [seqSet, UInt64.toNat_inj]

theorem seqSet_cons (seq : UInt64) (seqs : List UInt64) : seqSet (seq :: seqs) = insert seq.toNat (seqSet seqs) := by
  ext n
  simp [seqSet, eq_comm]

theorem tracks_useSeqs {session : RequestSession} {earlier : List UInt64}
    (tracks : session.window.Tracks 256 (seqSet earlier)) (seqs : List UInt64) :
    (useSeqs session seqs).window.Tracks 256 (seqSet (seqs ++ earlier)) := by
  induction seqs with
  | nil => exact tracks
  | cons seq seqs ih =>
    rw [List.cons_append, seqSet_cons]
    change ((useSeqs session seqs).useSeq seq).window.Tracks 256 _
    rw [RequestSession.window_useSeq]
    exact ih.take seq.toNat

theorem openRequestSession_opened {boot deviceId peerId sid : String} {s t : RelayState} {nowMs nowSecs : UInt64}
    {grant : RequestSessionGrant}
    (opened : s.openRequestSession boot deviceId peerId sid nowMs nowSecs = (t, .ok grant)) :
    ∃ session, t.session sid = some session ∧ session.highSeq = 0 ∧ session.used = ∅ := by
  unfold RelayState.openRequestSession at opened
  split at opened
  · cases opened
  · obtain ⟨rfl, -⟩ := Prod.mk.inj opened
    exact ⟨_, Table.get_put_self _ _ _, rfl, rfl⟩

/-- While the session is held, its memory tracks every number it ever consumed. -/
theorem BookRun.tracks {boot sid : String} {t u : RelayState} {clock : UInt64} {attempts : List Attempt}
    (fresh : ∃ session, t.session sid = some session ∧ session.highSeq = 0 ∧ session.used = ∅)
    (run : BookRun boot (fun c => ¬c.Opens sid) t u clock attempts) {session : RequestSession}
    (held : u.session sid = some session) : session.window.Tracks 256 (seqSet (consumedBy sid attempts)) := by
  induction run generalizing session with
  | start now =>
    obtain ⟨first, at_first, high, used⟩ := fresh
    obtain rfl : first = session := Option.some.inj (at_first.symm.trans held)
    have blank : first.window = { high := 0, used := ∅ } := by
      simp [RequestSession.window, high, used]
    have nothing : seqSet (consumedBy sid []) = ∅ := by simp [seqSet, consumedBy]
    rw [blank, nothing]
    exact ReplayWindow.tracks_empty 256
  | call run forward permitted ih =>
    obtain ⟨before, at_before, rfl⟩ := BookCall.run_session permitted held
    rw [consumedBy_append]
    exact tracks_useSeqs (ih at_before) _
  | elsewhere run change ih => exact ih ((change.session sid).symm.trans held)

/-- Along the whole life of a session, its pruned memory answers like the full history. -/
theorem admission_decides_like_full_history {boot deviceId peerId sid : String} {s t u : RelayState}
    {openMs openSecs clock : UInt64} {grant : RequestSessionGrant} {attempts : List Attempt}
    (opened : s.openRequestSession boot deviceId peerId sid openMs openSecs = (t, .ok grant))
    (run : BookRun boot (fun c => ¬c.Opens sid) t u clock attempts)
    {facts : SignedRequestFacts} (under : facts.sid = sid) (nowMs nowSecs : UInt64) :
    let consumed := consumedBy sid attempts
    let outcome := u.admitSignedRequest boot facts nowMs nowSecs
    ((∃ session, u.PassesChecks boot facts nowMs session) →
      (outcome.2 = .duplicate ↔
        facts.seq = 0 ∨ facts.seq ∈ consumed ∨ ∃ m ∈ consumed, facts.seq.toNat + 256 ≤ m.toNat)) ∧
    ((∃ session, u.PassesChecks boot facts nowMs session) → outcome.2 ≠ .duplicate → outcome.2.answered = true) ∧
    (outcome.2.answered = true →
      ∃ session, u.session sid = some session ∧ outcome.1.session sid = some (session.useSeq facts.seq) ∧
        (session.useSeq facts.seq).window.Tracks 256 (seqSet (facts.seq :: consumed))) ∧
    (outcome.2 = .reauthorize ∨ outcome.2 = .duplicate →
      outcome.1 = u.withoutExpired nowMs ∧ outcome.1.remoteRequests.writes = u.remoteRequests.writes ∧
        outcome.1.recentRemoteActions = u.recentRemoteActions) := by
  intro consumed outcome
  subst under
  by_cases passes : ∃ session, u.PassesChecks boot facts nowMs session
  · obtain ⟨session, passes⟩ := passes
    have tracks : session.window.Tracks 256 (seqSet consumed) :=
      run.tracks (openRequestSession_opened opened) passes.held
    have refused : session.seqIsUnused facts.seq = false ↔
        facts.seq = 0 ∨ facts.seq ∈ consumed ∨ ∃ m ∈ consumed, facts.seq.toNat + 256 ≤ m.toNat := by
      rw [← Bool.not_eq_true, RequestSession.seqIsUnused_iff, tracks.not_fresh_iff, ReplayWindow.Refused, mem_seqSet]
      simp [seqSet, ← UInt64.toNat_inj]
    cases unused : session.seqIsUnused facts.seq with
    | false =>
      have duplicate : outcome = (u.withoutExpired nowMs, .duplicate) :=
        RelayState.admitSignedRequest_duplicate passes unused
      rw [duplicate]
      exact ⟨fun _ => iff_of_true rfl (refused.mp unused), fun _ h => absurd rfl h, fun h => (by cases h),
        fun _ => ⟨rfl, rfl, rfl⟩⟩
    | true =>
      have answer : outcome = _ := RelayState.admitSignedRequest_answer passes unused
      have answered : outcome.2.answered = true := by
        rw [answer]
        exact RelayState.admitOperation_answered boot _ facts nowMs nowSecs
      have not_duplicate : outcome.2 ≠ .duplicate := fun h => by rw [h] at answered; cases answered
      have not_reauthorize : outcome.2 ≠ .reauthorize := fun h => by rw [h] at answered; cases answered
      have not_refused : ¬session.seqIsUnused facts.seq = false := by simp [unused]
      refine ⟨fun _ => iff_of_false not_duplicate (mt refused.mpr not_refused), fun _ _ => answered,
        fun _ => ⟨session, passes.held, ?_, ?_⟩, fun h => (h.elim not_reauthorize not_duplicate).elim⟩
      · rw [answer]
        unfold RelayState.useSessionSeq
        rw [RelayState.session_setSessions, Table.get_modify, if_pos rfl, ← RelayState.session_eq_get,
          RelayState.admitOperation_session, passes.at_start]
        rfl
      · exact tracks_useSeqs tracks [facts.seq]
  · have reauthorize : outcome = (u.withoutExpired nowMs, .reauthorize) :=
      RelayState.admitSignedRequest_reauthorize fun session h => passes ⟨session, h⟩
    rw [reauthorize]
    exact ⟨fun h => absurd h passes, fun h => absurd h passes, fun h => (by cases h), fun _ => ⟨rfl, rfl, rfl⟩⟩

/-- After number 300 was used, number 44 is refused although it never was. -/
theorem number_44_is_too_old_after_300 :
    let t := (relayWithPhone.openRequestSession "boot" "phone" "peer" "sid" 1000 1).1
    let u := (t.admitSignedRequest "boot" (phoneAttempt .untracked 300) 1000 1).1
    (u.admitSignedRequest "boot" (phoneAttempt .untracked 44) 1000 1).2 = .duplicate := by
  intro t u
  have run : BookRun "boot" (fun c => ¬c.Opens "sid") t u 1000
      [{ facts := phoneAttempt .untracked 300, admission := .run }] :=
    BookRun.call (c := .admitSigned (phoneAttempt .untracked 300) 1) (.start 1000) (UInt64.le_refl 1000) (fun h => h)
  have passes : u.PassesChecks "boot" (phoneAttempt .untracked 44) 1000
      { deviceId := "phone", peerId := "peer", openedMs := 1000, expiresMs := 3601000, highSeq := 300, used := {300} } :=
    ⟨rfl, by decide, rfl, rfl, rfl, by decide, rfl⟩
  have opened : relayWithPhone.openRequestSession "boot" "phone" "peer" "sid" 1000 1 =
      (t, .ok { sid := "sid", bootId := "boot", relayMs := 1000, expiresAt := 3601 }) := rfl
  have under : (phoneAttempt .untracked 44).sid = "sid" := rfl
  have decided := admission_decides_like_full_history opened run under 1000 1
  exact (decided.1 ⟨_, passes⟩).mpr (.inr (.inr ⟨300, by decide, by decide⟩))

end Sealwire.Requests

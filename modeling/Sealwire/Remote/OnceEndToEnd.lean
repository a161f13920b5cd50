import Sealwire.Remote.PhoneSteps

namespace Sealwire.Requests.RelayState

/-- A write runs only on the boot its operation names. -/
theorem admitSignedRequest_boot {boot : String} {s : RelayState} {facts : SignedRequestFacts} {nowMs nowSecs : UInt64}
    {token : NotifyId} (write : facts.requestClass = .write)
    (runs : (s.admitSignedRequest boot facts nowMs nowSecs).2 = .execute token) : facts.opBoot = boot := by
  by_contra other
  by_cases passes : ∃ held, PassesChecks boot s facts nowMs held
  · obtain ⟨held, passes⟩ := passes
    cases fresh : held.seqIsUnused facts.seq with
    | false =>
      rw [admitSignedRequest_duplicate passes fresh] at runs
      cases runs
    | true =>
      rw [admitSignedRequest_answer passes fresh] at runs
      simp [admitOperation, write, admitWrite, other] at runs
  · rw [admitSignedRequest_reauthorize fun held h => passes ⟨held, h⟩] at runs
    cases runs

theorem openRequestSession_grant {boot deviceId peerId sid : String} {s : RelayState} {nowMs nowSecs : UInt64}
    {grant : RequestSessionGrant} (granted : (s.openRequestSession boot deviceId peerId sid nowMs nowSecs).2 = .ok grant) :
    grant.bootId = boot := by
  unfold openRequestSession at granted
  split at granted
  · cases granted
  · cases granted
    rfl

end Sealwire.Requests.RelayState

namespace Sealwire.Remote

open Requests

namespace World

/-- The pass the event goes on with, if it does, has only actions left that are still pending or are too old to be
sent again. -/
def PassesHold (w : World) : Event → Prop
  | .phone event => w.phone.PassesHold event
  | _ => True

/-- Whatever is in play was named under a boot the relay had, and not ahead of its clock; and once a write ran, its
record stands in the way of everything in play. -/
structure Sound (config : Config) (w : World) : Prop where
  phone : w.phone.Sound
  booted : w.boot ∈ w.boots
  grants : ∀ grant ∈ w.grants, grant.bootId ∈ w.boots
  claim : ∀ claim, w.phone.claim = some claim → claim.boot ∈ w.boots
  inPlay : ∀ id op, w.phone.InPlay id op → op.boot ∈ w.boots ∧ (op.boot = w.boot → op.t0 ≤ w.clock.toNat + 5000)
  executed : ∀ id, w.executions config id ≠ 0 → w.phone.Sent id ∧ ∀ op, w.phone.InPlay id op → op.boot = w.boot →
    Covered w.relay config.deviceId w.clock id op.t0
  once : ∀ id, w.executions config id ≤ 1

section Steps

variable {config : Config} {w : World}

theorem sound_start (config : Config) (relay : RelayState) (boot : String) (clock : UInt64) :
    (start relay boot clock).Sound config := by
  constructor
  · exact Phone.sound_new
  · exact List.mem_cons_self
  · simp [start]
  · simp [start, Phone.new]
  · simp [start, Phone.new, Phone.InPlay]
  · simp [start, executions, executedWrites]
  · simp [start, executions, executedWrites]

/-- The relay goes on without running a write of the phone. -/
theorem Sound.relay (sound : w.Sound config) {relay : RelayState} {later : UInt64} (forward : w.clock ≤ later)
    (ledger : ∀ id, LedgerStep later (w.relay.writeRecord config.deviceId id) (relay.writeRecord config.deviceId id)) :
    Sound config { w with relay := relay, clock := later } := by
  have ahead := UInt64.le_iff_toNat_le.mp forward
  refine ⟨sound.phone, sound.booted, sound.grants, sound.claim, ?_, ?_, sound.once⟩
  · intro id op inPlay
    obtain ⟨known, near⟩ := sound.inPlay id op inPlay
    exact ⟨known, fun here => Nat.le_trans (near here) (Nat.add_le_add_right ahead 5000)⟩
  · intro id ran
    obtain ⟨sent, covered⟩ := sound.executed id ran
    exact ⟨sent, fun op inPlay here => (covered op inPlay here).step forward (ledger id)⟩

theorem Sound.phoneStep (sound : w.Sound config) (clockOk : w.ClockOk) {event : PhoneEvent}
    (holds : w.phone.PassesHold event) (issued : ∀ grant, event = .claimed grant → grant ∈ w.grants) :
    Sound config { w with phone := w.phone.step event } := by
  have stepped := sound.phone.step holds
  refine ⟨stepped.sound, sound.booted, sound.grants, ?_, ?_, ?_, sound.once⟩
  · intro claim held
    rcases stepped.claim claim held with before | ⟨grant, is, same⟩
    · exact sound.claim claim before
    · exact same ▸ sound.grants grant (issued grant is)
  · intro id op inPlay
    rcases stepped.inPlay id op inPlay with before | ⟨-, claim, held, identity⟩
    · exact sound.inPlay id op before
    · subst identity
      exact ⟨sound.claim claim held, clockOk claim held⟩
  · intro id ran
    obtain ⟨sent, covered⟩ := sound.executed id ran
    refine ⟨stepped.sent id sent, ?_⟩
    intro op inPlay here
    rcases stepped.inPlay id op inPlay with before | ⟨unsent, -⟩
    · exact covered op before here
    · exact absurd sent unsent

theorem Sound.restart (sound : w.Sound config) {boot : String} {cache : Table String CachedRemoteActionState}
    (new : boot ∉ w.boots) : (w.restart boot cache).Sound config := by
  have other {id : String} {op : Op} (inPlay : w.phone.InPlay id op) : op.boot ≠ boot := by
    intro same
    exact new (same ▸ (sound.inPlay id op inPlay).1)
  refine ⟨sound.phone, List.mem_cons_self, ?_, ?_, ?_, ?_, sound.once⟩
  · intro grant issued
    exact List.mem_cons_of_mem _ (sound.grants grant issued)
  · intro claim held
    exact List.mem_cons_of_mem _ (sound.claim claim held)
  · intro id op inPlay
    exact ⟨List.mem_cons_of_mem _ (sound.inPlay id op inPlay).1, fun here => absurd here (other inPlay)⟩
  · intro id ran
    exact ⟨(sound.executed id ran).1, fun op inPlay here => absurd here (other inPlay)⟩

theorem facts_of_frame {frame : Frame} {facts : SignedRequestFacts} (reads : frame.facts config = some facts) :
    facts.deviceId = config.deviceId ∧ facts.actionId = frame.actionId ∧ facts.opBoot = frame.op.boot ∧
      facts.opT0.toNat = frame.op.t0 := by
  unfold Frame.facts at reads
  split at reads
  · rename_i words
    cases reads
    exact ⟨rfl, rfl, rfl, Nat.mod_eq_of_lt words.2.2⟩
  · cases reads

/-- How often a write ran, once the relay has decided on one more attempt. -/
theorem executions_append (config : Config) (attempts : List Attempt) (w after : World) (appended : after.attempts = attempts ++ w.attempts)
    (id : String) : after.executions config id =
      ((executedWrites config.deviceId attempts).filter fun op => op.1 = id).length + w.executions config id := by
  simp only [executions, appended, executedWrites, List.filterMap_append, List.filter_append, List.length_append]

/-- A decision that runs none of the phone's writes. -/
theorem Sound.quiet (sound : w.Sound config) {relay : RelayState} {attempts : List Attempt}
    (ledger : ∀ id, LedgerStep w.clock (w.relay.writeRecord config.deviceId id) (relay.writeRecord config.deviceId id))
    (none_ran : executedWrites config.deviceId attempts = []) :
    Sound config { w with relay := relay, attempts := attempts ++ w.attempts } := by
  have moved := sound.relay (UInt64.le_refl w.clock) ledger
  have count (id : String) := executions_append config attempts w
    { w with relay := relay, attempts := attempts ++ w.attempts } rfl id
  simp only [none_ran, List.filter_nil, List.length_nil, Nat.zero_add] at count
  refine ⟨moved.phone, moved.booted, moved.grants, moved.claim, moved.inPlay, ?_, ?_⟩
  · intro id ran
    exact moved.executed id (count id ▸ ran)
  · intro id
    exact (count id).symm ▸ sound.once id

/-- An attempt that the relay runs: none at the same write ran before, and none will. -/
theorem Sound.execute (sound : w.Sound config) {frame : Frame} {facts : SignedRequestFacts} {nowSecs : UInt64}
    {token : NotifyId} (there : frame ∈ w.phone.sent) (reads : frame.facts config = some facts)
    (write : facts.requestClass = .write)
    (runs : (w.relay.admitSignedRequest w.boot facts w.clock nowSecs).2 = .execute token) :
    Sound config
      { w with
        relay := (w.relay.admitSignedRequest w.boot facts w.clock nowSecs).1
        attempts := { facts := facts, admission := .execute token } :: w.attempts } := by
  obtain ⟨device, action, boot, start⟩ := facts_of_frame reads
  have executes := RelayState.admitSignedRequest_executes write runs
  have here := RelayState.admitSignedRequest_boot write runs
  have ledger (id : String) := w.relay.admitSignedRequest_step w.boot facts w.clock nowSecs config.deviceId id
  have moved := sound.relay (UInt64.le_refl w.clock) ledger
  have ran_write : executedWrites config.deviceId [{ facts := facts, admission := .execute token }] =
      [(frame.actionId, facts.opT0)] := by
    simp [executedWrites, Attempt.executedWrite, write, device, action]
  have count (id : String) := executions_append config [{ facts := facts, admission := .execute token }] w
    { w with
      relay := (w.relay.admitSignedRequest w.boot facts w.clock nowSecs).1
      attempts := { facts := facts, admission := .execute token } :: w.attempts } rfl id
  rw [ran_write] at count
  have inPlay : w.phone.InPlay frame.actionId frame.op := .inl ⟨frame, there, rfl, rfl⟩
  have first : w.executions config frame.actionId = 0 := by
    by_contra ran
    have covered := (sound.executed frame.actionId ran).2 frame.op inPlay (boot.symm.trans here)
    rw [← device, ← action, ← start] at covered
    exact covered.not_executes (UInt64.le_refl w.clock) executes
  refine ⟨moved.phone, moved.booted, moved.grants, moved.claim, moved.inPlay, ?_, ?_⟩
  · intro id ran
    by_cases same : id = frame.actionId
    · subst same
      refine ⟨⟨frame, there, rfl⟩, ?_⟩
      intro op plays of_boot
      have covered := Covered.of_executes executes ((sound.inPlay _ op plays).2 of_boot)
      rwa [device, action] at covered
    · have unchanged : w.executions config id ≠ 0 := by simpa [count id, Ne.symm same] using ran
      exact moved.executed id unchanged
  · intro id
    by_cases same : id = frame.actionId
    · subst same
      simp [count, first]
    · have before := sound.once id
      simpa [count id, Ne.symm same] using before

/-- An attempt that runs no write. -/
theorem executedWrites_none {device : String} {attempt : Attempt}
    (none_ran : ∀ token, attempt.admission = .execute token → attempt.facts.requestClass ≠ .write) :
    executedWrites device [attempt] = [] := by
  by_contra ran
  obtain ⟨op, ran⟩ := List.exists_mem_of_ne_nil _ ran
  obtain ⟨token, runs, write, -⟩ := executedWrite_eq_some (executedWrites_single ran).1
  exact none_ran token runs write

theorem Sound.deliver (sound : w.Sound config) (k : Nat) (nowSecs : UInt64) : (w.deliver config k nowSecs).Sound config := by
  unfold World.deliver
  split
  case h_2 => exact sound
  rename_i facts read
  obtain ⟨frame, at_k, reads⟩ := Option.bind_eq_some_iff.mp read
  have there : frame ∈ w.phone.sent := List.mem_of_getElem? at_k
  by_cases runs : ∃ token, (w.relay.admitSignedRequest w.boot facts w.clock nowSecs).2 = .execute token ∧
      facts.requestClass = .write
  · obtain ⟨token, runs, write⟩ := runs
    have executed := sound.execute there reads write runs
    rw [← runs] at executed
    exact executed
  · have ledger (id : String) := w.relay.admitSignedRequest_step w.boot facts w.clock nowSecs config.deviceId id
    refine sound.quiet ledger (executedWrites_none ?_)
    intro token decided write
    exact runs ⟨token, decided, write⟩

theorem Sound.openSession (sound : w.Sound config) (peerId sid : String) (nowSecs : UInt64) :
    (w.claim config peerId sid nowSecs).Sound config := by
  have ledger (id : String) : LedgerStep w.clock (w.relay.writeRecord config.deviceId id)
      ((w.relay.openRequestSession w.boot config.deviceId peerId sid w.clock nowSecs).1.writeRecord config.deviceId id) :=
    .same (w.relay.openRequestSession_writeRecord w.boot config.deviceId peerId sid w.clock nowSecs config.deviceId id)
  have moved := sound.relay (UInt64.le_refl w.clock) ledger
  unfold World.claim
  split
  · rename_i relay grant opened
    rw [opened] at moved
    refine ⟨moved.phone, moved.booted, ?_, moved.claim, moved.inPlay, moved.executed, moved.once⟩
    intro each issued
    rcases List.mem_append.mp issued with old | new
    · exact moved.grants each old
    · rw [List.mem_singleton.mp new, RelayState.openRequestSession_grant (by rw [opened])]
      exact sound.booted
  · rename_i relay error opened
    rw [opened] at moved
    exact moved

theorem Sound.step (sound : w.Sound config) (clockOk : w.ClockOk) {event : Event} (holds : w.PassesHold event) :
    (w.step config event).Sound config := by
  have same_clock := UInt64.le_refl w.clock
  cases event with
  | phone event =>
    by_cases claimed : ∃ grant, event = .claimed grant
    · obtain ⟨grant, rfl⟩ := claimed
      simp only [World.step, World.phoneStep]
      split
      · rename_i issued
        exact sound.phoneStep clockOk holds fun other same => by cases same; exact issued
      · exact sound
    · have plain : w.phoneStep event = { w with phone := w.phone.step event } := by
        cases event with
        | claimed grant => exact absurd ⟨grant, rfl⟩ claimed
        | _ => rfl
      simp only [World.step, plain]
      exact sound.phoneStep clockOk holds fun grant same => absurd ⟨grant, same⟩ claimed
  | deliver k nowSecs => exact sound.deliver k nowSecs
  | claim peerId sid nowSecs => exact sound.openSession peerId sid nowSecs
  | book call =>
    simp only [World.step]
    split
    · rename_i other
      have keeps : call.KeepsDevice config.deviceId := by
        cases call <;> simp_all [otherCall, BookCall.KeepsDevice]
      exact sound.relay same_clock fun id => call.run_step w.boot keeps w.relay w.clock id
    · exact sound
  | cache cache => exact sound.relay same_clock fun id => .same rfl
  | pairing devices => exact sound.relay same_clock fun id => .same rfl
  | rehash sessions =>
    simp only [World.step]
    split
    · exact sound.relay same_clock fun id => .same rfl
    · exact sound
  | tick later =>
    simp only [World.step]
    split
    · rename_i forward
      exact sound.relay forward fun id => .same rfl
    · exact sound
  | restart boot cache =>
    simp only [World.step]
    split
    · exact sound
    · rename_i new
      exact sound.restart new

end Steps

end World

instance (w : World) (event : Event) : Decidable (w.PassesHold event) := by
  cases event <;> unfold World.PassesHold <;> infer_instance

/-- A write that the phone dispatched runs at most once end to end, whatever is dropped, delayed, duplicated or
reordered, whichever attempts overlap while they are signed, and however often the phone claims again and the relay
restarts, if no resend pass goes on to an action that has left the map. -/
theorem write_runs_at_most_once {config : Config} {w : World}
    (run : Runs config (fun w event => w.ClockOk ∧ w.PassesHold event) w) (actionId : String) :
    w.executions config actionId ≤ 1 := by
  have sound : w.Sound config := by
    induction run with
    | start relay boot clock => exact World.sound_start config relay boot clock
    | step run event is sound => exact sound.step is.1 is.2
  exact sound.once actionId

section TwoWrites

def relayOfPhone : Config where
  deviceId := "phone"
  requestClass := fun _ => .write
  digest := fun actionType request => actionType ++ request

def firstClaim : RequestSessionGrant where
  sid := "sid1"
  bootId := "boot1"
  relayMs := 1000
  expiresAt := 3601

def secondClaim : RequestSessionGrant where
  sid := "sid2"
  bootId := "boot2"
  relayMs := relayClockOriginMs
  expiresAt := 3602

/-- The phone claims, dispatches two writes and sends both. -/
def twoWrites : List Event :=
  [.claim "peer" "sid1" 1, .phone (.connect (some 1) (some "peer")), .phone (.claimed firstClaim),
    .phone (.dispatch "first" "rename" "a"), .phone (.encrypted 0), .phone (.signed 0),
    .phone (.dispatch "second" "send" "b"), .phone (.encrypted 0), .phone (.signed 0)]

/-- The relay runs the second write and restarts; the phone claims again and starts to resend. -/
def restarted : List Event :=
  [.deliver 1 1, .restart "boot2" ∅, .claim "peer" "sid2" 2, .phone (.claimed secondClaim), .phone .resend]

/-- The pass goes on to the second write, and both attempts reach the relay. -/
def resent : List Event :=
  [.phone (.encrypted 0), .phone (.signed 0), .phone (.encrypted 0), .phone (.signed 0), .deliver 2 2, .deliver 3 2]

def twoWritesRun (events : List Event) : World :=
  events.foldl (World.step relayOfPhone) (.start relayWithPhone "boot1" 1000)

/-- With both writes still pending when the pass comes to them, each ran once. -/
theorem resent_writes_run_once :
    (twoWritesRun (twoWrites ++ restarted ++ resent)).executions relayOfPhone "second" ≤ 1 ∧
      (twoWritesRun (twoWrites ++ restarted ++ resent)).executions relayOfPhone "second" = 1 := by
  have run : Runs relayOfPhone (fun w event => w.ClockOk ∧ w.PassesHold event)
      (twoWritesRun (twoWrites ++ restarted ++ resent)) :=
    (Runs.start relayWithPhone "boot1" 1000).along (by decide)
  exact ⟨write_runs_at_most_once run "second", by decide⟩

/-- The second write's deadline passes while the first is signed again: the pass sends it under a new identity, and
the relay runs it a second time. -/
theorem resent_write_runs_twice :
    Runs relayOfPhone (fun w _ => w.ClockOk)
        (twoWritesRun (twoWrites ++ restarted ++ .phone (.deadline "second") :: resent)) ∧
      (twoWritesRun (twoWrites ++ restarted ++ .phone (.deadline "second") :: resent)).executions relayOfPhone
        "second" = 2 :=
  ⟨(Runs.start relayWithPhone "boot1" 1000).along (by decide), by decide⟩

end TwoWrites

end Sealwire.Remote

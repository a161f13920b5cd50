import Sealwire.Control.Store
import Sealwire.Lib.Runs
import Sealwire.Lib.Text
import Mathlib.Order.Monotone.Basic

namespace Sealwire.Control

structure Broker where
  sha256Hex : String → String
  /-- `credential_subject` names a subject: the check of the credential's format. -/
  hasSubject : CredentialKind → String → Bool
  sharedBackend : Bool
  reloadBeforeUse : Bool
  missReloadMinInterval : Nat

def Broker.tokenHash (b : Broker) : CredentialKind → String → String
  | .clientId, credential => credential
  | _, credential => b.sha256Hex (trim credential)

/-- The shared table at one moment, with the wall clock and the monotonic clock. -/
structure Moment where
  table : PublicControlStateStore
  unix : Nat
  clock : Nat

/-- What the other brokers make of the table, and the clocks, moment by moment. -/
structure History where
  moment : Nat → Moment
  unix_mono : Monotone fun k => (moment k).unix
  clock_mono : Monotone fun k => (moment k).clock

namespace History

def table (h : History) (k : Nat) : PublicControlStateStore := (h.moment k).table

def unix (h : History) (k : Nat) : Nat := (h.moment k).unix

def clock (h : History) (k : Nat) : Nat := (h.moment k).clock

/-- What a full load answers that began at `since` and ends at `present`: its queries
read one table after the other, so two tables may stem from different moments. -/
structure Loaded (h : History) (since present : Nat) (store : PublicControlStateStore) : Prop where
  credentials : ∀ kind, ∃ k, since ≤ k ∧ k ≤ present ∧ store.Agree kind (h.table k)
  clientRelayGrants : ∃ k, since ≤ k ∧ k ≤ present ∧
    ∀ key, store.clientRelayGrantsByKey.get key = (h.table k).clientRelayGrantsByKey.get key

end History

/-- `since` is the moment the load began. -/
structure FullLoad where
  started : Nat
  finished : Nat
  succeeded : Bool
  since : Nat
  deriving DecidableEq, Repr

/-- Which of the two places of `find_credential` a lookup is made in: before the probe, or
in the loop after a probe that saw the token and returned at `observed`. -/
inductive Place
  | entry
  | loop (observed : Nat)
  deriving DecidableEq, Repr

inductive Stage
  | malformed
  | locking (place : Place)
  /-- `lock_state` loads. -/
  | reloading (place : Place) (since : Nat)
  | looking (place : Place)
  | missed
  | probing (since : Nat)
  | probed
  | sleeping (observed readyAt : Nat)
  /-- The loop's own load. -/
  | loading (observed since : Nat)
  | found (credential : Credential)
  | released
  | absent (ended : Nat)
  | failed
  | cancelled
  deriving DecidableEq, Repr

namespace Stage

def finished : Stage → Bool
  | malformed | released | absent _ | failed | cancelled => true
  | _ => false

/-- The stages a call holds the lock in. -/
def holds : Stage → Bool
  | reloading .. | looking _ | loading .. | found _ => true
  | _ => false

/-- The moment the load underway began. -/
def loadSince : Stage → Option Nat
  | reloading _ since | loading _ since => some since
  | _ => none

end Stage

/-- A call of `find_credential`. `now` is what its lookup takes for the time; the last four
fields count its full loads before and after its miss, its sleeps and its own turns. -/
structure Call where
  kind : CredentialKind
  credential : String
  now : Nat
  begun : Nat
  stage : Stage
  entryLoads : Nat := 0
  missLoads : Nat := 0
  sleeps : Nat := 0
  turns : Nat := 0
  deriving DecidableEq, Repr

namespace Call

def goes (c : Call) (stage : Stage) : Call := { c with stage, turns := c.turns + 1 }

def charged (c : Call) : Place → Call
  | .entry => { c with entryLoads := c.entryLoads + 1 }
  | .loop _ => { c with missLoads := c.missLoads + 1 }

end Call

/-- What the calls share. -/
structure Shared where
  lock : Option Nat
  memory : PublicControlStateStore
  lastFullLoad : Option FullLoad
  needsReload : Bool

namespace Shared

def unlocked (s : Shared) : Shared := { s with lock := none }

def locked (s : Shared) (i : Nat) : Shared := { s with lock := some i }

def loadOk (s : Shared) (h : History) (since present : Nat) (store : PublicControlStateStore) : Shared :=
  { s with memory := store, needsReload := false,
           lastFullLoad := some ⟨h.clock since, h.clock present, true, since⟩ }

def loadErr (s : Shared) (h : History) (since present : Nat) : Shared :=
  { s with lastFullLoad := some ⟨h.clock since, h.clock present, false, since⟩ }

end Shared

inductive LockAnswer
  | serve
  | reload
  | refuse
  deriving DecidableEq, Repr

/-- `lock_state`, once it has the lock. -/
def lockState (b : Broker) (s : Shared) (clock : Nat) : LockAnswer :=
  if b.reloadBeforeUse || s.needsReload then
    -- A failing load is not retried by every request of an outage.
    if s.lastFullLoad.any fun load => !load.succeeded && load.finished + b.missReloadMinInterval > clock then
      .refuse
    else .reload
  else .serve

inductive MissAnswer
  | gone
  | unknown
  | sleep (readyAt : Nat)
  | load
  deriving DecidableEq, Repr

/-- What the loop does about a miss. -/
def afterMiss (b : Broker) (last : Option FullLoad) (observed clock : Nat) : MissAnswer :=
  match last with
  | none => .load
  | some load =>
    if load.started ≥ observed then
      -- It read the table after the probe saw the token, so the token is gone since.
      if load.succeeded then .gone else .unknown
    else
      let readyAt := load.finished + b.missReloadMinInterval
      if readyAt > clock then .sleep readyAt else .load

/-- What a call does next; the arguments are what the database answers. -/
inductive Act
  | take
  | loaded (store : PublicControlStateStore)
  | loadFailed
  | look
  | probe
  | answered (read : Nat)
  | probeFailed
  | observe
  | wake
  | release
  | cancel

/-- The lookup in memory, and what follows on a miss. -/
def look (b : Broker) (h : History) (present : Nat) (s : Shared) (c : Call) (place : Place) : Shared × Call :=
  match s.memory.lookup c.kind (b.tokenHash c.kind c.credential) c.now, place with
  | some credential, _ => (s, c.goes (.found credential))
  | none, .entry =>
    if b.sharedBackend then (s.unlocked, c.goes .missed) else (s.unlocked, c.goes (.absent present))
  | none, .loop observed =>
    match afterMiss b s.lastFullLoad observed (h.clock present) with
    | .gone => (s.unlocked, c.goes (.absent present))
    | .unknown => (s.unlocked, c.goes .failed)
    | .sleep readyAt => (s.unlocked, { c with sleeps := c.sleeps + 1 }.goes (.sleeping observed readyAt))
    | .load => (s, { c with missLoads := c.missLoads + 1 }.goes (.loading observed present))

/-- One turn of the call under index `i`, where it can take it. -/
def turn (b : Broker) (h : History) (present i : Nat) (s : Shared) (c : Call) (act : Act) : Option (Shared × Call) :=
  match act, c.stage with
  | .take, .locking place =>
    if s.lock.isSome then none
    else
      match lockState b s (h.clock present) with
      | .serve => some (s.locked i, c.goes (.looking place))
      | .refuse => some (s, c.goes .failed)
      | .reload => some (s.locked i, (c.charged place).goes (.reloading place present))
  | .loaded store, .reloading place since => some (s.loadOk h since present store, c.goes (.looking place))
  | .loadFailed, .reloading _ since => some ((s.loadErr h since present).unlocked, c.goes .failed)
  | .look, .looking place => some (look b h present s c place)
  | .probe, .missed => some (s, c.goes (.probing present))
  | .answered k, .probing since =>
    if (h.table k).hasCredential c.kind (b.tokenHash c.kind c.credential) (h.unix since) then
      some (s, c.goes .probed)
    else some (s, c.goes (.absent present))
  | .probeFailed, .probing _ => some (s, c.goes .failed)
  | .observe, .probed => some (s, c.goes (.locking (.loop (h.clock present))))
  | .wake, .sleeping observed readyAt =>
    if readyAt ≤ h.clock present then some (s, c.goes (.locking (.loop observed))) else none
  | .loaded store, .loading _ since =>
    match store.lookup c.kind (b.tokenHash c.kind c.credential) c.now with
    | some credential => some (s.loadOk h since present store, c.goes (.found credential))
    | none => some ((s.loadOk h since present store).unlocked, c.goes (.absent present))
  | .loadFailed, .loading _ since => some ((s.loadErr h since present).unlocked, c.goes .failed)
  | .release, .found _ => some (s.unlocked, c.goes .released)
  | .cancel, stage =>
    -- A dropped future releases its guard and runs no further.
    if stage.finished then none
    else some (if stage.holds then s.unlocked else s, { c with stage := .cancelled })
  | _, _ => none

/-- The database answers with what the table held between the question and the answer. -/
def Act.Answers (h : History) (present : Nat) (c : Call) : Act → Prop
  | .loaded store => ∀ since, c.stage.loadSince = some since → h.Loaded since present store
  | .answered k => ∀ since, c.stage = .probing since → since ≤ k ∧ k ≤ present
  | _ => True

/-- `spoiled` counts the saves whose outcome stayed unknown. -/
structure World where
  present : Nat
  shared : Shared
  calls : List Call
  spoiled : Nat := 0

inductive Move
  /-- Time passes, and the other brokers write. -/
  | pass
  /-- A save fails and so does the load that would tell its outcome. -/
  | spoil (memory : PublicControlStateStore)
  | begin (kind : CredentialKind) (credential : String) (now : Nat)
  | call (i : Nat) (act : Act)

def step (b : Broker) (h : History) (w : World) : Move → World
  | .pass => { w with present := w.present + 1 }
  | .spoil memory => { w with shared := { w.shared with memory, needsReload := true }, spoiled := w.spoiled + 1 }
  | .begin kind credential now =>
    let stage := if b.hasSubject kind credential then .locking .entry else .malformed
    { w with calls := w.calls ++ [{ kind, credential, now, begun := w.present, stage }] }
  | .call i act =>
    match w.calls[i]? with
    | none => w
    | some c =>
      match turn b h w.present i w.shared c act with
      | none => w
      | some (shared, c') => { w with shared, calls := w.calls.set i c' }

/-- A call's time of lookup is no later than its start, and the database answers truly. -/
def May (b : Broker) (h : History) (w : World) : Move → Prop
  | .pass => True
  | .spoil _ => w.shared.lock = none
  | .begin _ _ now => now ≤ h.unix w.present
  | .call i act => ∃ c, w.calls[i]? = some c ∧ (turn b h w.present i w.shared c act).isSome = true ∧
      act.Answers h w.present c

/-- A broker that has just made its first full load. -/
structure Opening (h : History) (w : World) : Prop where
  noCalls : w.calls = []
  unlocked : w.shared.lock = none
  trusted : w.shared.needsReload = false
  unspoiled : w.spoiled = 0
  loaded : ∃ since, since ≤ w.present ∧ h.Loaded since w.present w.shared.memory ∧
    w.shared.lastFullLoad = some ⟨h.clock since, h.clock w.present, true, since⟩

/-- The last full load, where it succeeded, took time on the monotonic clock. -/
def World.TookTime (w : World) : Prop :=
  ∀ load, w.shared.lastFullLoad = some load → load.succeeded = true → load.started < load.finished

/-- A move after which the last full load has taken time. -/
def MayInTime (b : Broker) (h : History) (w : World) (m : Move) : Prop :=
  May b h w m ∧ (step b h w m).TookTime

end Sealwire.Control

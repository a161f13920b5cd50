import Sealwire.Control.Credentials

namespace Sealwire.Control

/-- What one turn makes of the shared state and of the call, each way it can go. -/
inductive Turned (b : Broker) (h : History) (present i : Nat) (s : Shared) (c : Call) : Act → Shared → Call → Prop
  | served {place : Place} (stage : c.stage = .locking place) (free : s.lock = none)
      (memory : b.reloadBeforeUse = false ∧ s.needsReload = false) :
      Turned b h present i s c .take (s.locked i) (c.goes (.looking place))
  | refused {place : Place} (stage : c.stage = .locking place) : Turned b h present i s c .take s (c.goes .failed)
  | reloads {place : Place} (stage : c.stage = .locking place) (free : s.lock = none)
      (demanded : b.reloadBeforeUse = true ∨ s.needsReload = true) :
      Turned b h present i s c .take (s.locked i) ((c.charged place).goes (.reloading place present))
  | reloaded {place : Place} {since : Nat} {store : PublicControlStateStore} (stage : c.stage = .reloading place since) :
      Turned b h present i s c (.loaded store) (s.loadOk h since present store) (c.goes (.looking place))
  | reloadFailed {place : Place} {since : Nat} (stage : c.stage = .reloading place since) :
      Turned b h present i s c .loadFailed (s.loadErr h since present).unlocked (c.goes .failed)
  | hit {place : Place} {credential : Credential} (stage : c.stage = .looking place) :
      Turned b h present i s c .look s (c.goes (.found credential))
  | missed (stage : c.stage = .looking .entry) : Turned b h present i s c .look s.unlocked (c.goes .missed)
  | alone (stage : c.stage = .looking .entry) (exclusive : b.sharedBackend = false) :
      Turned b h present i s c .look s.unlocked (c.goes (.absent present))
  | gone {observed : Nat} {load : FullLoad} (stage : c.stage = .looking (.loop observed))
      (miss : s.memory.lookup c.kind (b.tokenHash c.kind c.credential) c.now = none)
      (last : s.lastFullLoad = some load) (after : observed ≤ load.started) (succeeded : load.succeeded = true) :
      Turned b h present i s c .look s.unlocked (c.goes (.absent present))
  | unknown {observed : Nat} (stage : c.stage = .looking (.loop observed)) :
      Turned b h present i s c .look s.unlocked (c.goes .failed)
  | sleeps {observed : Nat} {load : FullLoad} (stage : c.stage = .looking (.loop observed))
      (last : s.lastFullLoad = some load) (before : load.started < observed)
      (early : h.clock present < load.finished + b.missReloadMinInterval) :
      Turned b h present i s c .look s.unlocked
        ({ c with sleeps := c.sleeps + 1 }.goes (.sleeping observed (load.finished + b.missReloadMinInterval)))
  | loads {observed : Nat} (stage : c.stage = .looking (.loop observed))
      (stale : ∀ load, s.lastFullLoad = some load → load.started < observed) :
      Turned b h present i s c .look s ({ c with missLoads := c.missLoads + 1 }.goes (.loading observed present))
  | probes (stage : c.stage = .missed) : Turned b h present i s c .probe s (c.goes (.probing present))
  | seen {since read : Nat} (stage : c.stage = .probing since) :
      Turned b h present i s c (.answered read) s (c.goes .probed)
  | unseen {since read : Nat} (stage : c.stage = .probing since)
      (lacks : (h.table read).hasCredential c.kind (b.tokenHash c.kind c.credential) (h.unix since) = false) :
      Turned b h present i s c (.answered read) s (c.goes (.absent present))
  | probeFailed {since : Nat} (stage : c.stage = .probing since) :
      Turned b h present i s c .probeFailed s (c.goes .failed)
  | observes (stage : c.stage = .probed) :
      Turned b h present i s c .observe s (c.goes (.locking (.loop (h.clock present))))
  | wakes {observed readyAt : Nat} (stage : c.stage = .sleeping observed readyAt) (ready : readyAt ≤ h.clock present) :
      Turned b h present i s c .wake s (c.goes (.locking (.loop observed)))
  | loadFound {observed since : Nat} {store : PublicControlStateStore} {credential : Credential}
      (stage : c.stage = .loading observed since) :
      Turned b h present i s c (.loaded store) (s.loadOk h since present store) (c.goes (.found credential))
  | loadMissed {observed since : Nat} {store : PublicControlStateStore} (stage : c.stage = .loading observed since)
      (miss : store.lookup c.kind (b.tokenHash c.kind c.credential) c.now = none) :
      Turned b h present i s c (.loaded store) (s.loadOk h since present store).unlocked (c.goes (.absent present))
  | loadFailed {observed since : Nat} (stage : c.stage = .loading observed since) :
      Turned b h present i s c .loadFailed (s.loadErr h since present).unlocked (c.goes .failed)
  | released {credential : Credential} (stage : c.stage = .found credential) :
      Turned b h present i s c .release s.unlocked (c.goes .released)
  | cancelled (underway : c.stage.finished = false) :
      Turned b h present i s c .cancel (if c.stage.holds then s.unlocked else s) { c with stage := .cancelled }

section Turns

variable {b : Broker} {h : History} {present i : Nat} {s s' : Shared} {c c' : Call} {act : Act}

theorem lockState_serve {clock : Nat} (answer : lockState b s clock = .serve) :
    b.reloadBeforeUse = false ∧ s.needsReload = false := by
  unfold lockState at answer
  split at answer
  · split at answer <;> cases answer
  · rename_i quiet
    simpa using quiet

theorem lockState_reload {clock : Nat} (answer : lockState b s clock = .reload) :
    b.reloadBeforeUse = true ∨ s.needsReload = true := by
  unfold lockState at answer
  split at answer
  · rename_i demanded
    simpa using demanded
  · cases answer

theorem Turned.of_look {place : Place} (stage : c.stage = .looking place)
    (looked : look b h present s c place = (s', c')) : Turned b h present i s c .look s' c' := by
  unfold look at looked
  split at looked
  · cases looked
    exact .hit stage
  · split at looked
    · cases looked
      exact .missed stage
    · rename_i exclusive
      cases looked
      exact .alone stage (by simpa using exclusive)
  · rename_i observed miss
    unfold afterMiss at looked
    cases last : s.lastFullLoad with
    | none =>
      rw [last] at looked
      cases looked
      exact .loads stage (fun load some_ => by rw [last] at some_; cases some_)
    | some load =>
      rw [last] at looked
      dsimp only at looked
      by_cases after : load.started ≥ observed
      · rw [if_pos after] at looked
        cases succeeded : load.succeeded with
        | true =>
          rw [succeeded] at looked
          cases looked
          exact .gone stage miss last after succeeded
        | false =>
          rw [succeeded] at looked
          cases looked
          exact .unknown stage
      · rw [if_neg after] at looked
        by_cases early : load.finished + b.missReloadMinInterval > h.clock present
        · rw [if_pos early] at looked
          cases looked
          exact .sleeps stage last (by omega) early
        · rw [if_neg early] at looked
          cases looked
          refine .loads stage fun other some_ => ?_
          cases Option.some.inj (last.symm.trans some_)
          omega

theorem turned_of_turn (turned : turn b h present i s c act = some (s', c')) :
    Turned b h present i s c act s' c' := by
  unfold turn at turned
  split at turned
  · rename_i place stage
    split at turned
    · cases turned
    · rename_i free
      have free : s.lock = none := by simpa using free
      split at turned
      · rename_i answer
        cases turned
        exact .served stage free (lockState_serve answer)
      · cases turned
        exact .refused stage
      · rename_i answer
        cases turned
        exact .reloads stage free (lockState_reload answer)
  · rename_i stage
    cases turned
    exact .reloaded stage
  · rename_i stage
    cases turned
    exact .reloadFailed stage
  · rename_i stage
    exact .of_look stage (Option.some.inj turned)
  · rename_i stage
    cases turned
    exact .probes stage
  · rename_i stage
    split at turned
    · cases turned
      exact .seen stage
    · rename_i lacks
      cases turned
      exact .unseen stage (by simpa using lacks)
  · rename_i stage
    cases turned
    exact .probeFailed stage
  · rename_i stage
    cases turned
    exact .observes stage
  · rename_i stage
    split at turned
    · rename_i ready
      cases turned
      exact .wakes stage ready
    · cases turned
  · rename_i stage
    split at turned
    · cases turned
      exact .loadFound stage
    · rename_i miss
      cases turned
      exact .loadMissed stage miss
  · rename_i stage
    cases turned
    exact .loadFailed stage
  · rename_i stage
    cases turned
    exact .released stage
  · split at turned
    · cases turned
    · rename_i underway
      cases turned
      exact .cancelled (by simpa using underway)
  · cases turned

end Turns

namespace Stage

/-- When the probe answered that this call follows up. -/
def observed : Stage → Option Nat
  | locking (.loop observed) | reloading (.loop observed) _ | looking (.loop observed) => some observed
  | sleeping observed _ | loading observed _ => some observed
  | _ => none

/-- Before the loop: the call has not slept. -/
def fresh : Stage → Bool
  | locking .entry | reloading .entry _ | looking .entry | missed | probing _ | probed => true
  | _ => false

/-- The lookup has missed, and the call is not done. -/
def pastLookup : Stage → Bool
  | missed | probing _ | probed => true
  | stage => stage.observed.isSome

/-- The stages a call has made no load for its miss in. -/
def unspent : Stage → Bool
  | locking (.loop _) | sleeping .. => true
  | stage => stage.fresh

/-- Until when a call waits before it looks at the last load again. -/
def due (clock : Nat) : Stage → Nat
  | sleeping _ readyAt => readyAt
  | _ => clock

/-- How many turns a call that has slept `sleeps` times can still take. -/
def rank (sleeps : Nat) : Stage → Nat
  | locking .entry => 15
  | reloading .entry _ => 14
  | looking .entry => 13
  | missed => 12
  | probing _ => 11
  | probed => 10
  | locking (.loop _) => 9 - 4 * sleeps
  | reloading (.loop _) _ => 8 - 4 * sleeps
  | looking (.loop _) => 7 - 4 * sleeps
  | sleeping .. => 6
  | loading .. => 2
  | found _ => 1
  | _ => 0

/-- The call is over, or has its credential. -/
def settled : Stage → Bool
  | found _ => true
  | stage => stage.finished

end Stage

namespace World

/-- Some call makes a load that began at `since`. -/
def Underway (w : World) (since : Nat) : Prop :=
  ∃ (i : Nat) (c : Call), w.calls[i]? = some c ∧ c.stage.loadSince = some since

end World

/-- What holds of a call whatever the others do. A load it follows up began after the call
did, or ended before its probe was answered; once it has slept, the last load either began
after the probe or is old enough. -/
structure Call.Sound (b : Broker) (h : History) (w : World) (c : Call) : Prop where
  begun : c.begun ≤ w.present
  now : c.now ≤ h.unix c.begun
  ownLoad : ∀ since, c.stage.loadSince = some since → c.begun ≤ since ∧ since ≤ w.present
  probe : ∀ since, c.stage = .probing since → c.begun ≤ since ∧ since ≤ w.present
  observed : ∀ o, c.stage.observed = some o →
    o ≤ h.clock w.present ∧ ∀ since, c.stage.loadSince = some since → o ≤ h.clock since
  others : c.stage.pastLookup = true → ∀ since, w.Underway since → c.begun ≤ since
  heard : c.stage.pastLookup = true → ∀ load, w.shared.lastFullLoad = some load →
    c.begun ≤ load.since ∨ load.finished ≤ c.stage.observed.getD (h.clock w.present)
  fresh : c.stage.fresh = true → c.sleeps = 0
  sleptOnce : c.sleeps ≤ 1
  asleep : ∀ o readyAt, c.stage = .sleeping o readyAt →
    c.sleeps = 1 ∧ readyAt ≤ h.clock w.present + b.missReloadMinInterval
  rested : c.sleeps = 1 → ∀ o, c.stage.observed = some o →
    (∀ since, w.Underway since → o ≤ h.clock since) ∧
    ∃ load, w.shared.lastFullLoad = some load ∧
      (o ≤ load.started ∨ load.finished + b.missReloadMinInterval ≤ c.stage.due (h.clock w.present))
  unspent : c.stage.unspent = true → c.missLoads = 0
  spent : ∀ o, c.stage = .looking (.loop o) →
    c.missLoads = 0 ∨ ∃ load, w.shared.lastFullLoad = some load ∧ o ≤ load.started
  missLoads : c.missLoads ≤ 1
  entryLoads : c.entryLoads ≤ 1
  unloaded : c.stage = .locking .entry → c.entryLoads = 0
  turns : c.turns + c.stage.rank c.sleeps ≤ 15

/-- What a call may rely on while others take their turns. -/
structure Later (h : History) (w w' : World) : Prop where
  present : w.present ≤ w'.present
  underway : ∀ since, w'.Underway since → w.Underway since ∨ since = w'.present
  last : w'.shared.lastFullLoad = w.shared.lastFullLoad ∨
    ∃ load, w'.shared.lastFullLoad = some load ∧ w.Underway load.since ∧ load.started = h.clock load.since

section Others

variable {b : Broker} {h : History} {w w' : World} {c : Call}

theorem Stage.due_mono {stage : Stage} {clock later : Nat} (order : clock ≤ later) :
    stage.due clock ≤ stage.due later := by
  cases stage <;> first | exact order | exact le_rfl

theorem Call.Sound.later (sound : c.Sound b h w) (later : Later h w w')
    (held : ∀ o, c.stage = .looking (.loop o) → w'.shared.lastFullLoad = w.shared.lastFullLoad) :
    c.Sound b h w' where
  begun := sound.begun.trans later.present
  now := sound.now
  ownLoad since loads := ⟨(sound.ownLoad since loads).1, (sound.ownLoad since loads).2.trans later.present⟩
  probe since probing := ⟨(sound.probe since probing).1, (sound.probe since probing).2.trans later.present⟩
  observed o seen := ⟨(sound.observed o seen).1.trans (h.clock_mono later.present), (sound.observed o seen).2⟩
  others past since underway := by
    rcases later.underway since underway with old | new
    · exact sound.others past since old
    · rw [new]
      exact sound.begun.trans later.present
  heard past load last := by
    rcases later.last with same | ⟨new, is_new, underway, -⟩
    · rw [same] at last
      refine (sound.heard past load last).imp_right fun ended => ended.trans ?_
      cases c.stage.observed with
      | none => exact h.clock_mono later.present
      | some o => exact le_rfl
    · cases Option.some.inj (is_new.symm.trans last)
      exact .inl (sound.others past _ underway)
  fresh := sound.fresh
  sleptOnce := sound.sleptOnce
  asleep o readyAt asleep := by
    have order := h.clock_mono later.present
    have bound := (sound.asleep o readyAt asleep).2
    exact ⟨(sound.asleep o readyAt asleep).1, bound.trans (Nat.add_le_add_right order _)⟩
  rested slept o seen := by
    obtain ⟨underway, load, last, rested⟩ := sound.rested slept o seen
    have order := h.clock_mono later.present
    constructor
    · intro since now
      rcases later.underway since now with old | new
      · exact underway since old
      · rw [new]
        exact (sound.observed o seen).1.trans order
    · rcases later.last with same | ⟨new, is_new, was_underway, started⟩
      · exact ⟨load, same.trans last, rested.imp_right fun old => old.trans (Stage.due_mono order)⟩
      · exact ⟨new, is_new, .inl (by rw [started]; exact underway _ was_underway)⟩
  unspent := sound.unspent
  spent o looking := by
    rw [held o looking]
    exact sound.spent o looking
  missLoads := sound.missLoads
  entryLoads := sound.entryLoads
  unloaded := sound.unloaded
  turns := sound.turns

/-- A call that is over, or has its credential, only has to keep its counts. -/
theorem Call.Sound.settles (sound : c.Sound b h w) (present : w.present = w'.present) {stage : Stage} {turns : Nat}
    (settled : stage.settled = true) (bound : turns + stage.rank c.sleeps ≤ 15) :
    { c with stage, turns }.Sound b h w' := by
  have quiet : stage.loadSince = none ∧ stage.observed = none ∧ stage.fresh = false ∧ stage.pastLookup = false ∧
      stage.unspent = false := by
    cases stage <;> first | exact ⟨rfl, rfl, rfl, rfl, rfl⟩ | cases settled
  obtain ⟨noLoad, notSeen, notFresh, notPast, spent⟩ := quiet
  exact {
    begun := present ▸ sound.begun
    now := sound.now
    ownLoad := fun since loads => by rw [noLoad] at loads; cases loads
    probe := fun since probing => by cases probing; cases settled
    observed := fun o seen => by rw [notSeen] at seen; cases seen
    others := fun past => by rw [notPast] at past; cases past
    heard := fun past => by rw [notPast] at past; cases past
    fresh := fun fresh => by rw [notFresh] at fresh; cases fresh
    sleptOnce := sound.sleptOnce
    asleep := fun o readyAt asleep => by cases asleep; cases settled
    rested := fun _ o seen => by rw [notSeen] at seen; cases seen
    unspent := fun unspent => by rw [spent] at unspent; cases unspent
    spent := fun o looking => by cases looking; cases settled
    missLoads := sound.missLoads
    entryLoads := sound.entryLoads
    unloaded := fun locking => by cases locking; cases settled
    turns := bound }

end Others

structure World.Sound (b : Broker) (h : History) (w : World) : Prop where
  exclusive : ∀ (i : Nat) (c : Call), w.calls[i]? = some c → c.stage.holds = true → w.shared.lock = some i
  holder : ∀ i, w.shared.lock = some i → ∃ c, w.calls[i]? = some c ∧ c.stage.holds = true
  calls : ∀ (i : Nat) (c : Call), w.calls[i]? = some c → c.Sound b h w
  last : ∀ load, w.shared.lastFullLoad = some load → load.finished ≤ h.clock w.present
  memory : w.shared.needsReload = false → ∀ load, w.shared.lastFullLoad = some load → load.succeeded = true →
    h.Loaded load.since w.present w.shared.memory
  trusting : ∀ (i : Nat) (c : Call) (place : Place), w.calls[i]? = some c → c.stage = .looking place →
    w.shared.needsReload = false
  trusted : b.reloadBeforeUse = false → w.spoiled = 0 →
    w.shared.needsReload = false ∧ ∀ c ∈ w.calls, c.entryLoads = 0

/-- The world after the turn of the call under index `i`. -/
def World.after (w : World) (i : Nat) (s : Shared) (c : Call) : World :=
  { w with shared := s, calls := w.calls.set i c }

section OwnTurn

variable {b : Broker} {h : History} {w : World} {i : Nat} {c c' : Call} {s' : Shared} {act : Act}

theorem Stage.holds_of_loadSince {stage : Stage} {since : Nat} (loads : stage.loadSince = some since) :
    stage.holds = true := by
  cases stage <;> first | rfl | cases loads

/-- Nobody loads while nobody holds the lock. -/
theorem World.Sound.not_underway (sound : w.Sound b h) (free : w.shared.lock = none) (since : Nat) :
    ¬ w.Underway since := by
  rintro ⟨j, d, at_, loads⟩
  have held := sound.exclusive j d at_ (Stage.holds_of_loadSince loads)
  rw [free] at held
  cases held

/-- After the turn, whoever loads has loaded before, or is the call that took the turn. -/
theorem World.underway_after {since : Nat} (underway : (w.after i s' c').Underway since) :
    (∃ (j : Nat) (d : Call), j ≠ i ∧ w.calls[j]? = some d ∧ d.stage.loadSince = some since) ∨
      c'.stage.loadSince = some since := by
  obtain ⟨j, d, at_, loads⟩ := underway
  rw [World.after, List.getElem?_set] at at_
  by_cases same : i = j
  · rw [if_pos same] at at_
    split at at_
    · cases at_
      exact .inr loads
    · cases at_
  · rw [if_neg same] at at_
    exact .inl ⟨j, d, fun eq => same eq.symm, at_, loads⟩

/-- While a call holds the lock, nobody else loads. -/
theorem World.Sound.underway_holding (sound : w.Sound b h) (at_ : w.calls[i]? = some c) (holds : c.stage.holds = true)
    {since : Nat} (underway : (w.after i s' c').Underway since) : c'.stage.loadSince = some since := by
  rcases World.underway_after underway with ⟨j, d, other, at_j, loads⟩ | own
  · have mine := sound.exclusive i c at_ holds
    have theirs := sound.exclusive j d at_j (Stage.holds_of_loadSince loads)
    exact absurd (Option.some.inj (theirs.symm.trans mine)) other
  · exact own

theorem World.Sound.underway_free (sound : w.Sound b h) (free : w.shared.lock = none) {since : Nat}
    (underway : (w.after i s' c').Underway since) : c'.stage.loadSince = some since := by
  rcases World.underway_after underway with ⟨j, d, _, at_j, loads⟩ | own
  · exact absurd ⟨j, d, at_j, loads⟩ (sound.not_underway free since)
  · exact own

theorem World.underway_quiet {since : Nat} (quiet : c'.stage.loadSince = none)
    (underway : (w.after i s' c').Underway since) : w.Underway since := by
  rcases World.underway_after underway with ⟨j, d, _, at_j, loads⟩ | own
  · exact ⟨j, d, at_j, loads⟩
  · rw [quiet] at own
    cases own

theorem Stage.rank_pos {stage : Stage} {sleeps : Nat} (underway : stage.finished = false) (once : sleeps ≤ 1) :
    0 < stage.rank sleeps := by
  cases stage with
  | locking place | reloading place | looking place => cases place <;> simp only [Stage.rank] <;> omega
  | missed | probing | probed | sleeping | loading | found => simp only [Stage.rank]; omega
  | malformed | released | absent | failed | cancelled => cases underway

theorem Call.Sound.ends {w' : World} (sound : c.Sound b h w) (present : w.present = w'.present) {stage : Stage}
    (settled : stage.settled = true) (lower : stage.rank c.sleeps < c.stage.rank c.sleeps) :
    (c.goes stage).Sound b h w' := by
  have turns := sound.turns
  exact sound.settles present settled (by omega)

section Stays

/-! What a call relies on carries over to a stage that follows. -/

theorem World.Sound.own (sound : w.Sound b h) (at_ : w.calls[i]? = some c) : c.Sound b h w :=
  sound.calls i c at_

theorem Call.Sound.served {place : Place} (sound : w.Sound b h) (at_ : w.calls[i]? = some c)
    (stage : c.stage = .locking place) (free : w.shared.lock = none) :
    (c.goes (.looking place)).Sound b h (w.after i (w.shared.locked i) (c.goes (.looking place))) := by
  have own := sound.own at_
  have quiet : ∀ since, ¬ (w.after i (w.shared.locked i) (c.goes (.looking place))).Underway since := by
    intro since underway
    cases sound.underway_free free underway
  have turns := own.turns
  have observed := own.observed
  have heard := own.heard
  have rested := own.rested
  have fresh := own.fresh
  have unspent := own.unspent
  rw [stage] at turns observed heard rested fresh unspent
  exact {
    begun := own.begun
    now := own.now
    ownLoad := fun since loads => by cases loads
    probe := fun since probing => by cases probing
    observed := fun o seen => by
      cases place with
      | entry => cases seen
      | loop answered => exact ⟨(observed o seen).1, fun since loads => by cases loads⟩
    others := fun _ since underway => absurd underway (quiet since)
    heard := fun past load last => by
      cases place with
      | entry => cases past
      | loop answered => exact heard rfl load last
    fresh := fun isFresh => by
      cases place with
      | entry => exact fresh rfl
      | loop answered => cases isFresh
    sleptOnce := own.sleptOnce
    asleep := fun o readyAt asleep => by cases asleep
    rested := fun slept o seen => by
      cases place with
      | entry => cases seen
      | loop answered => exact ⟨fun since underway => absurd underway (quiet since), (rested slept o seen).2⟩
    unspent := fun isUnspent => by
      cases place with
      | entry => exact unspent rfl
      | loop answered => cases isUnspent
    spent := fun o looking => .inl (by
      cases place with
      | entry => cases looking
      | loop answered => exact unspent rfl)
    missLoads := own.missLoads
    entryLoads := own.entryLoads
    unloaded := fun locking => by cases locking
    turns := by
      have once := own.sleptOnce
      cases place <;> simp only [Stage.rank, Call.goes] at turns ⊢ <;> omega }

theorem Call.Sound.reloads {place : Place} (sound : w.Sound b h) (at_ : w.calls[i]? = some c)
    (stage : c.stage = .locking place) (free : w.shared.lock = none) :
    ((c.charged place).goes (.reloading place w.present)).Sound b h
      (w.after i (w.shared.locked i) ((c.charged place).goes (.reloading place w.present))) := by
  have own := sound.own at_
  have mine : ∀ since,
      (w.after i (w.shared.locked i) ((c.charged place).goes (.reloading place w.present))).Underway since →
      since = w.present := by
    intro since underway
    exact (Option.some.inj (sound.underway_free free underway)).symm
  have turns := own.turns
  have observed := own.observed
  have heard := own.heard
  have rested := own.rested
  have fresh := own.fresh
  have unspent := own.unspent
  rw [stage] at turns observed heard rested fresh unspent
  have begun := own.begun
  cases place with
  | entry =>
    exact {
      begun := begun
      now := own.now
      ownLoad := fun since loads => by
        cases loads
        exact ⟨begun, le_rfl⟩
      probe := fun since probing => by cases probing
      observed := fun o seen => by cases seen
      others := fun past => by cases past
      heard := fun past => by cases past
      fresh := fun _ => fresh rfl
      sleptOnce := own.sleptOnce
      asleep := fun o readyAt asleep => by cases asleep
      rested := fun _ o seen => by cases seen
      unspent := fun _ => unspent rfl
      spent := fun o looking => by cases looking
      missLoads := own.missLoads
      entryLoads := by
        have none_yet := own.unloaded stage
        simp only [Call.goes, Call.charged]
        omega
      unloaded := fun locking => by cases locking
      turns := by
        simp only [Stage.rank, Call.goes, Call.charged] at turns ⊢
        omega }
  | loop answered =>
    exact {
      begun := begun
      now := own.now
      ownLoad := fun since loads => by
        cases loads
        exact ⟨begun, le_rfl⟩
      probe := fun since probing => by cases probing
      observed := fun o seen => by
        refine ⟨(observed o seen).1, fun since loads => ?_⟩
        cases loads
        exact (observed o seen).1
      others := fun _ since underway => by
        rw [mine since underway]
        exact begun
      heard := fun _ load last => heard rfl load last
      fresh := fun isFresh => by cases isFresh
      sleptOnce := own.sleptOnce
      asleep := fun o readyAt asleep => by cases asleep
      rested := fun slept o seen => by
        refine ⟨fun since underway => ?_, (rested slept o seen).2⟩
        rw [mine since underway]
        exact (observed o seen).1
      unspent := fun isUnspent => by cases isUnspent
      spent := fun o looking => by cases looking
      missLoads := by
        have none_yet := unspent rfl
        simp only [Call.goes, Call.charged]
        omega
      entryLoads := own.entryLoads
      unloaded := fun locking => by cases locking
      turns := by
        have once := own.sleptOnce
        simp only [Stage.rank, Call.goes, Call.charged] at turns ⊢
        omega }

/-- A load of `lock_state` is younger than the probe the call follows up. -/
theorem Call.Sound.reloaded {place : Place} {since : Nat} {store : PublicControlStateStore} (sound : w.Sound b h)
    (at_ : w.calls[i]? = some c) (stage : c.stage = .reloading place since) :
    (c.goes (.looking place)).Sound b h
      (w.after i (w.shared.loadOk h since w.present store) (c.goes (.looking place))) := by
  have own := sound.own at_
  have holds : c.stage.holds = true := by rw [stage]; rfl
  have quiet : ∀ other,
      ¬ (w.after i (w.shared.loadOk h since w.present store) (c.goes (.looking place))).Underway other := by
    intro other underway
    cases sound.underway_holding at_ holds underway
  have turns := own.turns
  have observed := own.observed
  have fresh := own.fresh
  have unspent := own.unspent
  have ownLoad := own.ownLoad
  rw [stage] at turns observed fresh unspent ownLoad
  have once := own.sleptOnce
  cases place with
  | entry =>
    exact {
      begun := own.begun
      now := own.now
      ownLoad := fun since loads => by cases loads
      probe := fun since probing => by cases probing
      observed := fun o seen => by cases seen
      others := fun past => by cases past
      heard := fun past => by cases past
      fresh := fun _ => fresh rfl
      sleptOnce := once
      asleep := fun o readyAt asleep => by cases asleep
      rested := fun _ o seen => by cases seen
      unspent := fun _ => unspent rfl
      spent := fun o looking => by cases looking
      missLoads := own.missLoads
      entryLoads := own.entryLoads
      unloaded := fun locking => by cases locking
      turns := by
        simp only [Stage.rank, Call.goes] at turns ⊢
        omega }
  | loop answered =>
    have after : answered ≤ h.clock since := (observed answered rfl).2 since rfl
    exact {
      begun := own.begun
      now := own.now
      ownLoad := fun since loads => by cases loads
      probe := fun since probing => by cases probing
      observed := fun o seen => ⟨(observed o seen).1, fun since loads => by cases loads⟩
      others := fun _ other underway => absurd underway (quiet other)
      heard := fun _ load last => by
        cases last
        exact .inl (ownLoad since rfl).1
      fresh := fun isFresh => by cases isFresh
      sleptOnce := once
      asleep := fun o readyAt asleep => by cases asleep
      rested := fun _ o seen => by
        cases seen
        exact ⟨fun other underway => absurd underway (quiet other), _, rfl, .inl after⟩
      unspent := fun isUnspent => by cases isUnspent
      spent := fun o looking => by
        cases looking
        exact .inr ⟨_, rfl, after⟩
      missLoads := own.missLoads
      entryLoads := own.entryLoads
      unloaded := fun locking => by cases locking
      turns := by
        simp only [Stage.rank, Call.goes] at turns ⊢
        omega }

/-- The miss is noticed under the lock, so every load that others make is younger, and the
last one is over. -/
theorem Call.Sound.missed (sound : w.Sound b h) (at_ : w.calls[i]? = some c) (stage : c.stage = .looking .entry) :
    (c.goes .missed).Sound b h (w.after i w.shared.unlocked (c.goes .missed)) := by
  have own := sound.own at_
  have holds : c.stage.holds = true := by rw [stage]; rfl
  have turns := own.turns
  have fresh := own.fresh
  have unspent := own.unspent
  rw [stage] at turns fresh unspent
  exact {
    begun := own.begun
    now := own.now
    ownLoad := fun since loads => by cases loads
    probe := fun since probing => by cases probing
    observed := fun o seen => by cases seen
    others := fun _ other underway => by cases sound.underway_holding at_ holds underway
    heard := fun _ load last => .inr (sound.last load last)
    fresh := fun _ => fresh rfl
    sleptOnce := own.sleptOnce
    asleep := fun o readyAt asleep => by cases asleep
    rested := fun _ o seen => by cases seen
    unspent := fun _ => unspent rfl
    spent := fun o looking => by cases looking
    missLoads := own.missLoads
    entryLoads := own.entryLoads
    unloaded := fun locking => by cases locking
    turns := by
      simp only [Stage.rank, Call.goes] at turns ⊢
      omega }

/-- A call that has slept finds the last load younger than its probe, or old enough. -/
theorem Call.Sound.not_slept {observed : Nat} {load : FullLoad} (own : c.Sound b h w)
    (stage : c.stage = .looking (.loop observed)) (last : w.shared.lastFullLoad = some load)
    (before : load.started < observed) (early : h.clock w.present < load.finished + b.missReloadMinInterval) :
    c.sleeps = 0 := by
  by_contra slept
  have once := own.sleptOnce
  obtain ⟨-, known, is_last, rested⟩ := own.rested (by omega) observed (by rw [stage]; rfl)
  cases Option.some.inj (is_last.symm.trans last)
  rw [stage] at rested
  dsimp only [Stage.due] at rested
  omega

theorem Call.Sound.not_spent {observed : Nat} (own : c.Sound b h w) (stage : c.stage = .looking (.loop observed))
    (stale : ∀ load, w.shared.lastFullLoad = some load → load.started < observed) : c.missLoads = 0 := by
  rcases own.spent observed stage with none_yet | ⟨load, last, after⟩
  · exact none_yet
  · have before := stale load last
    omega

theorem Call.Sound.sleepsOn {observed : Nat} {load : FullLoad} (sound : w.Sound b h) (at_ : w.calls[i]? = some c)
    (stage : c.stage = .looking (.loop observed)) (last : w.shared.lastFullLoad = some load)
    (before : load.started < observed) (early : h.clock w.present < load.finished + b.missReloadMinInterval) :
    ({ c with sleeps := c.sleeps + 1 }.goes (.sleeping observed (load.finished + b.missReloadMinInterval))).Sound b h
      (w.after i w.shared.unlocked
        ({ c with sleeps := c.sleeps + 1 }.goes (.sleeping observed (load.finished + b.missReloadMinInterval)))) := by
  have own := sound.own at_
  have holds : c.stage.holds = true := by rw [stage]; rfl
  have awake := own.not_slept stage last before early
  have idle : c.missLoads = 0 := by
    refine own.not_spent stage fun other is_last => ?_
    cases Option.some.inj (is_last.symm.trans last)
    exact before
  have ended := sound.last load last
  have turns := own.turns
  have seen := own.observed observed (by rw [stage]; rfl)
  have heard := own.heard (by rw [stage]; rfl)
  rw [stage] at turns heard
  exact {
    begun := own.begun
    now := own.now
    ownLoad := fun since loads => by cases loads
    probe := fun since probing => by cases probing
    observed := fun o isSeen => by
      cases isSeen
      exact ⟨seen.1, fun since loads => by cases loads⟩
    others := fun _ other underway => by cases sound.underway_holding at_ holds underway
    heard := fun _ other is_last => heard other is_last
    fresh := fun isFresh => by cases isFresh
    sleptOnce := by
      simp only [Call.goes]
      omega
    asleep := fun o readyAt asleep => by
      cases asleep
      exact ⟨by simp only [Call.goes]; omega, Nat.add_le_add_right ended _⟩
    rested := fun _ o isSeen => by
      cases isSeen
      exact ⟨fun other underway => (by cases sound.underway_holding at_ holds underway), load, last, .inr le_rfl⟩
    unspent := fun _ => idle
    spent := fun o looking => by cases looking
    missLoads := own.missLoads
    entryLoads := own.entryLoads
    unloaded := fun locking => by cases locking
    turns := by
      simp only [Stage.rank, Call.goes] at turns ⊢
      omega }

theorem Call.Sound.loads {observed : Nat} (sound : w.Sound b h) (at_ : w.calls[i]? = some c)
    (stage : c.stage = .looking (.loop observed))
    (stale : ∀ load, w.shared.lastFullLoad = some load → load.started < observed) :
    ({ c with missLoads := c.missLoads + 1 }.goes (.loading observed w.present)).Sound b h
      (w.after i w.shared ({ c with missLoads := c.missLoads + 1 }.goes (.loading observed w.present))) := by
  have own := sound.own at_
  have holds : c.stage.holds = true := by rw [stage]; rfl
  have mine : ∀ since, (w.after i w.shared
      ({ c with missLoads := c.missLoads + 1 }.goes (.loading observed w.present))).Underway since →
      since = w.present := by
    intro since underway
    exact (Option.some.inj (sound.underway_holding at_ holds underway)).symm
  have idle := own.not_spent stage stale
  have turns := own.turns
  have seen := own.observed observed (by rw [stage]; rfl)
  have heard := own.heard (by rw [stage]; rfl)
  have rested := own.rested
  have begun := own.begun
  have once := own.sleptOnce
  rw [stage] at turns heard rested
  exact {
    begun := begun
    now := own.now
    ownLoad := fun since loads => by
      cases loads
      exact ⟨begun, le_rfl⟩
    probe := fun since probing => by cases probing
    observed := fun o isSeen => by
      cases isSeen
      refine ⟨seen.1, fun since loads => ?_⟩
      cases loads
      exact seen.1
    others := fun _ since underway => by
      rw [mine since underway]
      exact begun
    heard := fun _ load last => heard load last
    fresh := fun isFresh => by cases isFresh
    sleptOnce := once
    asleep := fun o readyAt asleep => by cases asleep
    rested := fun slept o isSeen => by
      cases isSeen
      refine ⟨fun since underway => ?_, (rested slept observed rfl).2⟩
      rw [mine since underway]
      exact seen.1
    unspent := fun isUnspent => by cases isUnspent
    spent := fun o looking => by cases looking
    missLoads := by
      simp only [Call.goes]
      omega
    entryLoads := own.entryLoads
    unloaded := fun locking => by cases locking
    turns := by
      simp only [Stage.rank, Call.goes] at turns ⊢
      omega }

/-- Around the probe a call only waits. -/
theorem Call.Sound.around {stage : Stage} (own : c.Sound b h w) (past : c.stage.pastLookup = true)
    (wasFresh : c.stage.fresh = true) (unseen : c.stage.observed = none) (isFresh : stage.fresh = true)
    (still : stage.observed = none) (quiet : stage.loadSince = none)
    (probe : ∀ since, stage = .probing since → c.begun ≤ since ∧ since ≤ w.present)
    (notLocking : stage ≠ .locking .entry) (lower : stage.rank c.sleeps < c.stage.rank c.sleeps) :
    (c.goes stage).Sound b h (w.after i w.shared (c.goes stage)) := by
  have turns := own.turns
  have heard := own.heard past
  rw [unseen] at heard
  have idle : c.missLoads = 0 := own.unspent (by
    cases known : c.stage with
    | locking place => cases place <;> rfl
    | sleeping => rfl
    | _ => rw [known] at wasFresh; exact wasFresh)
  exact {
    begun := own.begun
    now := own.now
    ownLoad := fun since loads => by cases quiet.symm.trans loads
    probe := probe
    observed := fun o seen => by cases still.symm.trans seen
    others := fun _ since underway => own.others past since (World.underway_quiet quiet underway)
    heard := fun _ load last => by
      simp only [Call.goes, still]
      exact heard load last
    fresh := fun _ => own.fresh wasFresh
    sleptOnce := own.sleptOnce
    asleep := fun o readyAt asleep => by
      simp only [Call.goes] at asleep
      rw [asleep] at isFresh
      cases isFresh
    rested := fun _ o seen => by cases still.symm.trans seen
    unspent := fun _ => idle
    spent := fun _ _ => .inl idle
    missLoads := own.missLoads
    entryLoads := own.entryLoads
    unloaded := fun locking => absurd locking notLocking
    turns := by
      simp only [Call.goes]
      omega }

theorem Call.Sound.observes (sound : w.Sound b h) (at_ : w.calls[i]? = some c) (stage : c.stage = .probed) :
    (c.goes (.locking (.loop (h.clock w.present)))).Sound b h
      (w.after i w.shared (c.goes (.locking (.loop (h.clock w.present))))) := by
  have own := sound.own at_
  have turns := own.turns
  have awake := own.fresh (by rw [stage]; rfl)
  have others := own.others (by rw [stage]; rfl)
  rw [stage] at turns
  exact {
    begun := own.begun
    now := own.now
    ownLoad := fun since loads => by cases loads
    probe := fun since probing => by cases probing
    observed := fun o seen => by
      cases seen
      exact ⟨le_rfl, fun since loads => by cases loads⟩
    others := fun _ since underway => others since (World.underway_quiet rfl underway)
    heard := fun _ load last => .inr (sound.last load last)
    fresh := fun isFresh => by cases isFresh
    sleptOnce := own.sleptOnce
    asleep := fun o readyAt asleep => by cases asleep
    rested := fun slept => by
      have slept : c.sleeps = 1 := slept
      omega
    unspent := fun _ => own.unspent (by rw [stage]; rfl)
    spent := fun o looking => by cases looking
    missLoads := own.missLoads
    entryLoads := own.entryLoads
    unloaded := fun locking => by cases locking
    turns := by
      simp only [Stage.rank, Call.goes] at turns ⊢
      omega }

theorem Call.Sound.wakes {observed readyAt : Nat} (sound : w.Sound b h) (at_ : w.calls[i]? = some c)
    (stage : c.stage = .sleeping observed readyAt) (ready : readyAt ≤ h.clock w.present) :
    (c.goes (.locking (.loop observed))).Sound b h (w.after i w.shared (c.goes (.locking (.loop observed)))) := by
  have own := sound.own at_
  have turns := own.turns
  have seen := own.observed observed (by rw [stage]; rfl)
  have others := own.others (by rw [stage]; rfl)
  have heard := own.heard (by rw [stage]; rfl)
  have slept := (own.asleep observed readyAt stage).1
  obtain ⟨underway_after, load, last, rested⟩ := own.rested slept observed (by rw [stage]; rfl)
  rw [stage] at turns heard rested
  exact {
    begun := own.begun
    now := own.now
    ownLoad := fun since loads => by cases loads
    probe := fun since probing => by cases probing
    observed := fun o isSeen => by
      cases isSeen
      exact ⟨seen.1, fun since loads => by cases loads⟩
    others := fun _ since underway => others since (World.underway_quiet rfl underway)
    heard := fun _ load last => heard load last
    fresh := fun isFresh => by cases isFresh
    sleptOnce := own.sleptOnce
    asleep := fun o readyAt asleep => by cases asleep
    rested := fun _ o isSeen => by
      cases isSeen
      exact ⟨fun since underway => underway_after since (World.underway_quiet rfl underway), load, last,
        rested.imp_right fun due => due.trans ready⟩
    unspent := fun _ => own.unspent (by rw [stage]; rfl)
    spent := fun o looking => by cases looking
    missLoads := own.missLoads
    entryLoads := own.entryLoads
    unloaded := fun locking => by cases locking
    turns := by
      simp only [Stage.rank, Call.goes] at turns ⊢
      omega }

end Stays

/-- Each turn keeps what the call relies on, and leaves it fewer turns to take. -/
theorem Call.Sound.turned (sound : w.Sound b h) (at_ : w.calls[i]? = some c)
    (turned : Turned b h w.present i w.shared c act s' c') : c'.Sound b h (w.after i s' c') := by
  have own := sound.own at_
  have turns := own.turns
  have once := own.sleptOnce
  cases turned with
  | served stage free => exact .served sound at_ stage free
  | reloads stage free => exact .reloads sound at_ stage free
  | reloaded stage => exact .reloaded sound at_ stage
  | missed stage => exact .missed sound at_ stage
  | sleeps stage last before early => exact .sleepsOn sound at_ stage last before early
  | loads stage stale => exact .loads sound at_ stage stale
  | observes stage => exact .observes sound at_ stage
  | wakes stage ready => exact .wakes sound at_ stage ready
  | probes stage =>
    have lower : (Stage.probing w.present).rank c.sleeps < c.stage.rank c.sleeps := by
      rw [stage]
      simp only [Stage.rank]
      omega
    refine own.around (by rw [stage]; rfl) (by rw [stage]; rfl) (by rw [stage]; rfl) rfl rfl rfl ?_ (by simp) lower
    intro since probing
    cases probing
    exact ⟨own.begun, le_rfl⟩
  | seen stage =>
    have lower : Stage.probed.rank c.sleeps < c.stage.rank c.sleeps := by
      rw [stage]
      simp only [Stage.rank]
      omega
    exact own.around (by rw [stage]; rfl) (by rw [stage]; rfl) (by rw [stage]; rfl) rfl rfl rfl
      (fun since probing => by cases probing) (by simp) lower
  | refused stage | alone stage | gone stage | unknown stage | unseen stage | probeFailed stage
  | loadMissed stage | loadFailed stage | reloadFailed stage | released stage =>
    refine own.ends ?_ ?_ (Stage.rank_pos ?_ once)
    · rfl
    · rfl
    · rw [stage]
      rfl
  | loadFound stage =>
    refine own.ends ?_ ?_ ?_
    · rfl
    · rfl
    · rw [stage]
      simp only [Stage.rank]
      omega
  | @hit place _ stage =>
    refine own.ends ?_ ?_ ?_
    · rfl
    · rfl
    · rw [stage]
      cases place <;> simp only [Stage.rank] <;> omega
  | cancelled =>
    refine own.settles ?_ ?_ ?_
    · rfl
    · rfl
    · simp only [Stage.rank]
      omega

end OwnTurn

end Sealwire.Control

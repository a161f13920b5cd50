import Sealwire.Control.Misses

namespace Sealwire.Control

section Effects

variable {b : Broker} {h : History} {present i : Nat} {s s' : Shared} {c c' : Call} {act : Act}

/-- A turn takes the lock for its own call and gives back its own only. -/
theorem Turned.lock (turned : Turned b h present i s c act s' c')
    (held : s.lock = some i ↔ c.stage.holds = true) :
    (s'.lock = some i ↔ c'.stage.holds = true) ∧ ∀ j ≠ i, (s'.lock = some j ↔ s.lock = some j) := by
  cases turned with
  | served stage free | reloads stage free =>
    refine ⟨⟨fun _ => rfl, fun _ => rfl⟩, fun j other => ⟨fun same => ?_, fun same => ?_⟩⟩
    · exact absurd (Option.some.inj same).symm other
    · rw [free] at same
      cases same
  | refused stage | probes stage | seen stage | unseen stage | probeFailed stage | observes stage | wakes stage =>
    rw [stage] at held
    exact ⟨⟨fun same => absurd (held.mp same) (by simp [Stage.holds]), fun same => (by cases same)⟩, fun _ _ => Iff.rfl⟩
  | reloaded stage | hit stage | loads stage | loadFound stage =>
    rw [stage] at held
    exact ⟨⟨fun _ => rfl, fun _ => held.mpr rfl⟩, fun _ _ => Iff.rfl⟩
  | reloadFailed stage | missed stage | alone stage | gone stage | unknown stage | sleeps stage | loadMissed stage
  | loadFailed stage | released stage =>
    rw [stage] at held
    have mine := held.mpr rfl
    refine ⟨⟨fun same => (by cases same), fun same => (by cases same)⟩, fun j other => ⟨fun same => (by cases same), fun same => ?_⟩⟩
    exact absurd (Option.some.inj (same.symm.trans mine)) other
  | cancelled underway =>
    cases holds : c.stage.holds with
    | true =>
      have mine := held.mpr holds
      refine ⟨⟨fun same => (by cases same), fun same => (by cases same)⟩, fun j other => ⟨fun same => (by cases same), fun same => ?_⟩⟩
      exact absurd (Option.some.inj (same.symm.trans mine)) other
    | false =>
      refine ⟨⟨fun same => ?_, fun same => (by cases same)⟩, fun _ _ => Iff.rfl⟩
      rw [held.mp same] at holds
      cases holds

/-- A load begins at the moment of its turn. -/
theorem Turned.loadSince (turned : Turned b h present i s c act s' c') {since : Nat}
    (loads : c'.stage.loadSince = some since) : since = present := by
  cases turned <;> cases loads <;> rfl

/-- Only a load that ends is put down as the last one. -/
theorem Turned.last (turned : Turned b h present i s c act s' c') :
    s'.lastFullLoad = s.lastFullLoad ∨
      ∃ load, s'.lastFullLoad = some load ∧ c.stage.loadSince = some load.since ∧
        load.started = h.clock load.since ∧ load.finished = h.clock present := by
  cases turned with
  | reloaded stage | reloadFailed stage | loadFound stage | loadMissed stage | loadFailed stage =>
    exact .inr ⟨_, rfl, by rw [stage]; rfl, rfl, rfl⟩
  | cancelled =>
    refine .inl ?_
    split <;> rfl
  | _ => exact .inl rfl

/-- Memory changes to what a load answered, and nowhere else. -/
theorem Turned.memory (turned : Turned b h present i s c act s' c') (answers : act.Answers h present c) :
    (s'.memory = s.memory ∧ s'.needsReload = s.needsReload ∧
      (s'.lastFullLoad = s.lastFullLoad ∨ ∃ load, s'.lastFullLoad = some load ∧ load.succeeded = false)) ∨
    ∃ load, s'.lastFullLoad = some load ∧ h.Loaded load.since present s'.memory ∧ s'.needsReload = false := by
  cases turned with
  | reloaded stage | loadFound stage | loadMissed stage =>
    exact .inr ⟨_, rfl, answers _ (by rw [stage]; rfl), rfl⟩
  | reloadFailed stage | loadFailed stage => exact .inl ⟨rfl, rfl, .inr ⟨_, rfl, rfl⟩⟩
  | cancelled =>
    refine .inl ?_
    split <;> exact ⟨rfl, rfl, .inl rfl⟩
  | _ => exact .inl ⟨rfl, rfl, .inl rfl⟩

theorem Turned.trust (turned : Turned b h present i s c act s' c') :
    s'.needsReload = s.needsReload ∨ s'.needsReload = false := by
  cases turned with
  | reloaded | loadFound | loadMissed => exact .inr rfl
  | cancelled =>
    refine .inl ?_
    split <;> rfl
  | _ => exact .inl rfl

/-- A call looks at memory that no failed save has left in doubt. -/
theorem Turned.looking (turned : Turned b h present i s c act s' c') {place : Place}
    (looking : c'.stage = .looking place) : s'.needsReload = false := by
  cases turned with
  | served stage free memory => exact memory.2
  | reloaded => rfl
  | _ => cases looking

theorem Turned.entryLoads (turned : Turned b h present i s c act s' c') :
    c'.entryLoads = c.entryLoads ∨ b.reloadBeforeUse = true ∨ s.needsReload = true := by
  cases turned with
  | reloads stage free demanded => exact .inr demanded
  | _ => exact .inl rfl

end Effects

section Steps

variable {b : Broker} {h : History} {w : World} {i : Nat} {c c' : Call} {s' : Shared} {act : Act}

theorem History.Loaded.mono {since present later : Nat} {store : PublicControlStateStore}
    (loaded : h.Loaded since present store) (order : present ≤ later) : h.Loaded since later store where
  credentials kind := by
    obtain ⟨k, after, before, agree⟩ := loaded.credentials kind
    exact ⟨k, after, before.trans order, agree⟩
  clientRelayGrants := by
    obtain ⟨k, after, before, agree⟩ := loaded.clientRelayGrants
    exact ⟨k, after, before.trans order, agree⟩

theorem World.after_getElem? (at_ : w.calls[i]? = some c) (j : Nat) :
    (w.after i s' c').calls[j]? = if i = j then some c' else w.calls[j]? := by
  have inside : i < w.calls.length := (List.getElem?_eq_some_iff.mp at_).1
  simp only [World.after, List.getElem?_set, inside, if_true]

theorem World.Sound.turned (sound : w.Sound b h) (at_ : w.calls[i]? = some c)
    (turned : Turned b h w.present i w.shared c act s' c') (answers : act.Answers h w.present c) :
    (w.after i s' c').Sound b h := by
  have held : w.shared.lock = some i ↔ c.stage.holds = true := by
    refine ⟨fun mine => ?_, sound.exclusive i c at_⟩
    obtain ⟨d, at_d, holds⟩ := sound.holder i mine
    cases Option.some.inj (at_d.symm.trans at_)
    exact holds
  obtain ⟨mine, theirs⟩ := turned.lock held
  have idle : ∀ {j : Nat} {d : Call}, j ≠ i → w.calls[j]? = some d → d.stage.holds = true →
      s'.lastFullLoad = w.shared.lastFullLoad := by
    intro j d other at_d holds
    rcases turned.last with same | ⟨load, -, loads, -⟩
    · exact same
    · have lock := sound.exclusive j d at_d holds
      have own := held.mpr (Stage.holds_of_loadSince loads)
      exact absurd (Option.some.inj (lock.symm.trans own)) other
  refine ⟨?_, ?_, ?_, ?_, ?_, ?_, ?_⟩
  · intro j d at_d holds
    rw [World.after_getElem? at_] at at_d
    split at at_d
    · rename_i same
      subst same
      cases at_d
      exact mine.mpr holds
    · rename_i other
      exact (theirs j (Ne.symm other)).mpr (sound.exclusive j d at_d holds)
  · intro j lock
    rw [World.after_getElem? at_]
    split
    · rename_i same
      subst same
      exact ⟨c', rfl, mine.mp lock⟩
    · rename_i other
      exact sound.holder j ((theirs j (Ne.symm other)).mp lock)
  · intro j d at_d
    rw [World.after_getElem? at_] at at_d
    split at at_d
    · cases at_d
      exact .turned sound at_ turned
    · rename_i other
      refine (sound.calls j d at_d).later ⟨le_rfl, ?_, ?_⟩ ?_
      · intro since underway
        rcases World.underway_after underway with ⟨k, e, _, at_e, loads⟩ | own
        · exact .inl ⟨k, e, at_e, loads⟩
        · exact .inr (turned.loadSince own)
      · rcases turned.last with same | ⟨load, last, loads, started, -⟩
        · exact .inl same
        · exact .inr ⟨load, last, ⟨i, c, at_, loads⟩, started⟩
      · intro o looking
        exact idle (Ne.symm other) at_d (by rw [looking]; rfl)
  · intro load last
    rcases turned.last with same | ⟨known, is_last, -, -, finished⟩
    · exact sound.last load (same.symm.trans last)
    · cases Option.some.inj (is_last.symm.trans last)
      exact finished.le
  · intro trusted load last succeeded
    rcases turned.memory answers with ⟨memory, reload, loads⟩ | ⟨known, is_last, loaded, -⟩
    · change h.Loaded load.since w.present s'.memory
      rcases loads with same | ⟨failed, is_last, not_succeeded⟩
      · rw [memory]
        exact sound.memory (reload.symm.trans trusted) load (same.symm.trans last) succeeded
      · cases Option.some.inj (is_last.symm.trans last)
        rw [succeeded] at not_succeeded
        cases not_succeeded
    · cases Option.some.inj (is_last.symm.trans last)
      exact loaded
  · intro j d place at_d looking
    rw [World.after_getElem? at_] at at_d
    split at at_d
    · cases at_d
      exact turned.looking looking
    · rcases turned.trust with same | trusted
      · exact same.trans (sound.trusting j d place at_d looking)
      · exact trusted
  · intro quiet unspoiled
    obtain ⟨trusted, entryLoads⟩ := sound.trusted quiet unspoiled
    constructor
    · rcases turned.trust with same | trusted'
      · exact same.trans trusted
      · exact trusted'
    · intro d member
      rcases List.mem_or_eq_of_mem_set member with old | new
      · exact entryLoads d old
      · rw [new]
        rcases turned.entryLoads with same | demanded | demanded
        · exact same.trans (entryLoads c (List.mem_of_getElem? at_))
        · rw [quiet] at demanded
          cases demanded
        · rw [trusted] at demanded
          cases demanded

theorem World.Sound.passed (sound : w.Sound b h) : World.Sound b h { w with present := w.present + 1 } where
  exclusive := sound.exclusive
  holder := sound.holder
  calls j d at_d := (sound.calls j d at_d).later ⟨Nat.le_succ _, fun _ underway => .inl underway, .inl rfl⟩ fun _ _ => rfl
  last load last := (sound.last load last).trans (h.clock_mono (Nat.le_succ _))
  memory trusted load last succeeded := (sound.memory trusted load last succeeded).mono (Nat.le_succ _)
  trusting := sound.trusting
  trusted := sound.trusted

theorem World.Sound.spoiled (sound : w.Sound b h) (free : w.shared.lock = none) (memory : PublicControlStateStore) :
    (step b h w (.spoil memory)).Sound b h where
  exclusive := sound.exclusive
  holder := sound.holder
  calls j d at_d := (sound.calls j d at_d).later ⟨le_rfl, fun _ underway => .inl underway, .inl rfl⟩ fun _ _ => rfl
  last := sound.last
  memory trusted := by cases trusted
  trusting j d place at_d looking := by
    have lock := sound.exclusive j d at_d (by rw [looking]; rfl)
    rw [free] at lock
    cases lock
  trusted _ unspoiled := by cases unspoiled

/-- A call that starts relies on nothing yet. -/
theorem Call.Sound.starts {stage : Stage} (c : Call) (begun : c.begun = w.present) (now : c.now ≤ h.unix c.begun)
    (start : c.stage = stage) (outside : stage = .locking .entry ∨ stage = .malformed)
    (unused : c.entryLoads = 0 ∧ c.missLoads = 0 ∧ c.sleeps = 0 ∧ c.turns = 0) : c.Sound b h w := by
  obtain ⟨entryLoads, missLoads, sleeps, turns⟩ := unused
  have facts : stage.loadSince = none ∧ stage.observed = none ∧ stage.pastLookup = false ∧ stage.rank 0 ≤ 15 ∧
      (∀ since, stage ≠ .probing since) ∧ (∀ o readyAt, stage ≠ .sleeping o readyAt) := by
    rcases outside with rfl | rfl <;> refine ⟨rfl, rfl, rfl, by decide, ?_, ?_⟩ <;> intros <;> intro contra <;>
      cases contra
  rw [← start] at facts
  obtain ⟨quiet, unseen, notPast, bound, notProbing, notSleeping⟩ := facts
  exact {
    begun := begun.le
    now := now
    ownLoad := fun since loads => by cases quiet.symm.trans loads
    probe := fun since probing => absurd probing (notProbing since)
    observed := fun o seen => by cases unseen.symm.trans seen
    others := fun past => by cases notPast.symm.trans past
    heard := fun past => by cases notPast.symm.trans past
    fresh := fun _ => sleeps
    sleptOnce := by omega
    asleep := fun o readyAt asleep => absurd asleep (notSleeping o readyAt)
    rested := fun slept => by omega
    unspent := fun _ => missLoads
    spent := fun _ _ => .inl missLoads
    missLoads := by omega
    entryLoads := by omega
    unloaded := fun _ => entryLoads
    turns := by
      rw [turns, sleeps]
      omega }

theorem getElem?_snoc {α : Type} {xs : List α} {x y : α} {j : Nat} (at_ : (xs ++ [x])[j]? = some y) :
    xs[j]? = some y ∨ y = x := by
  rw [List.getElem?_append] at at_
  split at at_
  · exact .inl at_
  · have member := List.mem_of_getElem? at_
    exact .inr (List.mem_singleton.mp member)

theorem World.Sound.begun (sound : w.Sound b h) (kind : CredentialKind) (credential : String) {now : Nat}
    (early : now ≤ h.unix w.present) : (step b h w (.begin kind credential now)).Sound b h := by
  let stage : Stage := if b.hasSubject kind credential then .locking .entry else .malformed
  let c : Call := { kind, credential, now, begun := w.present, stage }
  have outside : stage = .locking .entry ∨ stage = .malformed := by
    dsimp only [stage]
    split
    · exact .inl rfl
    · exact .inr rfl
  have quiet : stage.holds = false ∧ stage.loadSince = none ∧ ∀ place, stage ≠ .looking place := by
    rcases outside with start | start <;> rw [start] <;> exact ⟨rfl, rfl, fun _ contra => (by cases contra)⟩
  change World.Sound b h { w with calls := w.calls ++ [c] }
  have later : Later h w { w with calls := w.calls ++ [c] } := by
    refine ⟨le_rfl, ?_, .inl rfl⟩
    rintro since ⟨j, d, at_d, loads⟩
    rcases getElem?_snoc at_d with old | rfl
    · exact .inl ⟨j, d, old, loads⟩
    · cases quiet.2.1.symm.trans loads
  refine ⟨?_, ?_, ?_, sound.last, sound.memory, ?_, ?_⟩
  · intro j d at_d holds
    rcases getElem?_snoc at_d with old | rfl
    · exact sound.exclusive j d old holds
    · cases quiet.1.symm.trans holds
  · intro j lock
    obtain ⟨d, at_d, holds⟩ := sound.holder j lock
    exact ⟨d, (List.getElem?_append_left (List.getElem?_eq_some_iff.mp at_d).1).trans at_d, holds⟩
  · intro j d at_d
    rcases getElem?_snoc at_d with old | rfl
    · exact (sound.calls j d old).later later fun _ _ => rfl
    · exact .starts c rfl early rfl outside ⟨rfl, rfl, rfl, rfl⟩
  · intro j d place at_d looking
    rcases getElem?_snoc at_d with old | rfl
    · exact sound.trusting j d place old looking
    · exact absurd looking (quiet.2.2 place)
  · intro noReload unspoiled
    obtain ⟨trusted, entryLoads⟩ := sound.trusted noReload unspoiled
    refine ⟨trusted, fun d member => ?_⟩
    rcases List.mem_append.mp member with old | new
    · exact entryLoads d old
    · rw [List.mem_singleton.mp new]

theorem step_call (at_ : w.calls[i]? = some c) (turned : turn b h w.present i w.shared c act = some (s', c')) :
    step b h w (.call i act) = w.after i s' c' := by
  simp only [step, at_, turned, World.after]

theorem World.Sound.stepped (sound : w.Sound b h) (m : Move) (may : May b h w m) : (step b h w m).Sound b h := by
  cases m with
  | pass => exact sound.passed
  | spoil memory => exact sound.spoiled may memory
  | begin kind credential now => exact sound.begun kind credential may
  | call i act =>
    obtain ⟨c, at_, can, answers⟩ := may
    obtain ⟨⟨s', c'⟩, turned⟩ := Option.isSome_iff_exists.mp can
    rw [step_call at_ turned]
    exact sound.turned at_ (turned_of_turn turned) answers

theorem Opening.sound (opening : Opening h w) : w.Sound b h := by
  have empty : ∀ {j : Nat} {d : Call}, w.calls[j]? ≠ some d := by
    intro j d at_d
    rw [opening.noCalls] at at_d
    cases at_d
  obtain ⟨since, _, loaded, last⟩ := opening.loaded
  refine ⟨fun j d at_d => absurd at_d empty, ?_, fun j d at_d => absurd at_d empty, ?_, ?_,
    fun j d place at_d => absurd at_d empty, ?_⟩
  · intro j lock
    cases opening.unlocked.symm.trans lock
  · intro load is_last
    cases Option.some.inj (last.symm.trans is_last)
    exact le_rfl
  · intro _ load is_last _
    cases Option.some.inj (last.symm.trans is_last)
    exact loaded
  · intro _ _
    refine ⟨opening.trusted, fun d member => ?_⟩
    rw [opening.noCalls] at member
    cases member

theorem World.Sound.run {start : World} (opening : Opening h start) (reached : Reaches (step b h) (May b h) start w) :
    w.Sound b h :=
  reached.invariant opening.sound fun _ m sound may => sound.stepped m may

end Steps

section Absent

variable {b : Broker} {h : History} {w : World} {i : Nat} {c c' : Call} {s' : Shared} {act : Act}

/-- At some moment of the call its credential was not valid in the table. -/
def Call.Justified (b : Broker) (h : History) (c : Call) : Prop :=
  ∀ ended, c.stage = .absent ended → ∃ k, c.begun ≤ k ∧ k ≤ ended ∧
    (h.table k).hasCredential c.kind (b.tokenHash c.kind c.credential) (h.unix k) = false

theorem hasCredential_later {store : PublicControlStateStore} {kind : CredentialKind} {tokenHash : String}
    {now later : Nat} (order : now ≤ later) (lacks : store.hasCredential kind tokenHash now = false) :
    store.hasCredential kind tokenHash later = false := by
  cases valid : store.hasCredential kind tokenHash later with
  | false => rfl
  | true => exact absurd (PublicControlStateStore.hasCredential_earlier order valid) (by simp [lacks])

/-- A load begun after the call tells of the table as it was during the call. -/
theorem Call.Sound.lacks {since : Nat} {store : PublicControlStateStore} (sound : c.Sound b h w)
    (after : c.begun ≤ since) (loaded : h.Loaded since w.present store)
    (miss : store.lookup c.kind (b.tokenHash c.kind c.credential) c.now = none) :
    ∃ k, c.begun ≤ k ∧ k ≤ w.present ∧
      (h.table k).hasCredential c.kind (b.tokenHash c.kind c.credential) (h.unix k) = false := by
  obtain ⟨k, lower, upper, agree⟩ := loaded.credentials c.kind
  have lacks := PublicControlStateStore.lookup_eq_none_iff.mp miss
  rw [PublicControlStateStore.hasCredential_congr agree] at lacks
  have order : c.now ≤ h.unix k := sound.now.trans (h.unix_mono (after.trans lower))
  exact ⟨k, after.trans lower, upper, hasCredential_later order lacks⟩

/-- A load the loop trusts began after its own probe was answered, so it cannot have ended
before the call's lookup unless it took no time. -/
theorem World.Sound.gone (sound : w.Sound b h) (inTime : w.TookTime) (at_ : w.calls[i]? = some c) {observed : Nat}
    {load : FullLoad} (stage : c.stage = .looking (.loop observed)) (last : w.shared.lastFullLoad = some load)
    (after : observed ≤ load.started) (succeeded : load.succeeded = true) : c.begun ≤ load.since := by
  have took := inTime load last succeeded
  rcases (sound.calls i c at_).heard (by rw [stage]; rfl) load last with young | ended
  · exact young
  · rw [stage] at ended
    dsimp only [Stage.observed, Option.getD_some] at ended
    omega

theorem World.Sound.justified (sound : w.Sound b h) (inTime : w.TookTime) (shared : b.sharedBackend = true)
    (at_ : w.calls[i]? = some c) (turned : Turned b h w.present i w.shared c act s' c')
    (answers : act.Answers h w.present c) : c'.Justified b h := by
  have own := sound.own at_
  intro ended stage'
  cases turned with
  | alone stage exclusive =>
    rw [shared] at exclusive
    cases exclusive
  | gone stage miss last after succeeded =>
    cases stage'
    have young := sound.gone inTime at_ stage last after succeeded
    have trusted := sound.trusting i c _ at_ stage
    exact own.lacks young (sound.memory trusted _ last succeeded) miss
  | @unseen since read stage lacks =>
    cases stage'
    obtain ⟨lower, upper⟩ := answers since stage
    exact ⟨read, (own.probe since stage).1.trans lower, upper, hasCredential_later (h.unix_mono lower) lacks⟩
  | @loadMissed _ since store stage miss =>
    cases stage'
    have loads : c.stage.loadSince = some since := by rw [stage]; rfl
    exact own.lacks (own.ownLoad since loads).1 (answers since loads) miss
  | _ => cases stage'

end Absent

end Sealwire.Control

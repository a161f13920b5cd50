import Sealwire.Control.MissRuns

namespace Sealwire.Control

section Progress

variable {b : Broker} {h : History} {w : World} {i : Nat} {c : Call}

/-- The call under the index can take a turn of its own. -/
def World.CanTurn (b : Broker) (h : History) (w : World) (i : Nat) : Prop :=
  ∃ act, act ≠ .cancel ∧ May b h w (.call i act)

theorem May.of_turn {act : Act} (at_ : w.calls[i]? = some c) (answers : act.Answers h w.present c)
    (can : (turn b h w.present i w.shared c act).isSome = true) : May b h w (.call i act) :=
  ⟨c, at_, can, answers⟩

/-- Whoever holds the lock can go on. -/
theorem World.canTurn_of_holds (at_ : w.calls[i]? = some c) (holds : c.stage.holds = true) : w.CanTurn b h i := by
  cases stage : c.stage with
  | reloading | loading =>
    refine ⟨.loadFailed, nofun, .of_turn at_ trivial ?_⟩
    simp only [turn, stage, Option.isSome_some]
  | looking place =>
    refine ⟨.look, nofun, .of_turn at_ trivial ?_⟩
    simp only [turn, stage, Option.isSome_some]
  | found =>
    refine ⟨.release, nofun, .of_turn at_ trivial ?_⟩
    simp only [turn, stage, Option.isSome_some]
  | _ =>
    rw [stage] at holds
    cases holds

theorem World.canTurn_of_free {place : Place} (at_ : w.calls[i]? = some c) (stage : c.stage = .locking place)
    (free : w.shared.lock = none) : w.CanTurn b h i := by
  refine ⟨.take, nofun, .of_turn at_ trivial ?_⟩
  simp only [turn, stage, free, Option.isSome_none, Bool.false_eq_true, if_false]
  split <;> rfl

/-- A call that is not over can go on, or waits for the lock's holder, who can, or sleeps
for no longer than the interval. -/
theorem World.Sound.progress (sound : w.Sound b h) (at_ : w.calls[i]? = some c) (underway : c.stage.finished = false) :
    w.CanTurn b h i ∨ (∃ j, j ≠ i ∧ w.shared.lock = some j ∧ w.CanTurn b h j) ∨
      ∃ observed readyAt, c.stage = .sleeping observed readyAt ∧ h.clock w.present < readyAt ∧
        readyAt ≤ h.clock w.present + b.missReloadMinInterval := by
  cases stage : c.stage with
  | locking place =>
    cases lock : w.shared.lock with
    | none => exact .inl (World.canTurn_of_free at_ stage lock)
    | some j =>
      obtain ⟨d, at_d, holds⟩ := sound.holder j lock
      refine .inr (.inl ⟨j, ?_, rfl, World.canTurn_of_holds at_d holds⟩)
      rintro rfl
      cases Option.some.inj (at_d.symm.trans at_)
      rw [stage] at holds
      cases holds
  | sleeping observed readyAt =>
    by_cases ready : readyAt ≤ h.clock w.present
    · refine .inl ⟨.wake, nofun, .of_turn at_ trivial ?_⟩
      simp only [turn, stage, if_pos ready, Option.isSome_some]
    · have bound := (sound.own at_).asleep observed readyAt stage
      exact .inr (.inr ⟨observed, readyAt, rfl, by omega, bound.2⟩)
  | missed =>
    refine .inl ⟨.probe, nofun, .of_turn at_ trivial ?_⟩
    simp only [turn, stage, Option.isSome_some]
  | probing =>
    refine .inl ⟨.probeFailed, nofun, .of_turn at_ trivial ?_⟩
    simp only [turn, stage, Option.isSome_some]
  | probed =>
    refine .inl ⟨.observe, nofun, .of_turn at_ trivial ?_⟩
    simp only [turn, stage, Option.isSome_some]
  | reloading | looking | loading | found => exact .inl (World.canTurn_of_holds at_ (by rw [stage]; rfl))
  | malformed | released | absent | failed | cancelled =>
    rw [stage] at underway
    cases underway

end Progress

section Runs

variable {b : Broker} {h : History} {start w : World}

/-- What a run in time keeps: every call that answered that its credential is absent was right. -/
structure World.Truthful (b : Broker) (h : History) (w : World) : Prop where
  sound : w.Sound b h
  inTime : w.TookTime
  justified : ∀ c ∈ w.calls, c.Justified b h

theorem World.Truthful.stepped (shared : b.sharedBackend = true) (truthful : w.Truthful b h) (m : Move)
    (may : MayInTime b h w m) : (step b h w m).Truthful b h := by
  refine ⟨truthful.sound.stepped m may.1, may.2, ?_⟩
  cases m with
  | pass => exact truthful.justified
  | spoil memory => exact truthful.justified
  | begin kind credential now =>
    intro c member ended absent
    rcases List.mem_append.mp member with old | new
    · exact truthful.justified c old ended absent
    · rw [List.mem_singleton.mp new] at absent
      dsimp only at absent
      split at absent <;> cases absent
  | call i act =>
    obtain ⟨c, at_, can, answers⟩ := may.1
    obtain ⟨⟨s', c'⟩, turned⟩ := Option.isSome_iff_exists.mp can
    rw [step_call at_ turned]
    intro d member
    rcases List.mem_or_eq_of_mem_set member with old | rfl
    · exact truthful.justified d old
    · exact truthful.sound.justified truthful.inTime shared at_ (turned_of_turn turned) answers

theorem World.Truthful.run (shared : b.sharedBackend = true) (opening : Opening h start) (inTime : start.TookTime)
    (reached : Reaches (step b h) (MayInTime b h) start w) : w.Truthful b h := by
  refine reached.invariant ⟨opening.sound, inTime, fun c member => ?_⟩
    fun _ m truthful may => truthful.stepped shared m may
  rw [opening.noCalls] at member
  cases member

theorem World.Sound.counts (sound : w.Sound b h) {c : Call} (member : c ∈ w.calls) :
    c.missLoads ≤ 1 ∧ c.entryLoads ≤ 1 ∧ (b.reloadBeforeUse = false → w.spoiled = 0 → c.entryLoads = 0) ∧
      c.sleeps ≤ 1 ∧ c.turns ≤ 15 := by
  obtain ⟨i, at_⟩ := List.mem_iff_getElem?.mp member
  have own := sound.own at_
  have turns := own.turns
  exact ⟨own.missLoads, own.entryLoads, fun quiet unspoiled => (sound.trusted quiet unspoiled).2 c member,
    own.sleptOnce, by omega⟩

end Runs

/-- On a shared backend a live credential is never called absent, as long as a full load takes
time on the clock; a miss costs one full load, on top of one that `lock_state` makes where memory
is not to be served; a call takes fifteen turns at most and only ever waits for the lock or for
the end of its interval; and the lookup agrees with the probe. -/
theorem find_credential_on_shared_backend (b : Broker) (h : History) (start : World)
    (shared : b.sharedBackend = true) (opening : Opening h start) :
    (start.TookTime → ∀ w, Reaches (step b h) (MayInTime b h) start w →
      ∀ c ∈ w.calls, ∀ ended, c.stage = .absent ended → ∃ k, c.begun ≤ k ∧ k ≤ ended ∧
        (h.table k).hasCredential c.kind (b.tokenHash c.kind c.credential) (h.unix k) = false) ∧
    (∀ w, Reaches (step b h) (May b h) start w →
      (∀ c ∈ w.calls, c.missLoads ≤ 1 ∧ c.entryLoads ≤ 1 ∧
        (b.reloadBeforeUse = false → w.spoiled = 0 → c.entryLoads = 0) ∧ c.sleeps ≤ 1 ∧ c.turns ≤ 15) ∧
      ∀ (i : Nat) (c : Call), w.calls[i]? = some c → c.stage.finished = false →
        w.CanTurn b h i ∨ (∃ j, j ≠ i ∧ w.shared.lock = some j ∧ w.CanTurn b h j) ∨
          ∃ observed readyAt, c.stage = .sleeping observed readyAt ∧ h.clock w.present < readyAt ∧
            readyAt ≤ h.clock w.present + b.missReloadMinInterval) ∧
    ∀ (store : PublicControlStateStore) (kind : CredentialKind) (tokenHash : String) (now : Nat),
      (store.lookup kind tokenHash now).isSome = store.hasCredential kind tokenHash now := by
  refine ⟨fun inTime w reached c member ended absent => ?_, fun w reached => ?_,
    PublicControlStateStore.lookup_isSome⟩
  · have truthful := World.Truthful.run shared opening inTime reached
    exact truthful.justified c member ended absent
  · have sound := World.Sound.run opening reached
    exact ⟨fun c member => sound.counts member, fun i c at_ underway => sound.progress at_ underway⟩

section Samples

def sampleRegistration : PersistedRelayRegistration :=
  { relayId := "relay-1", brokerRoomId := "room-1", refreshTokenHash := "token", createdAt := 0 }

/-- A table with the one registration. -/
def sampleTable : PublicControlStateStore :=
  { relayRegistrationsByHash := AList.singleton "token" sampleRegistration }

/-- The registration is inserted at the third moment; the clock counts the moments. -/
def lateInsert : History where
  moment k := { table := if k < 3 then {} else sampleTable, unix := 0, clock := k }
  unix_mono := fun _ _ _ => le_rfl
  clock_mono := fun _ _ order => order

/-- The registration is inserted while the clock stands still. -/
def stoppedClock : History where
  moment k := { table := if k < 1 then {} else sampleTable, unix := 0, clock := 0 }
  unix_mono := fun _ _ _ => le_rfl
  clock_mono := fun _ _ _ => le_rfl

def sampleBroker (reloadBeforeUse : Bool) : Broker :=
  { sha256Hex := id, hasSubject := fun _ _ => true, sharedBackend := true, reloadBeforeUse, missReloadMinInterval := 1 }

/-- A broker whose first load ended at the moment 1 with an empty table. -/
def sampleStart (h : History) : World :=
  { present := 1, calls := [],
    shared := { lock := none, memory := {}, needsReload := false,
                lastFullLoad := some ⟨h.clock 0, h.clock 1, true, 0⟩ } }

theorem loaded_empty {h : History} {since present k : Nat} (empty : h.table k = {}) (lower : since ≤ k)
    (upper : k ≤ present) : h.Loaded since present {} where
  credentials kind := by
    refine ⟨k, lower, upper, ?_⟩
    rw [empty]
    cases kind <;> exact fun _ => rfl
  clientRelayGrants := ⟨k, lower, upper, fun _ => by rw [empty]⟩

theorem sampleStart_opening {h : History} (empty : h.table 0 = {}) : Opening h (sampleStart h) where
  noCalls := rfl
  unlocked := rfl
  trusted := rfl
  unspoiled := rfl
  loaded := ⟨0, Nat.zero_le _, loaded_empty empty le_rfl (Nat.zero_le _), rfl⟩

/-- A call that reloads before its lookup and again after its probe. -/
def reloadsTwice : List Move :=
  [.begin .relay "token" 0, .call 0 .take, .pass, .call 0 (.loaded {}), .call 0 .look, .pass, .call 0 .probe,
    .call 0 (.answered 3), .call 0 .observe, .call 0 .take]

/-- A call whose probe sees the token in the instant in which the last load began and ended. -/
def trustsTie : List Move :=
  [.begin .relay "token" 0, .call 0 .take, .call 0 .look, .call 0 .probe, .call 0 (.answered 1), .call 0 .observe,
    .call 0 .take, .call 0 .look]

theorem World.TookTime.of_last {w : World} {load : FullLoad} (last : w.shared.lastFullLoad = some load)
    (took : load.started < load.finished) : w.TookTime := by
  intro other is_last _
  cases Option.some.inj (last.symm.trans is_last)
  exact took

theorem reloadsTwice_may : MayRun (step (sampleBroker true) lateInsert) (MayInTime (sampleBroker true) lateInsert)
    (sampleStart lateInsert) reloadsTwice := by
  have first : (0 : Nat) < 1 := by decide
  have second : (1 : Nat) < 2 := by decide
  refine ⟨⟨le_rfl, .of_last rfl first⟩, ⟨⟨_, rfl, rfl, trivial⟩, .of_last rfl first⟩, ⟨trivial, .of_last rfl first⟩,
    ⟨⟨_, rfl, rfl, ?_⟩, .of_last rfl second⟩, ⟨⟨_, rfl, rfl, trivial⟩, .of_last rfl second⟩,
    ⟨trivial, .of_last rfl second⟩, ⟨⟨_, rfl, rfl, trivial⟩, .of_last rfl second⟩,
    ⟨⟨_, rfl, by decide +kernel, ?_⟩, .of_last rfl second⟩, ⟨⟨_, rfl, by decide +kernel, trivial⟩, .of_last rfl second⟩,
    ⟨⟨_, rfl, by decide +kernel, trivial⟩, .of_last rfl second⟩, trivial⟩
  · intro since began
    cases began
    exact loaded_empty (k := 2) rfl (by decide) le_rfl
  · intro since began
    cases began
    exact ⟨le_rfl, le_rfl⟩

theorem trustsTie_may : MayRun (step (sampleBroker false) stoppedClock) (May (sampleBroker false) stoppedClock)
    (sampleStart stoppedClock) trustsTie := by
  refine ⟨le_rfl, ⟨_, rfl, rfl, trivial⟩, ⟨_, rfl, rfl, trivial⟩, ⟨_, rfl, rfl, trivial⟩,
    ⟨_, rfl, by decide +kernel, ?_⟩, ⟨_, rfl, by decide +kernel, trivial⟩, ⟨_, rfl, by decide +kernel, trivial⟩,
    ⟨_, rfl, by decide +kernel, trivial⟩, trivial⟩
  intro since began
  cases began
  exact ⟨le_rfl, le_rfl⟩

end Samples

/-- With `reload_before_use` on, a call loads before its lookup and once more for its miss; and
where a load took no time, a call trusts one that was over before it began. -/
theorem find_credential_loads_twice_and_trusts_a_tie :
    (∃ (b : Broker) (h : History) (start w : World), b.sharedBackend = true ∧ Opening h start ∧ start.TookTime ∧
      Reaches (step b h) (MayInTime b h) start w ∧ ∃ c ∈ w.calls, c.entryLoads + c.missLoads = 2) ∧
    ∃ (b : Broker) (h : History) (start w : World), b.sharedBackend = true ∧ Opening h start ∧
      Reaches (step b h) (May b h) start w ∧ ∃ c ∈ w.calls, ∃ ended, c.stage = .absent ended ∧
        ∀ k, c.begun ≤ k → k ≤ ended →
          (h.table k).hasCredential c.kind (b.tokenHash c.kind c.credential) (h.unix k) = true := by
  constructor
  · refine ⟨sampleBroker true, lateInsert, sampleStart lateInsert, _, rfl, sampleStart_opening rfl, .of_last rfl (by decide),
      .foldl reloadsTwice_may, _, List.mem_cons_self, ?_⟩
    decide +kernel
  · refine ⟨sampleBroker false, stoppedClock, sampleStart stoppedClock, _, rfl, sampleStart_opening rfl,
      .foldl trustsTie_may, _, List.mem_cons_self, 1, by decide +kernel, ?_⟩
    intro k lower upper
    have only : k = 1 := le_antisymm upper lower
    subst only
    decide +kernel

theorem find_credential_on_the_sample :
    (sampleStart lateInsert).TookTime ∧ Opening lateInsert (sampleStart lateInsert) ∧
      ∀ c ∈ (reloadsTwice.foldl (step (sampleBroker true) lateInsert) (sampleStart lateInsert)).calls,
        c.missLoads ≤ 1 ∧ c.entryLoads ≤ 1 := by
  have opening : Opening lateInsert (sampleStart lateInsert) := sampleStart_opening rfl
  have result := find_credential_on_shared_backend (sampleBroker true) lateInsert (sampleStart lateInsert) rfl opening
  refine ⟨.of_last rfl (by decide), opening, fun c member => ?_⟩
  have reached := Reaches.foldl reloadsTwice_may
  obtain ⟨miss, entry, _⟩ := (result.2.1 _ (reached.mono fun _ _ may => may.1)).1 c member
  exact ⟨miss, entry⟩

end Sealwire.Control

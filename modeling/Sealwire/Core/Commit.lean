import Sealwire.Core.Encode

namespace Sealwire.Core

variable {E : Entities}

/-- The rows as last written, and the order of the capture they were written from. -/
structure CommittedCore where
  rows : CoreRows
  order : UInt64

/-- The durable state copied under the relay lock, to be written later. -/
structure CoreCapture (E : Entities) where
  state : PersistedRelayState E
  order : UInt64

/-- The base the next commit is compared with, and the database. -/
structure CoreStore where
  core : CommittedCore
  db : Database

/-- What goes wrong in one transaction. `statement n` is about its `n`-th statement. -/
structure SqlFaults where
  begins : Bool
  statement : Nat → Bool
  commits : Bool

/-- Run the statements of a transaction one after the other, up to the first that fails. -/
def executeAll (fails : Nat → Bool) : Nat → Database → List Statement → Option Database
  | _, db, [] => some db
  | n, db, statement :: rest => if fails n then none else executeAll fails (n + 1) (Statement.execute db statement) rest

/-- The write of one commit in one transaction: a failure anywhere leaves the database as it was. -/
def writeInTransaction (faults : SqlFaults) (db : Database) (before after : CoreRows) (now : UInt64) :
    Except String (Database × Nat) :=
  if faults.begins then .error "begin"
  else
    match executeAll faults.statement 0 db (diffStatements before after now) with
    | none => .error "write relay state"
    | some written => if faults.commits then .error "commit"
      else .ok (written, (diffStatements before after now).length)

/-- A capture older than the one last written is already covered by it. -/
def commitCaptured (text : JsonText) (faults : SqlFaults) (store : CoreStore) (state : PersistedRelayState E)
    (order now : UInt64) : CoreStore × Except String Nat :=
  match rowsOf text state with
  | .error error => (store, .error error)
  | .ok rows =>
    if order < store.core.order ∨ store.core.rows.Same rows then
      ({ store with core := { store.core with order := max store.core.order order } }, .ok 0)
    else
      match writeInTransaction faults store.db store.core.rows rows now with
      | .error error => (store, .error error)
      | .ok (db, changed) => ({ core := { rows := rows, order := order }, db := db }, .ok changed)

/-- Read the committed rows and keep them as the base; a store starts before any capture. -/
def CoreStore.load (db : Database) : CoreStore where
  core := { rows := readRows db, order := 0 }
  db := db

/-- Captures waiting for their commit, and those whose commit returned well: it wrote, or found
itself covered. -/
structure CommitState (E : Entities) where
  store : CoreStore
  taken : List (CoreCapture E)
  pending : List (CoreCapture E)
  settled : List (CoreCapture E)

inductive CommitStep (text : JsonText) : CommitState E → CommitState E → Prop
  | capture {s : CommitState E} (c : CoreCapture E) (newer : ∀ older ∈ s.taken, older.order < c.order) :
      CommitStep text s { s with taken := c :: s.taken, pending := c :: s.pending }
  | commit {s : CommitState E} {before after : List (CoreCapture E)} (c : CoreCapture E)
      (waiting : s.pending = before ++ c :: after) (faults : SqlFaults) (now : UInt64) :
      CommitStep text s
        { s with
          store := (commitCaptured text faults s.store c.state c.order now).1
          pending := before ++ after
          settled := match (commitCaptured text faults s.store c.state c.order now).2 with
            | .ok _ => c :: s.settled
            | .error _ => s.settled }

/-- Any number of captures and commits, in any order, over a database that was just loaded. -/
inductive CommitRun (text : JsonText) (db : Database) : CommitState E → Prop
  | start : CommitRun text db { store := .load db, taken := [], pending := [], settled := [] }
  | next {s t : CommitState E} (run : CommitRun text db s) (step : CommitStep text s t) : CommitRun text db t

/-- The settled capture with the highest order. -/
def Newest (c : CoreCapture E) (settled : List (CoreCapture E)) : Prop :=
  c ∈ settled ∧ ∀ other ∈ settled, other.order ≤ c.order

theorem executeAll_eq_some {fails : Nat → Bool} {n : Nat} {db written : Database} {statements : List Statement}
    (done : executeAll fails n db statements = some written) : statements.foldl Statement.execute db = written := by
  induction statements generalizing n db with
  | nil => exact Option.some.inj done
  | cons statement rest ih =>
    unfold executeAll at done
    split at done
    · cases done
    · exact ih done

theorem writeInTransaction_eq_ok {faults : SqlFaults} {db written : Database} {before after : CoreRows} {now : UInt64}
    {changed : Nat} (done : writeInTransaction faults db before after now = .ok (written, changed)) :
    writeDiff db before after now = (written, changed) := by
  unfold writeInTransaction at done
  split at done
  · cases done
  · split at done
    · cases done
    · rename_i db' executed
      split at done
      · cases done
      · cases done
        rw [writeDiff, executeAll_eq_some executed]

/-- What one commit can do: fail and change nothing, find itself covered, or write its rows. -/
theorem commitCaptured_cases (text : JsonText) (faults : SqlFaults) (store : CoreStore) (state : PersistedRelayState E)
    (order now : UInt64) :
    (∃ error, commitCaptured text faults store state order now = (store, .error error)) ∨
    (∃ rows, rowsOf text state = .ok rows ∧ (order < store.core.order ∨ store.core.rows.Same rows) ∧
      commitCaptured text faults store state order now =
        ({ store with core := { store.core with order := max store.core.order order } }, .ok 0)) ∨
    ∃ rows db changed, rowsOf text state = .ok rows ∧ store.core.order ≤ order ∧
      writeDiff store.db store.core.rows rows now = (db, changed) ∧
      commitCaptured text faults store state order now =
        ({ core := { rows := rows, order := order }, db := db }, .ok changed) := by
  unfold commitCaptured
  cases encoded : rowsOf text state with
  | error error => exact .inl ⟨error, rfl⟩
  | ok rows =>
    by_cases covered : order < store.core.order ∨ store.core.rows.Same rows
    · exact .inr (.inl ⟨rows, rfl, covered, if_pos covered⟩)
    · simp only [if_neg covered]
      cases written : writeInTransaction faults store.db store.core.rows rows now with
      | error error => exact .inl ⟨error, rfl⟩
      | ok result =>
        obtain ⟨db, changed⟩ := result
        have newer : store.core.order ≤ order := UInt64.not_lt.mp fun older => covered (.inl older)
        exact .inr (.inr ⟨rows, db, changed, rfl, newer, writeInTransaction_eq_ok written, rfl⟩)

/-- The base is what the database holds, and both are the rows of the newest settled capture. -/
structure Durable (text : JsonText) (first : Database) (s : CommitState E) : Prop where
  base : s.store.core.rows.Same (readRows s.store.db)
  orders : ∀ c ∈ s.taken, ∀ d ∈ s.taken, c.order = d.order → c = d
  pending : ∀ c ∈ s.pending, c ∈ s.taken
  settled : ∀ c ∈ s.settled, c ∈ s.taken ∧ c.order ≤ s.store.core.order
  nothing : s.settled = [] → s.store.core.order = 0 ∧ (readRows s.store.db).Same (readRows first)
  newest : s.settled ≠ [] → ∃ c ∈ s.settled, c.order = s.store.core.order
  durable : ∀ c ∈ s.settled, c.order = s.store.core.order →
    ∃ rows, rowsOf text c.state = .ok rows ∧ (readRows s.store.db).Same rows

theorem Durable.start (text : JsonText) (db : Database) :
    Durable text db { store := .load db, taken := [], pending := [], settled := [] : CommitState E } where
  base := CoreRows.Same.refl _
  orders := fun _ member => absurd member List.not_mem_nil
  pending := fun _ member => absurd member List.not_mem_nil
  settled := fun _ member => absurd member List.not_mem_nil
  nothing := fun _ => ⟨rfl, CoreRows.Same.refl _⟩
  newest := fun some_settled => absurd rfl some_settled
  durable := fun _ member => absurd member List.not_mem_nil

theorem Durable.capture {text : JsonText} {first : Database} {s : CommitState E} (durable : Durable text first s)
    (c : CoreCapture E) (newer : ∀ older ∈ s.taken, older.order < c.order) :
    Durable text first { s with taken := c :: s.taken, pending := c :: s.pending } where
  base := durable.base
  orders := by
    intro a inA b inB same
    rcases List.mem_cons.mp inA with rfl | oldA
    · rcases List.mem_cons.mp inB with rfl | oldB
      · rfl
      · exact absurd same.symm (UInt64.ne_of_lt (newer b oldB))
    · rcases List.mem_cons.mp inB with rfl | oldB
      · exact absurd same (UInt64.ne_of_lt (newer a oldA))
      · exact durable.orders a oldA b oldB same
  pending := by
    intro a member
    rcases List.mem_cons.mp member with rfl | old
    · exact List.mem_cons_self
    · exact List.mem_cons_of_mem _ (durable.pending a old)
  settled := fun a member => ⟨List.mem_cons_of_mem _ (durable.settled a member).1, (durable.settled a member).2⟩
  nothing := durable.nothing
  newest := durable.newest
  durable := durable.durable

/-- A commit that fails leaves everything but the waiting captures as it was. -/
theorem Durable.failed {text : JsonText} {first : Database} {s : CommitState E} (durable : Durable text first s)
    {waiting : List (CoreCapture E)} (fewer : ∀ c ∈ waiting, c ∈ s.pending) :
    Durable text first { s with pending := waiting } :=
  { durable with pending := fun c member => durable.pending c (fewer c member) }

/-- A capture that is older than the base, or says the same, settles without a write. -/
theorem Durable.covered {text : JsonText} {first : Database} {s : CommitState E} (durable : Durable text first s)
    {c : CoreCapture E} (taken : c ∈ s.taken) {rows : CoreRows} (encoded : rowsOf text c.state = .ok rows)
    (covered : c.order < s.store.core.order ∨ s.store.core.rows.Same rows) :
    Durable text first
      { s with
        store := { s.store with core := { s.store.core with order := max s.store.core.order c.order } }
        settled := c :: s.settled } where
  base := durable.base
  orders := durable.orders
  pending := durable.pending
  settled := by
    intro a member
    rcases List.mem_cons.mp member with rfl | old
    · exact ⟨taken, Std.right_le_max⟩
    · exact ⟨(durable.settled a old).1, UInt64.le_trans (durable.settled a old).2 Std.left_le_max⟩
  nothing := fun none_settled => by cases none_settled
  newest := by
    intro _
    by_cases older : c.order < s.store.core.order
    · have some_settled : s.settled ≠ [] := by
        intro none_settled
        rw [(durable.nothing none_settled).1] at older
        exact absurd older UInt64.not_lt_zero
      obtain ⟨d, member, same⟩ := durable.newest some_settled
      exact ⟨d, List.mem_cons_of_mem _ member, same.trans (word_max_eq_left (UInt64.le_of_lt older)).symm⟩
    · exact ⟨c, List.mem_cons_self, (word_max_eq_right (UInt64.not_lt.mp older)).symm⟩
  durable := by
    intro a member same
    rcases List.mem_cons.mp member with rfl | old
    · have newer : s.store.core.order ≤ a.order := by
        rw [same]
        exact Std.left_le_max
      rcases covered with older | equal
      · exact absurd older (UInt64.not_lt.mpr newer)
      · exact ⟨rows, encoded, durable.base.symm.trans equal⟩
    · have bound := (durable.settled a old).2
      have reached : a.order = s.store.core.order := by
        refine UInt64.le_antisymm bound ?_
        rw [same]
        exact Std.left_le_max
      exact durable.durable a old reached

/-- A capture that is written makes the database hold its rows. -/
theorem Durable.written {text : JsonText} {first : Database} {s : CommitState E} (durable : Durable text first s)
    {c : CoreCapture E} (taken : c ∈ s.taken) {rows : CoreRows} (encoded : rowsOf text c.state = .ok rows)
    (newer : s.store.core.order ≤ c.order) {db : Database} {changed : Nat} {now : UInt64}
    (wrote : writeDiff s.store.db s.store.core.rows rows now = (db, changed)) :
    Durable text first
      { s with
        store := { core := { rows := rows, order := c.order }, db := db }
        settled := c :: s.settled } := by
  have holds : (readRows db).Same rows := by
    have after : (readRows (writeDiff s.store.db s.store.core.rows rows now).1).Same rows :=
      readRows_writeDiff durable.base.symm now
    rwa [wrote] at after
  refine ⟨holds.symm, durable.orders, durable.pending, ?_, fun none_settled => absurd none_settled (List.cons_ne_nil _ _),
    fun _ => ⟨c, List.mem_cons_self, rfl⟩, ?_⟩
  · intro a member
    rcases List.mem_cons.mp member with rfl | old
    · exact ⟨taken, UInt64.le_refl _⟩
    · exact ⟨(durable.settled a old).1, UInt64.le_trans (durable.settled a old).2 newer⟩
  · intro a member same
    have only : a = c := by
      rcases List.mem_cons.mp member with rfl | old
      · rfl
      · exact durable.orders a (durable.settled a old).1 c taken same
    rw [only]
    exact ⟨rows, encoded, holds⟩

theorem Durable.step {text : JsonText} {first : Database} {s t : CommitState E} (durable : Durable text first s)
    (step : CommitStep text s t) : Durable text first t := by
  cases step with
  | capture c newer => exact durable.capture c newer
  | @commit before after c waiting faults now =>
    have taken : c ∈ s.taken := durable.pending c (by simp [waiting])
    have fewer : ∀ d ∈ before ++ after, d ∈ s.pending := by
      intro d member
      rw [waiting]
      exact (List.sublist_cons_self c after).append_left before |>.subset member
    rcases commitCaptured_cases text faults s.store c.state c.order now with
      ⟨error, result⟩ | ⟨rows, encoded, covered, result⟩ | ⟨rows, db, changed, encoded, newer, wrote, result⟩
    · simp only [result]
      exact durable.failed fewer
    · simp only [result]
      exact (durable.covered taken encoded covered).failed fewer
    · simp only [result]
      exact (durable.written taken encoded newer wrote).failed fewer

theorem CommitRun.durable {text : JsonText} {first : Database} {s : CommitState E} (run : CommitRun text first s) :
    Durable text first s := by
  induction run with
  | start => exact .start text first
  | next _ step ih => exact ih.step step

/-- Whatever the order the commits come in and whichever fail, the base is what the database
holds, and the database holds the rows of the newest capture that settled. -/
theorem newest_capture_is_durable (text : JsonText) (first : Database) {s : CommitState E}
    (run : CommitRun text first s) :
    s.store.core.rows.Same (readRows s.store.db) ∧
    (s.settled = [] → (readRows s.store.db).Same (readRows first)) ∧
    (s.settled ≠ [] → ∃ c, Newest c s.settled) ∧
    ∀ c, Newest c s.settled → ∃ rows, rowsOf text c.state = .ok rows ∧ (readRows s.store.db).Same rows := by
  have durable := run.durable
  refine ⟨durable.base, fun none_settled => (durable.nothing none_settled).2, ?_, ?_⟩
  · intro some_settled
    obtain ⟨c, member, same⟩ := durable.newest some_settled
    exact ⟨c, member, fun other settled => same ▸ (durable.settled other settled).2⟩
  · intro c newest
    obtain ⟨d, member, same⟩ := durable.newest (List.ne_nil_of_mem newest.1)
    have reached : c.order = s.store.core.order :=
      UInt64.le_antisymm (durable.settled c newest.1).2 (same ▸ newest.2 d member)
    exact durable.durable c newest.1 reached

def older : CoreCapture unitEntities where
  state := { blank "/w" with pairedDevices := (∅ : Table String PairedDevice).put "phone" phone }
  order := 1

def newer : CoreCapture unitEntities where
  state := blank "/w"
  order := 2

def noFaults : SqlFaults where
  begins := false
  statement := fun _ => false
  commits := false

/-- A commit that returned well settles its capture. -/
theorem CommitStep.settles {E : Entities} {text : JsonText} {s : CommitState E} {c : CoreCapture E}
    (before after : List (CoreCapture E)) (waiting : s.pending = before ++ c :: after) {faults : SqlFaults}
    {now : UInt64} {changed : Nat} (done : (commitCaptured text faults s.store c.state c.order now).2 = .ok changed) :
    CommitStep text s
      { s with
        store := (commitCaptured text faults s.store c.state c.order now).1
        pending := before ++ after
        settled := c :: s.settled } := by
  have step : CommitStep text s _ := .commit c waiting faults now
  rwa [done] at step

/-- A store over an empty database, with both captures waiting. -/
def bothTaken : CommitState unitEntities where
  store := .load { tables := ∅, credential := ∅ }
  taken := [newer, older]
  pending := [newer, older]
  settled := []

/-- The newer capture is committed first. -/
def newerSettled : CommitState unitEntities where
  store := (commitCaptured (compactText []) noFaults bothTaken.store newer.state newer.order 0).1
  taken := [newer, older]
  pending := [older]
  settled := [newer]

theorem late_run : ∃ s : CommitState unitEntities,
    CommitRun (compactText []) { tables := ∅, credential := ∅ } s ∧ s.settled = [older, newer] := by
  have wrote : (commitCaptured (compactText []) noFaults bothTaken.store newer.state newer.order 0).2 = .ok 17 := by
    decide +kernel
  have covered : (commitCaptured (compactText []) noFaults newerSettled.store older.state older.order 0).2 = .ok 0 := by
    decide +kernel
  have captured : CommitRun (compactText []) { tables := ∅, credential := ∅ } bothTaken := by
    refine .next (.next .start (.capture older (by simp))) (.capture newer ?_)
    intro c member
    rw [List.mem_singleton.mp member]
    decide
  have committed : CommitRun (compactText []) { tables := ∅, credential := ∅ } newerSettled :=
    captured.next (.settles (s := bothTaken) (c := newer) [] [older] rfl wrote)
  have late := CommitStep.settles (s := newerSettled) (c := older) [] [] rfl covered
  exact ⟨_, committed.next late, rfl⟩

/-- The device the older capture still had is not in the rows the database ends with. -/
theorem newest_capture_is_durable_late : ∃ s : CommitState unitEntities, s.settled = [older, newer] ∧
    ∃ rows, rowsOf (compactText []) newer.state = .ok rows ∧ (readRows s.store.db).Same rows := by
  obtain ⟨s, run, settled⟩ := late_run
  refine ⟨s, settled, (newest_capture_is_durable (compactText []) _ run).2.2.2 newer ?_⟩
  rw [Newest, settled]
  exact ⟨by simp, by decide⟩

end Sealwire.Core

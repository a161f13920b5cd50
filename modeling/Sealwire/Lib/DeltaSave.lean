import Sealwire.Lib.RowStore
import Sealwire.Lib.Steps

namespace Sealwire

namespace Table

variable {K V : Type} [DecidableEq K]

/-- The rows of the other table are put in, over those of the same keys. -/
def putAll (t more : Table K V) : Table K V :=
  more.pairs.foldl (fun t e => t.put e.1 e.2) t

theorem get_putAll (t more : Table K V) (k : K) : (t.putAll more).get k = (more.get k).or (t.get k) := by
  have put := rowStore.view_foldl_put (pairs_nodup more) t k
  have listed : more.pairs.lookup k = more.get k := by
    refine Option.ext fun v => ?_
    rw [lookup_eq_some_iff_mem (pairs_nodup more), mem_pairs_iff]
  rw [listed] at put
  exact put

end Table

/-- Why a statement of a save fails: the row that it changes is not there, it is like another in a unique column, or a
value does not fit its column. -/
inductive SaveFailure
  | changed
  | conflict
  | unfit
  deriving DecidableEq, Repr

/-- How rows are kept in a table of a database: their primary key, whom they stand for, and which rows the unique columns
keep apart. -/
structure SavedRows (K I R : Type) where
  own : R → K
  rekey : K → R → R
  who : R → I
  clashes : R → R → Bool
  stored : R → Except SaveFailure R

namespace SavedRows

variable {K I R : Type} [DecidableEq K] (σ : SavedRows K I R)

section Statements

variable (rows : Table K R)

def place (key : K) (row : R) : Except SaveFailure (Table K R) :=
  if rows.pairs.all fun held => held.1 == key || !σ.clashes row held.2 then .ok (rows.put key row) else .error .conflict

/-- The primary key of one row is changed. -/
def rename (old new : K) : Except SaveFailure (Table K R) :=
  match rows.get old with
  | none => .error .changed
  | some row => if new ≠ old ∧ rows.has new = true then .error .conflict else .ok ((rows.drop old).put new (σ.rekey new row))

def delete (key : K) : Except SaveFailure (Table K R) :=
  if rows.has key then .ok (rows.drop key) else .error .changed

def update (key : K) (row : R) : Except SaveFailure (Table K R) :=
  if rows.has key then σ.place rows key row else .error .changed

end Statements

section Outcomes

variable {σ} {db after : Table K R} {key : K} {row : R}

theorem place_ok (placed : σ.place db key row = .ok after) : after = db.put key row := by
  unfold place at placed
  split at placed
  · cases placed
    rfl
  · cases placed

theorem rename_ok {old new : K} (renamed : σ.rename db old new = .ok after) :
    ∃ held, db.get old = some held ∧ (new ≠ old → db.get new = none) ∧ after = (db.drop old).put new (σ.rekey new held) := by
  unfold rename at renamed
  split at renamed
  · cases renamed
  · rename_i held found
    split at renamed
    · cases renamed
    · rename_i free
      cases renamed
      refine ⟨held, found, fun other => ?_, rfl⟩
      have unheld : ¬db.has new = true := fun there => free ⟨other, there⟩
      rw [Table.has, Option.isSome_iff_ne_none, ne_eq, not_not] at unheld
      exact unheld

theorem delete_ok (deleted : delete db key = .ok after) : db.get key ≠ none ∧ after = db.drop key := by
  unfold delete at deleted
  split at deleted
  · rename_i held
    cases deleted
    exact ⟨Option.isSome_iff_ne_none.mp held, rfl⟩
  · cases deleted

theorem update_ok (updated : σ.update db key row = .ok after) : db.get key ≠ none ∧ after = db.put key row := by
  unfold update at updated
  split at updated
  · rename_i held
    exact ⟨Option.isSome_iff_ne_none.mp held, place_ok updated⟩
  · cases updated

end Outcomes

/-- What holds of the rows that a save starts from, and of those it leads to: nobody has two keys before, and a key is never
somebody else's later. -/
structure Follows (prev next : Table K R) : Prop where
  filed : ∀ key row, next.get key = some row → σ.own row = key
  onceBefore : ∀ one first other second, prev.get one = some first → prev.get other = some second →
    σ.who first = σ.who second → one = other
  kept : ∀ key before after, prev.get key = some before → next.get key = some after → σ.who after = σ.who before

/-- The key of a successor was nobody's. -/
theorem Follows.unlike {σ : SavedRows K I R} {prev next : Table K R} (follows : σ.Follows prev next) {key gone : K}
    {was before candidate : R} (left : prev.get gone = some was)
    (missing : next.get gone = none) (there : prev.get key = some before) (succeeds : next.get key = some candidate) :
    σ.who candidate ≠ σ.who was := by
  intro alike
  have stays := follows.kept key before candidate there succeeds
  have same := follows.onceBefore key before gone was there left (stays.symm.trans alike)
  rw [same, missing] at succeeds
  cases succeeds

section Delta

variable [DecidableEq I]

/-- The key that the row's successor has. -/
def replacement (next : Table K R) (row : R) : Option K :=
  (next.pairs.find? fun candidate => σ.who candidate.2 = σ.who row).map fun candidate => σ.own candidate.2

variable (prev next : Table K R)

/-- A row that is gone takes the key of its successor, or is deleted. -/
def reconcileRow (rows : Table K R) (was : K × R) : Except SaveFailure (Table K R) :=
  if next.has was.1 then .ok rows
  else
    match σ.replacement next was.2 with
    | some new => σ.rename rows was.1 new
    | none => delete rows was.1

def reconcile (rows : Table K R) : Except SaveFailure (Table K R) :=
  prev.pairs.foldlM (σ.reconcileRow next) rows

variable [DecidableEq R]

/-- A row that has changed is written over the one it was, and a row that is new is inserted. -/
def upsertRow (rows : Table K R) (is : K × R) : Except SaveFailure (Table K R) :=
  if prev.get is.1 = some is.2 then .ok rows
  else do
    let row ← σ.stored is.2
    if prev.has is.1 then σ.update rows (σ.own is.2) row else σ.place rows (σ.own is.2) row

def upsert (rows : Table K R) : Except SaveFailure (Table K R) :=
  next.pairs.foldlM (σ.upsertRow prev) rows

end Delta

section Passes

variable {σ} [DecidableEq I] {prev next db middle after : Table K R} {key : K}

/-- The successor of a row is in the rows that a save leads to. -/
theorem replacement_some (filed : ∀ key row, next.get key = some row → σ.own row = key) {new : K}
    (replaced : σ.replacement next row = some new) : ∃ candidate, next.get new = some candidate ∧ σ.who candidate = σ.who row := by
  obtain ⟨⟨at_, candidate⟩, first, rfl⟩ := Option.map_eq_some_iff.mp replaced
  have held : next.get at_ = some candidate := Table.mem_pairs_iff.mp (List.mem_of_find?_eq_some first)
  have alike := List.find?_some first
  rw [decide_eq_true_eq] at alike
  have own := filed at_ candidate held
  rw [← own] at held
  exact ⟨candidate, held, alike⟩

/-- What one step of the first pass does. -/
theorem reconcileRow_ok {was : K × R} (filed : ∀ key row, next.get key = some row → σ.own row = key)
    (done : σ.reconcileRow next db was = .ok after) :
    (next.get was.1 ≠ none ∧ after = db) ∨
      next.get was.1 = none ∧ db.get was.1 ≠ none ∧ after.get was.1 = none ∧
        ∀ key, key ≠ was.1 → (∀ candidate, next.get key = some candidate → σ.who candidate ≠ σ.who was.2) →
          after.get key = db.get key := by
  unfold reconcileRow at done
  split at done
  · rename_i held
    cases done
    exact .inl ⟨Option.isSome_iff_ne_none.mp held, rfl⟩
  · rename_i gone
    have none_there : next.get was.1 = none := by
      rw [Table.has, Option.isSome_iff_ne_none, ne_eq, not_not] at gone
      exact gone
    split at done
    · rename_i new replaced
      obtain ⟨candidate, succeeds, alike⟩ := replacement_some filed replaced
      have apart : new ≠ was.1 := by
        intro same
        rw [same, none_there] at succeeds
        cases succeeds
      obtain ⟨held, found, -, rfl⟩ := rename_ok done
      refine .inr ⟨none_there, ?_, ?_, fun key other unlike => ?_⟩
      · rw [found]
        exact Option.some_ne_none held
      · rw [Table.get_put_ne _ _ apart.symm, Table.get_drop, if_pos rfl]
      · have not_new : key ≠ new := by
          rintro rfl
          exact unlike candidate succeeds alike
        rw [Table.get_put_ne _ _ not_new, Table.get_drop, if_neg other]
    · obtain ⟨held, rfl⟩ := delete_ok done
      refine .inr ⟨none_there, held, ?_, fun key other _ => ?_⟩
      · rw [Table.get_drop, if_pos rfl]
      · rw [Table.get_drop, if_neg other]

/-- The first pass over some of the rows: those that are gone were there, and are gone; of the others only successors are
touched. -/
theorem reconcile_rows (filed : ∀ key row, next.get key = some row → σ.own row = key) {entries : List (K × R)}
    (once : (entries.map Prod.fst).Nodup) (done : entries.foldlM (σ.reconcileRow next) db = .ok after) :
    (∀ was ∈ entries, next.get was.1 = none → db.get was.1 ≠ none ∧ after.get was.1 = none) ∧
    ∀ key, (∀ was ∈ entries, next.get was.1 = none → key ≠ was.1 ∧
      ∀ candidate, next.get key = some candidate → σ.who candidate ≠ σ.who was.2) → after.get key = db.get key := by
  induction entries generalizing db with
  | nil =>
    cases done
    exact ⟨fun was member => absurd member List.not_mem_nil, fun _ _ => rfl⟩
  | cons first rest ih =>
    rw [List.map_cons, List.nodup_cons] at once
    obtain ⟨middle, step, others⟩ := bind_eq_ok done
    obtain ⟨gone, touched⟩ := ih once.2 others
    have moved := reconcileRow_ok filed step
    -- A key that the rest goes past without being a successor is as the first step left it.
    have passes {key : K} (missing : next.get key = none) (unlisted : ∀ was ∈ rest, was.1 ≠ key) :
        after.get key = middle.get key := by
      refine touched key fun was member _ => ⟨(unlisted was member).symm, fun candidate succeeds => ?_⟩
      rw [missing] at succeeds
      cases succeeds
    refine ⟨fun was member missing => ?_, fun key untouched => ?_⟩
    · rcases List.mem_cons.mp member with rfl | later
      · rcases moved with ⟨held, -⟩ | ⟨-, held, removed, -⟩
        · exact absurd missing held
        · have unlisted : ∀ other ∈ rest, other.1 ≠ was.1 := fun other there same =>
            once.1 (List.mem_map.mpr ⟨other, there, same⟩)
          rw [passes missing unlisted]
          exact ⟨held, removed⟩
      · obtain ⟨held, removed⟩ := gone was later missing
        refine ⟨?_, removed⟩
        rcases moved with ⟨-, rfl⟩ | ⟨-, -, -, frame⟩
        · exact held
        · have apart : was.1 ≠ first.1 := fun same => once.1 (List.mem_map.mpr ⟨was, later, same⟩)
          rw [← frame was.1 apart fun candidate succeeds => by rw [missing] at succeeds; cases succeeds]
          exact held
    · rw [touched key fun was member missing => untouched was (List.mem_cons_of_mem _ member) missing]
      rcases moved with ⟨-, rfl⟩ | ⟨missing, -, -, frame⟩
      · rfl
      · obtain ⟨apart, unlike⟩ := untouched first List.mem_cons_self missing
        exact frame key apart unlike

variable [DecidableEq R]

omit [DecidableEq I] in
/-- What one step of the second pass does. -/
theorem upsertRow_ok {is : K × R} (done : σ.upsertRow prev db is = .ok after) :
    (prev.get is.1 = some is.2 ∧ after = db) ∨
      prev.get is.1 ≠ some is.2 ∧ ∃ row, σ.stored is.2 = .ok row ∧ after = db.put (σ.own is.2) row ∧
        (prev.get is.1 ≠ none → db.get (σ.own is.2) ≠ none) := by
  unfold upsertRow at done
  split at done
  · rename_i same
    cases done
    exact .inl ⟨same, rfl⟩
  · rename_i changed
    obtain ⟨row, stored, written⟩ := bind_eq_ok done
    refine .inr ⟨changed, row, stored, ?_⟩
    split at written
    · obtain ⟨held, is_put⟩ := update_ok written
      exact ⟨is_put, fun _ => held⟩
    · rename_i fresh
      exact ⟨place_ok written, fun there => absurd (Option.isSome_iff_ne_none.mpr there) fresh⟩

omit [DecidableEq I] in
/-- The second pass over some of the rows: those that have changed are written, and no others. -/
theorem upsert_rows {entries : List (K × R)} (filed : ∀ is ∈ entries, σ.own is.2 = is.1)
    (once : (entries.map Prod.fst).Nodup) (done : entries.foldlM (σ.upsertRow prev) db = .ok after) :
    (∀ is ∈ entries, prev.get is.1 ≠ some is.2 → ∃ row, σ.stored is.2 = .ok row ∧ after.get is.1 = some row ∧
      (prev.get is.1 ≠ none → db.get is.1 ≠ none)) ∧
    ∀ key, (∀ is ∈ entries, key = is.1 → prev.get key = some is.2) → after.get key = db.get key := by
  induction entries generalizing db with
  | nil =>
    cases done
    exact ⟨fun is member => absurd member List.not_mem_nil, fun _ _ => rfl⟩
  | cons first rest ih =>
    rw [List.map_cons, List.nodup_cons] at once
    obtain ⟨middle, step, others⟩ := bind_eq_ok done
    have own := filed first List.mem_cons_self
    obtain ⟨written, untouched⟩ := ih (fun is member => filed is (List.mem_cons_of_mem _ member)) once.2 others
    have moved := upsertRow_ok step
    rw [own] at moved
    have apart {is : K × R} (later : is ∈ rest) : is.1 ≠ first.1 := fun same =>
      once.1 (List.mem_map.mpr ⟨is, later, same⟩)
    refine ⟨fun is member changed => ?_, fun key unchanged => ?_⟩
    · rcases List.mem_cons.mp member with rfl | later
      · rcases moved with ⟨same, -⟩ | ⟨-, row, stored, rfl, held⟩
        · exact absurd same changed
        · refine ⟨row, stored, ?_, held⟩
          rw [untouched is.1 fun other there same => absurd same.symm (apart there)]
          exact Table.get_put_self db is.1 row
      · obtain ⟨row, stored, found, held⟩ := written is later changed
        refine ⟨row, stored, found, fun before => ?_⟩
        have there := held before
        rcases moved with ⟨-, rfl⟩ | ⟨-, other, -, rfl, -⟩
        · exact there
        · rwa [Table.get_put_ne _ _ (apart later)] at there
    · rw [untouched key fun is member same => unchanged is (List.mem_cons_of_mem _ member) same]
      rcases moved with ⟨-, rfl⟩ | ⟨changed, row, -, rfl, -⟩
      · rfl
      · refine Table.get_put_ne _ _ fun same => changed ?_
        rw [← same]
        exact unchanged first List.mem_cons_self same

/-- A save that goes through writes what has changed since its snapshot, removes what has gone, and leaves every other row
as the last writer left it. It goes through only where the rows it changes are still there. -/
structure Merged (σ : SavedRows K I R) (prev next db after : Table K R) : Prop where
  written : ∀ key row, next.get key = some row → prev.get key ≠ some row →
    ∃ stored, σ.stored row = .ok stored ∧ after.get key = some stored
  removed : ∀ key, next.get key = none → prev.get key ≠ none → after.get key = none
  untouched : ∀ key, next.get key = prev.get key → after.get key = db.get key
  held : ∀ key, prev.get key ≠ none → next.get key ≠ prev.get key → db.get key ≠ none

theorem merged (follows : σ.Follows prev next) (reconciled : σ.reconcile prev next db = .ok middle)
    (upserted : σ.upsert prev next middle = .ok after) : σ.Merged prev next db after := by
  obtain ⟨gone, kept⟩ := reconcile_rows follows.filed (Table.pairs_nodup prev) reconciled
  have filed : ∀ is ∈ next.pairs, σ.own is.2 = is.1 := fun is member => follows.filed is.1 is.2 (Table.mem_pairs_iff.mp member)
  obtain ⟨written, untouched⟩ := upsert_rows filed (Table.pairs_nodup next) upserted
  -- Neither pass touches a row that the snapshot has and that stays, but to write it.
  have stays {key : K} {before row : R} (there : prev.get key = some before) (still : next.get key = some row) :
      middle.get key = db.get key := by
    refine kept key fun was member missing => ⟨?_, fun candidate succeeds => ?_⟩
    · rintro rfl
      rw [missing] at still
      cases still
    · exact follows.unlike (Table.mem_pairs_iff.mp member) missing there succeeds
  have absent {key : K} (missing : next.get key = none) : after.get key = middle.get key := by
    refine untouched key fun is member same => ?_
    rw [same, Table.mem_pairs_iff.mp member] at missing
    cases missing
  refine ⟨fun key row found changed => ?_, fun key missing there => ?_, fun key same => ?_, fun key there changed => ?_⟩
  · obtain ⟨stored, fits, is, -⟩ := written (key, row) (Table.mem_pairs_iff.mpr found) changed
    exact ⟨stored, fits, is⟩
  · obtain ⟨was, left⟩ := Option.ne_none_iff_exists'.mp there
    rw [absent missing]
    exact (gone (key, was) (Table.mem_pairs_iff.mpr left) missing).2
  · cases still : next.get key with
    | none =>
      rw [absent still]
      refine kept key fun was member _ => ⟨?_, fun candidate succeeds => ?_⟩
      · rintro rfl
        rw [still, Table.mem_pairs_iff.mp member] at same
        cases same
      · rw [still] at succeeds
        cases succeeds
    | some row =>
      have there : prev.get key = some row := same.symm.trans still
      rw [← stays there still]
      refine untouched key fun is member at_ => ?_
      have listed := Table.mem_pairs_iff.mp member
      rw [← at_, still] at listed
      cases listed
      exact there
  · obtain ⟨before, left⟩ := Option.ne_none_iff_exists'.mp there
    cases still : next.get key with
    | none => exact (gone (key, before) (Table.mem_pairs_iff.mpr left) still).1
    | some row =>
      have unlike : prev.get key ≠ some row := fun same => changed (still.trans same.symm)
      obtain ⟨-, -, -, held⟩ := written (key, row) (Table.mem_pairs_iff.mpr still) unlike
      rw [← stays left still]
      exact held there

omit [DecidableEq I] in
/-- Where the rows come from that are there after a save. -/
theorem Merged.origin (merged : σ.Merged prev next db after) {found : R} (there : after.get key = some found) :
    (next.get key = prev.get key ∧ db.get key = some found) ∨
      ∃ source, next.get key = some source ∧ prev.get key ≠ some source ∧ σ.stored source = .ok found := by
  by_cases unchanged : next.get key = prev.get key
  · rw [merged.untouched key unchanged] at there
    exact .inl ⟨unchanged, there⟩
  · cases still : next.get key with
    | none =>
      have left : prev.get key ≠ none := fun missing => unchanged (still.trans missing.symm)
      rw [merged.removed key still left] at there
      cases there
    | some source =>
      have changed : prev.get key ≠ some source := fun same => unchanged (still.trans same.symm)
      obtain ⟨stored, fits, is⟩ := merged.written key source still changed
      rw [is] at there
      cases there
      exact .inr ⟨source, rfl, changed, fits⟩

omit [DecidableEq I] in
/-- A save that finds the database as its snapshot says leaves it as it is asked to. -/
theorem Merged.exact (merged : σ.Merged prev next db after) (same : ∀ key, db.get key = prev.get key)
    (fits : ∀ key row stored, next.get key = some row → σ.stored row = .ok stored → stored = row) (key : K) :
    after.get key = next.get key := by
  by_cases unchanged : next.get key = prev.get key
  · rw [merged.untouched key unchanged, same key, unchanged]
  · cases still : next.get key with
    | none =>
      have there : prev.get key ≠ none := fun missing => unchanged (still.trans missing.symm)
      exact merged.removed key still there
    | some row =>
      have changed : prev.get key ≠ some row := fun there => unchanged (still.trans there.symm)
      obtain ⟨stored, fit, is⟩ := merged.written key row still changed
      rw [is, fits key row stored still fit]

end Passes

/-- No two rows stand for the same. -/
def Apart (rows : Table K R) : Prop :=
  ∀ one first other second, rows.get one = some first → rows.get other = some second →
    σ.who first = σ.who second → one = other

/-- Some row stands for who it is. -/
def Holds (rows : Table K R) (who : I) : Prop :=
  ∃ key row, rows.get key = some row ∧ σ.who row = who

theorem holds_iff {rows : Table K R} {who : I} : (∃ entry ∈ rows.pairs, σ.who entry.2 = who) ↔ σ.Holds rows who := by
  constructor
  · rintro ⟨entry, member, is_who⟩
    exact ⟨entry.1, entry.2, Table.mem_pairs_iff.mp member, is_who⟩
  · rintro ⟨key, row, found, is_who⟩
    exact ⟨(key, row), Table.mem_pairs_iff.mpr found, is_who⟩

instance [DecidableEq I] (rows : Table K R) (who : I) : Decidable (σ.Holds rows who) :=
  decidable_of_iff _ σ.holds_iff

/-- Every row is under its own key, which was issued for whom it stands. -/
structure Known (issued : K → I → Prop) (fact : R → Prop) (rows : Table K R) : Prop where
  filed : ∀ key row, rows.get key = some row → σ.own row = key
  issued : ∀ key row, rows.get key = some row → issued key (σ.who row)
  fact : ∀ key row, rows.get key = some row → fact row

/-- What the statements keep of a row, and what the unique columns see to. -/
structure Lawful (fact : R → Prop) : Prop where
  rekey : ∀ key row, σ.who (σ.rekey key row) = σ.who row
  clashes : ∀ row other, σ.who row = σ.who other → σ.clashes row other = true
  stored : ∀ row stored, σ.stored row = .ok stored → σ.own stored = σ.own row ∧ σ.who stored = σ.who row
  fact : ∀ row stored, σ.stored row = .ok stored → fact row → fact stored

omit [DecidableEq K] in
/-- A table whose columns hold every value as it is. -/
theorem Lawful.ofPlain {σ : SavedRows K I R} (fact : R → Prop) (rekey : ∀ key row, σ.who (σ.rekey key row) = σ.who row)
    (clashes : ∀ row other, σ.who row = σ.who other → σ.clashes row other = true)
    (plain : ∀ row stored, σ.stored row = .ok stored → stored = row) : σ.Lawful fact where
  rekey := rekey
  clashes := clashes
  stored row stored fits := by
    rw [plain row stored fits]
    exact ⟨rfl, rfl⟩
  fact row stored fits holds := by
    rw [plain row stored fits]
    exact holds

section Soundness

variable {σ} {issued more : K → I → Prop} {fact : R → Prop} {rows fewer : Table K R} {key : K} {row : R}

namespace Apart

theorem empty : σ.Apart (∅ : Table K R) := by
  intro one first other second found
  rw [Table.get_empty] at found
  cases found

theorem sub (apart : σ.Apart rows) (kept : ∀ key row, fewer.get key = some row → rows.get key = some row) : σ.Apart fewer :=
  fun one first other second found also => apart one first other second (kept one first found) (kept other second also)

theorem put (apart : σ.Apart rows) (alone : ∀ other held, rows.get other = some held → σ.who row = σ.who held → key = other) :
    σ.Apart (rows.put key row) := by
  intro one first other second found also alike
  rw [Table.get_put] at found also
  split at found
  · rename_i is_key
    cases found
    split at also
    · rename_i also_key
      exact is_key.trans also_key.symm
    · exact is_key.trans (alone other second also alike)
  · split at also
    · rename_i also_key
      cases also
      exact (alone one first found alike.symm).symm.trans also_key.symm
    · exact apart one first other second found also alike

theorem putAll {more : Table K R} (apart : σ.Apart rows) (more_apart : σ.Apart more)
    (alone : ∀ one first other second, more.get one = some first → rows.get other = some second →
      σ.who first ≠ σ.who second) : σ.Apart (rows.putAll more) := by
  intro one first other second found also alike
  rw [Table.get_putAll, Option.or_eq_some_iff] at found also
  rcases found with new | ⟨-, old⟩
  · rcases also with new_too | ⟨-, old_too⟩
    · exact more_apart one first other second new new_too alike
    · exact absurd alike (alone one first other second new old_too)
  · rcases also with new_too | ⟨-, old_too⟩
    · exact absurd alike.symm (alone other second one first new_too old)
    · exact apart one first other second old old_too alike

theorem modify (apart : σ.Apart rows) (change : R → R) (who : ∀ row, σ.who (change row) = σ.who row) :
    σ.Apart (rows.modify key change) := by
  have was {other : K} {found : R} (there : (rows.modify key change).get other = some found) :
      ∃ before, rows.get other = some before ∧ σ.who found = σ.who before := by
    rw [Table.get_modify] at there
    split at there
    · rename_i same
      obtain ⟨before, held, rfl⟩ := Option.map_eq_some_iff.mp there
      exact ⟨before, same ▸ held, who before⟩
    · exact ⟨found, there, rfl⟩
  intro one first other second found also alike
  obtain ⟨before, held, who_first⟩ := was found
  obtain ⟨beside, held_too, who_second⟩ := was also
  exact apart one before other beside held held_too (who_first.symm.trans (alike.trans who_second))

end Apart

namespace Known

theorem empty : σ.Known issued fact (∅ : Table K R) := by
  refine ⟨fun key row found => ?_, fun key row found => ?_, fun key row found => ?_⟩
  all_goals
    rw [Table.get_empty] at found
    cases found

theorem mono (known : σ.Known issued fact rows) (grows : ∀ key who, issued key who → more key who) :
    σ.Known more fact rows :=
  ⟨known.filed, fun key row found => grows _ _ (known.issued key row found), known.fact⟩

theorem weaken {weaker : R → Prop} (known : σ.Known issued fact rows) (weakens : ∀ row, fact row → weaker row) :
    σ.Known issued weaker rows :=
  ⟨known.filed, known.issued, fun key row found => weakens row (known.fact key row found)⟩

theorem sub (known : σ.Known issued fact rows) (kept : ∀ key row, fewer.get key = some row → rows.get key = some row) :
    σ.Known issued fact fewer :=
  ⟨fun key row found => known.filed key row (kept key row found),
    fun key row found => known.issued key row (kept key row found),
    fun key row found => known.fact key row (kept key row found)⟩

/-- A row that is there at all is there under its own key. -/
theorem found (known : σ.Known issued fact rows) (there : ∃ held, rows.get held = some row) : rows.get (σ.own row) = some row := by
  obtain ⟨held, found⟩ := there
  rw [known.filed held row found]
  exact found

theorem put (known : σ.Known issued fact rows) (own : σ.own row = key) (was_issued : issued key (σ.who row)) (holds : fact row) :
    σ.Known issued fact (rows.put key row) := by
  have now {other : K} {found : R} (there : (rows.put key row).get other = some found) :
      other = key ∧ found = row ∨ rows.get other = some found := by
    rw [Table.get_put] at there
    split at there
    · rename_i same
      cases there
      exact .inl ⟨same, rfl⟩
    · exact .inr there
  refine ⟨fun other found there => ?_, fun other found there => ?_, fun other found there => ?_⟩
  · rcases now there with ⟨rfl, rfl⟩ | before
    · exact own
    · exact known.filed other found before
  · rcases now there with ⟨rfl, rfl⟩ | before
    · exact was_issued
    · exact known.issued other found before
  · rcases now there with ⟨rfl, rfl⟩ | before
    · exact holds
    · exact known.fact other found before

theorem putAll {more : Table K R} (known : σ.Known issued fact rows) (more_known : σ.Known issued fact more) :
    σ.Known issued fact (rows.putAll more) := by
  have was {other : K} {found : R} (there : (rows.putAll more).get other = some found) :
      more.get other = some found ∨ rows.get other = some found := by
    rw [Table.get_putAll, Option.or_eq_some_iff] at there
    exact there.imp id And.right
  refine ⟨fun other found there => ?_, fun other found there => ?_, fun other found there => ?_⟩
  · exact (was there).elim (more_known.filed other found) (known.filed other found)
  · exact (was there).elim (more_known.issued other found) (known.issued other found)
  · exact (was there).elim (more_known.fact other found) (known.fact other found)

theorem modify (known : σ.Known issued fact rows) (change : R → R) (own : ∀ row, σ.own (change row) = σ.own row)
    (who : ∀ row, σ.who (change row) = σ.who row) (holds : ∀ row, fact row → fact (change row)) :
    σ.Known issued fact (rows.modify key change) := by
  have was {other : K} {found : R} (there : (rows.modify key change).get other = some found) :
      ∃ before, rows.get other = some before ∧ (found = before ∨ found = change before) := by
    rw [Table.get_modify] at there
    split at there
    · rename_i same
      obtain ⟨before, held, rfl⟩ := Option.map_eq_some_iff.mp there
      exact ⟨before, same ▸ held, .inr rfl⟩
    · exact ⟨found, there, .inl rfl⟩
  refine ⟨fun other found there => ?_, fun other found there => ?_, fun other found there => ?_⟩
  · obtain ⟨before, held, rfl | rfl⟩ := was there
    · exact known.filed other found held
    · rw [own]
      exact known.filed other before held
  · obtain ⟨before, held, rfl | rfl⟩ := was there
    · exact known.issued other found held
    · rw [who]
      exact known.issued other before held
  · obtain ⟨before, held, rfl | rfl⟩ := was there
    · exact known.fact other found held
    · exact holds before (known.fact other before held)

/-- Rows that are known can be saved after rows that are known. -/
theorem follows (functional : ∀ key who other, issued key who → issued key other → who = other) {prev next : Table K R}
    (before : σ.Known issued fact prev) (after : σ.Known issued fact next) (apart : σ.Apart prev) : σ.Follows prev next where
  filed := after.filed
  onceBefore := apart
  kept key was is there still := functional key _ _ (after.issued key is still) (before.issued key was there)

variable [DecidableEq R] {prev next db after : Table K R}

/-- A save puts nothing unknown into the database. -/
theorem merged (lawful : σ.Lawful fact) (known : σ.Known issued fact db) (wanted : σ.Known issued fact next)
    (merged : σ.Merged prev next db after) : σ.Known issued fact after := by
  refine ⟨fun key row there => ?_, fun key row there => ?_, fun key row there => ?_⟩
  · rcases merged.origin there with ⟨-, before⟩ | ⟨source, held, -, fits⟩
    · exact known.filed key row before
    · exact (lawful.stored source row fits).1.trans (wanted.filed key source held)
  · rcases merged.origin there with ⟨-, before⟩ | ⟨source, held, -, fits⟩
    · exact known.issued key row before
    · rw [(lawful.stored source row fits).2]
      exact wanted.issued key source held
  · rcases merged.origin there with ⟨-, before⟩ | ⟨source, held, -, fits⟩
    · exact known.fact key row before
    · exact lawful.fact source row fits (wanted.fact key source held)

end Known

namespace Holds

variable {who : I}

theorem sub (holds : σ.Holds fewer who) (kept : ∀ key row, fewer.get key = some row → rows.get key = some row) :
    σ.Holds rows who := by
  obtain ⟨key, row, found, is_who⟩ := holds
  exact ⟨key, row, kept key row found, is_who⟩

theorem of_put (holds : σ.Holds (rows.put key row) who) : σ.who row = who ∨ σ.Holds rows who := by
  obtain ⟨other, found, there, is_who⟩ := holds
  rw [Table.get_put] at there
  split at there
  · cases there
    exact .inl is_who
  · exact .inr ⟨other, found, there, is_who⟩

/-- Who is in memory and in its snapshot is in both once the same rows have been put into them. -/
theorem putAll {saved more : Table K R} (functional : ∀ key one other, issued key one → issued key other → one = other)
    (was_known : σ.Known issued fact saved) (known : σ.Known issued fact more) (both : σ.Holds rows who → σ.Holds saved who)
    (holds : σ.Holds (rows.putAll more) who) : σ.Holds (saved.putAll more) who := by
  obtain ⟨key, row, there, is_who⟩ := holds
  rw [Table.get_putAll, Option.or_eq_some_iff] at there
  rcases there with new | ⟨-, old⟩
  · refine ⟨key, row, ?_, is_who⟩
    rw [Table.get_putAll, new, Option.some_or]
  · obtain ⟨place, before, held, before_who⟩ := both ⟨key, row, old, is_who⟩
    cases atop : more.get place with
    | none =>
      refine ⟨place, before, ?_, before_who⟩
      rw [Table.get_putAll, atop, Option.none_or, held]
    | some beside =>
      have same := functional place _ _ (known.issued place beside atop) (was_known.issued place before held)
      refine ⟨place, beside, ?_, same.trans before_who⟩
      rw [Table.get_putAll, atop, Option.some_or]

theorem of_modify {change : R → R} (holds : σ.Holds (rows.modify key change) who)
    (keeps : ∀ row, σ.who (change row) = σ.who row) : σ.Holds rows who := by
  obtain ⟨other, found, there, is_who⟩ := holds
  rw [Table.get_modify] at there
  split at there
  · rename_i same
    obtain ⟨before, held, rfl⟩ := Option.map_eq_some_iff.mp there
    exact ⟨key, before, same ▸ held, (keeps before).symm.trans is_who⟩
  · exact ⟨other, found, there, is_who⟩

end Holds

section Outsiders

variable [DecidableEq R] {prev next db after : Table K R} {who : I}

/-- A save that finds nobody in the database who was there at its snapshot puts nobody there. -/
theorem Merged.stays_out (merged : σ.Merged prev next db after) (lawful : σ.Lawful fact)
    (functional : ∀ key one other, issued key one → issued key other → one = other) (before : σ.Known issued fact prev)
    (held : σ.Known issued fact db) (apart : σ.Apart next) (confirmed : σ.Holds next who → σ.Holds prev who)
    (out : ¬σ.Holds db who) : ¬σ.Holds after who := by
  rintro ⟨key, row, there, is_who⟩
  rcases merged.origin there with ⟨-, was⟩ | ⟨source, wanted, changed, fits⟩
  · exact out ⟨key, row, was, is_who⟩
  · have source_who : σ.who source = who := (lawful.stored source row fits).2.symm.trans is_who
    obtain ⟨old, first, found, first_who⟩ := confirmed ⟨key, source, wanted, source_who⟩
    by_cases unchanged : next.get old = prev.get old
    -- The row that was saved is the one that is wanted, and has not changed.
    · rw [found] at unchanged
      have same := apart old first key source unchanged wanted (first_who.trans source_who.symm)
      rw [same, wanted] at unchanged
      rw [same] at found
      exact changed (found.trans unchanged.symm)
    · have left : prev.get old ≠ none := by
        rw [found]
        exact Option.some_ne_none first
      obtain ⟨beside, kept⟩ := Option.ne_none_iff_exists'.mp (merged.held old left unchanged)
      have same := functional old _ _ (held.issued old beside kept) (before.issued old first found)
      exact out ⟨old, beside, kept, same.trans first_who⟩

end Outsiders

variable {prev next db middle after : Table K R}

/-- The unique columns keep apart whom the rows stand for. -/
theorem Lawful.place (lawful : σ.Lawful fact) (apart : σ.Apart db) (placed : σ.place db key row = .ok after) :
    σ.Apart after := by
  have is := place_ok placed
  unfold SavedRows.place at placed
  split at placed
  · rename_i unlike
    rw [is]
    refine apart.put fun other held found alike => ?_
    have checked := List.all_eq_true.mp unlike (other, held) (Table.mem_pairs_iff.mpr found)
    rw [lawful.clashes row held alike] at checked
    simp only [Bool.not_true, Bool.or_false, beq_iff_eq] at checked
    exact checked.symm
  · cases placed

theorem Lawful.rename (lawful : σ.Lawful fact) (apart : σ.Apart db) {old new : K} (renamed : σ.rename db old new = .ok after) :
    σ.Apart after := by
  obtain ⟨held, found, -, rfl⟩ := rename_ok renamed
  have fewer : σ.Apart (db.drop old) := apart.sub fun _ _ there => Table.get_of_get_drop there
  refine fewer.put fun other beside there alike => ?_
  rw [lawful.rekey] at alike
  have same := apart old held other beside found (Table.get_of_get_drop there) alike
  rw [Table.get_drop, if_pos same.symm] at there
  cases there

theorem Lawful.reconcile [DecidableEq I] (lawful : σ.Lawful fact) (apart : σ.Apart db)
    (reconciled : σ.reconcile prev next db = .ok after) : σ.Apart after := by
  refine foldlM_keeps (fun rows was left apart done => ?_) apart reconciled
  unfold reconcileRow at done
  split at done
  · cases done
    exact apart
  · split at done
    · exact lawful.rename apart done
    · obtain ⟨-, rfl⟩ := delete_ok done
      exact apart.sub fun _ _ there => Table.get_of_get_drop there

theorem Lawful.upsert [DecidableEq R] (lawful : σ.Lawful fact) (apart : σ.Apart db)
    (upserted : σ.upsert prev next db = .ok after) : σ.Apart after := by
  refine foldlM_keeps (fun rows is left apart done => ?_) apart upserted
  unfold upsertRow at done
  split at done
  · cases done
    exact apart
  · obtain ⟨row, -, written⟩ := bind_eq_ok done
    split at written
    · unfold update at written
      split at written
      · exact lawful.place apart written
      · cases written
    · exact lawful.place apart written

end Soundness

end SavedRows

end Sealwire

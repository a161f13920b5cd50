import Sealwire.Lib.RowStore

namespace Sealwire.Core

/-- The tables that hold one entity for each row, and the table of settings. -/
inductive EntityTable
  | relaySetting
  | sessionSettings
  | sessionFork
  | sessionBinding
  | sessionWorkspace
  | sessionTurnBaseSha
  | sessionTurnBaseCwd
  | sessionLastActivity
  | sessionProject
  | sessionCustomName
  | sessionFlagged
  | deviceRecord
  | pairedDevice
  | pushSubscription
  | apnsToken
  | reviewerThread
  | project
  | jobReview
  | jobAsk
  | jobHandover
  | jobGoal
  | jobWorkflow
  | jobTeamRun
  | orchestratorProposal
  deriving DecidableEq

def settingsTable : EntityTable := .relaySetting

def entityTables : List EntityTable :=
  [settingsTable, .sessionSettings, .sessionFork, .sessionBinding, .sessionWorkspace, .sessionTurnBaseSha,
    .sessionTurnBaseCwd, .sessionLastActivity, .sessionProject, .sessionCustomName, .sessionFlagged, .deviceRecord,
    .pairedDevice, .pushSubscription, .apnsToken, .reviewerThread, .project, .jobReview, .jobAsk, .jobHandover,
    .jobGoal, .jobWorkflow, .jobTeamRun, .orchestratorProposal]

theorem mem_entityTables (table : EntityTable) : table ∈ entityTables := by
  cases table <;> decide

theorem entityTables_nodup : entityTables.Nodup := by
  decide

/-- The kind of the credentials that hold the payload secrets of paired devices. -/
def devicePayloadSecret : String := "device_payload"

/-- The durable state as rows: the body of each entity, and the secrets kept apart. -/
structure CoreRows where
  entities : Table (EntityTable × String) String
  deviceSecrets : Table String String

namespace CoreRows

def empty : CoreRows where
  entities := ∅
  deviceSecrets := ∅

/-- Equality of the rows as maps. -/
def Same (a b : CoreRows) : Prop :=
  a.entities.Same b.entities ∧ a.deviceSecrets.Same b.deviceSecrets

instance decidableSame (a b : CoreRows) : Decidable (a.Same b) :=
  inferInstanceAs (Decidable (_ ∧ _))

theorem Same.refl (a : CoreRows) : a.Same a :=
  ⟨fun _ => rfl, fun _ => rfl⟩

theorem Same.symm {a b : CoreRows} (same : a.Same b) : b.Same a :=
  ⟨same.1.symm, same.2.symm⟩

theorem Same.trans {a b c : CoreRows} (first : a.Same b) (second : b.Same c) : a.Same c :=
  ⟨first.1.trans second.1, first.2.trans second.2⟩

end CoreRows

structure Credential where
  secret : String
  info : Option String
  updatedAt : UInt64
  deriving DecidableEq

/-- What the database holds of the relay's own state. A credential is keyed by its kind and its id. -/
structure Database where
  tables : Table (EntityTable × String) String
  credential : Table (String × String) Credential

inductive Statement
  | insertOrReplace (table : EntityTable) (key body : String)
  | deleteRow (table : EntityTable) (key : String)
  | putCredential (kind id secret : String) (info : Option String) (now : UInt64)
  | deleteCredential (kind id : String)

def Statement.execute (db : Database) : Statement → Database
  | insertOrReplace table key body => { db with tables := db.tables.put (table, key) body }
  | deleteRow table key => { db with tables := db.tables.drop (table, key) }
  | putCredential kind id secret info now =>
    { db with credential := db.credential.put (kind, id) { secret := secret, info := info, updatedAt := now } }
  | deleteCredential kind id => { db with credential := db.credential.drop (kind, id) }

/-- `SELECT key, body` of one table. -/
def Database.select (db : Database) (table : EntityTable) : List (String × String) :=
  db.tables.pairs.filterMap fun row => if row.1.1 = table then some (row.1.2, row.2) else none

/-- `SELECT id, secret` of the credentials of one kind. -/
def Database.selectSecrets (db : Database) (kind : String) : List (String × String) :=
  db.credential.pairs.filterMap fun row => if row.1.1 = kind then some (row.1.2, row.2.secret) else none

def readRows (db : Database) : CoreRows where
  entities := .ofPairs (entityTables.flatMap fun table =>
    (db.select table).map fun row => ((table, row.1), row.2))
  deviceSecrets := .ofPairs (db.selectSecrets devicePayloadSecret)

/-- The statements that write what differs between `before` and `after`. -/
def diffStatements (before after : CoreRows) (now : UInt64) : List Statement :=
  (Table.changed before.entities after.entities).map (fun row => .insertOrReplace row.1.1 row.1.2 row.2) ++
    (Table.removed before.entities after.entities).map (fun key => .deleteRow key.1 key.2) ++
    (Table.changed before.deviceSecrets after.deviceSecrets).map (fun row =>
      .putCredential devicePayloadSecret row.1 row.2 none now) ++
    (Table.removed before.deviceSecrets after.deviceSecrets).map (fun id => .deleteCredential devicePayloadSecret id)

/-- Write the rows that differ and count them, where no statement fails. -/
def writeDiff (db : Database) (before after : CoreRows) (now : UInt64) : Database × Nat :=
  ((diffStatements before after now).foldl Statement.execute db, (diffStatements before after now).length)

theorem select_iff {db : Database} {table : EntityTable} {key body : String} :
    (key, body) ∈ db.select table ↔ db.tables.get (table, key) = some body := by
  rw [← Table.mem_pairs_iff]
  unfold Database.select
  rw [List.mem_filterMap]
  constructor
  · rintro ⟨⟨⟨t, k⟩, b⟩, member, found⟩
    split at found
    · rename_i same
      cases found
      cases same
      exact member
    · cases found
  · intro member
    exact ⟨((table, key), body), member, by simp⟩

theorem selectSecrets_iff {db : Database} {kind id secret : String} :
    (id, secret) ∈ db.selectSecrets kind ↔ (db.credential.get (kind, id)).map Credential.secret = some secret := by
  unfold Database.selectSecrets
  rw [List.mem_filterMap, Option.map_eq_some_iff]
  constructor
  · rintro ⟨⟨⟨k, i⟩, c⟩, member, found⟩
    split at found
    · rename_i same
      cases found
      cases same
      exact ⟨c, Table.mem_pairs_iff.mp member, rfl⟩
    · cases found
  · rintro ⟨c, held, same⟩
    exact ⟨((kind, id), c), Table.mem_pairs_iff.mpr held, by simp [same]⟩

/-- The keys of one part of a map whose keys are pairs. -/
theorem nodup_filterMap_pairs {A B V W : Type} [DecidableEq A] [DecidableEq B] (t : Table (A × B) V) (a : A)
    (f : V → W) :
    ((t.pairs.filterMap fun row => if row.1.1 = a then some (row.1.2, f row.2) else none).map Prod.fst).Nodup := by
  have keys : (t.pairs.filterMap fun row => if row.1.1 = a then some (row.1.2, f row.2) else none).map Prod.fst =
      (t.pairs.map Prod.fst).filterMap fun key => if key.1 = a then some key.2 else none := by
    rw [List.map_filterMap, List.filterMap_map]
    refine List.filterMap_congr fun row _ => ?_
    by_cases same : row.1.1 = a <;> simp [same]
  rw [keys]
  refine t.pairs_nodup.filterMap ?_
  rintro ⟨a₁, b₁⟩ ⟨a₂, b₂⟩ b left right
  simp only [Option.mem_def, Option.ite_none_right_eq_some, Option.some.injEq] at left right
  rw [left.1, left.2, right.1, right.2]

theorem select_nodup (db : Database) (table : EntityTable) : ((db.select table).map Prod.fst).Nodup :=
  nodup_filterMap_pairs db.tables table id

theorem selectSecrets_nodup (db : Database) (kind : String) : ((db.selectSecrets kind).map Prod.fst).Nodup :=
  nodup_filterMap_pairs db.credential kind Credential.secret

/-- Every row of the database is read, under its own table and key. -/
theorem readRows_entities (db : Database) (key : EntityTable × String) :
    (readRows db).entities.get key = db.tables.get key := by
  have once : ((entityTables.flatMap fun table =>
      (db.select table).map fun row => ((table, row.1), row.2)).map Prod.fst).Nodup := by
    rw [List.map_flatMap, List.nodup_flatMap]
    constructor
    · intro table _
      rw [List.map_map]
      have keys := select_nodup db table
      have paired := keys.map (f := fun key => (table, key)) fun a b same => (Prod.mk.inj same).2
      rw [List.map_map] at paired
      exact paired
    · refine entityTables_nodup.imp ?_
      intro t u different
      simp only [List.map_map, List.disjoint_left, List.mem_map]
      rintro key ⟨row, _, rfl⟩ ⟨other, _, same⟩
      exact different (Prod.mk.inj same).1.symm
  apply Option.ext
  intro body
  unfold readRows
  rw [Table.get_ofPairs_iff once, List.mem_flatMap]
  constructor
  · rintro ⟨table, _, member⟩
    obtain ⟨row, inside, same⟩ := List.mem_map.mp member
    cases same
    exact select_iff.mp inside
  · intro held
    exact ⟨key.1, mem_entityTables _, List.mem_map.mpr ⟨(key.2, body), select_iff.mpr held, rfl⟩⟩

theorem readRows_deviceSecrets (db : Database) (id : String) :
    (readRows db).deviceSecrets.get id = (db.credential.get (devicePayloadSecret, id)).map Credential.secret := by
  apply Option.ext
  intro secret
  unfold readRows
  rw [Table.get_ofPairs_iff (selectSecrets_nodup db _), selectSecrets_iff]

/-- The entity rows of the database as a store. -/
def entityStore : RowStore Database (EntityTable × String) String where
  view := fun db key => db.tables.get key
  put := fun db row => Statement.execute db (.insertOrReplace row.1.1 row.1.2 row.2)
  drop := fun db key => Statement.execute db (.deleteRow key.1 key.2)
  view_put := fun db row key => Table.get_put db.tables row.1 key row.2
  view_drop := fun db key other => Table.get_drop db.tables key other

/-- The payload secrets of the database as a store. -/
def secretStore (now : UInt64) : RowStore Database String String where
  view := fun db id => (db.credential.get (devicePayloadSecret, id)).map Credential.secret
  put := fun db row => Statement.execute db (.putCredential devicePayloadSecret row.1 row.2 none now)
  drop := fun db id => Statement.execute db (.deleteCredential devicePayloadSecret id)
  view_put := by
    intro db row id
    simp only [Statement.execute, Table.get_put, Prod.mk.injEq, true_and]
    split <;> rfl
  view_drop := by
    intro db id other
    simp only [Statement.execute, Table.get_drop, Prod.mk.injEq, true_and]
    split <;> rfl

/-- What none of a list of statements changes, the list does not change. -/
theorem foldl_execute_keeps {α β : Type} (part : Database → α) {write : β → Statement}
    (keeps : ∀ row db, part (Statement.execute db (write row)) = part db) (rows : List β) (db : Database) :
    part ((rows.map write).foldl Statement.execute db) = part db := by
  induction rows generalizing db with
  | nil => rfl
  | cons row rows ih =>
    rw [List.map_cons, List.foldl_cons, ih]
    exact keeps row db

/-- A database that holds `before` holds `after` once the difference is written. -/
theorem readRows_writeDiff {db : Database} {before after : CoreRows} (holds : (readRows db).Same before) (now : UInt64) :
    (readRows (writeDiff db before after now).1).Same after := by
  have rows_first : ∀ key, db.tables.get key = before.entities.get key := fun key => by
    rw [← readRows_entities, holds.1 key]
  have secrets_first : ∀ id, (db.credential.get (devicePayloadSecret, id)).map Credential.secret =
      before.deviceSecrets.get id := fun id => by
    rw [← readRows_deviceSecrets, holds.2 id]
  unfold writeDiff diffStatements
  rw [List.foldl_append, List.foldl_append, List.foldl_append]
  constructor
  · intro key
    rw [readRows_entities, foldl_execute_keeps (fun db => db.tables) (fun _ _ => rfl),
      foldl_execute_keeps (fun db => db.tables) (fun _ _ => rfl), List.foldl_map, List.foldl_map]
    exact entityStore.view_diff rows_first key
  · intro id
    rw [readRows_deviceSecrets, List.foldl_map, List.foldl_map]
    refine (secretStore now).view_diff (fun id => ?_) id
    rw [← secrets_first]
    simp only [secretStore]
    rw [foldl_execute_keeps (fun db => db.credential) (fun _ _ => rfl),
      foldl_execute_keeps (fun db => db.credential) (fun _ _ => rfl)]

/-- Credentials of other kinds are left as they are. -/
theorem credential_writeDiff (db : Database) (before after : CoreRows) (now : UInt64) {kind : String}
    (other : kind ≠ devicePayloadSecret) (id : String) :
    (writeDiff db before after now).1.credential.get (kind, id) = db.credential.get (kind, id) := by
  unfold writeDiff diffStatements
  rw [List.foldl_append, List.foldl_append, List.foldl_append]
  have deleted (key : String) (db : Database) :
      (Statement.execute db (.deleteCredential devicePayloadSecret key)).credential.get (kind, id) =
        db.credential.get (kind, id) := by
    simp [Statement.execute, Table.get_drop, other]
  have put (row : String × String) (db : Database) :
      (Statement.execute db (.putCredential devicePayloadSecret row.1 row.2 none now)).credential.get (kind, id) =
        db.credential.get (kind, id) :=
    Table.get_put_ne _ _ (by simp [other])
  rw [foldl_execute_keeps (fun db => db.credential.get (kind, id)) deleted,
    foldl_execute_keeps (fun db => db.credential.get (kind, id)) put,
    foldl_execute_keeps (fun db => db.credential.get (kind, id)) (fun _ _ => rfl),
    foldl_execute_keeps (fun db => db.credential.get (kind, id)) (fun _ _ => rfl)]

end Sealwire.Core

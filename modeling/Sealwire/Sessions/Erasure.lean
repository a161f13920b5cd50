import Sealwire.Sessions.Tables

namespace Sealwire.Sessions

/-- The tables that hold something for a session, with the indices that come with them. -/
inductive SessionTable
  | threads
  | settings
  | lastActivity
  | goals
  | customName
  | flagged
  | workspace
  | lastTurnBaseSha
  | lastTurnBaseCwd
  | projectId
  | forkedFrom
  | searchHint
  | searchHintOrder
  | sessionBinding
  | providerHandle
  | runtime
  | pendingApprovals
  | pendingQuestions
  deriving DecidableEq

/-- What a table can hold for one session. -/
abbrev SessionTable.Row (P : Payloads) : SessionTable → Type
  | .threads => List ThreadSummaryView
  | .settings => Option P.Settings
  | .lastActivity => Option UInt64
  | .goals => Option P.Goal
  | .flagged => Option Unit
  | .workspace => Option ThreadWorkspace
  | .customName | .lastTurnBaseSha | .lastTurnBaseCwd | .projectId | .forkedFrom => Option String
  | .searchHint => Option ThreadSummaryView
  | .searchHintOrder => List String
  | .sessionBinding => Option SessionBinding
  | .providerHandle => ProviderRouteKey → Option String
  | .runtime => Option (ThreadRuntime P)
  | .pendingApprovals => String → Option (Pending P.Approval)
  | .pendingQuestions => String → Option (Pending P.Question)

def SessionTable.noRow {P : Payloads} : (table : SessionTable) → table.Row P
  | .threads => []
  | .settings => none
  | .lastActivity => none
  | .goals => none
  | .flagged => none
  | .workspace => none
  | .customName => none
  | .lastTurnBaseSha => none
  | .lastTurnBaseCwd => none
  | .projectId => none
  | .forkedFrom => none
  | .searchHint => none
  | .searchHintOrder => []
  | .sessionBinding => none
  | .providerHandle => fun _ => none
  | .runtime => none
  | .pendingApprovals => fun _ => none
  | .pendingQuestions => fun _ => none

namespace RelayState

variable {P : Payloads}

/-- What a table holds for a session. -/
def row (relay : RelayState P) (session : String) : (table : SessionTable) → table.Row P
  | .threads => relay.threads.filter (·.id = session)
  | .settings => relay.threadSettings.get session
  | .lastActivity => relay.threadLastActivityAt.get session
  | .goals => relay.goals.get session
  | .flagged => relay.threadFlagged.get session
  | .workspace => relay.threadWorkspace.get session
  | .customName => relay.threadCustomName.get session
  | .lastTurnBaseSha => relay.threadLastTurnBaseSha.get session
  | .lastTurnBaseCwd => relay.threadLastTurnBaseCwd.get session
  | .projectId => relay.threadProjectId.get session
  | .forkedFrom => relay.threadForkedFrom.get session
  | .searchHint => relay.searchRouting.hints.get session
  | .searchHintOrder => relay.searchRouting.order.filter (· = session)
  | .sessionBinding => relay.sessionBindings.1.binding session
  | .providerHandle => fun key => (relay.sessionBindings.1.byProviderHandle.get key).filter (· = session)
  | .runtime => relay.runtimes.get session
  | .pendingApprovals => fun request => (relay.pendingApprovals.get request).filter (·.threadId = session)
  | .pendingQuestions => fun request => (relay.pendingAskUserQuestions.get request).filter (·.threadId = session)

section Removal

variable {relay : RelayState P} {session threadId : String} {table : SessionTable}

theorem filter_retain_other {Body : Type} (pending : Option (Pending Body)) (other : session ≠ threadId) :
    (pending.filter fun held => held.threadId ≠ threadId).filter (·.threadId = session) =
      pending.filter (·.threadId = session) := by
  cases pending with
  | none => rfl
  | some held =>
    by_cases same : held.threadId = session
    · simp [Option.filter, same, other]
    · by_cases gone : held.threadId = threadId <;> simp [Option.filter, same, gone, Ne.symm other]

theorem filter_retain_same {Body : Type} (pending : Option (Pending Body)) :
    (pending.filter fun held => held.threadId ≠ threadId).filter (·.threadId = threadId) = none := by
  cases pending with
  | none => rfl
  | some held => by_cases gone : held.threadId = threadId <;> simp [Option.filter, gone]

theorem filter_filter_other {α : Type} (key : α → String) (rows : List α) (other : session ≠ threadId) :
    (rows.filter fun row => key row ≠ threadId).filter (fun row => key row = session) =
      rows.filter fun row => key row = session := by
  rw [List.filter_filter]
  refine List.filter_congr fun row _ => ?_
  by_cases same : key row = session
  · simp [same, other]
  · simp [same]

theorem filter_filter_same {α : Type} (key : α → String) (rows : List α) :
    (rows.filter fun row => key row ≠ threadId).filter (fun row => key row = threadId) = [] := by
  rw [List.filter_filter, List.filter_eq_nil_iff]
  intro row _
  simp

/-- The rows of another session stay. -/
theorem row_removeThread_other (other : session ≠ threadId) :
    (relay.removeThread threadId).row session table = relay.row session table := by
  cases table with
  | threads => exact filter_filter_other (·.id) relay.threads other
  | searchHint =>
    simp only [row, removeThread, dropPendingRequestsForThread, retireHandoversForThread, SearchRoutingHints.forget]
    split
    · rw [Table.get_drop, if_neg other]
    · rfl
  | searchHintOrder =>
    simp only [row, removeThread, dropPendingRequestsForThread, retireHandoversForThread, SearchRoutingHints.forget]
    split
    · exact filter_filter_other id relay.searchRouting.order other
    · rfl
  | sessionBinding =>
    simp only [row, removeThread, dropPendingRequestsForThread, retireHandoversForThread, SessionBindingRegistry.remove]
    split
    · rfl
    · simp only [SessionBindingRegistry.binding, Table.get_drop, if_neg other]
  | providerHandle =>
    funext key
    simp only [row, removeThread, dropPendingRequestsForThread, retireHandoversForThread, SessionBindingRegistry.remove]
    split
    · rfl
    · rename_i held found
      rw [Table.get_drop]
      split
      · rename_i at_key
        have owner := (relay.sessionBindings.2.inverse key threadId).mpr ⟨held, found, at_key.symm⟩
        simp [owner, Option.filter, Ne.symm other]
      · rfl
  | runtime =>
    simp only [row, removeThread, dropPendingRequestsForThread, retireHandoversForThread, Table.get_modify,
      Table.get_drop, if_neg other]
  | pendingApprovals =>
    funext request
    simp only [row, removeThread, dropPendingRequestsForThread, retireHandoversForThread, Table.get_retain]
    exact filter_retain_other _ other
  | pendingQuestions =>
    funext request
    simp only [row, removeThread, dropPendingRequestsForThread, retireHandoversForThread, Table.get_retain]
    exact filter_retain_other _ other
  | _ =>
    simp only [row, removeThread, dropPendingRequestsForThread, retireHandoversForThread, Table.get_drop, if_neg other]

/-- Two tables are left alone, of which a deletion clears one. -/
theorem row_removeThread_same (project : table ≠ .projectId) (lineage : table ≠ .forkedFrom) :
    (relay.removeThread threadId).row threadId table = table.noRow := by
  cases table with
  | projectId => exact absurd rfl project
  | forkedFrom => exact absurd rfl lineage
  | threads => exact filter_filter_same (·.id) relay.threads
  | searchHint =>
    simp only [row, removeThread, dropPendingRequestsForThread, retireHandoversForThread, SearchRoutingHints.forget]
    split
    · rw [Table.get_drop, if_pos rfl]
      rfl
    · rename_i absent
      exact Option.not_isSome_iff_eq_none.mp absent
  | searchHintOrder =>
    simp only [row, removeThread, dropPendingRequestsForThread, retireHandoversForThread, SearchRoutingHints.forget]
    split
    · exact filter_filter_same id relay.searchRouting.order
    · rename_i absent
      refine List.filter_eq_nil_iff.mpr fun id member same => absent ?_
      rw [← of_decide_eq_true same]
      exact (relay.searchRouting.listed id).mp member
  | sessionBinding =>
    simp only [row, removeThread, dropPendingRequestsForThread, retireHandoversForThread, SessionBindingRegistry.remove]
    split
    · rename_i absent
      exact absent
    · simp only [SessionBindingRegistry.binding, Table.get_drop]
      rfl
  | providerHandle =>
    funext key
    simp only [row, removeThread, dropPendingRequestsForThread, retireHandoversForThread]
    refine Option.filter_eq_none_iff.mpr fun owner at_key named => ?_
    rw [of_decide_eq_true named] at at_key
    obtain ⟨held, found, -⟩ := ((relay.sessionBindings.2.remove threadId).inverse key threadId).mp at_key
    unfold SessionBindingRegistry.remove at found
    split at found
    · rename_i absent
      rw [absent] at found
      cases found
    · simp only [SessionBindingRegistry.binding, Table.get_drop] at found
      cases found
  | runtime =>
    simp only [row, removeThread, dropPendingRequestsForThread, retireHandoversForThread, Table.get_modify,
      Table.get_drop]
    rfl
  | pendingApprovals =>
    funext request
    simp only [row, removeThread, dropPendingRequestsForThread, retireHandoversForThread, Table.get_retain]
    exact filter_retain_same _
  | pendingQuestions =>
    funext request
    simp only [row, removeThread, dropPendingRequestsForThread, retireHandoversForThread, Table.get_retain]
    exact filter_retain_same _
  | _ =>
    simp only [row, removeThread, dropPendingRequestsForThread, retireHandoversForThread, Table.get_drop]
    rfl

end Removal

section Deleting

variable {relay : RelayState P} {session threadId : String} {table : SessionTable} {deletedActiveThread : Bool}

/-- The state in which a deletion begins to remove. -/
def cleared (relay : RelayState P) (deletedActiveThread : Bool) : RelayState P :=
  if deletedActiveThread then relay.clearActiveSession else relay

theorem row_deleteThreadInner : (relay.deleteThreadInner deletedActiveThread threadId).row session table =
    ((relay.cleared deletedActiveThread).markThreadDeleted threadId).row session table := by
  cases table <;> rfl

theorem row_deleteThreadInner_other (other : session ≠ threadId) :
    (relay.deleteThreadInner deletedActiveThread threadId).row session table =
      (relay.cleared deletedActiveThread).row session table := by
  rw [row_deleteThreadInner]
  refine (row_removeThread_other other).trans ?_
  cases table with
  | projectId => exact (Table.get_drop _ _ _).trans (if_neg other)
  | _ => rfl

theorem row_deleteThreadInner_same (lineage : table ≠ .forkedFrom) :
    (relay.deleteThreadInner deletedActiveThread threadId).row threadId table = table.noRow := by
  rw [row_deleteThreadInner]
  by_cases project : table = .projectId
  · rw [project]
    exact (Table.get_drop _ _ _).trans (if_pos rfl)
  · exact row_removeThread_same project lineage

theorem row_deleteThreadInner_lineage :
    (relay.deleteThreadInner deletedActiveThread threadId).row session .forkedFrom = relay.row session .forkedFrom := by
  cases deletedActiveThread <;> rfl

theorem threads_deleteThreadInner : (relay.deleteThreadInner deletedActiveThread threadId).threads =
    relay.threads.filter (·.id ≠ threadId) := by
  cases deletedActiveThread <;> rfl

/-- Apart from the session, nothing is cleared with the active one. -/
structure Quiet (relay : RelayState P) (threadId : String) : Prop where
  approvals : ∀ request pending, relay.pendingApprovals.get request = some pending → pending.threadId = threadId
  questions : ∀ request pending, relay.pendingAskUserQuestions.get request = some pending → pending.threadId = threadId
  runtime : ∀ active, relay.activeThreadId = some active → active ≠ threadId → relay.runtimes.get active = none

theorem filter_none_of_other {Body : Type} {requests : Table String (Pending Body)} (other : session ≠ threadId)
    (named : ∀ request pending, requests.get request = some pending → pending.threadId = threadId) (request : String) :
    (requests.get request).filter (·.threadId = session) = none := by
  refine Option.filter_eq_none_iff.mpr fun pending held same => ?_
  rw [named request pending held] at same
  exact other (of_decide_eq_true same).symm

theorem row_clearActiveSession (quiet : relay.Quiet threadId) (other : session ≠ threadId) :
    relay.clearActiveSession.row session table = relay.row session table := by
  cases table with
  | runtime =>
    simp only [row, clearActiveSession]
    split
    · rename_i active is_active
      rw [Table.get_drop]
      split
      · rename_i same
        rw [same]
        exact (quiet.runtime active is_active (same ▸ other)).symm
      · rfl
    · rfl
  | pendingApprovals =>
    funext request
    exact (filter_none_of_other other quiet.approvals request).symm
  | pendingQuestions =>
    funext request
    exact (filter_none_of_other other quiet.questions request).symm
  | _ => rfl

theorem named_of_filter_none {Body : Type} {requests : Table String (Pending Body)}
    (kept : ∀ session, session ≠ threadId → ∀ request, none = (requests.get request).filter (·.threadId = session))
    (request : String) (pending : Pending Body) (held : requests.get request = some pending) : pending.threadId = threadId := by
  by_contra other
  have dropped := kept pending.threadId other request
  rw [held] at dropped
  simp [Option.filter] at dropped

theorem quiet_of_kept
    (kept : ∀ table session, session ≠ threadId → relay.clearActiveSession.row session table = relay.row session table) :
    relay.Quiet threadId where
  approvals := named_of_filter_none fun session other request => congrFun (kept .pendingApprovals session other) request
  questions := named_of_filter_none fun session other request => congrFun (kept .pendingQuestions session other) request
  runtime active is_active other := by
    have same := kept .runtime active other
    simp only [row, clearActiveSession, is_active, Table.get_drop, if_true] at same
    exact same.symm

end Deleting

section Later

variable {relay : RelayState P} {reading : RowReading} {threadId : String}

theorem upsertThread_deleted {thread : ThreadSummaryView} (deleted : thread.id ∈ relay.locallyDeletedThreadIds) :
    relay.upsertThread reading thread = relay :=
  if_pos deleted

theorem locallyDeleted_upsertThread (thread : ThreadSummaryView) :
    (relay.upsertThread reading thread).locallyDeletedThreadIds = relay.locallyDeletedThreadIds := by
  unfold upsertThread
  split <;> rfl

theorem locallyDeleted_upsertThreads (calls : List ThreadSummaryView) :
    (relay.upsertThreads reading calls).locallyDeletedThreadIds = relay.locallyDeletedThreadIds := by
  induction calls generalizing relay with
  | nil => rfl
  | cons thread rest ih => exact ih.trans (locallyDeleted_upsertThread thread)

theorem deleted_after {deletedActiveThread : Bool} :
    threadId ∈ (relay.deleteThreadInner deletedActiveThread threadId).locallyDeletedThreadIds :=
  List.mem_cons_self

end Later

/-- The states agree but for what the tables hold for the session. Of the rest only the rows' order matters. -/
structure AgreeBut (threadId : String) (a b : RelayState P) : Prop where
  rows : ∀ table session, session ≠ threadId → a.row session table = b.row session table
  order : a.threads.filter (·.id ≠ threadId) = b.threads.filter (·.id ≠ threadId)

/-- The session is gone from every table, for good, and nothing else is. -/
structure Forgets (reading : RowReading) (relay next : RelayState P) (threadId : String) : Prop where
  unnamed : ∀ table, next.row threadId table = table.noRow
  others : ∀ table session, session ≠ threadId → next.row session table = relay.row session table
  order : next.threads.filter (·.id ≠ threadId) = relay.threads.filter (·.id ≠ threadId)
  stays : ∀ calls (thread : ThreadSummaryView), thread.id = threadId →
    (next.upsertThreads reading calls).upsertThread reading thread = next.upsertThreads reading calls

/-- Nothing that a state held for the session shows after its deletion. -/
structure LeavesNothing (reading : RowReading) (deletedActiveThread : Bool) (threadId : String) (a b : RelayState P) : Prop where
  agree : ∀ table session, (a.deleteThreadInner deletedActiveThread threadId).row session table =
    (b.deleteThreadInner deletedActiveThread threadId).row session table
  order : (a.deleteThreadInner deletedActiveThread threadId).threads = (b.deleteThreadInner deletedActiveThread threadId).threads
  first : Forgets reading a (a.deleteThreadInner deletedActiveThread threadId) threadId
  second : Forgets reading b (b.deleteThreadInner deletedActiveThread threadId) threadId

/-- No lineage is on record for the session, and with it nothing else is cleared. -/
structure Erasable (deletedActiveThread : Bool) (threadId : String) (relay : RelayState P) : Prop where
  unforked : relay.threadForkedFrom.get threadId = none
  quiet : deletedActiveThread = true → relay.Quiet threadId

section Erasing

variable {reading : RowReading} {deletedActiveThread : Bool} {threadId : String} {relay a b : RelayState P}

theorem forgets_iff : Forgets reading relay (relay.deleteThreadInner deletedActiveThread threadId) threadId ↔
    Erasable deletedActiveThread threadId relay := by
  constructor
  · intro forgets
    refine ⟨row_deleteThreadInner_lineage.symm.trans (forgets.unnamed .forkedFrom), ?_⟩
    rintro rfl
    exact quiet_of_kept fun table session other =>
      (row_deleteThreadInner_other other).symm.trans (forgets.others table session other)
  · intro erasable
    refine ⟨fun table => ?_, fun table session other => ?_, ?_, fun calls thread same => ?_⟩
    · by_cases lineage : table = .forkedFrom
      · rw [lineage, row_deleteThreadInner_lineage]
        exact erasable.unforked
      · exact row_deleteThreadInner_same lineage
    · rw [row_deleteThreadInner_other other]
      cases deletedActiveThread with
      | false => rfl
      | true => exact row_clearActiveSession (erasable.quiet rfl) other
    · rw [threads_deleteThreadInner, List.filter_filter]
      simp
    · refine upsertThread_deleted ?_
      rw [locallyDeleted_upsertThreads, same]
      exact deleted_after

theorem leavesNothing_iff (reading : RowReading) (deletedActiveThread : Bool) (threadId : String) (a b : RelayState P)
    (alike : AgreeBut threadId a b) : LeavesNothing reading deletedActiveThread threadId a b ↔
      Erasable deletedActiveThread threadId a ∧ Erasable deletedActiveThread threadId b := by
  refine ⟨fun nothing => ⟨forgets_iff.mp nothing.first, forgets_iff.mp nothing.second⟩, fun erasable => ?_⟩
  have first : Forgets reading a (a.deleteThreadInner deletedActiveThread threadId) threadId := forgets_iff.mpr erasable.1
  have second : Forgets reading b (b.deleteThreadInner deletedActiveThread threadId) threadId := forgets_iff.mpr erasable.2
  refine ⟨fun table session => ?_, ?_, first, second⟩
  · by_cases same : session = threadId
    · rw [same, first.unnamed, second.unnamed]
    · rw [first.others table session same, second.others table session same, alike.rows table session same]
  · rw [threads_deleteThreadInner, threads_deleteThreadInner, alike.order]

end Erasing

section Runs

/-- Sessions that carry nothing the relay does not look into. -/
abbrev barePayloads : Payloads := ⟨Unit, Unit, Unit, Unit, Unit, Unit, Unit, Unit⟩

def bareReading : RowReading := ⟨id, fun _ => [], fun _ => none⟩

/-- A renamed session of a project. -/
def namedRelay : RelayState barePayloads where
  activeThreadId := some "s1"
  threads := [{ id := "s1" }]
  threadProjectId := Table.put ∅ "s1" "proj_1"
  threadCustomName := Table.put ∅ "s1" "notes"

/-- A session forked from another. -/
def forkedRelay : RelayState barePayloads where
  threadForkedFrom := Table.put ∅ "s1" "s0"

/-- A session is active while another waits for an approval. -/
def waitingRelay : RelayState barePayloads where
  activeThreadId := some "s1"
  pendingApprovals := Table.put ∅ "r1" ⟨"s2", ()⟩

theorem leavesNothing_named : AgreeBut "s1" namedRelay {} ∧ LeavesNothing bareReading true "s1" namedRelay {} := by
  have alike : AgreeBut "s1" namedRelay {} := by
    refine ⟨fun table session other => ?_, rfl⟩
    cases table with
    | threads =>
      have apart : ¬ "s1" = session := Ne.symm other
      simp [row, namedRelay, apart]
    | projectId => exact Table.get_put_ne _ _ other
    | customName => exact Table.get_put_ne _ _ other
    | _ => rfl
  refine ⟨alike, (leavesNothing_iff bareReading true "s1" namedRelay {} alike).mpr ⟨⟨rfl, fun _ => ?_⟩, rfl, fun _ => ?_⟩⟩
  · exact ⟨nofun, nofun, fun _ is_active other => absurd (Option.some.inj is_active).symm other⟩
  · exact ⟨nofun, nofun, nofun⟩

/-- The lineage of a deleted session stays, and so its heir has it; a deletion of the active session
takes the requests of the others along. -/
theorem lineage_outlives_session :
    (AgreeBut "s1" forkedRelay {} ∧ ¬ LeavesNothing bareReading false "s1" forkedRelay {}) ∧
      (AgreeBut "s1" waitingRelay waitingRelay ∧ ¬ LeavesNothing bareReading true "s1" waitingRelay waitingRelay) := by
  refine ⟨⟨⟨fun table session other => ?_, rfl⟩, fun nothing => ?_⟩, ⟨fun _ _ _ => rfl, rfl⟩, fun nothing => ?_⟩
  · cases table with
    | forkedFrom => exact Table.get_put_ne _ _ other
    | _ => rfl
  · have heir : some "s0" = none := nothing.agree .forkedFrom "s1"
    cases heir
  · have kept := congrFun (nothing.first.others .pendingApprovals "s2" (by decide)) "r1"
    cases kept

end Runs

end RelayState

end Sealwire.Sessions

import Sealwire.Core.State

namespace Sealwire.Core

def EntityTable.name : EntityTable → String
  | relaySetting => "relay_setting"
  | sessionSettings => "session_settings"
  | sessionFork => "session_fork"
  | sessionBinding => "session_binding"
  | sessionWorkspace => "session_workspace"
  | sessionTurnBaseSha => "session_turn_base_sha"
  | sessionTurnBaseCwd => "session_turn_base_cwd"
  | sessionLastActivity => "session_last_activity"
  | sessionProject => "session_project"
  | sessionCustomName => "session_custom_name"
  | sessionFlagged => "session_flagged"
  | deviceRecord => "device_record"
  | pairedDevice => "paired_device"
  | pushSubscription => "push_subscription"
  | apnsToken => "apns_token"
  | reviewerThread => "reviewer_thread"
  | project => "project"
  | jobReview => "job_review"
  | jobAsk => "job_ask"
  | jobHandover => "job_handover"
  | jobGoal => "job_goal"
  | jobWorkflow => "job_workflow"
  | jobTeamRun => "job_team_run"
  | orchestratorProposal => "orchestrator_proposal"

/-- How a JSON value becomes the text of a row, and how that text is read. -/
structure JsonText where
  print : Json → String
  parse : String → Except String Json

/-- The rows of one table before they are put: a key and the value its body is printed from. -/
abbrev Section := EntityTable × List (String × Except String Json)

/-- One row for each entry of a map. -/
def mapRows {α : Type} (codec : Codec α) (map : Table String α) : List (String × Except String Json) :=
  map.pairs.map fun entry => (entry.1, codec.toValue entry.2)

/-- The body of a paired device's row: its value without the secret. -/
def deviceBody (device : PairedDevice) : Except String Json :=
  (PairedDevice.codec.toValue device).map fun
    | .object fields => .object (fields.filter fun field => field.1 ≠ payloadSecretField)
    | other => other

variable {E : Entities}

def proposalBody (position : Nat) (card : E.Entity .orchestratorProposalView) : Except String Json :=
  ((E.codec .orchestratorProposalView).toValue card).map fun value =>
    .object [("card", value), ("position", .number (.posInt (UInt64.ofNat position)))]

namespace PersistedRelayState

def settings (state : PersistedRelayState E) : List (String × Except String Json) :=
  [("active_thread_id", Codec.string.option.toValue state.activeThreadId),
    ("current_cwd", Codec.string.toValue state.currentCwd),
    ("model", Codec.string.toValue state.model),
    ("approval_policy", Codec.string.toValue state.approvalPolicy),
    ("sandbox", Codec.string.toValue state.sandbox),
    ("reasoning_effort", Codec.string.toValue state.reasoningEffort),
    ("provider_name", Codec.string.toValue state.providerName),
    ("allowed_roots", Codec.string.list.toValue state.allowedRoots),
    ("usage_daily_cap", Codec.u64.option.toValue state.usageDailyCap),
    ("usage_budget_policy", Codec.string.toValue state.usageBudgetPolicy),
    ("trusted_workspaces", Codec.string.list.toValue state.trustedWorkspaces),
    ("allowed_roots_trust_migrated", Codec.bool.toValue state.allowedRootsTrustMigrated),
    ("orchestrator_thread_id", Codec.string.option.toValue state.orchestratorThreadId),
    ("orchestrator_device_id", Codec.string.option.toValue state.orchestratorDeviceId),
    ("orchestrator_system_prompt", Codec.string.option.toValue state.orchestratorSystemPrompt),
    ("orchestrator_system_prompt_version", Codec.u32.option.toValue state.orchestratorSystemPromptVersion),
    ("projects_revision", Codec.u64.toValue state.projectsRevision)]

/-- The rows of every table, table after table in the order they are put. -/
def sections (state : PersistedRelayState E) : List Section :=
  [(settingsTable, state.settings),
    (.sessionSettings, mapRows (E.codec .threadSessionSettings) state.threadSettings),
    (.sessionFork, mapRows .string state.threadForkedFrom),
    (.sessionBinding, mapRows (E.codec .sessionBinding) state.sessionBindings),
    (.sessionWorkspace, mapRows (E.codec .threadWorkspace) state.threadWorkspace),
    (.sessionTurnBaseSha, mapRows .string state.threadLastTurnBaseSha),
    (.sessionTurnBaseCwd, mapRows .string state.threadLastTurnBaseCwd),
    (.sessionLastActivity, mapRows .u64 state.threadLastActivityAt),
    (.sessionProject, mapRows .string state.threadProjectId),
    (.sessionCustomName, mapRows .string state.threadCustomName),
    (.sessionFlagged, state.threadFlagged.pairs.map fun entry => (entry.1, Codec.bool.toValue true)),
    (.deviceRecord, mapRows (E.codec .deviceRecord) state.deviceRecords),
    (.pairedDevice, state.pairedDevices.pairs.map fun entry => (entry.1, deviceBody entry.2)),
    (.apnsToken, mapRows (E.codec .apnsToken) state.apnsTokens),
    (.pushSubscription, mapRows (E.codec .pushSubscription).list state.pushSubscriptions),
    (.reviewerThread, mapRows (E.codec .reviewerThread) state.reviewerThreads),
    (.project, mapRows (E.codec .projectView) state.projects),
    (.jobReview, mapRows (E.codec .reviewJob) state.reviewJobs),
    (.jobAsk, mapRows (E.codec .ask) state.asks),
    (.jobHandover, mapRows (E.codec .handover) state.handovers),
    (.jobGoal, mapRows (E.codec .goal) state.goals),
    (.jobWorkflow, mapRows (E.codec .workflowRun) state.workflowJobs),
    (.jobTeamRun, mapRows (E.codec .teamRun) state.teamRuns),
    (.orchestratorProposal, state.orchestratorProposals.zipIdx.map fun entry =>
      (E.proposalId entry.1, proposalBody entry.2 entry.1))]

end PersistedRelayState

/-- Put one row, its body printed from its value. -/
def putRow (text : JsonText) (table : EntityTable) (rows : Table (EntityTable × String) String)
    (row : String × Except String Json) : Except String (Table (EntityTable × String) String) :=
  match row.2 with
  | .ok value => .ok (rows.put (table, row.1) (text.print value))
  | .error error => .error ("encode " ++ table.name ++ " row " ++ row.1 ++ ": " ++ error)

def putSection (text : JsonText) (rows : Table (EntityTable × String) String) (part : Section) :
    Except String (Table (EntityTable × String) String) :=
  part.2.foldlM (putRow text part.1) rows

def rowsOf (text : JsonText) (state : PersistedRelayState E) : Except String CoreRows := do
  let entities ← state.sections.foldlM (putSection text) ∅
  .ok { entities := entities
        deviceSecrets := .ofPairs (state.pairedDevices.pairs.map fun entry => (entry.1, entry.2.payloadSecret)) }

namespace CoreRows

/-- The rows of one table, in the order of their keys. -/
def tableRows (rows : CoreRows) (table : EntityTable) : List (String × String) :=
  (rows.entities.pairs.filterMap fun row => if row.1.1 = table then some (row.1.2, row.2) else none).mergeSort
    fun a b => a.1 ≤ b.1

def setting {α : Type} (rows : CoreRows) (text : JsonText) (codec : Codec α) (absent : α) (key : String) :
    Except String α :=
  match rows.entities.get (settingsTable, key) with
  | some body => (text.parse body >>= codec.ofValue).mapError fun error => "decode setting " ++ key ++ ": " ++ error
  | none => .ok absent

/-- The value of a row's body. -/
def decodeRow {α : Type} (text : JsonText) (table : EntityTable) (read : Json → Except String α)
    (row : String × String) : Except String (String × α) :=
  match text.parse row.2 >>= read with
  | .ok value => .ok (row.1, value)
  | .error error => .error ("decode " ++ table.name ++ " row " ++ row.1 ++ ": " ++ error)

def map {α : Type} (rows : CoreRows) (text : JsonText) (codec : Codec α) (table : EntityTable) :
    Except String (Table String α) :=
  ((rows.tableRows table).mapM (decodeRow text table codec.ofValue)).map Table.ofPairs

end CoreRows

/-- The value of a paired device with its secret put back. -/
def withSecret (secret : String) : Json → Json
  | .object fields => .object (fields.filter (fun field => field.1 ≠ payloadSecretField) ++
      [(payloadSecretField, .string secret)])
  | other => other

def loadDevice (text : JsonText) (rows : CoreRows) (row : String × String) : Except String (String × PairedDevice) :=
  match text.parse row.2 with
  | .error error => .error ("decode paired_device row " ++ row.1 ++ ": " ++ error)
  | .ok value =>
    match rows.deviceSecrets.get row.1 with
    | none => .error ("paired device " ++ row.1 ++ " has no payload secret")
    | some secret =>
      match PairedDevice.codec.ofValue (withSecret secret value) with
      | .error error => .error ("decode paired_device row " ++ row.1 ++ ": " ++ error)
      | .ok device => .ok (row.1, device)

/-- The body of a proposal's row: its position in the list, and the card. -/
def positionedOfValue : Json → Except String (UInt64 × E.Entity .orchestratorProposalView)
  | .object fields => do
    .ok (← requiredField fields "position" .u64, ← requiredField fields "card" (E.codec .orchestratorProposalView))
  | _ => .error "invalid type: expected struct Positioned"

def persistedStateVersion : UInt32 := 2

/-- The cards of the rows, in the order of their positions. -/
def loadProposals (text : JsonText) (rows : CoreRows) : Except String (List (E.Entity .orchestratorProposalView)) := do
  let proposals ← (rows.tableRows .orchestratorProposal).mapM
    (CoreRows.decodeRow text .orchestratorProposal positionedOfValue)
  .ok (((proposals.map Prod.snd).mergeSort fun a b => a.1 ≤ b.1).map Prod.snd)

/-- `none` when nothing has been committed yet. -/
def stateFromRows (text : JsonText) (rows : CoreRows) (transcriptClock : UInt64) :
    Except String (Option (PersistedRelayState E)) := do
  if rows.tableRows settingsTable = [] then .ok none
  else
    let pairedDevices ← ((rows.tableRows .pairedDevice).mapM (loadDevice text rows)).map Table.ofPairs
    let proposals ← loadProposals text rows
    let threadFlagged := Table.ofPairs ((rows.tableRows .sessionFlagged).map fun row => (row.1, ()))
    let activeThreadId ← rows.setting text Codec.string.option none "active_thread_id"
    let currentCwd ← rows.setting text .string "" "current_cwd"
    let model ← rows.setting text .string "" "model"
    let approvalPolicy ← rows.setting text .string "" "approval_policy"
    let sandbox ← rows.setting text .string "" "sandbox"
    let reasoningEffort ← rows.setting text .string "" "reasoning_effort"
    let providerName ← rows.setting text .string "" "provider_name"
    let threadSettings ← rows.map text (E.codec .threadSessionSettings) .sessionSettings
    let threadForkedFrom ← rows.map text .string .sessionFork
    let sessionBindings ← rows.map text (E.codec .sessionBinding) .sessionBinding
    let threadWorkspace ← rows.map text (E.codec .threadWorkspace) .sessionWorkspace
    let threadLastTurnBaseSha ← rows.map text .string .sessionTurnBaseSha
    let threadLastTurnBaseCwd ← rows.map text .string .sessionTurnBaseCwd
    let threadLastActivityAt ← rows.map text .u64 .sessionLastActivity
    let allowedRoots ← rows.setting text Codec.string.list [] "allowed_roots"
    let usageDailyCap ← rows.setting text Codec.u64.option none "usage_daily_cap"
    let usageBudgetPolicy ← rows.setting text .string "" "usage_budget_policy"
    let trustedWorkspaces ← rows.setting text Codec.string.list [] "trusted_workspaces"
    let allowedRootsTrustMigrated ← rows.setting text .bool false "allowed_roots_trust_migrated"
    let deviceRecords ← rows.map text (E.codec .deviceRecord) .deviceRecord
    let reviewerThreads ← rows.map text (E.codec .reviewerThread) .reviewerThread
    let reviewJobs ← rows.map text (E.codec .reviewJob) .jobReview
    let asks ← rows.map text (E.codec .ask) .jobAsk
    let handovers ← rows.map text (E.codec .handover) .jobHandover
    let goals ← rows.map text (E.codec .goal) .jobGoal
    let workflowJobs ← rows.map text (E.codec .workflowRun) .jobWorkflow
    let teamRuns ← rows.map text (E.codec .teamRun) .jobTeamRun
    let orchestratorThreadId ← rows.setting text Codec.string.option none "orchestrator_thread_id"
    let orchestratorDeviceId ← rows.setting text Codec.string.option none "orchestrator_device_id"
    let orchestratorSystemPrompt ← rows.setting text Codec.string.option none "orchestrator_system_prompt"
    let orchestratorSystemPromptVersion ←
      rows.setting text Codec.u32.option none "orchestrator_system_prompt_version"
    let pushSubscriptions ← rows.map text (E.codec .pushSubscription).list .pushSubscription
    let apnsTokens ← rows.map text (E.codec .apnsToken) .apnsToken
    let projects ← rows.map text (E.codec .projectView) .project
    let threadProjectId ← rows.map text .string .sessionProject
    let threadCustomName ← rows.map text .string .sessionCustomName
    let projectsRevision ← rows.setting text .u64 0 "projects_revision"
    if proposalsFit : proposals.length ≤ maxVecLen then
      .ok (some
        { schemaVersion := persistedStateVersion
          activeThreadId := activeThreadId
          activeControllerDeviceId := none
          activeControllerLastSeenAt := none
          currentStatus := "idle"
          activeFlags := []
          currentCwd := currentCwd
          model := model
          approvalPolicy := approvalPolicy
          sandbox := sandbox
          reasoningEffort := reasoningEffort
          providerName := providerName
          threadSettings := threadSettings
          threadForkedFrom := threadForkedFrom
          sessionBindings := sessionBindings
          threadWorkspace := threadWorkspace
          threadLastTurnBaseSha := threadLastTurnBaseSha
          threadLastTurnBaseCwd := threadLastTurnBaseCwd
          threadLastActivityAt := threadLastActivityAt
          allowedRoots := allowedRoots
          usageDailyCap := usageDailyCap
          usageBudgetPolicy := usageBudgetPolicy
          trustedWorkspaces := trustedWorkspaces
          allowedRootsTrustMigrated := allowedRootsTrustMigrated
          deviceRecords := deviceRecords
          pairedDevices := pairedDevices
          reviewerThreads := reviewerThreads
          reviewJobs := reviewJobs
          asks := asks
          handovers := handovers
          goals := goals
          workflowJobs := workflowJobs
          teamRuns := teamRuns
          orchestratorThreadId := orchestratorThreadId
          orchestratorDeviceId := orchestratorDeviceId
          orchestratorSystemPrompt := orchestratorSystemPrompt
          orchestratorSystemPromptVersion := orchestratorSystemPromptVersion
          orchestratorProposals := proposals
          proposalsFit := proposalsFit
          pushSubscriptions := pushSubscriptions
          apnsTokens := apnsTokens
          projects := projects
          threadProjectId := threadProjectId
          threadCustomName := threadCustomName
          threadFlagged := threadFlagged
          projectsRevision := projectsRevision
          transcriptClock := transcriptClock })
    else .error "capacity overflow"

/-- Entities that hold nothing, each written as `null`. -/
def unitEntities : Entities where
  Entity := fun _ => Unit
  codec := fun _ =>
    { toValue := fun _ => .ok .null
      ofValue := fun
        | .null => .ok ()
        | _ => .error "invalid type: expected unit" }
  proposalId := fun _ => "p-1"

mutual

/-- The compact text of a value whose texts need no escape and whose numbers are words. -/
def compact : Json → String
  | .null => "null"
  | .bool value => if value then "true" else "false"
  | .number (.posInt n) => toString n.toNat
  | .number _ => "0"
  | .string text => "\"" ++ text ++ "\""
  | .array items => "[" ++ ",".intercalate (compactItems items) ++ "]"
  | .object fields => "\x7b" ++ ",".intercalate (compactFields fields) ++ "\x7d"

def compactItems : List Json → List String
  | [] => []
  | item :: rest => compact item :: compactItems rest

def compactFields : List (String × Json) → List String
  | [] => []
  | (name, value) :: rest => ("\"" ++ name ++ "\":" ++ compact value) :: compactFields rest

end

/-- Compact texts, read back among the values that were written. -/
def compactText (written : List Json) : JsonText where
  print := compact
  parse := fun text =>
    match written.find? fun value => compact value = text with
    | some value => .ok value
    | none => .error "expected value"

/-- A state with a working directory and nothing else. -/
def blank (cwd : String) : PersistedRelayState unitEntities where
  schemaVersion := persistedStateVersion
  activeThreadId := none
  activeControllerDeviceId := none
  activeControllerLastSeenAt := none
  currentStatus := "idle"
  activeFlags := []
  currentCwd := cwd
  model := ""
  approvalPolicy := ""
  sandbox := ""
  reasoningEffort := ""
  providerName := ""
  threadSettings := ∅
  threadForkedFrom := ∅
  sessionBindings := ∅
  threadWorkspace := ∅
  threadLastTurnBaseSha := ∅
  threadLastTurnBaseCwd := ∅
  threadLastActivityAt := ∅
  allowedRoots := []
  usageDailyCap := none
  usageBudgetPolicy := ""
  trustedWorkspaces := []
  allowedRootsTrustMigrated := false
  deviceRecords := ∅
  pairedDevices := ∅
  reviewerThreads := ∅
  reviewJobs := ∅
  asks := ∅
  handovers := ∅
  goals := ∅
  workflowJobs := ∅
  teamRuns := ∅
  orchestratorThreadId := none
  orchestratorDeviceId := none
  orchestratorSystemPrompt := none
  orchestratorSystemPromptVersion := none
  orchestratorProposals := []
  proposalsFit := Nat.zero_le _
  pushSubscriptions := ∅
  apnsTokens := ∅
  projects := ∅
  threadProjectId := ∅
  threadCustomName := ∅
  threadFlagged := ∅
  projectsRevision := 0
  transcriptClock := 0

def phone : PairedDevice where
  deviceId := "phone"
  label := "Phone"
  payloadSecret := "k"
  deviceVerifyKey := ""
  createdAt := 1
  lastSeenAt := none
  lastPeerId := none
  brokerJoinTicketExpiresAt := none
  pathScope := []
  pairingBroker := none

end Sealwire.Core

import Sealwire.Core.StateRows

namespace Sealwire.Core

variable {E : Entities}

/-- Equality of two states in every durable field. Maps are compared as maps. -/
structure SameDurable (s t : PersistedRelayState E) : Prop where
  activeThreadId : s.activeThreadId = t.activeThreadId
  currentCwd : s.currentCwd = t.currentCwd
  model : s.model = t.model
  approvalPolicy : s.approvalPolicy = t.approvalPolicy
  sandbox : s.sandbox = t.sandbox
  reasoningEffort : s.reasoningEffort = t.reasoningEffort
  providerName : s.providerName = t.providerName
  threadSettings : s.threadSettings.Same t.threadSettings
  threadForkedFrom : s.threadForkedFrom.Same t.threadForkedFrom
  sessionBindings : s.sessionBindings.Same t.sessionBindings
  threadWorkspace : s.threadWorkspace.Same t.threadWorkspace
  threadLastTurnBaseSha : s.threadLastTurnBaseSha.Same t.threadLastTurnBaseSha
  threadLastTurnBaseCwd : s.threadLastTurnBaseCwd.Same t.threadLastTurnBaseCwd
  threadLastActivityAt : s.threadLastActivityAt.Same t.threadLastActivityAt
  allowedRoots : s.allowedRoots = t.allowedRoots
  usageDailyCap : s.usageDailyCap = t.usageDailyCap
  usageBudgetPolicy : s.usageBudgetPolicy = t.usageBudgetPolicy
  trustedWorkspaces : s.trustedWorkspaces = t.trustedWorkspaces
  allowedRootsTrustMigrated : s.allowedRootsTrustMigrated = t.allowedRootsTrustMigrated
  deviceRecords : s.deviceRecords.Same t.deviceRecords
  pairedDevices : s.pairedDevices.Same t.pairedDevices
  reviewerThreads : s.reviewerThreads.Same t.reviewerThreads
  reviewJobs : s.reviewJobs.Same t.reviewJobs
  asks : s.asks.Same t.asks
  handovers : s.handovers.Same t.handovers
  goals : s.goals.Same t.goals
  workflowJobs : s.workflowJobs.Same t.workflowJobs
  teamRuns : s.teamRuns.Same t.teamRuns
  orchestratorThreadId : s.orchestratorThreadId = t.orchestratorThreadId
  orchestratorDeviceId : s.orchestratorDeviceId = t.orchestratorDeviceId
  orchestratorSystemPrompt : s.orchestratorSystemPrompt = t.orchestratorSystemPrompt
  orchestratorSystemPromptVersion : s.orchestratorSystemPromptVersion = t.orchestratorSystemPromptVersion
  orchestratorProposals : s.orchestratorProposals = t.orchestratorProposals
  pushSubscriptions : s.pushSubscriptions.Same t.pushSubscriptions
  apnsTokens : s.apnsTokens.Same t.apnsTokens
  projects : s.projects.Same t.projects
  threadProjectId : s.threadProjectId.Same t.threadProjectId
  threadCustomName : s.threadCustomName.Same t.threadCustomName
  threadFlagged : s.threadFlagged.Same t.threadFlagged
  projectsRevision : s.projectsRevision = t.projectsRevision
  transcriptClock : s.transcriptClock = t.transcriptClock

/-- The fields of a loaded state that are not durable. -/
structure Fresh (t : PersistedRelayState E) : Prop where
  schemaVersion : t.schemaVersion = persistedStateVersion
  activeControllerDeviceId : t.activeControllerDeviceId = none
  activeControllerLastSeenAt : t.activeControllerLastSeenAt = none
  currentStatus : t.currentStatus = "idle"
  activeFlags : t.activeFlags = []

/-- Pairs that hold the entries of a map, in any order, collect to that map. -/
theorem ofPairs_same {K V : Type} [DecidableEq K] {pairs : List (K × V)} {map : Table K V}
    (same : pairs.Perm map.pairs) : (Table.ofPairs pairs).Same map := by
  have keys : (pairs.map Prod.fst).Nodup := (same.map Prod.fst).nodup_iff.mpr map.pairs_nodup
  intro key
  apply Option.ext
  intro value
  rw [Table.get_ofPairs_iff keys, same.mem_iff, Table.mem_pairs_iff]

theorem decodeRow_eq_ok {α : Type} {text : JsonText} {table : EntityTable} {read : Json → Except String α}
    (row : String × Except String Json) {value : Json} {result : α} (encoded : row.2 = .ok value)
    (parses : text.parse (text.print value) = .ok value) (reads : read value = .ok result) :
    CoreRows.decodeRow text table read (printed text row) = .ok (row.1, result) := by
  simp [CoreRows.decodeRow, printed, valueOf, encoded, parses, reads, bind, Except.bind]

section Load

variable {text : JsonText} {state : PersistedRelayState E} {rows : CoreRows}

theorem Faithful.map (faithful : Faithful text state) (held : RowsOf text state rows) {α : Type} {codec : Codec α}
    (trips : codec.RoundTrips) (table : EntityTable) (map : Table String α)
    (member : (table, mapRows codec map) ∈ state.sections) :
    ∃ loaded, rows.map text codec table = .ok loaded ∧ map.Same loaded := by
  have each : List.Forall₂ (fun row entry => CoreRows.decodeRow text table codec.ofValue row = .ok entry)
      ((mapRows codec map).map (printed text)) map.pairs := by
    rw [mapRows, List.map_map, List.forall₂_map_left_iff, List.forall₂_same]
    intro entry inside
    obtain ⟨value, written, read⟩ := trips entry.2
    have parses := faithful.texts _ member (entry.1, codec.toValue entry.2)
      (List.mem_map.mpr ⟨entry, inside, rfl⟩) value written
    exact decodeRow_eq_ok (entry.1, codec.toValue entry.2) written parses read
  obtain ⟨pairs, read, same⟩ := mapM_perm (faithful.tableRows held member) each
  exact ⟨Table.ofPairs pairs, by simp [CoreRows.map, read, Except.map], (ofPairs_same same).symm⟩

theorem Faithful.setting (faithful : Faithful text state) (held : RowsOf text state rows) {α : Type}
    {codec : Codec α} (trips : codec.RoundTrips) (absent : α) {key : String} {value : α}
    (member : (key, codec.toValue value) ∈ state.settings) : rows.setting text codec absent key = .ok value := by
  have listed : (settingsTable, state.settings) ∈ state.sections := List.mem_cons_self
  obtain ⟨json, written, read⟩ := trips value
  have parses := faithful.texts _ listed _ member json written
  have body : rows.entities.get (settingsTable, key) = some (text.print json) :=
    held.entities.mpr ⟨_, listed, rfl, List.mem_map.mpr ⟨_, member, by simp [printed, valueOf, written]⟩⟩
  simp [CoreRows.setting, body, parses, read, bind, Except.bind, Except.mapError]

theorem Faithful.flagged (faithful : Faithful text state) (held : RowsOf text state rows) :
    state.threadFlagged.Same (.ofPairs ((rows.tableRows .sessionFlagged).map fun row => (row.1, ()))) := by
  have member : (.sessionFlagged, state.threadFlagged.pairs.map fun entry => (entry.1, Codec.bool.toValue true)) ∈
      state.sections := by
    simp [PersistedRelayState.sections]
  have same := (faithful.tableRows held member).map fun row => (row.1, ())
  rw [List.map_map, List.map_map] at same
  exact (ofPairs_same (same.trans (by simp [Function.comp_def, printed]))).symm

theorem Faithful.devices (faithful : Faithful text state) (held : RowsOf text state rows) :
    ∃ pairs, (rows.tableRows .pairedDevice).mapM (loadDevice text rows) = .ok pairs ∧
      state.pairedDevices.Same (.ofPairs pairs) := by
  have member : (.pairedDevice, state.pairedDevices.pairs.map fun entry => (entry.1, deviceBody entry.2)) ∈
      state.sections := by
    simp [PersistedRelayState.sections]
  have each : List.Forall₂ (fun row entry => loadDevice text rows row = .ok entry)
      ((state.pairedDevices.pairs.map fun entry => (entry.1, deviceBody entry.2)).map (printed text))
      state.pairedDevices.pairs := by
    rw [List.map_map, List.forall₂_map_left_iff, List.forall₂_same]
    intro entry inside
    obtain ⟨fields, written, _, read⟩ := deviceBody_roundTrips entry.2
    have parses := faithful.texts _ member (entry.1, deviceBody entry.2)
      (List.mem_map.mpr ⟨entry, inside, rfl⟩) _ written
    have secret : rows.deviceSecrets.get entry.1 = some entry.2.payloadSecret := by
      rw [held.secrets, Table.mem_pairs_iff.mp inside]
      rfl
    simp [loadDevice, printed, valueOf, written, parses, secret, read]
  obtain ⟨pairs, read, same⟩ := mapM_perm (faithful.tableRows held member) each
  exact ⟨pairs, read, (ofPairs_same same).symm⟩

theorem toNat_position {n : Nat} (fits : n < maxVecLen) : (UInt64.ofNat n).toNat = n :=
  UInt64.toNat_ofNat_of_lt' (fits.trans (by decide))

/-- The positions of a list that fits are distinct as words. -/
theorem position_inj {n m : Nat} (first : n < maxVecLen) (second : m < maxVecLen)
    (same : UInt64.ofNat n = UInt64.ofNat m) : n = m := by
  have equal := congrArg UInt64.toNat same
  rwa [toNat_position first, toNat_position second] at equal

theorem position_le {n m : Nat} (fits : m < maxVecLen) (before : n ≤ m) : UInt64.ofNat n ≤ UInt64.ofNat m := by
  rw [UInt64.le_iff_toNat_le, toNat_position (before.trans_lt fits), toNat_position fits]
  exact before

/-- The cards with the words their positions are written as. -/
def positions (state : PersistedRelayState E) : List (UInt64 × E.Entity .orchestratorProposalView) :=
  state.orchestratorProposals.zipIdx.map fun entry => (UInt64.ofNat entry.2, entry.1)

theorem positions_sorted (state : PersistedRelayState E) : (positions state).Pairwise fun a b => a.1 ≤ b.1 := by
  rw [positions, List.pairwise_map]
  have indices : state.orchestratorProposals.zipIdx.Pairwise fun a b => a.2 < b.2 := by
    rw [← List.pairwise_map (f := Prod.snd), List.zipIdx_map_snd]
    exact List.pairwise_lt_range'
  refine indices.imp_of_mem fun _ inside before => position_le ?_ before.le
  exact (List.snd_lt_of_mem_zipIdx inside).trans_le (by simpa using state.proposalsFit)

theorem positions_inj (state : PersistedRelayState E) {a b : UInt64 × E.Entity .orchestratorProposalView}
    (first : a ∈ positions state) (second : b ∈ positions state) (same : a.1 = b.1) : a = b := by
  obtain ⟨⟨card, n⟩, inA, rfl⟩ := List.mem_map.mp first
  obtain ⟨⟨other, m⟩, inB, rfl⟩ := List.mem_map.mp second
  have fits {card : E.Entity .orchestratorProposalView} {n : Nat}
      (inside : (card, n) ∈ state.orchestratorProposals.zipIdx) : n < maxVecLen :=
    (List.snd_lt_of_mem_zipIdx inside).trans_le (by simpa using state.proposalsFit)
  have equal := position_inj (fits inA) (fits inB) same
  subst equal
  rw [List.mem_zipIdx_iff_getElem?] at inA inB
  rw [Option.some.inj (inA.symm.trans inB)]

theorem Faithful.proposals (faithful : Faithful text state) (held : RowsOf text state rows) :
    loadProposals text rows = .ok state.orchestratorProposals := by
  have member : (.orchestratorProposal, state.orchestratorProposals.zipIdx.map fun entry =>
      (E.proposalId entry.1, proposalBody entry.2 entry.1)) ∈ state.sections := by
    simp [PersistedRelayState.sections]
  have each : List.Forall₂
      (fun row entry => CoreRows.decodeRow text .orchestratorProposal (positionedOfValue (E := E)) row = .ok entry)
      ((state.orchestratorProposals.zipIdx.map fun entry =>
        (E.proposalId entry.1, proposalBody entry.2 entry.1)).map (printed text))
      (state.orchestratorProposals.zipIdx.map fun entry =>
        (E.proposalId entry.1, (UInt64.ofNat entry.2, entry.1))) := by
    rw [List.map_map, List.forall₂_map_left_iff, List.forall₂_map_right_iff, List.forall₂_same]
    intro entry inside
    obtain ⟨card, written, read⟩ := faithful.entities .orchestratorProposalView entry.1
    have encoded : proposalBody entry.2 entry.1 =
        .ok (.object [("card", card), ("position", .number (.posInt (UInt64.ofNat entry.2)))]) := by
      simp [proposalBody, written, Except.map]
    have parses := faithful.texts _ member (E.proposalId entry.1, proposalBody entry.2 entry.1)
      (List.mem_map.mpr ⟨entry, inside, rfl⟩) _ encoded
    refine decodeRow_eq_ok (E.proposalId entry.1, proposalBody entry.2 entry.1) encoded parses ?_
    simp [positionedOfValue, requiredField, List.lookup_cons, Codec.u64, read, bind, Except.bind]
  obtain ⟨loaded, read, same⟩ := mapM_perm (faithful.tableRows held member) each
  have cards : (loaded.map Prod.snd).Perm (positions state) := by
    have second := same.map Prod.snd
    rwa [List.map_map] at second
  have sorted : (loaded.map Prod.snd).mergeSort (fun a b => a.1 ≤ b.1) = positions state := by
    have perm := (List.mergeSort_perm (loaded.map Prod.snd) fun a b => a.1 ≤ b.1).trans cards
    refine List.Perm.eq_of_pairwise ?_ ?_ (positions_sorted state) perm
    · intro a b first second ab ba
      exact positions_inj state (perm.mem_iff.mp first) second (UInt64.le_antisymm ab ba)
    · refine (List.pairwise_mergeSort ?_ ?_ _).imp fun le => of_decide_eq_true le
      · intro a b c ab bc
        exact decide_eq_true (UInt64.le_trans (of_decide_eq_true ab) (of_decide_eq_true bc))
      · intro a b
        rcases UInt64.le_total a.1 b.1 with le | le <;> simp [le]
  simp only [loadProposals, read, bind, Except.bind, sorted]
  simp [positions, Function.comp_def, List.zipIdx_map_fst]

theorem Faithful.saved (faithful : Faithful text state) (held : RowsOf text state rows) :
    rows.tableRows settingsTable ≠ [] := by
  have listed : (settingsTable, state.settings) ∈ state.sections := List.mem_cons_self
  intro none_saved
  have same := faithful.tableRows held listed
  rw [none_saved] at same
  exact absurd same.symm.eq_nil (by simp [PersistedRelayState.settings])

theorem Faithful.load (faithful : Faithful text state) (held : RowsOf text state rows) :
    ∃ loaded, stateFromRows text rows state.transcriptClock = .ok (some loaded) ∧ SameDurable state loaded ∧
      Fresh loaded := by
  have trips := faithful.entities
  have string := Codec.string_roundTrips
  have strings := Codec.list_roundTrips string
  have optional := Codec.option_roundTrips string Codec.string_neverNull
  have word := Codec.u64_roundTrips
  have optional_word := Codec.option_roundTrips word Codec.u64_neverNull
  have version := Codec.option_roundTrips Codec.u32_roundTrips Codec.u32_neverNull
  have setting {α : Type} {codec : Codec α} (trips : codec.RoundTrips) (absent : α) (key : String) (value : α)
      (member : (key, codec.toValue value) ∈ state.settings) := faithful.setting held trips absent member
  have activeThreadId := setting optional none "active_thread_id" state.activeThreadId
    (by simp [PersistedRelayState.settings])
  have currentCwd := setting string "" "current_cwd" state.currentCwd (by simp [PersistedRelayState.settings])
  have model := setting string "" "model" state.model (by simp [PersistedRelayState.settings])
  have approvalPolicy := setting string "" "approval_policy" state.approvalPolicy
    (by simp [PersistedRelayState.settings])
  have sandbox := setting string "" "sandbox" state.sandbox (by simp [PersistedRelayState.settings])
  have reasoningEffort := setting string "" "reasoning_effort" state.reasoningEffort
    (by simp [PersistedRelayState.settings])
  have providerName := setting string "" "provider_name" state.providerName (by simp [PersistedRelayState.settings])
  have allowedRoots := setting strings [] "allowed_roots" state.allowedRoots (by simp [PersistedRelayState.settings])
  have usageDailyCap := setting optional_word none "usage_daily_cap" state.usageDailyCap
    (by simp [PersistedRelayState.settings])
  have usageBudgetPolicy := setting string "" "usage_budget_policy" state.usageBudgetPolicy
    (by simp [PersistedRelayState.settings])
  have trustedWorkspaces := setting strings [] "trusted_workspaces" state.trustedWorkspaces
    (by simp [PersistedRelayState.settings])
  have allowedRootsTrustMigrated := setting Codec.bool_roundTrips false "allowed_roots_trust_migrated"
    state.allowedRootsTrustMigrated (by simp [PersistedRelayState.settings])
  have orchestratorThreadId := setting optional none "orchestrator_thread_id" state.orchestratorThreadId
    (by simp [PersistedRelayState.settings])
  have orchestratorDeviceId := setting optional none "orchestrator_device_id" state.orchestratorDeviceId
    (by simp [PersistedRelayState.settings])
  have orchestratorSystemPrompt := setting optional none "orchestrator_system_prompt" state.orchestratorSystemPrompt
    (by simp [PersistedRelayState.settings])
  have orchestratorSystemPromptVersion := setting version none "orchestrator_system_prompt_version"
    state.orchestratorSystemPromptVersion (by simp [PersistedRelayState.settings])
  have projectsRevision := setting word 0 "projects_revision" state.projectsRevision
    (by simp [PersistedRelayState.settings])
  obtain ⟨threadSettings, readThreadSettings, sameThreadSettings⟩ :=
    faithful.map held (trips .threadSessionSettings) .sessionSettings state.threadSettings
      (by simp [PersistedRelayState.sections])
  obtain ⟨threadForkedFrom, readThreadForkedFrom, sameThreadForkedFrom⟩ :=
    faithful.map held string .sessionFork state.threadForkedFrom (by simp [PersistedRelayState.sections])
  obtain ⟨sessionBindings, readSessionBindings, sameSessionBindings⟩ :=
    faithful.map held (trips .sessionBinding) .sessionBinding state.sessionBindings
      (by simp [PersistedRelayState.sections])
  obtain ⟨threadWorkspace, readThreadWorkspace, sameThreadWorkspace⟩ :=
    faithful.map held (trips .threadWorkspace) .sessionWorkspace state.threadWorkspace
      (by simp [PersistedRelayState.sections])
  obtain ⟨threadLastTurnBaseSha, readThreadLastTurnBaseSha, sameThreadLastTurnBaseSha⟩ :=
    faithful.map held string .sessionTurnBaseSha state.threadLastTurnBaseSha (by simp [PersistedRelayState.sections])
  obtain ⟨threadLastTurnBaseCwd, readThreadLastTurnBaseCwd, sameThreadLastTurnBaseCwd⟩ :=
    faithful.map held string .sessionTurnBaseCwd state.threadLastTurnBaseCwd (by simp [PersistedRelayState.sections])
  obtain ⟨threadLastActivityAt, readThreadLastActivityAt, sameThreadLastActivityAt⟩ :=
    faithful.map held word .sessionLastActivity state.threadLastActivityAt (by simp [PersistedRelayState.sections])
  obtain ⟨deviceRecords, readDeviceRecords, sameDeviceRecords⟩ :=
    faithful.map held (trips .deviceRecord) .deviceRecord state.deviceRecords (by simp [PersistedRelayState.sections])
  obtain ⟨reviewerThreads, readReviewerThreads, sameReviewerThreads⟩ :=
    faithful.map held (trips .reviewerThread) .reviewerThread state.reviewerThreads
      (by simp [PersistedRelayState.sections])
  obtain ⟨reviewJobs, readReviewJobs, sameReviewJobs⟩ :=
    faithful.map held (trips .reviewJob) .jobReview state.reviewJobs (by simp [PersistedRelayState.sections])
  obtain ⟨asks, readAsks, sameAsks⟩ :=
    faithful.map held (trips .ask) .jobAsk state.asks (by simp [PersistedRelayState.sections])
  obtain ⟨handovers, readHandovers, sameHandovers⟩ :=
    faithful.map held (trips .handover) .jobHandover state.handovers (by simp [PersistedRelayState.sections])
  obtain ⟨goals, readGoals, sameGoals⟩ :=
    faithful.map held (trips .goal) .jobGoal state.goals (by simp [PersistedRelayState.sections])
  obtain ⟨workflowJobs, readWorkflowJobs, sameWorkflowJobs⟩ :=
    faithful.map held (trips .workflowRun) .jobWorkflow state.workflowJobs (by simp [PersistedRelayState.sections])
  obtain ⟨teamRuns, readTeamRuns, sameTeamRuns⟩ :=
    faithful.map held (trips .teamRun) .jobTeamRun state.teamRuns (by simp [PersistedRelayState.sections])
  obtain ⟨pushSubscriptions, readPushSubscriptions, samePushSubscriptions⟩ :=
    faithful.map held (Codec.list_roundTrips (trips .pushSubscription)) .pushSubscription
      state.pushSubscriptions (by simp [PersistedRelayState.sections])
  obtain ⟨apnsTokens, readApnsTokens, sameApnsTokens⟩ :=
    faithful.map held (trips .apnsToken) .apnsToken state.apnsTokens (by simp [PersistedRelayState.sections])
  obtain ⟨projects, readProjects, sameProjects⟩ :=
    faithful.map held (trips .projectView) .project state.projects (by simp [PersistedRelayState.sections])
  obtain ⟨threadProjectId, readThreadProjectId, sameThreadProjectId⟩ :=
    faithful.map held string .sessionProject state.threadProjectId (by simp [PersistedRelayState.sections])
  obtain ⟨threadCustomName, readThreadCustomName, sameThreadCustomName⟩ :=
    faithful.map held string .sessionCustomName state.threadCustomName (by simp [PersistedRelayState.sections])
  obtain ⟨devices, readDevices, sameDevices⟩ := faithful.devices held
  let loaded : PersistedRelayState E :=
    { state with
      schemaVersion := persistedStateVersion
      activeControllerDeviceId := none
      activeControllerLastSeenAt := none
      currentStatus := "idle"
      activeFlags := []
      threadSettings := threadSettings
      threadForkedFrom := threadForkedFrom
      sessionBindings := sessionBindings
      threadWorkspace := threadWorkspace
      threadLastTurnBaseSha := threadLastTurnBaseSha
      threadLastTurnBaseCwd := threadLastTurnBaseCwd
      threadLastActivityAt := threadLastActivityAt
      deviceRecords := deviceRecords
      reviewerThreads := reviewerThreads
      reviewJobs := reviewJobs
      asks := asks
      handovers := handovers
      goals := goals
      workflowJobs := workflowJobs
      teamRuns := teamRuns
      pushSubscriptions := pushSubscriptions
      apnsTokens := apnsTokens
      projects := projects
      threadProjectId := threadProjectId
      threadCustomName := threadCustomName
      pairedDevices := .ofPairs devices
      threadFlagged := .ofPairs ((rows.tableRows .sessionFlagged).map fun row => (row.1, ())) }
  refine ⟨loaded, ?_, ⟨rfl, rfl, rfl, rfl, rfl, rfl, rfl, sameThreadSettings, sameThreadForkedFrom, sameSessionBindings,
    sameThreadWorkspace, sameThreadLastTurnBaseSha, sameThreadLastTurnBaseCwd, sameThreadLastActivityAt, rfl, rfl,
    rfl, rfl, rfl, sameDeviceRecords, sameDevices, sameReviewerThreads, sameReviewJobs, sameAsks, sameHandovers,
    sameGoals, sameWorkflowJobs, sameTeamRuns, rfl, rfl, rfl, rfl, rfl, samePushSubscriptions, sameApnsTokens,
    sameProjects, sameThreadProjectId, sameThreadCustomName, faithful.flagged held, rfl, rfl⟩, ⟨rfl, rfl, rfl, rfl, rfl⟩⟩
  simp only [stateFromRows, if_neg (faithful.saved held), faithful.proposals held, dif_pos state.proposalsFit,
    readDevices, bind, Except.bind, Except.map,
    activeThreadId, currentCwd, model, approvalPolicy, sandbox, reasoningEffort, providerName, allowedRoots,
    usageDailyCap, usageBudgetPolicy, trustedWorkspaces, allowedRootsTrustMigrated, orchestratorThreadId,
    orchestratorDeviceId, orchestratorSystemPrompt, orchestratorSystemPromptVersion, projectsRevision,
    readThreadSettings, readThreadForkedFrom, readSessionBindings, readThreadWorkspace, readThreadLastTurnBaseSha,
    readThreadLastTurnBaseCwd, readThreadLastActivityAt, readDeviceRecords, readReviewerThreads, readReviewJobs,
    readAsks, readHandovers, readGoals, readWorkflowJobs, readTeamRuns, readPushSubscriptions, readApnsTokens,
    readProjects, readThreadProjectId, readThreadCustomName]
  rfl

end Load

/-- Saving and loading loses nothing: the rows of a state read back as it in every durable field,
and writing the difference to them leaves the database holding exactly them, secrets included. -/
theorem save_load_loses_nothing {text : JsonText} {state : PersistedRelayState E} (faithful : Faithful text state) :
    ∃ rows, rowsOf text state = .ok rows ∧
      (∃ loaded, stateFromRows text rows state.transcriptClock = .ok (some loaded) ∧ SameDurable state loaded ∧
        Fresh loaded) ∧
      ∀ db before now, (readRows db).Same before → (readRows (writeDiff db before rows now).1).Same rows := by
  obtain ⟨rows, encoded, held⟩ := faithful.rowsOf
  exact ⟨rows, encoded, faithful.load held, fun db before now holds => readRows_writeDiff holds now⟩

/-- Values with distinct texts read back. -/
theorem compactText_reads {written : List Json} (distinct : (written.map compact).Nodup) {value : Json}
    (member : value ∈ written) : (compactText written).parse (compact value) = .ok value := by
  have found : written.find? (fun other => compact other = compact value) = some value := by
    cases search : written.find? fun other => compact other = compact value with
    | none => exact absurd rfl (of_decide_eq_false (Bool.eq_false_iff.mpr (List.find?_eq_none.mp search value member)))
    | some other =>
      have same : compact other = compact value := by simpa using List.find?_some search
      rw [List.inj_on_of_nodup_map distinct (List.mem_of_find?_eq_some search) member same]
  simp [compactText, found]

/-- A state with a paired phone and a proposal. -/
def paired : PersistedRelayState unitEntities :=
  { blank "/w" with
    pairedDevices := (∅ : Table String PairedDevice).put "phone" phone
    orchestratorProposals := [()]
    proposalsFit := by decide }

/-- The values the rows of that state are printed from. -/
def pairedValues : List Json :=
  [.null, .string "/w", .string "", .array [], .bool false, .number (.posInt 0),
    .object (phone.openFields []), .object [("card", .null), ("position", .number (.posInt 0))]]

theorem paired_written : ∀ part ∈ paired.sections, ∀ row ∈ part.2, ∃ value ∈ pairedValues, row.2 = .ok value := by
  have rows : (flatRows paired.sections).map Prod.snd =
      ([.null, .string "/w", .string "", .string "", .string "", .string "", .string "", .array [], .null, .string "",
        .array [], .bool false, .null, .null, .null, .null, .number (.posInt 0), .object (phone.openFields []),
        .object [("card", .null), ("position", .number (.posInt 0))]] : List Json).map .ok := rfl
  intro part member row inside
  have flat : row.2 ∈ (flatRows paired.sections).map Prod.snd :=
    List.mem_map.mpr ⟨((part.1, row.1), row.2),
      List.mem_flatMap.mpr ⟨part, member, List.mem_map.mpr ⟨row, inside, rfl⟩⟩, rfl⟩
  rw [rows] at flat
  obtain ⟨value, listed, written⟩ := List.mem_map.mp flat
  refine ⟨value, ?_, written.symm⟩
  simp only [List.mem_cons, List.not_mem_nil, or_false] at listed
  simp only [pairedValues, List.mem_cons, List.not_mem_nil, or_false]
  tauto

theorem paired_faithful : Faithful (compactText pairedValues) paired where
  entities := fun _ _ => ⟨.null, rfl, rfl⟩
  ids := List.nodup_singleton _
  texts := by
    intro part member row inside value encoded
    obtain ⟨known, listed, written⟩ := paired_written part member row inside
    cases written.symm.trans encoded
    exact compactText_reads (by decide +kernel) listed

theorem save_load_loses_nothing_paired :
    ∃ rows, ∃ loaded : PersistedRelayState unitEntities, rowsOf (compactText pairedValues) paired = .ok rows ∧
      stateFromRows (compactText pairedValues) rows 0 = .ok (some loaded) ∧
      loaded.pairedDevices.get "phone" = some phone := by
  obtain ⟨rows, encoded, ⟨loaded, read, same, _⟩, _⟩ := save_load_loses_nothing paired_faithful
  exact ⟨rows, loaded, encoded, read, (same.pairedDevices "phone").symm⟩

end Sealwire.Core

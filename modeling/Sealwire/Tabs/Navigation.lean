import Sealwire.Tabs.Settling

namespace Sealwire.Tabs

section Removing

variable {state : SessionViewState} {gone : Id → Prop} {target : Id}

/-- The workspaces without the thread. -/
def withoutThread (workspaces : Workspaces) (target : Id) : Workspaces :=
  workspaces.mapValues fun workspace =>
    let normalized := createTabWorkspace workspace
    match normalized.findTabByThread target with
    | some owning => closeTab normalized owning.id
    | none => normalized

theorem withoutThread_changes (loose : Loose gone state.workspaces) (target : Id) (key : String) :
    Changes none (fun tab => layoutHasThread tab.layout target = true) (state.workspaces.under key)
        ((withoutThread state.workspaces target).under key) ∧
      ∀ tab ∈ ((withoutThread state.workspaces target).under key).tabs, layoutHasThread tab.layout target = false := by
  have good := loose.good key
  have sound := sound_createTabWorkspace good
  rw [withoutThread, under_mapValues rfl]
  dsimp only
  split
  · rename_i owning found
    obtain ⟨member, has⟩ := has_of_findTabByThread found
    have closes : Changes none (fun tab => tab.id = owning.id) (createTabWorkspace (state.workspaces.under key))
        (closeTab (createTabWorkspace (state.workspaces.under key)) owning.id) := closeTab_changes sound
    have named : ∀ tab ∈ (createTabWorkspace (state.workspaces.under key)).tabs, tab.id = owning.id → tab = owning :=
      fun tab there same => List.inj_on_of_nodup_map sound.good.ids there member same
    refine ⟨.of_create good ⟨closes.good, closes.within, fun tab there preview => ?_⟩, fun tab there => ?_⟩
    · exact (closes.keeps tab there preview).imp_left fun same => (named tab there same ▸ has :)
    · rw [← Bool.not_eq_true]
      intro still
      -- What is left is an old tab, and of these only the owning one had the thread.
      unfold closeTab at there
      rw [createTabWorkspace_of_sound sound] at there
      dsimp only at there
      split at there
      · rename_i missing
        have absent := List.findIdx?_eq_none_iff.mp missing owning member
        simp at absent
      · have left : tab ∈ (createTabWorkspace (state.workspaces.under key)).tabs.filter fun tab => tab.id ≠ owning.id := by
          split_ifs at there <;> exact there
        obtain ⟨old, other⟩ := List.mem_filter.mp left
        have same := sound.good.one_tab old member still has
        rw [same] at other
        simp at other
  · rename_i missing
    refine ⟨.of_create good (.of_tabs_eq sound rfl), fun tab there => ?_⟩
    have absent := List.find?_eq_none.mp missing tab there
    simpa using absent

theorem withoutThread_loose (loose : Loose gone state.workspaces) :
    Loose (fun threadId => gone threadId ∨ threadId = target) (withoutThread state.workspaces target) where
  good key := (withoutThread_changes loose target key).1.good
  bare full is_full := by
    refine List.eq_nil_iff_forall_not_mem.mpr fun tab member => ?_
    obtain ⟨old, there, -⟩ | ⟨_, absurd_, -⟩ := (withoutThread_changes loose target _).1.within tab member
    · rw [loose.bare full is_full] at there
      cases there
    · cases absurd_
  absent key tab member threadId has := by
    obtain ⟨changes, without⟩ := withoutThread_changes loose target key
    rintro (was_gone | rfl)
    · obtain ⟨old, there, layout⟩ | ⟨_, absurd_, -⟩ := changes.within tab member
      · exact loose.absent key old there threadId (layout ▸ has) was_gone
      · cases absurd_
    · rw [without tab member] at has
      cases has

/-- A thread of the workspaces is not gone. -/
theorem Loose.not_gone_of_focused {workspaces : Workspaces} {workspace : TabWorkspace} {threadId : Id}
    (loose : Loose gone workspaces) (key : String) (same : ∀ tab ∈ workspace.tabs, tab ∈ (workspaces.under key).tabs)
    (found : focusedThreadId workspace = some threadId) : ¬ gone threadId := by
  obtain ⟨tab, member, has⟩ := focusedThreadId_mem found
  exact loose.absent key tab (same tab member) threadId has

theorem Valid.not_gone (valid : Valid gone state) {threadId : Id} (shown : state.location.threadId = some threadId) :
    ¬ gone threadId := by
  obtain ⟨-, tab, member, has, -⟩ := valid.shown threadId shown
  exact valid.loose.absent _ tab member threadId has

theorem removeTarget_valid (valid : Valid gone state) :
    Valid (fun threadId => gone threadId ∨ threadId = target) (state.removeTarget target) ∧
      KeepsBut (fun _ _ layout => layoutHasThread layout target = true) state.workspaces
        (state.removeTarget target).workspaces ∧
      (state.removeTarget target).location.context = state.location.context := by
  have loose : Loose (fun threadId => gone threadId ∨ threadId = target) (withoutThread state.workspaces target) :=
    withoutThread_loose valid.loose
  have keeps : KeepsBut (fun _ _ layout => layoutHasThread layout target = true) state.workspaces
      (withoutThread state.workspaces target) := fun key => (withoutThread_changes valid.loose target key).1.keeps
  have returns : ∀ context, some state.returnContext = some context → ¬ Aliases context := by
    rintro context ⟨⟩
    exact valid.returnsPlain
  have is_removed : state.removeTarget target = createSessionViewState
      (if state.location.threadId = some target then
        ⟨state.location.context,
          focusedThreadId ((withoutThread state.workspaces target).workspaceFor state.location.context)⟩
      else state.location) (some state.returnContext) (withoutThread state.workspaces target) := rfl
  rw [is_removed]
  have context_same : (if state.location.threadId = some target then
      (⟨state.location.context,
        focusedThreadId ((withoutThread state.workspaces target).workspaceFor state.location.context)⟩ : Location)
      else state.location).context = state.location.context := by
    split_ifs <;> rfl
  refine ⟨createSessionViewState_valid loose ?_ ?_ returns, ?_, context_same⟩
  · rw [context_same]
    exact valid.plain
  · intro threadId routed
    rw [context_same]
    split_ifs at routed with shown
    · refine ⟨(valid.shown target shown).1, loose.not_gone_of_focused (sessionViewContextKey state.location.context)
        (fun tab member => ?_) routed⟩
      exact (mem_createTabWorkspace (loose.good _)).mp member
    · refine ⟨(valid.shown threadId routed).1, ?_⟩
      rintro (was_gone | rfl)
      · exact valid.not_gone routed was_gone
      · exact shown routed
  · exact (keeps.trans (keepsBut_createSessionViewState loose)).mono fun _ _ _ closed => closed.resolve_right id

theorem Valid.mono {gone' : Id → Prop} (valid : Valid gone state) (fewer : ∀ threadId, gone' threadId → gone threadId) :
    Valid gone' state :=
  { valid with
    loose := ⟨valid.loose.good, valid.loose.bare, fun key tab member threadId has is_gone =>
      valid.loose.absent key tab member threadId has (fewer threadId is_gone)⟩ }

theorem foldl_removeTarget_valid (valid : Valid gone state) (targets : List Id) :
    Valid (fun threadId => gone threadId ∨ threadId ∈ targets) (targets.foldl SessionViewState.removeTarget state) ∧
      KeepsBut (fun _ _ layout => ∃ target ∈ targets, layoutHasThread layout target = true) state.workspaces
        (targets.foldl SessionViewState.removeTarget state).workspaces ∧
      (targets.foldl SessionViewState.removeTarget state).location.context = state.location.context := by
  induction targets generalizing state gone with
  | nil => exact ⟨valid.mono fun threadId is_gone => is_gone.resolve_right List.not_mem_nil, .refl, rfl⟩
  | cons target rest ih =>
    obtain ⟨one, keeps_one, context_one⟩ : Valid (fun threadId => gone threadId ∨ threadId = target) _ ∧ _ ∧ _ :=
      removeTarget_valid valid
    obtain ⟨all, keeps_all, context_all⟩ := ih one
    refine ⟨all.mono fun threadId is_gone => ?_, (keeps_one.trans keeps_all).mono fun _ _ layout closed => ?_,
      context_all.trans context_one⟩
    · rcases is_gone with was_gone | member
      · exact .inl (.inl was_gone)
      · rcases List.mem_cons.mp member with rfl | there
        · exact .inl (.inr rfl)
        · exact .inr there
    · rcases closed with has | ⟨other, there, has⟩
      · exact ⟨target, List.mem_cons_self, has⟩
      · exact ⟨other, List.mem_cons_of_mem _ there, has⟩

end Removing

section Moves

variable {state : SessionViewState} {gone : Id → Prop} {context : Context} {workspace : TabWorkspace}
  {shut : Id → Layout → Prop}

theorem Valid.workspaceFor (valid : Valid gone state) (context : Context) :
    state.workspaces.workspaceFor context = state.workspaces.under (sessionViewContextKey context) :=
  createTabWorkspace_of_sound (valid.sound _)

/-- The visible thread may stay routed. -/
theorem Valid.routes (valid : Valid gone state) (threadId : Id) (shown : state.location.threadId = some threadId) :
    isFullAreaContext state.location.context = false ∧ ¬ gone threadId :=
  ⟨(valid.shown threadId shown).1, valid.not_gone shown⟩

theorem no_return (context : Context) (found : (none : Option Context) = some context) : ¬ Aliases context := by
  cases found

/-- A state made of workspaces in which one was put back. -/
theorem create_put_valid (valid : Valid gone state) (shut : Id → Layout → Prop) (location : Location) {opened : Option Id}
    (changes : Changes opened (fun tab => shut tab.id tab.layout)
      (state.workspaces.under (sessionViewContextKey context)) workspace)
    (opens : ∀ threadId, opened = some threadId →
      isFullAreaContext context = false ∧ ¬ Aliases context ∧ ¬ gone threadId)
    (plain : ¬ Aliases location.context)
    (routes : ∀ threadId, location.threadId = some threadId → isFullAreaContext location.context = false ∧ ¬ gone threadId) :
    Valid gone (createSessionViewState location none (state.workspaces.withWorkspace context workspace)) ∧
      KeepsBut (fun key id layout => key = sessionViewContextKey context ∧ shut id layout) state.workspaces
        (createSessionViewState location none (state.workspaces.withWorkspace context workspace)).workspaces := by
  have loose := valid.loose.put changes opens
  refine ⟨createSessionViewState_valid loose plain routes no_return, ?_⟩
  exact ((keepsBut_put changes).trans (keepsBut_createSessionViewState loose)).mono fun _ _ _ closed =>
    closed.resolve_right id

theorem settle_valid (valid : Valid gone state)
    (changes : Changes none (fun _ => False) (state.workspaces.under (sessionViewContextKey context)) workspace) :
    Valid gone (state.settle context workspace) ∧
      KeepsBut (fun _ _ _ => False) state.workspaces (state.settle context workspace).workspaces := by
  obtain ⟨settled, keeps⟩ := create_put_valid valid (fun _ _ => False) state.location changes nofun valid.plain valid.routes
  exact ⟨settled, keeps.mono fun _ _ _ closed => closed.2⟩

theorem settleClosed_valid (valid : Valid gone state) (closing : List Tab) (shut : Id → Prop)
    (changes : Changes none (fun tab => shut tab.id)
      (state.workspaces.under (sessionViewContextKey context)) workspace) :
    Valid gone (state.settleClosed context closing workspace) ∧
      KeepsBut (fun key id _ => key = sessionViewContextKey context ∧ shut id) state.workspaces
        (state.settleClosed context closing workspace).workspaces := by
  unfold SessionViewState.settleClosed
  split_ifs with shows_
  · refine create_put_valid valid (fun id _ => shut id) _ changes nofun valid.plain fun threadId routed => ?_
    obtain ⟨-, visible⟩ := Bool.and_eq_true_iff.mp shows_
    have holds : isFullAreaContext state.location.context = false := by
      cases is_shown : state.location.threadId with
      | none => simp [is_shown] at visible
      | some shown => exact (valid.shown shown is_shown).1
    refine ⟨holds, ?_⟩
    obtain ⟨tab, member, has⟩ := focusedThreadId_mem routed
    obtain ⟨old, there, layout⟩ | ⟨_, absurd_, -⟩ := changes.within tab member
    · exact valid.loose.absent _ old there threadId (layout ▸ has)
    · cases absurd_
  · exact create_put_valid valid (fun id _ => shut id) _ changes nofun valid.plain valid.routes

theorem enter_valid (valid : Valid gone state) (plain : ¬ Aliases context) :
    Valid gone (state.enter context) ∧ KeepsBut (fun _ _ _ => False) state.workspaces (state.enter context).workspaces := by
  refine ⟨createSessionViewState_valid valid.loose plain (fun threadId routed => ?_) no_return,
    keepsBut_createSessionViewState valid.loose⟩
  have found : focusedThreadId (state.workspaces.workspaceFor context) = some threadId := routed
  rw [valid.workspaceFor] at found
  refine ⟨?_, valid.loose.not_gone_of_focused _ (fun _ member => member) found⟩
  by_contra full
  obtain ⟨tab, member, -⟩ := focusedThreadId_mem found
  rw [valid.loose.bare context (by simpa using full)] at member
  cases member

/-- A thread that is there is opened where tabs may live. -/
theorem open_valid (valid : Valid gone state) {threadId : Id}
    (holds : isFullAreaContext context = false) (plain : ¬ Aliases context) (available : ¬ gone threadId)
    (changes : Changes (some threadId) (fun _ => False) (state.workspaces.under (sessionViewContextKey context)) workspace) :
    Valid gone (createSessionViewState ⟨context, some threadId⟩ none (state.workspaces.withWorkspace context workspace)) ∧
      KeepsBut (fun _ _ _ => False) state.workspaces
        (createSessionViewState ⟨context, some threadId⟩ none (state.workspaces.withWorkspace context workspace)).workspaces := by
  have opens : ∀ other, some threadId = some other → isFullAreaContext context = false ∧ ¬ Aliases context ∧ ¬ gone other := by
    rintro other ⟨⟩
    exact ⟨holds, plain, available⟩
  have routes : ∀ other, some threadId = some other → isFullAreaContext context = false ∧ ¬ gone other := by
    rintro other ⟨⟩
    exact ⟨holds, available⟩
  obtain ⟨opened, keeps⟩ := create_put_valid valid (fun _ _ => False) ⟨context, some threadId⟩ changes opens plain routes
  exact ⟨opened, keeps.mono fun _ _ _ closed => closed.2⟩

end Moves

section Cases

/-- The context that a command or a history entry carries. -/
def Action.rawContext : Action → Option RawContext
  | .openThread _ raw _ | .promoteTab raw _ _ | .showOverview raw | .closeTab raw _ | .closeTabs raw _ _
  | .pinTab raw _ _ | .moveTab raw _ _ => raw
  | .switchContext raw => some raw
  | .restoreHistory entry _ _ => entry.bind (·.context)
  | .returnToSessions | .removeThread _ | .other => none

/-- The project that an old history entry carries beside its mode. -/
def Action.historyProject : Action → Option Id
  | .restoreHistory entry _ _ => entry.bind fun entry => stringId entry.projectId
  | _ => none

def Action.NamesProject (action : Action) (projectId : Id) : Prop :=
  action.rawContext.map normalizeSessionViewContext = some (.project projectId) ∨ action.historyProject = some projectId

/-- No project that the command names has the key of a full-area screen for its id. -/
def Action.Plain (action : Action) : Prop :=
  ∀ projectId, action.NamesProject projectId → ∀ full, isFullAreaContext full = true →
    projectId.1 ≠ sessionViewContextKey full

/-- The command names the tab or its thread. -/
def Action.Names (state : SessionViewState) (key : String) (id : Id) (layout : Layout) : Action → Prop
  | .closeTab raw tabId => key = sessionViewContextKey (actionContext raw state) ∧ stringId tabId = some id
  | .closeTabs raw tabIds _ =>
    key = sessionViewContextKey (actionContext raw state) ∧ ∃ tabId ∈ tabIds, stringId tabId = some id
  | .removeThread threadId => ∃ target, stringId threadId = some target ∧ layoutHasThread layout target = true
  | _ => False

variable {state : SessionViewState} {gone : Id → Prop} {action : Action} {facts : Facts}

theorem not_aliases_project {projectId : Id}
    (apart : ∀ full, isFullAreaContext full = true → projectId.1 ≠ sessionViewContextKey full) :
    ¬ Aliases (.project projectId) := by
  rintro ⟨-, full, is_full, same⟩
  exact apart full is_full same

theorem Action.Plain.normalized (plain : action.Plain) {raw : RawContext} (carries : action.rawContext = some raw) :
    ¬ Aliases (normalizeSessionViewContext raw) := by
  cases context : normalizeSessionViewContext raw with
  | project projectId =>
    refine not_aliases_project (plain projectId (.inl ?_))
    rw [carries, Option.map_some, context]
  | sessions => exact not_aliases_sessions
  | tasks _ => exact not_aliases_of_full rfl
  | teams _ => exact not_aliases_of_full rfl
  | usage => exact not_aliases_of_full rfl
  | editor => exact not_aliases_of_full rfl
  | review _ => exact not_aliases_of_full rfl
  | ticket _ => exact not_aliases_of_full rfl

theorem Action.Plain.actionContext (plain : action.Plain) (valid : Valid gone state) {raw : Option RawContext}
    (carries : action.rawContext = raw) : ¬ Aliases (actionContext raw state) := by
  cases raw with
  | none => exact valid.plain
  | some raw => exact plain.normalized carries

theorem contextFromHistory_plain (valid : Valid gone state) {entry : Option HistoryEntry} {url : Option String} {preview : Bool}
    (plain : (Action.restoreHistory entry url preview).Plain) :
    ¬ Aliases (contextFromHistory entry state.location.context facts) := by
  unfold contextFromHistory
  cases entry with
  | none => exact valid.plain
  | some entry =>
    dsimp only
    split
    · rename_i raw _ carries
      have raw_plain := plain.normalized (show (Action.restoreHistory (some entry) url preview).rawContext = some raw from carries)
      split
      · rename_i named
        split_ifs
        · exact not_aliases_sessions
        · exact named ▸ raw_plain
      · exact raw_plain
    · split_ifs
      · exact not_aliases_sessions
      · split
        · rename_i projectId named
          split_ifs
          · exact not_aliases_project (plain projectId (.inr named))
          · exact not_aliases_sessions
        · exact not_aliases_sessions
      · exact valid.plain

theorem availableReturnContext_plain {context : Context} (plain : ¬ Aliases context) :
    ¬ Aliases (availableReturnContext context facts) := by
  unfold availableReturnContext
  split
  · split_ifs
    · exact not_aliases_sessions
    · exact plain
  · exact plain

/-- The tabs that a list of ids closes are named by it. -/
theorem named_of_closing {current : TabWorkspace} {tabIds : List (Option String)} {id : Id}
    (member : id ∈ ((tabIds.filterMap stringId).eraseDups.filterMap current.findTab).map (·.id)) :
    ∃ tabId ∈ tabIds, stringId tabId = some id := by
  obtain ⟨tab, there, rfl⟩ := List.mem_map.mp member
  obtain ⟨tabId, among, found⟩ := List.mem_filterMap.mp there
  have matches_ := List.find?_some found
  rw [List.mem_eraseDups] at among
  obtain ⟨raw_id, raw_there, reads⟩ := List.mem_filterMap.mp among
  exact ⟨raw_id, raw_there, beq_iff_eq.mp matches_ ▸ reads⟩

theorem closeTabs_changes {current : TabWorkspace} (sound : Sound current) (closing : List Tab) (keep : Option Tab) :
    Changes none (fun tab => tab.id ∈ closing.map (·.id)) current
      (keep.elim (closing.foldl (fun workspace tab => closeTab workspace tab.id) current) fun tab =>
        focusTab (closing.foldl (fun workspace tab => closeTab workspace tab.id) current) tab.id) := by
  have closed := foldl_closeTab_changes sound.good closing
  cases keep with
  | none => exact closed
  | some tab => exact closed.focus

/-- What a command does on a state from which the unavailable threads have been swept. -/
theorem reduceCase_valid (valid : Valid (· ∈ stringSet facts.unavailableThreadIds) state) (plain : action.Plain) :
    Valid (· ∈ stringSet facts.unavailableThreadIds) (reduceCase state facts action) ∧
      KeepsBut (fun key id layout => action.Names state key id layout) state.workspaces
        (reduceCase state facts action).workspaces := by
  have same : ∀ next, Valid (· ∈ stringSet facts.unavailableThreadIds) next ∧
      KeepsBut (fun _ _ _ => False) state.workspaces next.workspaces →
      Valid (· ∈ stringSet facts.unavailableThreadIds) next ∧
        KeepsBut (fun key id layout => action.Names state key id layout) state.workspaces next.workspaces :=
    fun next done => ⟨done.1, done.2.mono fun _ _ _ => False.elim⟩
  have stays := same state ⟨valid, .refl⟩
  have holds := fun context => contextThatCanHoldTabs_holds context
  cases action with
  | openThread threadId raw preview =>
    simp only [reduceCase]
    split
    · exact stays
    rename_i threadId named
    by_cases unavailable : threadId ∈ stringSet facts.unavailableThreadIds
    · simp only [if_pos unavailable]
      obtain ⟨removed, keeps, -⟩ : Valid (fun other => other ∈ stringSet facts.unavailableThreadIds ∨ other = threadId) _ ∧
        _ ∧ _ := removeTarget_valid valid
      refine ⟨removed.mono fun _ => .inl, ?_⟩
      -- The sweep has left no tab of the thread to close.
      intro key tab member not_preview
      refine .inr ((keeps key tab member not_preview).resolve_left fun has => ?_)
      exact valid.loose.absent key tab member threadId has unavailable
    · simp only [if_neg unavailable]
      have context_plain := contextThatCanHoldTabs_plain (plain.actionContext valid rfl)
      refine same _ (open_valid valid (holds _) context_plain unavailable ?_)
      rw [valid.workspaceFor]
      refine Changes.promoteAny ?_ _
      exact (openThreadTab_changes (valid.sound _) _).1
  | promoteTab raw tabId threadId =>
    simp only [reduceCase]
    split
    · exact stays
    · rw [valid.workspaceFor]
      exact same _ (settle_valid valid (promoteTab_changes (valid.sound _)))
  | returnToSessions =>
    refine same _ (enter_valid valid (availableReturnContext_plain ?_))
    cases returnable : returnableContext state.returnContext with
    | none => exact not_aliases_sessions
    | some context =>
      obtain ⟨rfl, -⟩ := returnableContext_eq_some returnable
      exact valid.returnsPlain
  | switchContext raw => exact same _ (enter_valid valid (plain.normalized rfl))
  | showOverview raw =>
    exact same _ ⟨createSessionViewState_valid valid.loose (plain.actionContext valid rfl) nofun no_return,
      keepsBut_createSessionViewState valid.loose⟩
  | closeTab raw tabId =>
    simp only [reduceCase]
    split
    · exact stays
    · rename_i tabId named
      rw [valid.workspaceFor]
      have closes : Changes none (fun tab => tab.id = tabId)
          (state.workspaces.under (sessionViewContextKey (actionContext raw state))) _ := closeTab_changes (valid.sound _)
      obtain ⟨closed, keeps⟩ := settleClosed_valid valid
        (((state.workspaces.under (sessionViewContextKey (actionContext raw state))).findTab tabId).toList) (· = tabId) closes
      refine ⟨closed, keeps.mono fun key id layout gone => ⟨gone.1, ?_⟩⟩
      rw [named, gone.2]
  | closeTabs raw tabIds keepTabId =>
    simp only [reduceCase]
    rw [valid.workspaceFor]
    split_ifs with none_closing
    · exact stays
    all_goals
      obtain ⟨settled, keeps⟩ := settleClosed_valid valid _ (fun id => id ∈ List.map Tab.id _)
        (closeTabs_changes (valid.sound (sessionViewContextKey (actionContext raw state))) _ _)
      exact ⟨settled, keeps.mono fun key id layout gone => ⟨gone.1, named_of_closing gone.2⟩⟩
  | pinTab raw tabId pinned =>
    simp only [reduceCase]
    split
    · exact stays
    · rw [valid.workspaceFor]
      exact same _ (settle_valid valid (setTabPinned_changes (valid.sound _) pinned))
  | moveTab raw tabId toIndex =>
    simp only [reduceCase]
    split
    · exact stays
    · rw [valid.workspaceFor]
      exact same _ (settle_valid valid (moveTab_changes (valid.sound _) toIndex))
  | removeThread threadId =>
    simp only [reduceCase, SessionViewState.removeThread]
    cases named : stringId threadId with
    | none => exact stays
    | some target =>
      obtain ⟨removed, keeps, -⟩ : Valid (fun other => other ∈ stringSet facts.unavailableThreadIds ∨ other = target) _ ∧
        _ ∧ _ := removeTarget_valid valid
      exact ⟨removed.mono fun _ => .inl, keeps.mono fun _ _ _ has => ⟨target, named, has⟩⟩
  | restoreHistory entry url preview =>
    have context_plain : ¬ Aliases (contextFromHistory entry state.location.context facts) :=
      contextFromHistory_plain valid plain
    simp only [reduceCase]
    split
    · exact same _ ⟨createSessionViewState_valid valid.loose context_plain nofun no_return,
        keepsBut_createSessionViewState valid.loose⟩
    · rename_i threadId named
      split_ifs with unavailable
      · exact same _ (enter_valid valid context_plain)
      · refine same _ (open_valid valid (holds _) (contextThatCanHoldTabs_plain context_plain) unavailable ?_)
        rw [valid.workspaceFor]
        exact (openThreadTab_changes (valid.sound _) preview).1
  | other => exact stays

end Cases

end Sealwire.Tabs

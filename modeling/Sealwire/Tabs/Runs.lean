import Sealwire.Tabs.Navigation

namespace Sealwire.Tabs

section Step

variable {state : SessionViewState} {gone : Id → Prop} {action : Action} {facts : Facts}

theorem Action.names_congr {other : SessionViewState} (same : state.location.context = other.location.context)
    {key : String} {id : Id} {layout : Layout} : action.Names state key id layout ↔ action.Names other key id layout := by
  cases action <;> simp only [Action.Names, Tabs.actionContext, same]

/-- The threads that the facts list as gone. -/
def Facts.Unavailable (facts : Facts) (threadId : Id) : Prop := threadId ∈ stringSet facts.unavailableThreadIds

/-- Why a tab that is no preview may go in a step. -/
def MayGo (state : SessionViewState) (action : Action) (facts : Facts) (key : String) (id : Id) (layout : Layout) : Prop :=
  action.Names state key id layout ∨ ∃ threadId, facts.Unavailable threadId ∧ layoutHasThread layout threadId = true

theorem reduceSessionViewCases_valid (valid : Valid gone state) (plain : action.Plain) :
    Valid facts.Unavailable (reduceSessionViewCases state action facts) ∧
      KeepsBut (MayGo state action facts) state.workspaces (reduceSessionViewCases state action facts).workspaces := by
  have created : Valid (fun _ => False)
      (createSessionViewState state.location (some state.returnContext) state.workspaces) := by
    refine Valid.mono (createSessionViewState_valid valid.loose valid.plain valid.routes ?_) fun _ => False.elim
    rintro context ⟨⟩
    exact valid.returnsPlain
  have keeps_created : KeepsBut (fun _ _ _ => False) state.workspaces
      (createSessionViewState state.location (some state.returnContext) state.workspaces).workspaces :=
    keepsBut_createSessionViewState valid.loose
  obtain ⟨swept, keeps_swept, context_same⟩ := foldl_removeTarget_valid created (stringSet facts.unavailableThreadIds)
  obtain ⟨reduced, keeps_reduced⟩ := reduceCase_valid (swept.mono fun _ => .inr) plain
  refine ⟨reduced, ((keeps_created.trans keeps_swept).trans keeps_reduced).mono fun key id layout closed => ?_⟩
  rcases closed with (absurd_ | ⟨target, listed, has⟩) | named
  · exact absurd_.elim
  · exact .inr ⟨target, listed, has⟩
  · exact .inl ((Action.names_congr context_same).mp named)

theorem reduceSessionView_valid (valid : Valid gone state) (plain : action.Plain) :
    Valid facts.Unavailable (reduceSessionView state action facts) ∧
      KeepsBut (MayGo state action facts) state.workspaces (reduceSessionView state action facts).workspaces := by
  obtain ⟨next, keeps⟩ : Valid facts.Unavailable _ ∧ _ := reduceSessionViewCases_valid valid plain
  refine ⟨{ next with returns := ?_, returnsPlain := ?_ }, keeps⟩
  all_goals
    simp only [reduceSessionView]
    cases landed : returnableContext (reduceSessionViewCases state action facts).location.context with
    | some context =>
      obtain ⟨rfl, holds⟩ := returnableContext_eq_some landed
      first
        | exact holds
        | exact next.plain
    | none =>
      cases carried : returnableContext state.returnContext with
      | some context =>
        obtain ⟨rfl, holds⟩ := returnableContext_eq_some carried
        first
          | exact holds
          | exact valid.returnsPlain
      | none =>
        first
          | rfl
          | exact not_aliases_sessions

theorem loose_empty : Loose gone .empty where
  good _ := .nil
  bare _ _ := rfl
  absent _ _ member := by cases member

theorem initial_valid : Valid gone .initial :=
  createSessionViewState_valid loose_empty not_aliases_sessions nofun no_return

theorem sessionViewInvariantErrors_of_valid (valid : Valid gone state) : sessionViewInvariantErrors state = [] := by
  have mapped : ∀ key, Workspaces.under (state.workspaces.mapValues createTabWorkspace) key = state.workspaces.under key := by
    intro key
    rw [under_mapValues createTabWorkspace_empty, createTabWorkspace_of_sound (valid.sound key)]
  have current : Workspaces.workspaceFor (state.workspaces.mapValues createTabWorkspace) state.location.context =
      state.workspaces.under (sessionViewContextKey state.location.context) := by
    unfold Workspaces.workspaceFor
    rw [mapped, createTabWorkspace_of_sound (valid.sound _)]
  have missing : (InsertionMap.pairs (state.workspaces.mapValues createTabWorkspace)).filterMap (fun pair =>
      if (createTabWorkspace pair.2).focusedTabId.any fun tabId => ((createTabWorkspace pair.2).findTab tabId).isNone then
        some ("workspace " ++ pair.1 ++ " focuses a missing tab")
      else none) = [] := by
    refine List.filterMap_eq_nil_iff.mpr fun ⟨key, workspace⟩ member => if_neg ?_
    have under_key : Workspaces.under (state.workspaces.mapValues createTabWorkspace) key = workspace := by
      unfold Workspaces.under
      rw [InsertionMap.get_of_mem _ member]
      rfl
    have sound : Sound workspace := by
      rw [← under_key, mapped]
      exact valid.sound key
    rw [createTabWorkspace_of_sound sound]
    obtain ⟨-, unfocused⟩ | ⟨tab, there, focused⟩ := sound.focus
    · simp [unfocused]
    · simp only [focused, Option.any_some, Option.isNone_iff_eq_none, TabWorkspace.findTab, List.find?_eq_none]
      intro absent
      simpa using absent tab there
  unfold sessionViewInvariantErrors
  dsimp only
  rw [missing, current, valid.returns]
  cases shown : state.location.threadId with
  | none => rfl
  | some threadId =>
    obtain ⟨holds, tab, member, has, focused⟩ := valid.shown threadId shown
    have found : (state.workspaces.under (sessionViewContextKey state.location.context)).findTabByThread threadId = some tab := by
      cases search : (state.workspaces.under (sessionViewContextKey state.location.context)).findTabByThread threadId with
      | none =>
        have absent := List.find?_eq_none.mp search tab member
        exact absurd has absent
      | some owning =>
        obtain ⟨there, has'⟩ := has_of_findTabByThread search
        rw [(valid.sound _).good.one_tab there member has' has]
    simp [holds, found, focused]

end Step

/-- The state after the commands, each with the facts of its moment. -/
def SessionViewState.run (state : SessionViewState) (steps : List (Action × Facts)) : SessionViewState :=
  steps.foldl (fun state step => reduceSessionView state step.1 step.2) state

/-- How the tabs of a workspace stand. -/
structure Orderly (workspace : TabWorkspace) : Prop where
  ids : (workspace.tabs.map (·.id)).Nodup
  oneTab : ∀ tab ∈ workspace.tabs, ∀ other ∈ workspace.tabs, ∀ threadId, layoutHasThread tab.layout threadId = true →
    layoutHasThread other.layout threadId = true → tab = other
  pinnedFirst : workspace.tabs.Pairwise fun tab later => later.pinned = true → tab.pinned = true
  onePreview : ∀ tab ∈ workspace.tabs, ∀ other ∈ workspace.tabs, tab.preview = true → other.preview = true → tab = other
  previewUnpinned : ∀ tab ∈ workspace.tabs, tab.preview = true → tab.pinned = false

theorem Sound.orderly {workspace : TabWorkspace} (sound : Sound workspace) : Orderly workspace where
  ids := sound.good.ids
  oneTab _ member _ member' _ := sound.good.one_tab member member'
  pinnedFirst := sound.pinnedFirst
  onePreview := sound.good.onePreview
  previewUnpinned tab member preview := by
    by_contra pinned
    have kept := sound.good.kept tab member (by simpa using pinned)
    rw [preview] at kept
    cases kept

section Runs

variable {state : SessionViewState} {gone : Id → Prop} {steps : List (Action × Facts)}

theorem run_valid (valid : Valid gone state) (plain : ∀ step ∈ steps, step.1.Plain) :
    Valid (fun _ => False) (state.run steps) := by
  induction steps generalizing state gone with
  | nil => exact valid.mono fun _ => False.elim
  | cons step rest ih =>
    obtain ⟨here, later⟩ := List.forall_mem_cons.mp plain
    have next : Valid step.2.Unavailable (reduceSessionView state step.1 step.2) := (reduceSessionView_valid valid here).1
    exact ih next later

/-- The thread is open in a tab or on screen. -/
def SessionViewState.HasThread (state : SessionViewState) (threadId : Id) : Prop :=
  state.location.threadId = some threadId ∨
    ∃ key, ∃ tab ∈ (state.workspaces.under key).tabs, layoutHasThread tab.layout threadId = true

theorem Valid.not_hasThread (valid : Valid gone state) {threadId : Id} (is_gone : gone threadId) :
    ¬ state.HasThread threadId := by
  rintro (shown | ⟨key, tab, member, has⟩)
  · exact valid.not_gone shown is_gone
  · exact valid.loose.absent key tab member threadId has is_gone

/-- A tab that is no preview is still there, as one, unless the step may close it. -/
def KeepsTabs (state : SessionViewState) (action : Action) (facts : Facts) (next : SessionViewState) : Prop :=
  ∀ key, ∀ tab ∈ (state.workspaces.under key).tabs, tab.preview = false →
    MayGo state action facts key tab.id tab.layout ∨
      ∃ kept ∈ (next.workspaces.under key).tabs, kept.id = tab.id ∧ kept.layout = tab.layout ∧ kept.preview = false

theorem navigation_shows_what_is_open (steps : List (Action × Facts)) (plain : ∀ step ∈ steps, step.1.Plain) :
    sessionViewInvariantErrors (SessionViewState.initial.run steps) = [] ∧
      (∀ key, Orderly ((SessionViewState.initial.run steps).workspaces.under key)) ∧
      (∀ full, isFullAreaContext full = true →
        ((SessionViewState.initial.run steps).workspaces.under (sessionViewContextKey full)).tabs = []) ∧
      ∀ before action facts after, steps = before ++ (action, facts) :: after →
        (∀ threadId, facts.Unavailable threadId →
          ¬ (reduceSessionView (SessionViewState.initial.run before) action facts).HasThread threadId) ∧
        KeepsTabs (SessionViewState.initial.run before) action facts
          (reduceSessionView (SessionViewState.initial.run before) action facts) := by
  have valid := run_valid (initial_valid : Valid (fun _ => False) .initial) plain
  refine ⟨sessionViewInvariantErrors_of_valid valid, fun key => (valid.sound key).orderly, valid.loose.bare, ?_⟩
  rintro before action facts after rfl
  have before_valid := run_valid (initial_valid : Valid (fun _ => False) .initial) fun step member =>
    plain step (List.mem_append_left _ member)
  have step_plain : action.Plain := plain (action, facts) (List.mem_append_right _ List.mem_cons_self)
  obtain ⟨next, keeps⟩ : Valid facts.Unavailable _ ∧ _ := reduceSessionView_valid before_valid step_plain
  exact ⟨fun threadId is_gone => next.not_hasThread is_gone, keeps⟩

end Runs

/-- The keys of the full-area screens start with an underscore, which no id does that the server makes. -/
theorem apart_of_head {projectId : Id} (head : projectId.1.toList.head? ≠ some '_') (full : Context)
    (is_full : isFullAreaContext full = true) : projectId.1 ≠ sessionViewContextKey full := by
  intro same
  refine head ?_
  rw [same]
  cases full with
  | sessions => cases is_full
  | project _ => cases is_full
  | tasks teamRunId => cases teamRunId <;> simp [sessionViewContextKey, tasksKey]
  | teams teamId => cases teamId <;> simp [sessionViewContextKey, teamsKey]
  | usage => simp [sessionViewContextKey, usageKey]
  | editor => simp [sessionViewContextKey, editorKey]
  | review _ => simp [sessionViewContextKey, reviewKey]
  | ticket _ => simp [sessionViewContextKey, ticketKey]

theorem Action.plain_of_head {action : Action}
    (heads : ∀ projectId, action.NamesProject projectId → projectId.1.toList.head? ≠ some '_') : action.Plain :=
  fun projectId names full is_full => apart_of_head (heads projectId names) full is_full

/-- A session of a project is looked at, kept, left for the tasks and then deleted elsewhere. -/
def visitSteps : List (Action × Facts) :=
  [(.openThread (some "t1") (some { kind := some "project", projectId := some "proj_1" }) (some true), {}),
    (.promoteTab none none (some "t1"), {}),
    (.switchContext { kind := some "tasks" }, {}),
    (.returnToSessions, { unavailableThreadIds := ["t1"] })]

theorem navigation_shows_what_is_open_visit :
    (∀ step ∈ visitSteps, step.1.Plain) ∧ sessionViewInvariantErrors (SessionViewState.initial.run visitSteps) = [] := by
  have plain : ∀ step ∈ visitSteps, step.1.Plain := by
    intro step member
    refine Action.plain_of_head fun projectId names => ?_
    simp only [visitSteps, List.mem_cons, List.not_mem_nil, or_false] at member
    rcases member with rfl | rfl | rfl | rfl
    · have named : (⟨"proj_1", by decide⟩ : Id) = projectId := by
        rcases names with context | absurd_
        · exact Context.project.inj (Option.some.inj context)
        · cases absurd_
      rw [← named]
      decide
    all_goals rcases names with absurd_ | absurd_ <;> cases absurd_
  exact ⟨plain, (navigation_shows_what_is_open visitSteps plain).1⟩

/-- A project with the key of the task screen for its id is opened a session in. -/
def aliasSteps : List (Action × Facts) :=
  [(.openThread (some "t1") (some { kind := some "project", projectId := some "__tasks__" }) none, {}),
    (.switchContext { kind := some "tasks" }, {})]

theorem task_screen_shows_thread : sessionViewInvariantErrors (SessionViewState.initial.run aliasSteps) =
    ["context __tasks__ cannot hold a thread tab"] := by
  decide +kernel

end Sealwire.Tabs

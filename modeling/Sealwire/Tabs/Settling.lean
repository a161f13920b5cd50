import Sealwire.Tabs.SessionView
import Sealwire.Tabs.Sound

namespace Sealwire.Tabs

/-- A screen with tabs whose key is that of a full-area screen. -/
def Aliases (context : Context) : Prop :=
  isFullAreaContext context = false ∧
    ∃ full, isFullAreaContext full = true ∧ sessionViewContextKey context = sessionViewContextKey full

/-- What holds of the workspaces while a command is at work; no tab shows a thread that is gone. -/
structure Loose (gone : Id → Prop) (workspaces : Workspaces) : Prop where
  good : ∀ key, Good (workspaces.under key).tabs
  bare : ∀ full, isFullAreaContext full = true → (workspaces.under (sessionViewContextKey full)).tabs = []
  absent : ∀ key, ∀ tab ∈ (workspaces.under key).tabs, ∀ threadId, layoutHasThread tab.layout threadId = true →
    ¬ gone threadId

/-- What holds of a state between two commands. -/
structure Valid (gone : Id → Prop) (state : SessionViewState) : Prop where
  loose : Loose gone state.workspaces
  sound : ∀ key, Sound (state.workspaces.under key)
  shown : ∀ threadId, state.location.threadId = some threadId → isFullAreaContext state.location.context = false ∧
    FocusedOn (state.workspaces.under (sessionViewContextKey state.location.context)) threadId
  plain : ¬ Aliases state.location.context
  returns : isFullAreaContext state.returnContext = false
  returnsPlain : ¬ Aliases state.returnContext

/-- Of the tabs that are no preview only the `closed` ones, told by key, id and layout, go. -/
def KeepsBut (closed : String → Id → Layout → Prop) (workspaces next : Workspaces) : Prop :=
  ∀ key, ∀ tab ∈ (workspaces.under key).tabs, tab.preview = false → closed key tab.id tab.layout ∨
    ∃ kept ∈ (next.under key).tabs, kept.id = tab.id ∧ kept.layout = tab.layout ∧ kept.preview = false

section Keys

theorem not_aliases_sessions : ¬ Aliases .sessions := by
  rintro ⟨-, full, is_full, same⟩
  have texts := congrArg (fun key : String => key.toList[2]?) same
  cases full with
  | sessions => cases is_full
  | project _ => cases is_full
  | tasks teamRunId => cases teamRunId <;> simp [sessionViewContextKey, sessionsKey, tasksKey] at texts
  | teams teamId => cases teamId <;> simp [sessionViewContextKey, sessionsKey, teamsKey] at texts
  | usage => simp [sessionViewContextKey, sessionsKey, usageKey] at texts
  | editor => simp [sessionViewContextKey, sessionsKey, editorKey] at texts
  | review _ => simp [sessionViewContextKey, sessionsKey, reviewKey] at texts
  | ticket _ => simp [sessionViewContextKey, sessionsKey, ticketKey] at texts

theorem not_aliases_of_full {context : Context} (full : isFullAreaContext context = true) : ¬ Aliases context := by
  rintro ⟨holds, -⟩
  rw [full] at holds
  cases holds

theorem contextThatCanHoldTabs_holds (context : Context) : isFullAreaContext (contextThatCanHoldTabs context) = false := by
  unfold contextThatCanHoldTabs
  split_ifs with full
  · rfl
  · simpa using full

theorem contextThatCanHoldTabs_plain {context : Context} (plain : ¬ Aliases context) :
    ¬ Aliases (contextThatCanHoldTabs context) := by
  unfold contextThatCanHoldTabs
  split_ifs
  · exact not_aliases_sessions
  · exact plain

theorem returnableContext_eq_some {context returnable : Context} (found : returnableContext context = some returnable) :
    returnable = context ∧ isFullAreaContext context = false := by
  unfold returnableContext at found
  split_ifs at found with full
  exact ⟨(Option.some.inj found).symm, by simpa using full⟩

end Keys

section Workspaces

variable {workspaces next last : Workspaces} {workspace : TabWorkspace} {context : Context} {key : String}
  {closed closed' : String → Id → Layout → Prop} {gone : Id → Prop}

theorem createTabWorkspace_empty : createTabWorkspace {} = {} := rfl

theorem under_mapValues {change : TabWorkspace → TabWorkspace} (empty : change {} = {}) :
    Workspaces.under (workspaces.mapValues change) key = change (workspaces.under key) := by
  unfold Workspaces.under
  rw [InsertionMap.get_mapValues]
  cases workspaces.get key with
  | none => exact empty.symm
  | some _ => rfl

theorem under_withWorkspace : (workspaces.withWorkspace context workspace).under key =
    if key = sessionViewContextKey context then createTabWorkspace workspace else workspaces.under key := by
  unfold Workspaces.under Workspaces.withWorkspace
  rw [InsertionMap.get_set]
  split_ifs <;> rfl

theorem KeepsBut.refl : KeepsBut closed workspaces workspaces :=
  fun _ tab member preview => .inr ⟨tab, member, rfl, rfl, preview⟩

theorem KeepsBut.trans (first : KeepsBut closed workspaces next) (second : KeepsBut closed' next last) :
    KeepsBut (fun key id layout => closed key id layout ∨ closed' key id layout) workspaces last := by
  intro key tab member preview
  obtain gone | ⟨kept, there, id, layout, preview'⟩ := first key tab member preview
  · exact .inl (.inl gone)
  · obtain gone | ⟨kept', there', id', layout', preview''⟩ := second key kept there preview'
    · rw [id, layout] at gone
      exact .inl (.inr gone)
    · exact .inr ⟨kept', there', id'.trans id, layout'.trans layout, preview''⟩

theorem KeepsBut.mono (keeps : KeepsBut closed workspaces next)
    (more : ∀ key id layout, closed key id layout → closed' key id layout) : KeepsBut closed' workspaces next :=
  fun key tab member preview => (keeps key tab member preview).imp_left (more key tab.id tab.layout)

/-- A workspace is put back after an operation on it. -/
theorem Loose.put {opened : Option Id} {shut : Tab → Prop} (loose : Loose gone workspaces)
    (changes : Changes opened shut (workspaces.under (sessionViewContextKey context)) workspace)
    (opens : ∀ threadId, opened = some threadId →
      isFullAreaContext context = false ∧ ¬ Aliases context ∧ ¬ gone threadId) :
    Loose gone (workspaces.withWorkspace context workspace) where
  good key := by
    rw [under_withWorkspace]
    split_ifs
    · exact (sound_createTabWorkspace changes.good).good
    · exact loose.good key
  bare full is_full := by
    rw [under_withWorkspace]
    split_ifs with same
    · have none_before := loose.bare full is_full
      refine List.eq_nil_iff_forall_not_mem.mpr fun tab member => ?_
      obtain ⟨old, there, -⟩ | ⟨threadId, opened_, -⟩ :=
        changes.within tab ((mem_createTabWorkspace changes.good).mp member)
      · rw [← same, none_before] at there
        cases there
      · obtain ⟨holds, plain, -⟩ := opens threadId opened_
        exact plain ⟨holds, full, is_full, same.symm⟩
    · exact loose.bare full is_full
  absent key tab member threadId has := by
    rw [under_withWorkspace] at member
    split_ifs at member with same
    · obtain ⟨old, there, layout⟩ | ⟨opened_, is_opened, layout⟩ :=
        changes.within tab ((mem_createTabWorkspace changes.good).mp member)
      · exact loose.absent _ old there threadId (layout ▸ has)
      · rw [layout, layoutHasThread_leaf] at has
        rw [has]
        exact (opens opened_ is_opened).2.2
    · exact loose.absent key tab member threadId has

theorem keepsBut_put {opened : Option Id} {shut : Id → Layout → Prop}
    (changes : Changes opened (fun tab => shut tab.id tab.layout) (workspaces.under (sessionViewContextKey context)) workspace) :
    KeepsBut (fun key id layout => key = sessionViewContextKey context ∧ shut id layout) workspaces
      (workspaces.withWorkspace context workspace) := by
  intro key tab member preview
  rw [under_withWorkspace]
  split_ifs with same
  · rw [same] at member
    obtain gone | ⟨kept, there, rest⟩ := changes.keeps tab member preview
    · exact .inl ⟨same, gone⟩
    · exact .inr ⟨kept, (mem_createTabWorkspace changes.good).mpr there, rest⟩
  · exact .inr ⟨tab, member, rfl, rfl, preview⟩

/-- The remembered thread of a workspace is open in it. -/
theorem focusedThreadId_mem {threadId : Id} (found : focusedThreadId workspace = some threadId) :
    ∃ tab ∈ workspace.tabs, layoutHasThread tab.layout threadId = true := by
  obtain ⟨tab, focused, first⟩ := Option.bind_eq_some_iff.mp found
  refine ⟨tab, List.mem_of_find?_eq_some focused, ?_⟩
  rw [layoutHasThread, List.contains_iff_mem]
  exact List.mem_of_mem_head? first

end Workspaces

section Create

variable {workspaces : Workspaces} {location : Location} {returnContext : Option Context} {gone : Id → Prop}

/-- The workspaces that `createSessionViewState` leaves. -/
theorem under_createSessionViewState (loose : Loose gone workspaces) (key : String) :
    (createSessionViewState location returnContext workspaces).workspaces.under key =
      if key = sessionViewContextKey location.context then
        createTabWorkspace (location.threadId.elim (createTabWorkspace (workspaces.under key)) fun threadId =>
          openThreadTab (createTabWorkspace (workspaces.under key)) threadId false)
      else createTabWorkspace (workspaces.under key) := by
  have mapped : ∀ key, Workspaces.under (workspaces.mapValues createTabWorkspace) key =
      createTabWorkspace (workspaces.under key) := fun key => under_mapValues createTabWorkspace_empty
  have current : Workspaces.workspaceFor (workspaces.mapValues createTabWorkspace) location.context =
      createTabWorkspace (workspaces.under (sessionViewContextKey location.context)) := by
    unfold Workspaces.workspaceFor
    rw [mapped, createTabWorkspace_idem (loose.good _)]
  simp only [createSessionViewState, under_withWorkspace, current, mapped]
  split_ifs with same
  · rw [same]
  · rfl

theorem createSessionViewState_changes (loose : Loose gone workspaces) (key : String) :
    Changes (if key = sessionViewContextKey location.context then location.threadId else none) (fun _ => False)
      (workspaces.under key) ((createSessionViewState location returnContext workspaces).workspaces.under key) := by
  have good := loose.good key
  have put_right : ∀ opened, Changes opened (fun _ => False) (workspaces.under key) (createTabWorkspace (workspaces.under key)) :=
    fun opened => .of_create good (.of_tabs_eq (sound_createTabWorkspace good) rfl)
  rw [under_createSessionViewState loose]
  split_ifs
  · cases location.threadId with
    | none => exact (put_right none).create
    | some threadId => exact .create (.of_create good (openThreadTab_changes (sound_createTabWorkspace good) false).1)
  · exact put_right none

theorem keepsBut_createSessionViewState (loose : Loose gone workspaces) :
    KeepsBut (fun _ _ _ => False) workspaces (createSessionViewState location returnContext workspaces).workspaces :=
  fun key => (createSessionViewState_changes loose key).keeps

theorem createSessionViewState_valid (loose : Loose gone workspaces) (plain : ¬ Aliases location.context)
    (routes : ∀ threadId, location.threadId = some threadId → isFullAreaContext location.context = false ∧ ¬ gone threadId)
    (returns : ∀ context, returnContext = some context → ¬ Aliases context) :
    Valid gone (createSessionViewState location returnContext workspaces) where
  loose := by
    have changes : ∀ key, Changes _ _ (workspaces.under key)
        ((createSessionViewState location returnContext workspaces).workspaces.under key) :=
      createSessionViewState_changes loose
    refine ⟨fun key => (changes key).good, fun full is_full => ?_, fun key tab member threadId has => ?_⟩
    · refine List.eq_nil_iff_forall_not_mem.mpr fun tab member => ?_
      obtain ⟨old, there, -⟩ | ⟨threadId, opened, -⟩ := (changes _).within tab member
      · rw [loose.bare full is_full] at there
        cases there
      · split_ifs at opened with same
        exact plain ⟨(routes threadId opened).1, full, is_full, same.symm⟩
    · obtain ⟨old, there, layout⟩ | ⟨opened, is_opened, layout⟩ := (changes key).within tab member
      · exact loose.absent key old there threadId (layout ▸ has)
      · split_ifs at is_opened
        rw [layout, layoutHasThread_leaf] at has
        rw [has]
        exact (routes opened is_opened).2
  sound key := by
    rw [under_createSessionViewState loose]
    have good := sound_createTabWorkspace (loose.good key)
    split_ifs
    · cases location.threadId with
      | none => exact sound_createTabWorkspace good.good
      | some threadId =>
        have opened : Changes (some threadId) (fun _ => False) _ _ := (openThreadTab_changes good false).1
        exact sound_createTabWorkspace opened.good
    · exact good
  shown threadId shown := by
    have is_shown : location.threadId = some threadId := shown
    refine ⟨(routes threadId is_shown).1, ?_⟩
    have good := sound_createTabWorkspace (loose.good (sessionViewContextKey location.context))
    obtain ⟨changes, tab, member, has, focused⟩ : Changes (some threadId) (fun _ => False) _ _ ∧
      FocusedOn (openThreadTab _ threadId false) threadId := openThreadTab_changes good false
    rw [show (createSessionViewState location returnContext workspaces).location = location from rfl,
      under_createSessionViewState loose, if_pos rfl, is_shown]
    exact ⟨tab, (mem_createTabWorkspace changes.good).mpr member, has,
      focusedTabId_createTabWorkspace changes.good member focused⟩
  plain := plain
  returns := by
    simp only [createSessionViewState]
    cases found : returnContext.bind returnableContext with
    | none => exact contextThatCanHoldTabs_holds _
    | some context =>
      obtain ⟨returned, -, returnable⟩ := Option.bind_eq_some_iff.mp found
      obtain ⟨rfl, holds⟩ := returnableContext_eq_some returnable
      exact holds
  returnsPlain := by
    simp only [createSessionViewState]
    cases found : returnContext.bind returnableContext with
    | none => exact contextThatCanHoldTabs_plain plain
    | some context =>
      obtain ⟨returned, is_returned, returnable⟩ := Option.bind_eq_some_iff.mp found
      obtain ⟨rfl, -⟩ := returnableContext_eq_some returnable
      exact returns _ is_returned

end Create

end Sealwire.Tabs

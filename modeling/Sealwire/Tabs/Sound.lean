import Mathlib.Data.List.Perm.Basic
import Sealwire.Tabs.Layout

namespace Sealwire.Tabs

theorem tabIdForThread_injective : Function.Injective tabIdForThread := by
  intro thread other same
  have texts := congrArg (fun id : Id => id.1.toList) same
  simp only [tabIdForThread, String.toList_append, List.append_cancel_left_eq] at texts
  exact Subtype.ext (String.toList_inj.mp texts)

/-- The tab shows one thread, under the id made of it. -/
def Tab.Shows (tab : Tab) (threadId : Id) : Prop := tab.id = tabIdForThread threadId ∧ tab.layout = .leaf threadId

/-- What holds of tabs in any order. -/
structure Good (tabs : List Tab) : Prop where
  ids : (tabs.map (·.id)).Nodup
  owned : ∀ tab ∈ tabs, ∃ threadId, tab.Shows threadId
  onePreview : ∀ tab ∈ tabs, ∀ other ∈ tabs, tab.preview = true → other.preview = true → tab = other
  kept : ∀ tab ∈ tabs, tab.pinned = true → tab.preview = false

/-- The pinned tabs come first. -/
def PinnedFirst (tabs : List Tab) : Prop := tabs.Pairwise fun tab later => later.pinned = true → tab.pinned = true

structure Sound (workspace : TabWorkspace) : Prop where
  good : Good workspace.tabs
  pinnedFirst : PinnedFirst workspace.tabs
  focus : (workspace.tabs = [] ∧ workspace.focusedTabId = none) ∨
    ∃ tab ∈ workspace.tabs, workspace.focusedTabId = some tab.id

section Layouts

variable {tab : Tab} {threadId other : Id}

theorem layoutHasThread_leaf : layoutHasThread (.leaf threadId) other = true ↔ other = threadId := by
  simp [layoutHasThread, layoutThreadIds]

theorem Tab.Shows.has_iff (shows_ : tab.Shows threadId) : layoutHasThread tab.layout other = true ↔ other = threadId := by
  rw [shows_.2, layoutHasThread_leaf]

theorem normalizeTab_of_kept (kept : tab.pinned = true → tab.preview = false) : normalizeTab tab = tab := by
  obtain ⟨id, pinned, preview, layout⟩ := tab
  cases pinned
  · rfl
  · have off : preview = false := kept rfl
    simp only [normalizeTab, Bool.not_true, Bool.false_and, off]

theorem normalizeTab_kept (tab : Tab) : (normalizeTab tab).pinned = true → (normalizeTab tab).preview = false := by
  intro pinned
  have was : tab.pinned = true := pinned
  simp [normalizeTab, was]

theorem has_of_findTabByThread {workspace : TabWorkspace} (found : workspace.findTabByThread threadId = some tab) :
    tab ∈ workspace.tabs ∧ layoutHasThread tab.layout threadId = true := by
  unfold TabWorkspace.findTabByThread at found
  have has := List.find?_some found
  exact ⟨List.mem_of_find?_eq_some found, has⟩

end Layouts

section Order

variable {tabs : List Tab}

theorem partitionPinned_perm (tabs : List Tab) : (partitionPinned tabs).Perm tabs :=
  List.filter_append_perm (fun tab : Tab => tab.pinned) tabs

theorem pinnedFirst_partitionPinned (tabs : List Tab) : PinnedFirst (partitionPinned tabs) := by
  refine List.pairwise_append.mpr ⟨?_, ?_, ?_⟩
  · refine List.pairwise_of_forall_mem_list fun tab member _ _ _ => ?_
    exact List.of_mem_filter member
  · refine List.pairwise_of_forall_mem_list fun _ _ later member pinned => ?_
    have unpinned := List.of_mem_filter member
    simp [pinned] at unpinned
  · intro tab member later _ _
    exact List.of_mem_filter member

theorem partitionPinned_of_pinnedFirst (first : PinnedFirst tabs) : partitionPinned tabs = tabs := by
  induction tabs with
  | nil => rfl
  | cons tab rest ih =>
    obtain ⟨front, rest_first⟩ := List.pairwise_cons.mp first
    have rest_same := ih rest_first
    cases pinned : tab.pinned with
    | true =>
      unfold partitionPinned at rest_same ⊢
      rw [List.filter_cons_of_pos pinned, List.filter_cons_of_neg (by simp [pinned]), List.cons_append, rest_same]
    | false =>
      have none_pinned : rest.filter (·.pinned) = [] := by
        refine List.filter_eq_nil_iff.mpr fun later member is_pinned => ?_
        rw [front later member is_pinned] at pinned
        cases pinned
      unfold partitionPinned at rest_same ⊢
      rw [none_pinned, List.nil_append] at rest_same
      rw [List.filter_cons_of_neg (by simp [pinned]), none_pinned, List.filter_cons_of_pos (by simp [pinned]), rest_same]
      rfl

end Order

namespace Good

variable {tabs others : List Tab} {tab : Tab} {threadId : Id}

theorem nil : Good [] where
  ids := List.nodup_nil
  owned _ member := by cases member
  onePreview _ member := by cases member
  kept _ member := by cases member

theorem perm (good : Good tabs) (same : others.Perm tabs) : Good others where
  ids := (same.map (·.id)).nodup_iff.mpr good.ids
  owned tab member := good.owned tab (same.mem_iff.mp member)
  onePreview tab member other member' := good.onePreview tab (same.mem_iff.mp member) other (same.mem_iff.mp member')
  kept tab member := good.kept tab (same.mem_iff.mp member)

theorem sublist (good : Good tabs) (fewer : others.Sublist tabs) : Good others where
  ids := good.ids.sublist (fewer.map (·.id))
  owned tab member := good.owned tab (fewer.subset member)
  onePreview tab member other member' := good.onePreview tab (fewer.subset member) other (fewer.subset member')
  kept tab member := good.kept tab (fewer.subset member)

theorem normalize (good : Good tabs) : tabs.map normalizeTab = tabs :=
  (List.map_congr_left fun tab member => normalizeTab_of_kept (good.kept tab member)).trans (List.map_id tabs)

/-- No thread is open in two tabs. -/
theorem one_tab (good : Good tabs) {other : Tab} (member : tab ∈ tabs) (member' : other ∈ tabs)
    (has : layoutHasThread tab.layout threadId = true) (has' : layoutHasThread other.layout threadId = true) :
    tab = other := by
  obtain ⟨shown, shows_⟩ := good.owned tab member
  obtain ⟨shown', shows'⟩ := good.owned other member'
  have same : shown = shown' := (shows_.has_iff.mp has).symm.trans (shows'.has_iff.mp has')
  refine List.inj_on_of_nodup_map good.ids member member' ?_
  rw [shows_.1, shows'.1, same]

/-- A tab for a thread that is not open can join. -/
theorem cons (good : Good tabs) (shows_ : tab.Shows threadId)
    (fresh : ∀ other ∈ tabs, layoutHasThread other.layout threadId = false)
    (single : tab.preview = true → ∀ other ∈ tabs, other.preview = false)
    (plain : tab.pinned = true → tab.preview = false) : Good (tab :: tabs) where
  ids := by
    refine List.nodup_cons.mpr ⟨fun member => ?_, good.ids⟩
    obtain ⟨other, there, same⟩ := List.mem_map.mp member
    obtain ⟨shown, shows'⟩ := good.owned other there
    have threads : shown = threadId := tabIdForThread_injective (shows'.1.symm.trans (same.trans shows_.1))
    have open_ : layoutHasThread other.layout threadId = true := shows'.has_iff.mpr threads.symm
    rw [fresh other there] at open_
    cases open_
  owned other member := by
    rcases List.mem_cons.mp member with rfl | there
    · exact ⟨threadId, shows_⟩
    · exact good.owned other there
  onePreview one member other member' preview preview' := by
    rcases List.mem_cons.mp member with rfl | there
    · rcases List.mem_cons.mp member' with rfl | there'
      · rfl
      · rw [single preview other there'] at preview'
        cases preview'
    · rcases List.mem_cons.mp member' with rfl | there'
      · rw [single preview' one there] at preview
        cases preview
      · exact good.onePreview one there other there' preview preview'
  kept other member := by
    rcases List.mem_cons.mp member with rfl | there
    · exact plain
    · exact good.kept other there

/-- A tab changed in its marks only, to one that is no preview or was one. -/
theorem mark (good : Good tabs) (change : Tab → Tab) (ids : ∀ tab, (change tab).id = tab.id)
    (layouts : ∀ tab, (change tab).layout = tab.layout) (previews : ∀ tab, (change tab).preview = true → tab.preview = true)
    (plain : ∀ tab ∈ tabs, (change tab).pinned = true → (change tab).preview = false) : Good (tabs.map change) where
  ids := by
    have same : (tabs.map change).map (·.id) = tabs.map (·.id) := by simp [Function.comp_def, ids]
    rw [same]
    exact good.ids
  owned := by
    intro tab member
    obtain ⟨old, there, rfl⟩ := List.mem_map.mp member
    obtain ⟨threadId, shows_⟩ := good.owned old there
    exact ⟨threadId, (ids old).trans shows_.1, (layouts old).trans shows_.2⟩
  onePreview := by
    intro one member other member' preview preview'
    obtain ⟨old, there, rfl⟩ := List.mem_map.mp member
    obtain ⟨old', there', rfl⟩ := List.mem_map.mp member'
    rw [good.onePreview old there old' there' (previews old preview) (previews old' preview')]
  kept := by
    intro tab member
    obtain ⟨old, there, rfl⟩ := List.mem_map.mp member
    exact plain old there

end Good

section Workspaces

variable {workspace : TabWorkspace} {tab : Tab}

theorem createTabWorkspace_of_sound (sound : Sound workspace) : createTabWorkspace workspace = workspace := by
  have tabs : partitionPinned (workspace.tabs.map normalizeTab) = workspace.tabs := by
    rw [sound.good.normalize, partitionPinned_of_pinnedFirst sound.pinnedFirst]
  obtain ⟨none_open, unfocused⟩ | ⟨focused, member, named⟩ := sound.focus
  · unfold createTabWorkspace
    rw [tabs]
    simp only [none_open, List.any_nil, Bool.false_eq_true, if_false, List.head?_nil, Option.map_none]
    rw [← unfocused, ← none_open]
  · have exists_ : (workspace.tabs.any fun tab => workspace.focusedTabId == some tab.id) = true :=
      List.any_eq_true.mpr ⟨focused, member, by simp [named]⟩
    unfold createTabWorkspace
    rw [tabs]
    simp only [exists_, if_true]

theorem createTabWorkspace_perm (good : Good workspace.tabs) : (createTabWorkspace workspace).tabs.Perm workspace.tabs := by
  simp only [createTabWorkspace]
  rw [good.normalize]
  exact partitionPinned_perm _

theorem mem_createTabWorkspace (good : Good workspace.tabs) :
    tab ∈ (createTabWorkspace workspace).tabs ↔ tab ∈ workspace.tabs :=
  (createTabWorkspace_perm good).mem_iff

theorem focusedTabId_createTabWorkspace (good : Good workspace.tabs) (member : tab ∈ workspace.tabs)
    (focused : workspace.focusedTabId = some tab.id) : (createTabWorkspace workspace).focusedTabId = some tab.id := by
  have there : tab ∈ partitionPinned (workspace.tabs.map normalizeTab) := (mem_createTabWorkspace good).mpr member
  have exists_ : ((partitionPinned (workspace.tabs.map normalizeTab)).any fun tab =>
      workspace.focusedTabId == some tab.id) = true := List.any_eq_true.mpr ⟨tab, there, by simp [focused]⟩
  simp only [createTabWorkspace, exists_, if_true]
  exact focused

theorem sound_createTabWorkspace (good : Good workspace.tabs) : Sound (createTabWorkspace workspace) where
  good := good.perm (createTabWorkspace_perm good)
  pinnedFirst := pinnedFirst_partitionPinned _
  focus := by
    simp only [createTabWorkspace]
    generalize partitionPinned (workspace.tabs.map normalizeTab) = tabs
    split_ifs with exists_
    · obtain ⟨tab, member, named⟩ := List.any_eq_true.mp exists_
      exact .inr ⟨tab, member, by simpa using named⟩
    · cases tabs with
      | nil => exact .inl ⟨rfl, rfl⟩
      | cons tab rest => exact .inr ⟨tab, List.mem_cons_self, rfl⟩

theorem sound_empty : Sound {} where
  good := .nil
  pinnedFirst := List.Pairwise.nil
  focus := .inl ⟨rfl, rfl⟩

end Workspaces

/-- What an operation does to the tabs of a workspace: at most `opened` comes in, and of those
that are no preview only the `closed` ones go. -/
structure Changes (opened : Option Id) (closed : Tab → Prop) (workspace next : TabWorkspace) : Prop where
  good : Good next.tabs
  within : ∀ tab ∈ next.tabs, (∃ old ∈ workspace.tabs, old.layout = tab.layout) ∨
    ∃ threadId, opened = some threadId ∧ tab.layout = .leaf threadId
  keeps : ∀ tab ∈ workspace.tabs, tab.preview = false → closed tab ∨
    ∃ kept ∈ next.tabs, kept.id = tab.id ∧ kept.layout = tab.layout ∧ kept.preview = false

section Operations

variable {workspace next : TabWorkspace} {opened : Option Id} {closed : Tab → Prop} {tabId threadId : Id}

theorem Changes.of_tabs_eq (sound : Sound workspace) (same : next.tabs = workspace.tabs) :
    Changes opened closed workspace next where
  good := same ▸ sound.good
  within tab member := .inl ⟨tab, same ▸ member, rfl⟩
  keeps tab member preview := .inr ⟨tab, same.symm ▸ member, rfl, rfl, preview⟩

theorem Changes.create (changes : Changes opened closed workspace next) :
    Changes opened closed workspace (createTabWorkspace next) where
  good := changes.good.perm (createTabWorkspace_perm changes.good)
  within tab member := changes.within tab ((mem_createTabWorkspace changes.good).mp member)
  keeps tab member preview := (changes.keeps tab member preview).imp_right fun ⟨kept, there, rest⟩ =>
    ⟨kept, (mem_createTabWorkspace changes.good).mpr there, rest⟩

theorem Changes.trans {last : TabWorkspace} {closed' : Tab → Prop} (first : Changes none closed workspace next)
    (second : Changes opened closed' next last) (named : ∀ tab other, other.id = tab.id → closed' other → closed' tab) :
    Changes opened (fun tab => closed tab ∨ closed' tab) workspace last where
  good := second.good
  within := by
    intro tab member
    obtain ⟨old, there, layout⟩ | new := second.within tab member
    · obtain ⟨older, older_there, layout'⟩ | ⟨_, absurd_, _⟩ := first.within old there
      · exact .inl ⟨older, older_there, layout'.trans layout⟩
      · cases absurd_
    · exact .inr new
  keeps := by
    intro tab member preview
    obtain gone | ⟨kept, there, id, layout, preview'⟩ := first.keeps tab member preview
    · exact .inl (.inl gone)
    · obtain gone | ⟨last_, last_there, id', layout', preview''⟩ := second.keeps kept there preview'
      · exact .inl (.inr (named tab kept id gone))
      · exact .inr ⟨last_, last_there, id'.trans id, layout'.trans layout, preview''⟩

/-- A change of marks that makes no preview of a tab. -/
theorem Changes.mark (sound : Sound workspace) (change : Tab → Tab) (ids : ∀ tab, (change tab).id = tab.id)
    (layouts : ∀ tab, (change tab).layout = tab.layout) (previews : ∀ tab, (change tab).preview = true → tab.preview = true)
    (plain : ∀ tab ∈ workspace.tabs, (change tab).pinned = true → (change tab).preview = false)
    (same : next.tabs.Perm (workspace.tabs.map change)) : Changes opened closed workspace next where
  good := (sound.good.mark change ids layouts previews plain).perm same
  within := by
    intro tab member
    obtain ⟨old, there, rfl⟩ := List.mem_map.mp (same.mem_iff.mp member)
    exact .inl ⟨old, there, (layouts old).symm⟩
  keeps := by
    intro tab member preview
    refine .inr ⟨change tab, same.mem_iff.mpr (List.mem_map_of_mem member), ids tab, layouts tab, ?_⟩
    rw [Bool.eq_false_iff]
    intro now
    rw [previews tab now] at preview
    cases preview

/-- The tab is kept from now on. -/
def keepTab (tabId : Id) (tab : Tab) : Tab := if tab.id = tabId then { tab with preview := false } else tab

theorem Changes.keep (sound : Sound workspace) (same : next.tabs.Perm (workspace.tabs.map (keepTab tabId))) :
    Changes opened closed workspace next := by
  refine Changes.mark sound (keepTab tabId) ?_ ?_ ?_ ?_ same
  · intro tab
    unfold keepTab
    split <;> rfl
  · intro tab
    unfold keepTab
    split <;> rfl
  · intro tab preview
    unfold keepTab at preview
    split at preview
    · cases preview
    · exact preview
  · intro tab member pinned
    unfold keepTab at pinned ⊢
    split at pinned
    · rename_i this
      rw [if_pos this]
    · rename_i other
      rw [if_neg other]
      exact sound.good.kept tab member pinned

theorem promoteTab_changes (sound : Sound workspace) : Changes opened closed workspace (promoteTab workspace tabId) := by
  unfold promoteTab
  rw [createTabWorkspace_of_sound sound]
  dsimp only
  split_ifs
  · exact .keep sound (.refl _)
  · exact .of_tabs_eq sound rfl

theorem setTabPinned_changes (sound : Sound workspace) (pinned : Bool) :
    Changes opened closed workspace (setTabPinned workspace tabId pinned) := by
  unfold setTabPinned
  rw [createTabWorkspace_of_sound sound]
  dsimp only
  split_ifs
  · refine Changes.mark sound (fun tab => if tab.id = tabId then normalizeTab { tab with pinned } else tab)
      ?_ ?_ ?_ ?_ (partitionPinned_perm _)
    · intro tab
      split <;> rfl
    · intro tab
      split <;> rfl
    · intro tab preview
      split at preview
      · simp only [normalizeTab, Bool.and_eq_true] at preview
        exact preview.2
      · exact preview
    · intro tab member is_pinned
      split at is_pinned
      · rename_i this
        rw [if_pos this]
        exact normalizeTab_kept _ is_pinned
      · rename_i other
        rw [if_neg other]
        exact sound.good.kept tab member is_pinned
  · exact .of_tabs_eq sound rfl

theorem focusTab_changes (sound : Sound workspace) : Changes opened closed workspace (focusTab workspace tabId) := by
  unfold focusTab
  rw [createTabWorkspace_of_sound sound]
  dsimp only
  split_ifs <;> exact .of_tabs_eq sound rfl

theorem closeTab_changes (sound : Sound workspace) :
    Changes opened (fun tab => tab.id = tabId) workspace (closeTab workspace tabId) := by
  have filtered : ∀ next : TabWorkspace, next.tabs = workspace.tabs.filter (fun tab => tab.id ≠ tabId) →
      Changes opened (fun tab => tab.id = tabId) workspace next := by
    intro next same
    have fewer : next.tabs.Sublist workspace.tabs := same ▸ List.filter_sublist
    refine ⟨sound.good.sublist fewer, fun tab member => .inl ⟨tab, fewer.subset member, rfl⟩, fun tab member preview => ?_⟩
    by_cases this : tab.id = tabId
    · exact .inl this
    · exact .inr ⟨tab, same ▸ List.mem_filter.mpr ⟨member, by simpa using this⟩, rfl, rfl, preview⟩
  unfold closeTab
  rw [createTabWorkspace_of_sound sound]
  dsimp only
  split
  · exact .of_tabs_eq sound rfl
  · split_ifs <;> exact filtered _ rfl

theorem spliceIn_perm (tabs : List Tab) (index : Nat) (tab : Tab) : (spliceIn tabs index tab).Perm (tab :: tabs) :=
  List.perm_insertIdx tab tabs (Nat.min_le_right _ _)

theorem moveTab_changes (sound : Sound workspace) (toIndex : JsNumber) :
    Changes opened closed workspace (moveTab workspace tabId toIndex) := by
  unfold moveTab
  rw [createTabWorkspace_of_sound sound]
  dsimp only
  split
  · exact .of_tabs_eq sound rfl
  rename_i start at_start
  split
  · exact .of_tabs_eq sound rfl
  rename_i found is_found
  obtain ⟨inside, this⟩ := List.getElem?_eq_some_iff.mp is_found
  have apart : workspace.tabs.Perm (found :: workspace.tabs.eraseIdx start) := by
    rw [← this]
    exact (List.getElem_cons_eraseIdx_perm inside).symm
  have named : found.id = tabId := by
    obtain ⟨_, matches_, -⟩ := List.findIdx?_eq_some_iff_getElem.mp at_start
    rw [this] at matches_
    exact beq_iff_eq.mp matches_
  have others : ∀ tab ∈ workspace.tabs.eraseIdx start, keepTab tabId tab = tab := by
    intro tab member
    have distinct := (apart.map (·.id)).nodup_iff.mp sound.good.ids
    have fresh := (List.nodup_cons.mp distinct).1
    exact if_neg fun same => fresh (List.mem_map.mpr ⟨tab, member, same.trans named.symm⟩)
  have moving : normalizeTab { found with preview := false } = keepTab tabId found := by
    unfold keepTab normalizeTab
    rw [if_pos named, Bool.and_false]
  have moved : ∀ index, (spliceIn (workspace.tabs.eraseIdx start) index (normalizeTab { found with preview := false })).Perm
      (workspace.tabs.map (keepTab tabId)) := by
    intro index
    refine (spliceIn_perm _ _ _).trans ?_
    rw [moving]
    refine ((apart.map (keepTab tabId)).trans ?_).symm
    rw [List.map_cons, List.map_congr_left others, List.map_id']
  split
  · exact .of_tabs_eq sound rfl
  · split_ifs
    · exact .of_tabs_eq sound rfl
    · exact .keep sound (moved _)

/-- The thread is open in a tab, which has the focus. -/
def FocusedOn (workspace : TabWorkspace) (threadId : Id) : Prop :=
  ∃ tab ∈ workspace.tabs, layoutHasThread tab.layout threadId = true ∧ workspace.focusedTabId = some tab.id

theorem openThreadTab_changes (sound : Sound workspace) (preview : Bool) :
    Changes (some threadId) closed workspace (openThreadTab workspace threadId preview) ∧
      FocusedOn (openThreadTab workspace threadId preview) threadId := by
  unfold openThreadTab
  rw [createTabWorkspace_of_sound sound]
  dsimp only
  split
  · rename_i existing found
    obtain ⟨member, has⟩ := has_of_findTabByThread found
    exact ⟨.of_tabs_eq sound rfl, existing, member, has, rfl⟩
  rename_i missing
  have fresh : ∀ other ∈ workspace.tabs, layoutHasThread other.layout threadId = false := by
    intro other member
    have none_found := List.find?_eq_none.mp missing other member
    simpa using none_found
  generalize is_tab : normalizeTab { id := tabIdForThread threadId, pinned := false, preview, layout := .leaf threadId } = tab
  have shows_ : tab.Shows threadId := is_tab ▸ ⟨rfl, rfl⟩
  have has : layoutHasThread tab.layout threadId = true := shows_.has_iff.mpr rfl
  have flagged : tab.preview = preview := by
    rw [← is_tab]
    rfl
  have unpinned : tab.pinned = false := by
    rw [← is_tab]
    rfl
  split
  · rename_i replacing at_preview
    split_ifs at at_preview with previews
    obtain ⟨inside, is_preview, -⟩ := List.findIdx?_eq_some_iff_getElem.mp at_preview
    have old := List.getElem_cons_eraseIdx_perm inside
    have same : (partitionPinned (workspace.tabs.set replacing tab)).Perm (tab :: workspace.tabs.eraseIdx replacing) :=
      (partitionPinned_perm _).trans (List.set_perm_cons_eraseIdx inside tab)
    have rest_good := sound.good.sublist (List.eraseIdx_sublist workspace.tabs replacing)
    have rest_kept : ∀ other ∈ workspace.tabs.eraseIdx replacing, other.preview = false := by
      intro other member
      by_contra is_other
      have both := sound.good.onePreview other (List.mem_of_mem_eraseIdx member) _ (List.getElem_mem inside)
        (by simpa using is_other) is_preview
      have distinct := (old.map (·.id)).nodup_iff.mpr sound.good.ids
      exact (List.nodup_cons.mp distinct).1 (both ▸ List.mem_map_of_mem member)
    refine ⟨⟨(rest_good.cons shows_ (fun other member => fresh other (List.mem_of_mem_eraseIdx member))
      (fun _ => rest_kept) (fun pinned => by simp [unpinned] at pinned)).perm same, ?_, ?_⟩, tab, ?_, has, rfl⟩
    · intro other member
      rcases List.mem_cons.mp (same.mem_iff.mp member) with rfl | there
      · exact .inr ⟨threadId, rfl, shows_.2⟩
      · exact .inl ⟨other, List.mem_of_mem_eraseIdx there, rfl⟩
    · intro other member not_preview
      rcases List.mem_cons.mp (old.mem_iff.mpr member) with rfl | there
      · rw [is_preview] at not_preview
        cases not_preview
      · exact .inr ⟨other, same.mem_iff.mpr (List.mem_cons_of_mem _ there), rfl, rfl, not_preview⟩
    · exact same.mem_iff.mpr List.mem_cons_self
  · rename_i no_slot
    have single : tab.preview = true → ∀ other ∈ workspace.tabs, other.preview = false := by
      intro is_preview other member
      rw [flagged] at is_preview
      rw [is_preview, if_pos rfl] at no_slot
      simpa using List.findIdx?_eq_none_iff.mp no_slot other member
    have same : (partitionPinned (workspace.tabs ++ [tab])).Perm (tab :: workspace.tabs) :=
      (partitionPinned_perm _).trans List.perm_append_comm
    refine ⟨⟨(sound.good.cons shows_ fresh single (fun pinned => by simp [unpinned] at pinned)).perm same, ?_, ?_⟩,
      tab, same.mem_iff.mpr List.mem_cons_self, has, rfl⟩
    · intro other member
      rcases List.mem_cons.mp (same.mem_iff.mp member) with rfl | there
      · exact .inr ⟨threadId, rfl, shows_.2⟩
      · exact .inl ⟨other, there, rfl⟩
    · intro other member not_preview
      exact .inr ⟨other, same.mem_iff.mpr (List.mem_cons_of_mem _ member), rfl, rfl, not_preview⟩

/-- An operation begins by putting the workspace in order. -/
theorem Changes.of_create (good : Good workspace.tabs)
    (changes : Changes opened closed (createTabWorkspace workspace) next) : Changes opened closed workspace next where
  good := changes.good
  within tab member := (changes.within tab member).imp_left fun ⟨old, there, layout⟩ =>
    ⟨old, (mem_createTabWorkspace good).mp there, layout⟩
  keeps tab member preview := changes.keeps tab ((mem_createTabWorkspace good).mpr member) preview

theorem createTabWorkspace_idem (good : Good workspace.tabs) :
    createTabWorkspace (createTabWorkspace workspace) = createTabWorkspace workspace :=
  createTabWorkspace_of_sound (sound_createTabWorkspace good)

theorem closeTab_changes_of_good (good : Good workspace.tabs) :
    Changes opened (fun tab => tab.id = tabId) workspace (closeTab workspace tabId) := by
  have same : closeTab (createTabWorkspace workspace) tabId = closeTab workspace tabId := by
    unfold closeTab
    rw [createTabWorkspace_idem good]
  exact .of_create good (same ▸ closeTab_changes (sound_createTabWorkspace good))

theorem promoteTab_changes_of_good (good : Good workspace.tabs) :
    Changes opened closed workspace (promoteTab workspace tabId) := by
  have same : promoteTab (createTabWorkspace workspace) tabId = promoteTab workspace tabId := by
    unfold promoteTab
    rw [createTabWorkspace_idem good]
  exact .of_create good (same ▸ promoteTab_changes (sound_createTabWorkspace good))

theorem focusTab_changes_of_good (good : Good workspace.tabs) :
    Changes opened closed workspace (focusTab workspace tabId) := by
  have same : focusTab (createTabWorkspace workspace) tabId = focusTab workspace tabId := by
    unfold focusTab
    rw [createTabWorkspace_idem good]
  exact .of_create good (same ▸ focusTab_changes (sound_createTabWorkspace good))

/-- An operation that moves nothing but marks and focus, after another. -/
theorem Changes.then_marks {last : TabWorkspace} (changes : Changes opened closed workspace next)
    (marks : Changes none (fun _ => False) next last) : Changes opened closed workspace last where
  good := marks.good
  within tab member := by
    obtain ⟨old, there, layout⟩ | ⟨_, absurd_, -⟩ := marks.within tab member
    · exact layout ▸ changes.within old there
    · cases absurd_
  keeps tab member preview := by
    obtain gone | ⟨kept, there, id, layout, preview'⟩ := changes.keeps tab member preview
    · exact .inl gone
    · obtain ⟨kept', there', id', layout', preview''⟩ := (marks.keeps kept there preview').resolve_left False.elim
      exact .inr ⟨kept', there', id'.trans id, layout'.trans layout, preview''⟩

theorem Changes.promote (changes : Changes opened closed workspace next) :
    Changes opened closed workspace (promoteTab next tabId) :=
  changes.then_marks (promoteTab_changes_of_good changes.good)

theorem Changes.promoteAny (changes : Changes opened closed workspace next) (tab : Option Tab) :
    Changes opened closed workspace (tab.elim next fun tab => promoteTab next tab.id) := by
  cases tab with
  | none => exact changes
  | some tab => exact changes.promote

theorem Changes.focus (changes : Changes opened closed workspace next) :
    Changes opened closed workspace (focusTab next tabId) :=
  changes.then_marks (focusTab_changes_of_good changes.good)

/-- Closing tabs one after the other. -/
theorem foldl_closeTab_changes (good : Good workspace.tabs) (closing : List Tab) :
    Changes none (fun tab => tab.id ∈ closing.map (·.id)) workspace
      (closing.foldl (fun workspace tab => closeTab workspace tab.id) workspace) := by
  induction closing generalizing workspace with
  | nil =>
    exact ⟨good, fun tab member => .inl ⟨tab, member, rfl⟩, fun tab member preview => .inr ⟨tab, member, rfl, rfl, preview⟩⟩
  | cons first rest ih =>
    have one : Changes none (fun tab => tab.id = first.id) workspace (closeTab workspace first.id) :=
      closeTab_changes_of_good good
    have all := one.trans (ih one.good) fun tab other same closed => (same ▸ closed :)
    refine ⟨all.good, all.within, fun tab member preview => (all.keeps tab member preview).imp_left fun gone => ?_⟩
    rw [List.map_cons, List.mem_cons]
    exact gone

end Operations

end Sealwire.Tabs

import Mathlib.Data.List.Nodup
import Mathlib.Data.List.Perm.Basic
import Sealwire.Orchestration.Commands

namespace Sealwire.Orchestration

/-- What a value of a command's object decodes to, by its field. -/
inductive FieldValue
  | kind (kind : DriverCommandKind)
  | role (role : DriverRole)
  | candidates (candidates : BoundedVec ThreadHandle maxCandidateThreads)
  | thread (thread : ThreadHandle)
  | templateId (templateId : TemplateId)
  | bindings (bindings : BoundedVec ArtifactBinding maxCommandBindings)
  | scope (scope : DiffScope)
  | target (target : MergeBaseTarget)
  | messageTemplateId (messageTemplateId : TemplateId)
  | status (status : DriverRunStatus)

/-- The decoder of a field's type. -/
def DriverCommandField.decode (field : DriverCommandField) (value : Json) : Except DecodeError FieldValue :=
  match field with
  | .kind => (DriverCommandKind.deserialize value).map .kind
  | .role => (DriverRole.deserialize value).map .role
  | .candidates => (BoundedVec.deserialize BoundedToken.deserialize value).map .candidates
  | .thread => (BoundedToken.deserialize value).map .thread
  | .templateId => (BoundedToken.deserialize value).map .templateId
  | .bindings => (BoundedVec.deserialize ArtifactBinding.deserialize value).map .bindings
  | .scope => (DiffScope.variants.deserialize value).map .scope
  | .target => (MergeBaseTarget.variants.deserialize value).map .target
  | .messageTemplateId => (BoundedToken.deserialize value).map .messageTemplateId
  | .status => (DriverRunStatus.variants.deserialize value).map .status

/-- The fields that a command of the kind has beside the kind. -/
def DriverCommandKind.required : DriverCommandKind → List DriverCommandField
  | .requireWorkspace | .checkpointCommit | .pauseAtBoundary => []
  | .startThread => [.role]
  | .resumeOrStartThread => [.role, .candidates]
  | .runTemplate => [.thread, .role, .templateId, .bindings]
  | .collectDiff => [.scope]
  | .mergeBase => [.target]
  | .commit => [.messageTemplateId, .bindings]
  | .settleRun => [.status]

/-- The closed grammar of commands. -/
structure Grammatical (kind : DriverCommandKind) (fields : List (String × Json)) : Prop where
  once : (fields.map Prod.fst).Nodup
  kinded : ("kind", .string kind.asStr) ∈ fields
  names : ∀ name, name ∈ fields.map Prod.fst ↔ name = "kind" ∨ ∃ field ∈ kind.required, name = field.asStr
  values : ∀ field ∈ kind.required, ∀ value, (field.asStr, value) ∈ fields → ∃ read, field.decode value = .ok read

namespace DriverCommand

def Slots.get (slots : Slots) : DriverCommandField → Option FieldValue
  | .kind => slots.kind.map .kind
  | .role => slots.role.map .role
  | .candidates => slots.candidates.map .candidates
  | .thread => slots.thread.map .thread
  | .templateId => slots.templateId.map .templateId
  | .bindings => slots.bindings.map .bindings
  | .scope => slots.scope.map .scope
  | .target => slots.target.map .target
  | .messageTemplateId => slots.messageTemplateId.map .messageTemplateId
  | .status => slots.status.map .status

/-- The slots that hold exactly a command. -/
def slots : DriverCommand → Slots
  | requireWorkspace => { kind := some .requireWorkspace }
  | startThread role => { kind := some .startThread, role := some role }
  | resumeOrStartThread role candidates =>
    { kind := some .resumeOrStartThread, role := some role, candidates := some candidates }
  | runTemplate thread role templateId bindings =>
    { kind := some .runTemplate, thread := some thread, role := some role, templateId := some templateId,
      bindings := some bindings }
  | checkpointCommit => { kind := some .checkpointCommit }
  | collectDiff scope => { kind := some .collectDiff, scope := some scope }
  | mergeBase target => { kind := some .mergeBase, target := some target }
  | commit messageTemplateId bindings =>
    { kind := some .commit, messageTemplateId := some messageTemplateId, bindings := some bindings }
  | pauseAtBoundary => { kind := some .pauseAtBoundary }
  | settleRun status => { kind := some .settleRun, status := some status }

section Slots

variable {held next other : Slots} {field : DriverCommandField} {value : Json} {read : FieldValue}

theorem Slots.ext_get (same : ∀ field, held.get field = other.get field) : held = other := by
  obtain ⟨kind, role, candidates, thread, templateId, bindings, scope, target, messageTemplateId, status⟩ := held
  have kind_same := Option.map_injective (fun _ _ => FieldValue.kind.inj) (same .kind)
  have role_same := Option.map_injective (fun _ _ => FieldValue.role.inj) (same .role)
  have candidates_same := Option.map_injective (fun _ _ => FieldValue.candidates.inj) (same .candidates)
  have thread_same := Option.map_injective (fun _ _ => FieldValue.thread.inj) (same .thread)
  have template_same := Option.map_injective (fun _ _ => FieldValue.templateId.inj) (same .templateId)
  have bindings_same := Option.map_injective (fun _ _ => FieldValue.bindings.inj) (same .bindings)
  have scope_same := Option.map_injective (fun _ _ => FieldValue.scope.inj) (same .scope)
  have target_same := Option.map_injective (fun _ _ => FieldValue.target.inj) (same .target)
  have message_same := Option.map_injective (fun _ _ => FieldValue.messageTemplateId.inj) (same .messageTemplateId)
  have status_same := Option.map_injective (fun _ _ => FieldValue.status.inj) (same .status)
  subst_vars
  rfl

theorem map_eq_ok {α β : Type} {x : Except DecodeError α} {f : α → β} {b : β} (mapped : x.map f = .ok b) :
    ∃ a, x = .ok a ∧ f a = b := by
  cases x with
  | error _ => cases mapped
  | ok a => exact ⟨a, rfl, Except.ok.inj mapped⟩

/-- Reading a field fills its empty slot and no other. -/
theorem readField_fills (reads : readField held field value = .ok next) :
    held.get field = none ∧ (∃ read, field.decode value = .ok read ∧ next.get field = some read) ∧
      ∀ other, other ≠ field → next.get other = held.get other := by
  cases field <;>
  · obtain ⟨slot, read_once, rfl⟩ := map_eq_ok reads
    obtain ⟨absent, read, decoded, rfl⟩ := readMapField_eq_ok read_once
    refine ⟨congrArg (Option.map _) absent, ⟨_, ?_, rfl⟩, fun other different => ?_⟩
    · unfold DriverCommandField.decode
      rw [decoded]
      rfl
    · cases other <;> first | rfl | exact absurd rfl different

theorem readField_of_decode (absent : held.get field = none) (decoded : field.decode value = .ok read) :
    ∃ next, readField held field value = .ok next := by
  cases field <;>
  · obtain ⟨inner, decodes, -⟩ := map_eq_ok decoded
    have empty := Option.map_eq_none_iff.mp absent
    unfold readField
    rw [empty, readMapField_none decodes]
    exact ⟨_, rfl⟩

end Slots

/-- The slots hold what the pairs say, each key once, and nothing else. -/
structure Scanned (read : List (String × Json)) (held : Slots) : Prop where
  once : (read.map Prod.fst).Nodup
  entries : ∀ entry ∈ read, ∃ field value, entry.1 = field.asStr ∧ field.decode entry.2 = .ok value ∧
    held.get field = some value
  only : ∀ field, held.get field ≠ none → field.asStr ∈ read.map Prod.fst

section Scan

variable {read rest fields others : List (String × Json)} {held next : Slots} {entry : String × Json}
  {field : DriverCommandField} {kind : DriverCommandKind} {command : DriverCommand}

theorem scanned_nil : Scanned [] {} where
  once := List.nodup_nil
  entries _ member := by cases member
  only field held := by cases field <;> exact absurd rfl held

/-- The pair of a full slot. -/
theorem Scanned.entry_of_get {value : FieldValue} (scanned : Scanned read held) (full : held.get field = some value) :
    ∃ raw, (field.asStr, raw) ∈ read ∧ field.decode raw = .ok value := by
  obtain ⟨⟨name, raw⟩, member, named⟩ := List.mem_map.mp (scanned.only field (by simp [full]))
  obtain ⟨other, found, same, decoded, holds⟩ := scanned.entries _ member
  have fields_same : other = field := DriverCommandField.asStr_injective (same.symm.trans named)
  subst fields_same
  have values_same : found = value := Option.some.inj (holds.symm.trans full)
  exact ⟨raw, same ▸ member, values_same ▸ decoded⟩

theorem Scanned.get_of_entry {raw : Json} (scanned : Scanned read held) (member : (field.asStr, raw) ∈ read) :
    ∃ value, field.decode raw = .ok value ∧ held.get field = some value := by
  obtain ⟨other, value, same, decoded, holds⟩ := scanned.entries _ member
  have fields_same : field = other := DriverCommandField.asStr_injective same
  subst fields_same
  exact ⟨value, decoded, holds⟩

theorem Scanned.unique (scanned : Scanned read held) (scanned' : Scanned read next) : held = next := by
  have agree : ∀ {one other : Slots} {field value}, Scanned read one → Scanned read other → one.get field = some value →
      other.get field = some value := by
    intro one other field value one_scanned other_scanned full
    obtain ⟨raw, member, decoded⟩ := one_scanned.entry_of_get full
    obtain ⟨value', decoded', holds⟩ := other_scanned.get_of_entry member
    have same : value = value' := Except.ok.inj (decoded.symm.trans decoded')
    rw [holds, same]
  refine Slots.ext_get fun field => Option.ext fun value => ⟨?_, ?_⟩
  · exact agree scanned scanned'
  · exact agree scanned' scanned

theorem Scanned.perm (scanned : Scanned fields held) (same : fields.Perm others) : Scanned others held where
  once := (same.map Prod.fst).nodup_iff.mp scanned.once
  entries entry member := scanned.entries entry (same.mem_iff.mpr member)
  only field full := (same.map Prod.fst).mem_iff.mp (scanned.only field full)

theorem visitField_scanned (scanned : Scanned read held) (visits : visitField held entry = .ok next) :
    Scanned (read ++ [entry]) next := by
  obtain ⟨field, known, admitted_read⟩ := bind_eq_ok visits
  obtain ⟨_, _, reads⟩ := bind_eq_ok admitted_read
  have named := DriverCommandField.asStr_of_deserialize known
  obtain ⟨absent, ⟨value, decoded, filled⟩, frame⟩ := readField_fills reads
  have fresh : field.asStr ∉ read.map Prod.fst := by
    intro member
    obtain ⟨⟨name, raw⟩, there, same⟩ := List.mem_map.mp member
    obtain ⟨value, -, full⟩ := scanned.get_of_entry (same ▸ there : (field.asStr, raw) ∈ read)
    rw [absent] at full
    cases full
  refine ⟨?_, ?_, ?_⟩
  · rw [List.map_append, List.map_singleton, ← List.concat_eq_append, List.nodup_concat]
    exact ⟨named ▸ fresh, scanned.once⟩
  · intro other member
    rcases List.mem_append.mp member with earlier | last
    · obtain ⟨old, value', old_named, old_decoded, full⟩ := scanned.entries other earlier
      have different : old ≠ field := by
        rintro rfl
        rw [absent] at full
        cases full
      exact ⟨old, value', old_named, old_decoded, (frame old different).trans full⟩
    · rw [List.mem_singleton.mp last]
      exact ⟨field, value, named, decoded, filled⟩
  · intro other full
    rw [List.map_append, List.mem_append]
    by_cases same : other = field
    · exact .inr (by simp [same, named])
    · rw [frame other same] at full
      exact .inl (scanned.only other full)

theorem foldlM_scanned (rest : List (String × Json)) :
    ∀ {read : List (String × Json)} {held last : Slots}, Scanned read held → rest.foldlM visitField held = .ok last →
      Scanned (read ++ rest) last := by
  induction rest with
  | nil =>
    intro read held last scanned run
    cases run
    simpa using scanned
  | cons entry rest ih =>
    intro read held last scanned run
    obtain ⟨next, visits, later⟩ := bind_eq_ok run
    have done := ih (visitField_scanned scanned visits) later
    simpa using done

theorem mem_required_iff : field ∈ kind.required ↔ commandFieldAllowedForKind kind field = true := by
  cases kind <;> cases field <;> decide

/-- Of an object of the grammar the next pair is always read. -/
theorem visitField_grammatical (grammatical : Grammatical kind fields) (split : fields = read ++ entry :: rest)
    (scanned : Scanned read held) : ∃ next, visitField held entry = .ok next := by
  have member : entry ∈ fields := by simp [split]
  have fresh : entry.1 ∉ read.map Prod.fst := by
    have once := grammatical.once
    rw [split, List.map_append, List.map_cons] at once
    exact fun there => (List.nodup_append.mp once).2.2 _ there _ List.mem_cons_self rfl
  obtain ⟨field, named, allowed, value, decoded⟩ : ∃ field, entry.1 = field.asStr ∧
      (field = .kind ∨ field ∈ kind.required) ∧ ∃ value, field.decode entry.2 = .ok value := by
    rcases (grammatical.names entry.1).mp (List.mem_map_of_mem member) with is_kind | ⟨field, required, named⟩
    · have same : entry = ("kind", .string kind.asStr) :=
        List.inj_on_of_nodup_map grammatical.once member grammatical.kinded is_kind
      refine ⟨.kind, is_kind, .inl rfl, .kind kind, ?_⟩
      rw [same]
      simp [DriverCommandField.decode, DriverCommandKind.deserialize, Except.map]
    · exact ⟨field, named, .inr required, grammatical.values field required entry.2 (named ▸ member)⟩
  have absent : held.get field = none := by
    by_contra full
    exact fresh (named ▸ scanned.only field full)
  have admitted : admitField held.kind field = .ok () := by
    cases seen : held.kind with
    | none => rfl
    | some seen_kind =>
      have full : held.get .kind = some (.kind seen_kind) := by simp [Slots.get, seen]
      obtain ⟨raw, earlier, reads⟩ := scanned.entry_of_get full
      have in_fields : ("kind", raw) ∈ fields := by
        rw [split]
        exact List.mem_append_left _ earlier
      have same : ("kind", raw) = ("kind", Json.string kind.asStr) :=
        List.inj_on_of_nodup_map grammatical.once in_fields grammatical.kinded rfl
      have kinds : seen_kind = kind := by
        rw [(Prod.mk.inj same).2] at reads
        simpa [DriverCommandField.decode, DriverCommandKind.deserialize, Except.map] using reads.symm
      rw [kinds]
      refine if_neg fun refused => ?_
      have required := allowed.resolve_left refused.1
      rw [mem_required_iff, refused.2] at required
      cases required
  obtain ⟨next, reads⟩ := readField_of_decode absent decoded
  refine ⟨next, ?_⟩
  simp only [visitField, named, DriverCommandField.deserialize_asStr, Bind.bind, Except.bind, admitted, reads]

theorem foldlM_grammatical (grammatical : Grammatical kind fields) (rest : List (String × Json)) :
    ∀ {read : List (String × Json)} {held : Slots}, fields = read ++ rest → Scanned read held →
      ∃ last, rest.foldlM visitField held = .ok last := by
  induction rest with
  | nil => exact fun _ _ => ⟨_, rfl⟩
  | cons entry rest ih =>
    intro read held split scanned
    obtain ⟨next, visits⟩ := visitField_grammatical grammatical split scanned
    obtain ⟨last, run⟩ := ih (by simp [split]) (visitField_scanned scanned visits)
    refine ⟨last, ?_⟩
    rw [List.foldlM_cons, visits]
    exact run

end Scan

section Ends

variable {held : Slots} {kind : DriverCommandKind} {command : DriverCommand} {fields others : List (String × Json)}

theorem requiredMapField_bind {α β : Type} {slot : Option α} {field : String} {f : α → Except DecodeError β} {b : β} :
    (requiredMapField slot field >>= f) = .ok b ↔ ∃ a, slot = some a ∧ f a = .ok b := by
  cases slot with
  | none => exact ⟨nofun, nofun⟩
  | some a => exact ⟨fun rest => ⟨a, rfl, rest⟩, fun ⟨_, same, rest⟩ => by cases same; exact rest⟩

theorem rejectCommandExtra_bind {α β : Type} {slot : Option α} {field kind : String} {rest : Except DecodeError β} {b : β} :
    (rejectCommandExtra slot field kind >>= fun _ => rest) = .ok b ↔ slot = none ∧ rest = .ok b := by
  cases slot with
  | none => exact ⟨fun rest => ⟨rfl, rest⟩, And.right⟩
  | some _ => exact ⟨nofun, fun ⟨absurd_, _⟩ => nomatch absurd_⟩

/-- The slots a command comes from are exactly those that hold it. -/
theorem ofSlots_eq_ok_iff : ofSlots held = .ok command ↔ held = command.slots := by
  constructor
  · intro ends
    obtain ⟨kind, role, candidates, thread, templateId, bindings, scope, target, messageTemplateId, status⟩ := held
    unfold ofSlots at ends
    obtain ⟨kind, is_kind, ends⟩ := requiredMapField_bind.mp ends
    have kind_same : _ = some kind := is_kind
    subst kind_same
    cases kind <;>
    · simp only [requiredMapField_bind, rejectCommandExtra_bind, Except.ok.injEq] at ends
      casesm* _ ∧ _, ∃ _, _
      subst_vars
      rfl
  · rintro rfl
    cases command <;> rfl

/-- A command's slots are its kind and the fields of the kind. -/
theorem slots_kind (command : DriverCommand) : ∃ kind, command.slots.kind = some kind ∧
    ∀ field, command.slots.get field ≠ none ↔ field = .kind ∨ field ∈ kind.required := by
  cases command <;> refine ⟨_, rfl, fun field => ?_⟩ <;> cases field <;>
    simp [slots, Slots.get, DriverCommandKind.required]

/-- Slots with the kind and exactly its fields hold a command. -/
theorem exists_slots_eq (is_kind : held.kind = some kind)
    (present : ∀ field, held.get field ≠ none ↔ field = .kind ∨ field ∈ kind.required) :
    ∃ command : DriverCommand, held = command.slots := by
  obtain ⟨_, role, candidates, thread, templateId, bindings, scope, target, messageTemplateId, status⟩ := held
  have kind_same : _ = some kind := is_kind
  subst kind_same
  have role_there := present .role
  have candidates_there := present .candidates
  have thread_there := present .thread
  have template_there := present .templateId
  have bindings_there := present .bindings
  have scope_there := present .scope
  have target_there := present .target
  have message_there := present .messageTemplateId
  have status_there := present .status
  cases kind <;>
    simp only [Slots.get, DriverCommandKind.required, ne_eq, Option.map_eq_none_iff, reduceCtorEq, List.mem_cons,
      List.not_mem_nil, or_false, or_true, or_self, iff_true, iff_false, not_not]
      at role_there candidates_there thread_there template_there bindings_there scope_there target_there message_there status_there
  case requireWorkspace =>
    subst_vars
    exact ⟨.requireWorkspace, rfl⟩
  case startThread =>
    obtain ⟨role, rfl⟩ := Option.ne_none_iff_exists'.mp role_there
    subst_vars
    exact ⟨.startThread role, rfl⟩
  case resumeOrStartThread =>
    obtain ⟨role, rfl⟩ := Option.ne_none_iff_exists'.mp role_there
    obtain ⟨candidates, rfl⟩ := Option.ne_none_iff_exists'.mp candidates_there
    subst_vars
    exact ⟨.resumeOrStartThread role candidates, rfl⟩
  case runTemplate =>
    obtain ⟨thread, rfl⟩ := Option.ne_none_iff_exists'.mp thread_there
    obtain ⟨role, rfl⟩ := Option.ne_none_iff_exists'.mp role_there
    obtain ⟨templateId, rfl⟩ := Option.ne_none_iff_exists'.mp template_there
    obtain ⟨bindings, rfl⟩ := Option.ne_none_iff_exists'.mp bindings_there
    subst_vars
    exact ⟨.runTemplate thread role templateId bindings, rfl⟩
  case checkpointCommit =>
    subst_vars
    exact ⟨.checkpointCommit, rfl⟩
  case collectDiff =>
    obtain ⟨scope, rfl⟩ := Option.ne_none_iff_exists'.mp scope_there
    subst_vars
    exact ⟨.collectDiff scope, rfl⟩
  case mergeBase =>
    obtain ⟨target, rfl⟩ := Option.ne_none_iff_exists'.mp target_there
    subst_vars
    exact ⟨.mergeBase target, rfl⟩
  case commit =>
    obtain ⟨messageTemplateId, rfl⟩ := Option.ne_none_iff_exists'.mp message_there
    obtain ⟨bindings, rfl⟩ := Option.ne_none_iff_exists'.mp bindings_there
    subst_vars
    exact ⟨.commit messageTemplateId bindings, rfl⟩
  case pauseAtBoundary =>
    subst_vars
    exact ⟨.pauseAtBoundary, rfl⟩
  case settleRun =>
    obtain ⟨status, rfl⟩ := Option.ne_none_iff_exists'.mp status_there
    subst_vars
    exact ⟨.settleRun status, rfl⟩

theorem scanned_of_deserialize (decodes : deserialize (.object fields) = .ok command) : Scanned fields command.slots := by
  obtain ⟨held, run, ends⟩ := bind_eq_ok decodes
  have scanned := foldlM_scanned fields scanned_nil run
  rwa [ofSlots_eq_ok_iff.mp ends] at scanned

theorem Scanned.grammatical (scanned : Scanned fields command.slots) : ∃ kind, Grammatical kind fields := by
  obtain ⟨kind, is_kind, present⟩ := command.slots_kind
  have full : command.slots.get .kind = some (.kind kind) := by simp [Slots.get, is_kind]
  obtain ⟨raw, member, decoded⟩ := scanned.entry_of_get full
  obtain ⟨read_kind, reads, same⟩ := map_eq_ok decoded
  have written := DriverCommandKind.deserialize_eq_ok.mp reads
  refine ⟨kind, scanned.once, ?_, fun name => ⟨fun among => ?_, ?_⟩, fun field _ value there => ?_⟩
  · rw [← FieldValue.kind.inj same, ← written]
    exact member
  · obtain ⟨entry, there, rfl⟩ := List.mem_map.mp among
    obtain ⟨field, value, named, -, holds⟩ := scanned.entries entry there
    rcases (present field).mp (by simp [holds]) with rfl | required
    · exact .inl named
    · exact .inr ⟨field, required, named⟩
  · rintro (rfl | ⟨field, required, rfl⟩)
    · exact List.mem_map_of_mem member
    · exact scanned.only field ((present field).mpr (.inr required))
  · obtain ⟨read, decodes, -⟩ := scanned.get_of_entry there
    exact ⟨read, decodes⟩

theorem decodes_of_grammatical (grammatical : Grammatical kind fields) :
    ∃ command, deserialize (.object fields) = .ok command := by
  obtain ⟨held, run⟩ := foldlM_grammatical grammatical fields (List.nil_append fields).symm scanned_nil
  have scanned : Scanned fields held := foldlM_scanned fields scanned_nil run
  have kinded : (DriverCommandField.kind.asStr, Json.string kind.asStr) ∈ fields := grammatical.kinded
  obtain ⟨value, decoded, holds⟩ := scanned.get_of_entry kinded
  have is_kind : held.kind = some kind := by
    obtain ⟨read_kind, reads, rfl⟩ := map_eq_ok decoded
    obtain ⟨held_kind, has, same⟩ := Option.map_eq_some_iff.mp holds
    have written := Json.string.inj (DriverCommandKind.deserialize_eq_ok.mp reads)
    have visits := DriverCommandKind.visitStr_asStr kind
    rw [written, DriverCommandKind.visitStr_asStr] at visits
    rw [has, FieldValue.kind.inj same, Except.ok.inj visits]
  have present : ∀ field, held.get field ≠ none ↔ field = .kind ∨ field ∈ kind.required := by
    intro field
    constructor
    · intro full
      rcases (grammatical.names field.asStr).mp (scanned.only field full) with is_kind | ⟨other, required, same⟩
      · exact .inl (DriverCommandField.asStr_injective is_kind)
      · exact .inr (DriverCommandField.asStr_injective same ▸ required)
    · intro among
      have named : field.asStr ∈ fields.map Prod.fst := by
        refine (grammatical.names field.asStr).mpr ?_
        rcases among with rfl | required
        · exact .inl rfl
        · exact .inr ⟨field, required, rfl⟩
      obtain ⟨⟨_, raw⟩, there, rfl⟩ := List.mem_map.mp named
      obtain ⟨value, -, full⟩ := scanned.get_of_entry there
      simp [full]
  obtain ⟨command, same⟩ := exists_slots_eq is_kind present
  refine ⟨command, ?_⟩
  have ends := ofSlots_eq_ok_iff.mpr same
  simp only [deserialize, Visitor.deserializeAny, visitMap, run, Bind.bind, Except.bind, ends]

/-- An object decodes to the command that its pairs say, in whatever order they stand. -/
theorem deserialize_eq_ok_iff : deserialize (.object fields) = .ok command ↔ Scanned fields command.slots := by
  refine ⟨scanned_of_deserialize, fun scanned => ?_⟩
  obtain ⟨kind, grammatical⟩ := scanned.grammatical
  obtain ⟨other, decodes⟩ := decodes_of_grammatical grammatical
  have same := scanned.unique (scanned_of_deserialize decodes)
  have ends := ofSlots_eq_ok_iff.mpr same
  rw [ofSlots_eq_ok_iff.mpr rfl] at ends
  rw [decodes, Except.ok.inj ends]

/-- A command that is written is read again. -/
theorem deserialize_serialize (command : DriverCommand) : deserialize (.object command.serialize) = .ok command := by
  have bindings_again : ∀ bindings : BoundedVec ArtifactBinding maxCommandBindings,
      BoundedVec.deserialize ArtifactBinding.deserialize (bindings.serialize ArtifactBinding.serialize) = .ok bindings :=
    BoundedVec.deserialize_serialize ArtifactBinding.deserialize_serialize
  have candidates_again : ∀ candidates : BoundedVec ThreadHandle maxCandidateThreads,
      BoundedVec.deserialize BoundedToken.deserialize (candidates.serialize BoundedToken.serialize) = .ok candidates :=
    BoundedVec.deserialize_serialize BoundedToken.deserialize_serialize
  cases command <;>
    simp [deserialize, serialize, Visitor.deserializeAny, visitMap, visitField, DriverCommandField.deserialize, admitField,
      commandFieldAllowedForKind, readField, readMapField, DriverCommandKind.deserialize, DriverCommandKind.visitStr,
      ofSlots, requiredMapField, rejectCommandExtra, bindings_again, candidates_again, Except.map, Bind.bind, Except.bind,
      Pure.pure, Except.pure]

theorem accepts_closed_grammar (fields : List (String × Json)) :
    ((∃ command, deserialize (.object fields) = .ok command) ↔ ∃ kind, Grammatical kind fields) ∧
      (∀ others, fields.Perm others →
        (deserialize (.object fields)).toOption = (deserialize (.object others)).toOption) ∧
      ((¬ ∃ kind, Grammatical kind fields) → (deserialize (.object fields)).toOption = none) ∧
      ∀ command : DriverCommand, deserialize (.object command.serialize) = .ok command := by
  have accepts : ∀ fields, (∃ command, deserialize (.object fields) = .ok command) ↔ ∃ kind, Grammatical kind fields :=
    fun fields => ⟨fun ⟨_, decodes⟩ => (scanned_of_deserialize decodes).grammatical,
      fun ⟨_, grammatical⟩ => decodes_of_grammatical grammatical⟩
  have carries : ∀ {fields others : List (String × Json)} {command}, fields.Perm others →
      (deserialize (.object fields)).toOption = some command → (deserialize (.object others)).toOption = some command := by
    intro fields others command same decodes
    cases read : deserialize (.object fields) with
    | error _ =>
      rw [read] at decodes
      cases decodes
    | ok first =>
      rw [read] at decodes
      cases decodes
      rw [deserialize_eq_ok_iff.mpr ((deserialize_eq_ok_iff.mp read).perm same)]
      rfl
  refine ⟨accepts fields, fun others same => Option.ext fun command => ⟨carries same, carries same.symm⟩, ?_,
    deserialize_serialize⟩
  intro outside
  cases decoded : deserialize (.object fields) with
  | error _ => rfl
  | ok command => exact absurd ((accepts fields).mp ⟨command, decoded⟩) outside

end Ends

end DriverCommand

end Sealwire.Orchestration

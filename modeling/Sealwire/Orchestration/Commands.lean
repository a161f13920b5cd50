import Sealwire.Orchestration.Artifacts

namespace Sealwire.Orchestration

def maxCommandBindings : Nat := 16

def maxCandidateThreads : Nat := 16

/-- Sanitized team status for the content-blind driver cursor. -/
inductive DriverRunStatus
  | queued
  | running
  | pausePending
  | paused
  | awaitingUser
  | done
  | escalated
  | blocked
  | resolving
  | failed
  | interrupted
  | cancelled
  deriving DecidableEq

def DriverRunStatus.asStr : DriverRunStatus → String
  | queued => "queued"
  | running => "running"
  | pausePending => "pause_pending"
  | paused => "paused"
  | awaitingUser => "awaiting_user"
  | done => "done"
  | escalated => "escalated"
  | blocked => "blocked"
  | resolving => "resolving"
  | failed => "failed"
  | interrupted => "interrupted"
  | cancelled => "cancelled"

def DriverRunStatus.variants : UnitVariants DriverRunStatus where
  all := [.queued, .running, .pausePending, .paused, .awaitingUser, .done, .escalated, .blocked, .resolving, .failed,
    .interrupted, .cancelled]
  name := asStr
  complete variant := by cases variant <;> decide
  distinct one other same := by cases one <;> cases other <;> first | rfl | exact absurd same (by decide)

/-- Stable role vocabulary. -/
inductive DriverRole
  | tl
  | dev
  | reviewer
  deriving DecidableEq

namespace DriverRole

def asStr : DriverRole → String
  | tl => "tl"
  | dev => "dev"
  | reviewer => "reviewer"

def fromWire : String → Option DriverRole
  | "tl" => some tl
  | "dev" => some dev
  | "reviewer" => some reviewer
  | _ => none

def deserialize : Json → Except DecodeError DriverRole :=
  deserializeStr "a string" fun raw =>
    match fromWire raw with
    | some role => .ok role
    | none => .error (.custom ("unsupported driver role `" ++ raw ++ "`"))

def serialize (role : DriverRole) : Json := .string role.asStr

@[simp] theorem deserialize_serialize (role : DriverRole) : deserialize role.serialize = .ok role := by
  cases role <;> rfl

end DriverRole

/-- Diff target selected without exposing refs or paths. -/
inductive DiffScope
  | head
  | currentSubTask
  | mergeBaseTarget
  deriving DecidableEq

def DiffScope.asStr : DiffScope → String
  | head => "head"
  | currentSubTask => "current_sub_task"
  | mergeBaseTarget => "merge_base_target"

def DiffScope.variants : UnitVariants DiffScope where
  all := [.head, .currentSubTask, .mergeBaseTarget]
  name := asStr
  complete variant := by cases variant <;> decide
  distinct one other same := by cases one <;> cases other <;> first | rfl | exact absurd same (by decide)

inductive MergeBaseTarget
  | pinnedTarget
  deriving DecidableEq

def MergeBaseTarget.asStr : MergeBaseTarget → String
  | pinnedTarget => "pinned_target"

def MergeBaseTarget.variants : UnitVariants MergeBaseTarget where
  all := [.pinnedTarget]
  name := asStr
  complete variant := by cases variant; decide
  distinct one other _ := by cases one; cases other; rfl

/-- Closed commands a content-blind driver may ask the local executor to perform. -/
inductive DriverCommand
  | requireWorkspace
  | startThread (role : DriverRole)
  | resumeOrStartThread (role : DriverRole) (candidates : BoundedVec ThreadHandle maxCandidateThreads)
  | runTemplate (thread : ThreadHandle) (role : DriverRole) (templateId : TemplateId)
      (bindings : BoundedVec ArtifactBinding maxCommandBindings)
  | checkpointCommit
  | collectDiff (scope : DiffScope)
  | mergeBase (target : MergeBaseTarget)
  | commit (messageTemplateId : TemplateId) (bindings : BoundedVec ArtifactBinding maxCommandBindings)
  | pauseAtBoundary
  | settleRun (status : DriverRunStatus)
  deriving DecidableEq

inductive DriverCommandField
  | kind
  | role
  | candidates
  | thread
  | templateId
  | bindings
  | scope
  | target
  | messageTemplateId
  | status
  deriving DecidableEq

def driverCommandFields : List String :=
  ["kind", "role", "candidates", "thread", "template_id", "bindings", "scope", "target", "message_template_id", "status"]

namespace DriverCommandField

def asStr : DriverCommandField → String
  | kind => "kind"
  | role => "role"
  | candidates => "candidates"
  | thread => "thread"
  | templateId => "template_id"
  | bindings => "bindings"
  | scope => "scope"
  | target => "target"
  | messageTemplateId => "message_template_id"
  | status => "status"

/-- Keys of an object are strings. -/
def deserialize : String → Except DecodeError DriverCommandField
  | "kind" => .ok kind
  | "role" => .ok role
  | "candidates" => .ok candidates
  | "thread" => .ok thread
  | "template_id" => .ok templateId
  | "bindings" => .ok bindings
  | "scope" => .ok scope
  | "target" => .ok target
  | "message_template_id" => .ok messageTemplateId
  | "status" => .ok status
  | value => .error (.unknownField value driverCommandFields)

@[simp] theorem deserialize_asStr (field : DriverCommandField) : deserialize field.asStr = .ok field := by
  cases field <;> rfl

theorem asStr_of_deserialize {name : String} {field : DriverCommandField} (known : deserialize name = .ok field) :
    name = field.asStr := by
  unfold deserialize at known
  split at known <;> cases known <;> rfl

theorem asStr_injective : Function.Injective asStr := by
  intro field other same
  have read := deserialize_asStr field
  rw [same, deserialize_asStr] at read
  exact (Except.ok.inj read).symm

end DriverCommandField

inductive DriverCommandKind
  | requireWorkspace
  | startThread
  | resumeOrStartThread
  | runTemplate
  | checkpointCommit
  | collectDiff
  | mergeBase
  | commit
  | pauseAtBoundary
  | settleRun
  deriving DecidableEq

def driverCommandKinds : List String :=
  ["require_workspace", "start_thread", "resume_or_start_thread", "run_template", "checkpoint_commit", "collect_diff",
    "merge_base", "commit", "pause_at_boundary", "settle_run"]

namespace DriverCommandKind

def asStr : DriverCommandKind → String
  | requireWorkspace => "require_workspace"
  | startThread => "start_thread"
  | resumeOrStartThread => "resume_or_start_thread"
  | runTemplate => "run_template"
  | checkpointCommit => "checkpoint_commit"
  | collectDiff => "collect_diff"
  | mergeBase => "merge_base"
  | commit => "commit"
  | pauseAtBoundary => "pause_at_boundary"
  | settleRun => "settle_run"

def visitStr : String → Except DecodeError DriverCommandKind
  | "require_workspace" => .ok requireWorkspace
  | "start_thread" => .ok startThread
  | "resume_or_start_thread" => .ok resumeOrStartThread
  | "run_template" => .ok runTemplate
  | "checkpoint_commit" => .ok checkpointCommit
  | "collect_diff" => .ok collectDiff
  | "merge_base" => .ok mergeBase
  | "commit" => .ok commit
  | "pause_at_boundary" => .ok pauseAtBoundary
  | "settle_run" => .ok settleRun
  | value => .error (.unknownVariant value driverCommandKinds)

def deserialize : Json → Except DecodeError DriverCommandKind := deserializeStr "a driver command kind" visitStr

@[simp] theorem visitStr_asStr (kind : DriverCommandKind) : visitStr kind.asStr = .ok kind := by
  cases kind <;> rfl

theorem asStr_of_visitStr {name : String} {kind : DriverCommandKind} (known : visitStr name = .ok kind) :
    name = kind.asStr := by
  unfold visitStr at known
  split at known <;> cases known <;> rfl

theorem deserialize_eq_ok {value : Json} {kind : DriverCommandKind} :
    deserialize value = .ok kind ↔ value = .string kind.asStr := by
  constructor
  · intro reads
    obtain ⟨name, rfl, named⟩ := deserializeStr_eq_ok reads
    rw [asStr_of_visitStr named]
  · rintro rfl
    exact visitStr_asStr kind

end DriverCommandKind

def rejectCommandExtra {α : Type} (slot : Option α) (field kind : String) : Except DecodeError Unit :=
  if slot.isSome then .error (.custom ("field " ++ field ++ " is not valid for " ++ kind ++ " command")) else .ok ()

def commandFieldAllowedForKind (kind : DriverCommandKind) (field : DriverCommandField) : Bool :=
  match kind with
  | .requireWorkspace | .checkpointCommit | .pauseAtBoundary => false
  | .startThread => (field matches .role)
  | .resumeOrStartThread => (field matches .role | .candidates)
  | .runTemplate => (field matches .thread | .role | .templateId | .bindings)
  | .collectDiff => (field matches .scope)
  | .mergeBase => (field matches .target)
  | .commit => (field matches .messageTemplateId | .bindings)
  | .settleRun => (field matches .status)

namespace DriverCommand

/-- What `visit_map` has read so far. -/
structure Slots where
  kind : Option DriverCommandKind := none
  role : Option DriverRole := none
  candidates : Option (BoundedVec ThreadHandle maxCandidateThreads) := none
  thread : Option ThreadHandle := none
  templateId : Option TemplateId := none
  bindings : Option (BoundedVec ArtifactBinding maxCommandBindings) := none
  scope : Option DiffScope := none
  target : Option MergeBaseTarget := none
  messageTemplateId : Option TemplateId := none
  status : Option DriverRunStatus := none

/-- A key is refused before its value is read, where the kind is known by then. -/
def admitField (kind : Option DriverCommandKind) (field : DriverCommandField) : Except DecodeError Unit :=
  match kind with
  | none => .ok ()
  | some kind =>
    if field ≠ .kind ∧ commandFieldAllowedForKind kind field = false then
      .error (.custom ("field " ++ field.asStr ++ " is not valid for " ++ kind.asStr ++ " command"))
    else .ok ()

def readField (slots : Slots) (field : DriverCommandField) (value : Json) : Except DecodeError Slots :=
  match field with
  | .kind => (readMapField slots.kind "kind" DriverCommandKind.deserialize value).map fun kind => { slots with kind }
  | .role => (readMapField slots.role "role" DriverRole.deserialize value).map fun role => { slots with role }
  | .candidates => (readMapField slots.candidates "candidates" (BoundedVec.deserialize BoundedToken.deserialize) value).map
      fun candidates => { slots with candidates }
  | .thread => (readMapField slots.thread "thread" BoundedToken.deserialize value).map fun thread => { slots with thread }
  | .templateId => (readMapField slots.templateId "template_id" BoundedToken.deserialize value).map
      fun templateId => { slots with templateId }
  | .bindings => (readMapField slots.bindings "bindings" (BoundedVec.deserialize ArtifactBinding.deserialize) value).map
      fun bindings => { slots with bindings }
  | .scope => (readMapField slots.scope "scope" DiffScope.variants.deserialize value).map fun scope => { slots with scope }
  | .target => (readMapField slots.target "target" MergeBaseTarget.variants.deserialize value).map
      fun target => { slots with target }
  | .messageTemplateId => (readMapField slots.messageTemplateId "message_template_id" BoundedToken.deserialize value).map
      fun messageTemplateId => { slots with messageTemplateId }
  | .status => (readMapField slots.status "status" DriverRunStatus.variants.deserialize value).map
      fun status => { slots with status }

def visitField (slots : Slots) (entry : String × Json) : Except DecodeError Slots := do
  let field ← DriverCommandField.deserialize entry.1
  admitField slots.kind field
  readField slots field entry.2

/-- The end of `visit_map`: the command of the kind, if the slots are exactly its fields. -/
def ofSlots (slots : Slots) : Except DecodeError DriverCommand := do
  let kind ← requiredMapField slots.kind "kind"
  match kind with
  | .requireWorkspace => do
    rejectCommandExtra slots.role "role" kind.asStr
    rejectCommandExtra slots.candidates "candidates" kind.asStr
    rejectCommandExtra slots.thread "thread" kind.asStr
    rejectCommandExtra slots.templateId "template_id" kind.asStr
    rejectCommandExtra slots.bindings "bindings" kind.asStr
    rejectCommandExtra slots.scope "scope" kind.asStr
    rejectCommandExtra slots.target "target" kind.asStr
    rejectCommandExtra slots.messageTemplateId "message_template_id" kind.asStr
    rejectCommandExtra slots.status "status" kind.asStr
    .ok .requireWorkspace
  | .startThread => do
    let role ← requiredMapField slots.role "role"
    rejectCommandExtra slots.candidates "candidates" kind.asStr
    rejectCommandExtra slots.thread "thread" kind.asStr
    rejectCommandExtra slots.templateId "template_id" kind.asStr
    rejectCommandExtra slots.bindings "bindings" kind.asStr
    rejectCommandExtra slots.scope "scope" kind.asStr
    rejectCommandExtra slots.target "target" kind.asStr
    rejectCommandExtra slots.messageTemplateId "message_template_id" kind.asStr
    rejectCommandExtra slots.status "status" kind.asStr
    .ok (.startThread role)
  | .resumeOrStartThread => do
    let role ← requiredMapField slots.role "role"
    let candidates ← requiredMapField slots.candidates "candidates"
    rejectCommandExtra slots.thread "thread" kind.asStr
    rejectCommandExtra slots.templateId "template_id" kind.asStr
    rejectCommandExtra slots.bindings "bindings" kind.asStr
    rejectCommandExtra slots.scope "scope" kind.asStr
    rejectCommandExtra slots.target "target" kind.asStr
    rejectCommandExtra slots.messageTemplateId "message_template_id" kind.asStr
    rejectCommandExtra slots.status "status" kind.asStr
    .ok (.resumeOrStartThread role candidates)
  | .runTemplate => do
    let thread ← requiredMapField slots.thread "thread"
    let role ← requiredMapField slots.role "role"
    let templateId ← requiredMapField slots.templateId "template_id"
    let bindings ← requiredMapField slots.bindings "bindings"
    rejectCommandExtra slots.candidates "candidates" kind.asStr
    rejectCommandExtra slots.scope "scope" kind.asStr
    rejectCommandExtra slots.target "target" kind.asStr
    rejectCommandExtra slots.messageTemplateId "message_template_id" kind.asStr
    rejectCommandExtra slots.status "status" kind.asStr
    .ok (.runTemplate thread role templateId bindings)
  | .checkpointCommit => do
    rejectCommandExtra slots.role "role" kind.asStr
    rejectCommandExtra slots.candidates "candidates" kind.asStr
    rejectCommandExtra slots.thread "thread" kind.asStr
    rejectCommandExtra slots.templateId "template_id" kind.asStr
    rejectCommandExtra slots.bindings "bindings" kind.asStr
    rejectCommandExtra slots.scope "scope" kind.asStr
    rejectCommandExtra slots.target "target" kind.asStr
    rejectCommandExtra slots.messageTemplateId "message_template_id" kind.asStr
    rejectCommandExtra slots.status "status" kind.asStr
    .ok .checkpointCommit
  | .collectDiff => do
    let scope ← requiredMapField slots.scope "scope"
    rejectCommandExtra slots.role "role" kind.asStr
    rejectCommandExtra slots.candidates "candidates" kind.asStr
    rejectCommandExtra slots.thread "thread" kind.asStr
    rejectCommandExtra slots.templateId "template_id" kind.asStr
    rejectCommandExtra slots.bindings "bindings" kind.asStr
    rejectCommandExtra slots.target "target" kind.asStr
    rejectCommandExtra slots.messageTemplateId "message_template_id" kind.asStr
    rejectCommandExtra slots.status "status" kind.asStr
    .ok (.collectDiff scope)
  | .mergeBase => do
    let target ← requiredMapField slots.target "target"
    rejectCommandExtra slots.role "role" kind.asStr
    rejectCommandExtra slots.candidates "candidates" kind.asStr
    rejectCommandExtra slots.thread "thread" kind.asStr
    rejectCommandExtra slots.templateId "template_id" kind.asStr
    rejectCommandExtra slots.bindings "bindings" kind.asStr
    rejectCommandExtra slots.scope "scope" kind.asStr
    rejectCommandExtra slots.messageTemplateId "message_template_id" kind.asStr
    rejectCommandExtra slots.status "status" kind.asStr
    .ok (.mergeBase target)
  | .commit => do
    let messageTemplateId ← requiredMapField slots.messageTemplateId "message_template_id"
    let bindings ← requiredMapField slots.bindings "bindings"
    rejectCommandExtra slots.role "role" kind.asStr
    rejectCommandExtra slots.candidates "candidates" kind.asStr
    rejectCommandExtra slots.thread "thread" kind.asStr
    rejectCommandExtra slots.templateId "template_id" kind.asStr
    rejectCommandExtra slots.scope "scope" kind.asStr
    rejectCommandExtra slots.target "target" kind.asStr
    rejectCommandExtra slots.status "status" kind.asStr
    .ok (.commit messageTemplateId bindings)
  | .pauseAtBoundary => do
    rejectCommandExtra slots.role "role" kind.asStr
    rejectCommandExtra slots.candidates "candidates" kind.asStr
    rejectCommandExtra slots.thread "thread" kind.asStr
    rejectCommandExtra slots.templateId "template_id" kind.asStr
    rejectCommandExtra slots.bindings "bindings" kind.asStr
    rejectCommandExtra slots.scope "scope" kind.asStr
    rejectCommandExtra slots.target "target" kind.asStr
    rejectCommandExtra slots.messageTemplateId "message_template_id" kind.asStr
    rejectCommandExtra slots.status "status" kind.asStr
    .ok .pauseAtBoundary
  | .settleRun => do
    let status ← requiredMapField slots.status "status"
    rejectCommandExtra slots.role "role" kind.asStr
    rejectCommandExtra slots.candidates "candidates" kind.asStr
    rejectCommandExtra slots.thread "thread" kind.asStr
    rejectCommandExtra slots.templateId "template_id" kind.asStr
    rejectCommandExtra slots.bindings "bindings" kind.asStr
    rejectCommandExtra slots.scope "scope" kind.asStr
    rejectCommandExtra slots.target "target" kind.asStr
    rejectCommandExtra slots.messageTemplateId "message_template_id" kind.asStr
    .ok (.settleRun status)

def visitMap (fields : List (String × Json)) : Except DecodeError DriverCommand := do
  let slots ← fields.foldlM visitField {}
  ofSlots slots

def deserialize : Json → Except DecodeError DriverCommand :=
  Visitor.deserializeAny { expecting := "a closed driver command object", visitMap }

/-- The kind goes first, as the tag of the variant. -/
def serialize : DriverCommand → List (String × Json)
  | requireWorkspace => [("kind", .string "require_workspace")]
  | startThread role => [("kind", .string "start_thread"), ("role", role.serialize)]
  | resumeOrStartThread role candidates =>
    [("kind", .string "resume_or_start_thread"), ("role", role.serialize),
      ("candidates", candidates.serialize BoundedToken.serialize)]
  | runTemplate thread role templateId bindings =>
    [("kind", .string "run_template"), ("thread", thread.serialize), ("role", role.serialize),
      ("template_id", templateId.serialize), ("bindings", bindings.serialize ArtifactBinding.serialize)]
  | checkpointCommit => [("kind", .string "checkpoint_commit")]
  | collectDiff scope => [("kind", .string "collect_diff"), ("scope", DiffScope.variants.serialize scope)]
  | mergeBase target => [("kind", .string "merge_base"), ("target", MergeBaseTarget.variants.serialize target)]
  | commit messageTemplateId bindings =>
    [("kind", .string "commit"), ("message_template_id", messageTemplateId.serialize),
      ("bindings", bindings.serialize ArtifactBinding.serialize)]
  | pauseAtBoundary => [("kind", .string "pause_at_boundary")]
  | settleRun status => [("kind", .string "settle_run"), ("status", DriverRunStatus.variants.serialize status)]

end DriverCommand

end Sealwire.Orchestration

import Mathlib.Data.List.Sort
import Sealwire.Lib.RowStore
import Sealwire.Lib.Runs

namespace Sealwire.Sessions

/-- The reverse key of a binding. -/
structure ProviderRouteKey where
  provider : String
  handle : String
  deriving DecidableEq

/-- One session's current provider address. -/
structure SessionBinding where
  provider : String
  providerHandle : String
  providerThreadId : Option String
  deriving DecidableEq

namespace SessionBinding

def identity (provider nativeId : String) : SessionBinding where
  provider := provider
  providerHandle := nativeId
  providerThreadId := some nativeId

def routeKey (binding : SessionBinding) : ProviderRouteKey where
  provider := binding.provider
  handle := binding.providerHandle

def isMaterialized (binding : SessionBinding) : Bool := binding.providerThreadId.isSome

def isIdentityFor (binding : SessionBinding) (sessionId : String) : Bool :=
  binding.providerHandle = sessionId && binding.providerThreadId = some sessionId

end SessionBinding

inductive ProviderEventTarget
  | bound (sessionId : String)
  | adopted (sessionId : String)
  | refused (ownerProvider : String)
  | unroutable
  deriving DecidableEq

structure AdoptedProviderSession where
  provider : String
  providerHandle : String
  sessionId : String
  deriving DecidableEq

inductive SessionBindingError
  | blank (field : String)
  | handleClaimed (provider handle owner : String)
  | sessionIdClaimed (sessionId ownerProvider : String)
  deriving DecidableEq

def SessionBindingError.text : SessionBindingError → String
  | .blank field => "session binding " ++ field ++ " must not be empty"
  | .handleClaimed provider handle owner =>
    "provider handle " ++ provider ++ "/" ++ handle ++ " is already bound to session '" ++ owner ++ "'"
  | .sessionIdClaimed sessionId ownerProvider =>
    "provider result id '" ++ sessionId ++ "' is already a session owned by provider '" ++ ownerProvider ++ "'"

structure SessionBindingRegistry where
  bindings : Table String SessionBinding
  byProviderHandle : Table ProviderRouteKey String

namespace SessionBindingRegistry

def empty : SessionBindingRegistry where
  bindings := ∅
  byProviderHandle := ∅

def binding (registry : SessionBindingRegistry) (sessionId : String) : Option SessionBinding :=
  registry.bindings.get sessionId

def sessionForProviderHandle (registry : SessionBindingRegistry) (provider handle : String) : Option String :=
  registry.byProviderHandle.get ⟨provider, handle⟩

/-- The reverse key a session leaves when it moves to `key`. -/
def leaveKey (registry : SessionBindingRegistry) (sessionId : String) (key : ProviderRouteKey) :
    Table ProviderRouteKey String :=
  match registry.binding sessionId with
  | some previous =>
    if previous.routeKey = key then registry.byProviderHandle
    else registry.byProviderHandle.drop previous.routeKey
  | none => registry.byProviderHandle

/-- The writes of `bind` once its checks passed. -/
def point (registry : SessionBindingRegistry) (sessionId : String) (binding : SessionBinding) :
    SessionBindingRegistry where
  bindings := registry.bindings.put sessionId binding
  byProviderHandle := (registry.leaveKey sessionId binding.routeKey).put binding.routeKey sessionId

def bind (registry : SessionBindingRegistry) (sessionId : String) (binding : SessionBinding) :
    SessionBindingRegistry × Except SessionBindingError Unit :=
  if sessionId = "" then (registry, .error (.blank "session id"))
  else if binding.provider = "" then (registry, .error (.blank "provider"))
  else if binding.providerHandle = "" then (registry, .error (.blank "provider handle"))
  else
    match registry.byProviderHandle.get binding.routeKey with
    | some owner =>
      if owner = sessionId then (registry.point sessionId binding, .ok ())
      else (registry, .error (.handleClaimed binding.provider binding.providerHandle owner))
    | none => (registry.point sessionId binding, .ok ())

def bindIdentity (registry : SessionBindingRegistry) (provider nativeId : String) :
    SessionBindingRegistry × Except SessionBindingError Unit :=
  registry.bind nativeId (.identity provider nativeId)

def bindDeferred (registry : SessionBindingRegistry) (sessionId provider providerHandle : String) :
    SessionBindingRegistry × Except SessionBindingError Unit :=
  registry.bind sessionId
    { provider := provider, providerHandle := providerHandle, providerThreadId := none }

def materializeDeferred (registry : SessionBindingRegistry) (provider pendingHandle providerThreadId : String) :
    SessionBindingRegistry × Except SessionBindingError (Option String) :=
  match registry.sessionForProviderHandle provider pendingHandle with
  | none => (registry, .ok none)
  | some sessionId =>
    if (registry.binding sessionId).any SessionBinding.isMaterialized then (registry, .ok none)
    else
      let (next, answer) := registry.bind sessionId
        { provider := provider, providerHandle := providerThreadId, providerThreadId := some providerThreadId }
      (next, answer.map fun _ => some sessionId)

def adoptProviderHandle (registry : SessionBindingRegistry) (provider handle : String) :
    SessionBindingRegistry × Except SessionBindingError AdoptedProviderSession :=
  if provider = "" then (registry, .error (.blank "provider"))
  else if handle = "" then (registry, .error (.blank "provider handle"))
  else
    match registry.sessionForProviderHandle provider handle with
    | some sessionId => (registry, .ok ⟨provider, handle, sessionId⟩)
    | none =>
      match registry.binding handle with
      | some existing => (registry, .error (.sessionIdClaimed handle existing.provider))
      | none =>
        let (next, answer) := registry.bindIdentity provider handle
        (next, answer.map fun _ => ⟨provider, handle, handle⟩)

def routeProviderEvent (registry : SessionBindingRegistry) (provider handle : String) :
    SessionBindingRegistry × ProviderEventTarget :=
  if provider = "" ∨ handle = "" then (registry, .unroutable)
  else
    match registry.sessionForProviderHandle provider handle with
    | some sessionId => (registry, .bound sessionId)
    | none =>
      match registry.binding handle with
      | some existing => (registry, .refused existing.provider)
      | none =>
        match registry.bindIdentity provider handle with
        | (next, .ok _) => (next, .adopted handle)
        | (next, .error _) => (next, .refused provider)

def remove (registry : SessionBindingRegistry) (sessionId : String) :
    SessionBindingRegistry × Option SessionBinding :=
  match registry.binding sessionId with
  | none => (registry, none)
  | some binding =>
    ({ bindings := registry.bindings.drop sessionId
       byProviderHandle := registry.byProviderHandle.drop binding.routeKey }, some binding)

def persistable (registry : SessionBindingRegistry) : Table String SessionBinding :=
  registry.bindings.retain fun sessionId binding =>
    binding.isMaterialized && (binding.provider = "opencode" || !binding.isIdentityFor sessionId)

/-- One entry of a loaded file: bound, or recorded as dropped. -/
def restoreEntry (loaded : SessionBindingRegistry × List String) (entry : String × SessionBinding) :
    SessionBindingRegistry × List String :=
  match loaded.1.bind entry.1 entry.2 with
  | (next, .ok _) => (next, loaded.2)
  | (next, .error _) => (next, loaded.2 ++ [entry.1])

def restore (persisted : Table String SessionBinding) : SessionBindingRegistry × List String :=
  (persisted.pairs.mergeSort fun left right => left.1 ≤ right.1).foldl restoreEntry (empty, [])

/-- The reverse index is the inverse of the forward map, over addresses that are not blank. -/
structure Sound (registry : SessionBindingRegistry) : Prop where
  inverse : ∀ key sessionId, registry.byProviderHandle.get key = some sessionId ↔
    ∃ binding, registry.binding sessionId = some binding ∧ binding.routeKey = key
  named : ∀ sessionId binding, registry.binding sessionId = some binding →
    sessionId ≠ "" ∧ binding.provider ≠ "" ∧ binding.providerHandle ≠ ""

theorem empty_sound : Sound empty where
  inverse := by simp [empty, binding]
  named := by simp [empty, binding]

/-- Two sessions never share an address. -/
theorem Sound.one_owner {registry : SessionBindingRegistry} (sound : registry.Sound) {first second : String}
    {one two : SessionBinding} (at_first : registry.binding first = some one)
    (at_second : registry.binding second = some two) (same : one.routeKey = two.routeKey) : first = second := by
  have owns_first := (sound.inverse one.routeKey first).mpr ⟨one, at_first, rfl⟩
  have owns_second := (sound.inverse one.routeKey second).mpr ⟨two, at_second, same.symm⟩
  exact Option.some.inj (owns_first.symm.trans owns_second)

theorem Sound.has_key {registry : SessionBindingRegistry} (sound : registry.Sound) {sessionId : String}
    {binding : SessionBinding} (found : registry.binding sessionId = some binding) :
    registry.byProviderHandle.get binding.routeKey = some sessionId :=
  (sound.inverse binding.routeKey sessionId).mpr ⟨binding, found, rfl⟩

theorem binding_point (registry : SessionBindingRegistry) (sessionId : String) (binding : SessionBinding)
    (other : String) : (registry.point sessionId binding).binding other =
      if other = sessionId then some binding else registry.binding other :=
  Table.get_put registry.bindings sessionId other binding

theorem get_leaveKey (registry : SessionBindingRegistry) (sessionId : String) (key other : ProviderRouteKey)
    (owner : String) : (registry.leaveKey sessionId key).get other = some owner ↔
      registry.byProviderHandle.get other = some owner ∧
        ∀ previous, registry.binding sessionId = some previous → previous.routeKey = other → other = key := by
  unfold leaveKey
  cases held : registry.binding sessionId with
  | none => simp
  | some previous =>
    by_cases stays : previous.routeKey = key
    · simp only [stays, if_true, Option.some.injEq]
      exact ⟨fun found => ⟨found, fun _ same left => by rw [← left, ← same, stays]⟩, And.left⟩
    · simp only [stays, if_false, Table.get_drop, Option.some.injEq]
      split
      · rename_i left
        simp only [reduceCtorEq, false_iff, not_and]
        intro _ returned
        exact stays (left.symm.trans (returned previous rfl left.symm))
      · rename_i apart
        exact ⟨fun found => ⟨found, fun _ same left => absurd (left.symm.trans (by rw [same])) apart⟩, And.left⟩

theorem get_point (registry : SessionBindingRegistry) (sessionId : String) (binding : SessionBinding)
    (key : ProviderRouteKey) : (registry.point sessionId binding).byProviderHandle.get key =
      if key = binding.routeKey then some sessionId else (registry.leaveKey sessionId binding.routeKey).get key :=
  Table.get_put _ _ _ _

theorem Sound.point {registry : SessionBindingRegistry} (sound : registry.Sound) {sessionId : String}
    {binding : SessionBinding} (named : sessionId ≠ "" ∧ binding.provider ≠ "" ∧ binding.providerHandle ≠ "")
    (free : ∀ owner, registry.byProviderHandle.get binding.routeKey = some owner → owner = sessionId) :
    (registry.point sessionId binding).Sound where
  inverse := by
    intro key owner
    have before := sound.inverse key owner
    rw [get_point]
    simp only [binding_point]
    by_cases here : key = binding.routeKey
    · subst here
      rw [if_pos rfl]
      by_cases same : owner = sessionId
      · simp [same]
      · rw [if_neg same, ← before]
        exact ⟨fun mine => absurd (Option.some.inj mine).symm same, fun held => absurd (free owner held) same⟩
    · rw [if_neg here, get_leaveKey, before]
      by_cases same : owner = sessionId
      · subst same
        rw [if_pos rfl]
        constructor
        · rintro ⟨⟨held, found, at_key⟩, left⟩
          exact absurd (left held found at_key) here
        · rintro ⟨held, found, at_key⟩
          exact absurd ((congrArg SessionBinding.routeKey (Option.some.inj found)).trans at_key).symm here
      · rw [if_neg same]
        refine ⟨And.left, fun held => ⟨held, ?_⟩⟩
        -- the key the session leaves is its own, not this owner's
        intro previous found at_key
        obtain ⟨other, at_owner, same_key⟩ := held
        exact absurd (sound.one_owner at_owner found (same_key.trans at_key.symm)) same
  named := by
    intro owner held found
    rw [binding_point] at found
    split at found
    · rename_i same
      obtain rfl := Option.some.inj found
      rw [same]
      exact named
    · exact sound.named owner held found

/-- What `bind` can do: refuse and change nothing, or point a session at an address no other holds. -/
theorem bind_cases (registry : SessionBindingRegistry) (sessionId : String) (binding : SessionBinding) :
    (∃ error, registry.bind sessionId binding = (registry, .error error)) ∨
      registry.bind sessionId binding = (registry.point sessionId binding, .ok ()) ∧
        (sessionId ≠ "" ∧ binding.provider ≠ "" ∧ binding.providerHandle ≠ "") ∧
        ∀ owner, registry.byProviderHandle.get binding.routeKey = some owner → owner = sessionId := by
  unfold bind
  split
  · exact .inl ⟨_, rfl⟩
  rename_i session
  split
  · exact .inl ⟨_, rfl⟩
  rename_i provider
  split
  · exact .inl ⟨_, rfl⟩
  rename_i handle
  split
  · rename_i owner held
    split
    · rename_i mine
      refine .inr ⟨rfl, ⟨session, provider, handle⟩, fun other found => ?_⟩
      rw [← mine]
      exact (Option.some.inj (held.symm.trans found)).symm
    · exact .inl ⟨_, rfl⟩
  · rename_i unheld
    refine .inr ⟨rfl, ⟨session, provider, handle⟩, fun other found => ?_⟩
    rw [unheld] at found
    cases found

theorem Sound.bind {registry : SessionBindingRegistry} (sound : registry.Sound) (sessionId : String)
    (binding : SessionBinding) : (registry.bind sessionId binding).1.Sound := by
  rcases registry.bind_cases sessionId binding with ⟨_, refused⟩ | ⟨pointed, named, free⟩
  · rw [refused]
    exact sound
  · rw [pointed]
    exact sound.point named free

/-- An address nobody holds is given to its own name, and everything else stays. -/
theorem bindIdentity_new {registry : SessionBindingRegistry} {provider handle : String} (named : provider ≠ "")
    (addressed : handle ≠ "") (unheld : registry.sessionForProviderHandle provider handle = none) :
    registry.bindIdentity provider handle = (registry.point handle (.identity provider handle), .ok ()) := by
  have free : registry.byProviderHandle.get (SessionBinding.identity provider handle).routeKey = none := unheld
  have provided : (SessionBinding.identity provider handle).provider ≠ "" := named
  have handled : (SessionBinding.identity provider handle).providerHandle ≠ "" := addressed
  unfold bindIdentity SessionBindingRegistry.bind
  rw [if_neg addressed, if_neg provided, if_neg handled, free]

/-- Binding a fresh name leaves every session that was there, and its address. -/
theorem binding_point_new {registry : SessionBindingRegistry} {sessionId other : String} {new held : SessionBinding}
    (fresh : registry.binding sessionId = none) (found : registry.binding other = some held) :
    (registry.point sessionId new).binding other = some held := by
  rw [binding_point]
  split
  · rename_i same
    rw [same, fresh] at found
    cases found
  · exact found

end SessionBindingRegistry

open SessionBindingRegistry

/-- The operations on the registry; `restore` starts over from a loaded file. -/
inductive Call
  | bind (sessionId : String) (binding : SessionBinding)
  | bindIdentity (provider nativeId : String)
  | bindDeferred (sessionId provider providerHandle : String)
  | materializeDeferred (provider pendingHandle providerThreadId : String)
  | adoptProviderHandle (provider handle : String)
  | routeProviderEvent (provider handle : String)
  | remove (sessionId : String)
  | restore (persisted : Table String SessionBinding)

def Call.run (registry : SessionBindingRegistry) : Call → SessionBindingRegistry
  | .bind sessionId binding => (registry.bind sessionId binding).1
  | .bindIdentity provider nativeId => (registry.bindIdentity provider nativeId).1
  | .bindDeferred sessionId provider providerHandle => (registry.bindDeferred sessionId provider providerHandle).1
  | .materializeDeferred provider pendingHandle providerThreadId =>
    (registry.materializeDeferred provider pendingHandle providerThreadId).1
  | .adoptProviderHandle provider handle => (registry.adoptProviderHandle provider handle).1
  | .routeProviderEvent provider handle => (registry.routeProviderEvent provider handle).1
  | .remove sessionId => (registry.remove sessionId).1
  | .restore persisted => (SessionBindingRegistry.restore persisted).1

namespace SessionBindingRegistry

theorem Sound.materializeDeferred {registry : SessionBindingRegistry} (sound : registry.Sound)
    (provider pendingHandle providerThreadId : String) :
    (registry.materializeDeferred provider pendingHandle providerThreadId).1.Sound := by
  unfold SessionBindingRegistry.materializeDeferred
  split
  · exact sound
  · split
    · exact sound
    · exact sound.bind _ _

theorem Sound.adoptProviderHandle {registry : SessionBindingRegistry} (sound : registry.Sound)
    (provider handle : String) : (registry.adoptProviderHandle provider handle).1.Sound := by
  unfold SessionBindingRegistry.adoptProviderHandle
  split
  · exact sound
  split
  · exact sound
  split
  · exact sound
  · split
    · exact sound
    · exact sound.bind _ _

theorem binding_drop (registry : SessionBindingRegistry) (sessionId other : String)
    (index : Table ProviderRouteKey String) (held : SessionBinding) :
    (SessionBindingRegistry.mk (registry.bindings.drop sessionId) index).binding other = some held ↔
      other ≠ sessionId ∧ registry.binding other = some held := by
  unfold SessionBindingRegistry.binding
  rw [Table.get_drop]
  by_cases same : other = sessionId <;> simp [same]

theorem Sound.remove {registry : SessionBindingRegistry} (sound : registry.Sound) (sessionId : String) :
    (registry.remove sessionId).1.Sound := by
  unfold SessionBindingRegistry.remove
  split
  · exact sound
  · rename_i held found
    refine ⟨fun key owner => ?_, fun other binding kept => ?_⟩
    · have before := sound.inverse key owner
      simp only [binding_drop, Table.get_drop]
      split
      · rename_i dropped
        simp only [reduceCtorEq, false_iff, not_exists, not_and, and_imp]
        intro binding apart kept at_key
        exact apart (sound.one_owner kept found (at_key.trans dropped))
      · rename_i other_key
        rw [before]
        constructor
        · rintro ⟨binding, at_owner, at_key⟩
          refine ⟨binding, ⟨fun same => ?_, at_owner⟩, at_key⟩
          rw [same, found] at at_owner
          exact other_key (by rw [← at_key, Option.some.inj at_owner])
        · rintro ⟨binding, kept, at_key⟩
          exact ⟨binding, kept.2, at_key⟩
    · exact sound.named other binding ((binding_drop registry sessionId other _ binding).mp kept).2

/-- Routing an event and adopting a result answer alike. -/
def SameAnswer (provider handle : String) :
    ProviderEventTarget → Except SessionBindingError AdoptedProviderSession → Prop
  | .bound sessionId, answer => answer = .ok ⟨provider, handle, sessionId⟩
  | .adopted sessionId, answer => sessionId = handle ∧ answer = .ok ⟨provider, handle, sessionId⟩
  | .refused ownerProvider, answer => answer = .error (.sessionIdClaimed handle ownerProvider)
  | .unroutable, answer => ∃ field, answer = .error (.blank field)

/-- What both entries for a provider's handle do: refuse, answer what is bound, or bind a new name. -/
theorem route_cases (registry : SessionBindingRegistry) (provider handle : String) :
    (∃ target answer, registry.routeProviderEvent provider handle = (registry, target) ∧
        registry.adoptProviderHandle provider handle = (registry, answer) ∧ SameAnswer provider handle target answer) ∨
      registry.routeProviderEvent provider handle =
          (registry.point handle (.identity provider handle), .adopted handle) ∧
        registry.adoptProviderHandle provider handle =
          (registry.point handle (.identity provider handle), .ok ⟨provider, handle, handle⟩) ∧
        registry.binding handle = none ∧ registry.sessionForProviderHandle provider handle = none := by
  unfold routeProviderEvent SessionBindingRegistry.adoptProviderHandle
  by_cases named : provider = ""
  · exact .inl ⟨.unroutable, _, by rw [if_pos (.inl named)], by rw [if_pos named], _, rfl⟩
  by_cases addressed : handle = ""
  · exact .inl ⟨.unroutable, _, by rw [if_pos (.inr addressed)], by rw [if_neg named, if_pos addressed], _, rfl⟩
  rw [if_neg (not_or.mpr ⟨named, addressed⟩), if_neg named, if_neg addressed]
  cases held : registry.sessionForProviderHandle provider handle with
  | some sessionId => exact .inl ⟨.bound sessionId, _, rfl, rfl, rfl⟩
  | none =>
    cases taken : registry.binding handle with
    | some existing => exact .inl ⟨.refused existing.provider, _, rfl, rfl, rfl⟩
    | none =>
      simp only [bindIdentity_new named addressed held]
      exact .inr ⟨trivial, rfl, trivial, trivial⟩

theorem routeProviderEvent_registry (registry : SessionBindingRegistry) (provider handle : String) :
    (registry.adoptProviderHandle provider handle).1 = (registry.routeProviderEvent provider handle).1 := by
  rcases registry.route_cases provider handle with ⟨_, _, routed, adopted, _⟩ | ⟨routed, adopted, _⟩ <;>
    rw [routed, adopted]

theorem Sound.restoreEntries {loaded : SessionBindingRegistry × List String} (sound : loaded.1.Sound)
    (entries : List (String × SessionBinding)) : (entries.foldl restoreEntry loaded).1.Sound := by
  induction entries generalizing loaded with
  | nil => exact sound
  | cons entry rest ih =>
    apply ih
    have step := sound.bind entry.1 entry.2
    unfold restoreEntry
    split <;> rename_i next answer bound <;> rw [bound] at step <;> exact step

end SessionBindingRegistry

/-- In particular no operation leaves a stale address, and a loaded file may be any table. -/
theorem Call.run_sound {registry : SessionBindingRegistry} (sound : registry.Sound) (call : Call) :
    (call.run registry).Sound := by
  cases call with
  | bind sessionId binding => exact sound.bind sessionId binding
  | bindIdentity provider nativeId => exact sound.bind nativeId _
  | bindDeferred sessionId provider providerHandle => exact sound.bind sessionId _
  | materializeDeferred provider pendingHandle providerThreadId => exact sound.materializeDeferred _ _ _
  | adoptProviderHandle provider handle => exact sound.adoptProviderHandle provider handle
  | routeProviderEvent provider handle =>
    have adopted := sound.adoptProviderHandle provider handle
    rw [routeProviderEvent_registry] at adopted
    exact adopted
  | remove sessionId => exact sound.remove sessionId
  | restore persisted => exact Sound.restoreEntries empty_sound _

theorem reached_sound {registry : SessionBindingRegistry}
    (reached : Reaches Call.run (fun _ _ => True) empty registry) : registry.Sound :=
  reached.invariant empty_sound fun _ call sound _ => call.run_sound sound

namespace SessionBindingRegistry

/-- `resolve` for a replayed materialization, when the pending address is gone. -/
def materializedNonIdentitySessionForProviderHandle (registry : SessionBindingRegistry)
    (provider providerHandle : String) : Option String := do
  let sessionId ← registry.sessionForProviderHandle provider providerHandle
  let binding ← registry.binding sessionId
  if binding.isMaterialized && !binding.isIdentityFor sessionId then some sessionId else none

/-- An error, a refusal or an unroutable event leaves the registry as it was. -/
structure RefusalsChangeNothing (registry : SessionBindingRegistry) : Prop where
  bind : ∀ sessionId binding error, (registry.bind sessionId binding).2 = .error error →
    (registry.bind sessionId binding).1 = registry
  materialize : ∀ provider pendingHandle providerThreadId error,
    (registry.materializeDeferred provider pendingHandle providerThreadId).2 = .error error →
      (registry.materializeDeferred provider pendingHandle providerThreadId).1 = registry
  adopt : ∀ provider handle error, (registry.adoptProviderHandle provider handle).2 = .error error →
    (registry.adoptProviderHandle provider handle).1 = registry
  refused : ∀ provider handle owner, (registry.routeProviderEvent provider handle).2 = .refused owner →
    (registry.routeProviderEvent provider handle).1 = registry
  unroutable : ∀ provider handle, (registry.routeProviderEvent provider handle).2 = .unroutable →
    (registry.routeProviderEvent provider handle).1 = registry

/-- The two entries for a provider's handle agree, and every session stays where it is. -/
structure RoutesAlike (registry : SessionBindingRegistry) (provider handle : String) : Prop where
  next : (registry.routeProviderEvent provider handle).1 = (registry.adoptProviderHandle provider handle).1
  answer : SameAnswer provider handle (registry.routeProviderEvent provider handle).2
    (registry.adoptProviderHandle provider handle).2
  kept : ∀ sessionId binding, registry.binding sessionId = some binding →
    (registry.routeProviderEvent provider handle).1.binding sessionId = some binding

/-- A materialization moves the session that owns the pending handle, under its own id, once. -/
structure MaterializesInPlace (registry : SessionBindingRegistry)
    (provider pendingHandle providerThreadId : String) : Prop where
  moved : ∀ sessionId, (registry.materializeDeferred provider pendingHandle providerThreadId).2 = .ok (some sessionId) →
    registry.sessionForProviderHandle provider pendingHandle = some sessionId ∧
      (∃ pending, registry.binding sessionId = some pending ∧ pending.providerThreadId = none) ∧
      (registry.materializeDeferred provider pendingHandle providerThreadId).1.binding sessionId =
        some ⟨provider, providerThreadId, some providerThreadId⟩ ∧
      (∀ other, other ≠ sessionId →
        (registry.materializeDeferred provider pendingHandle providerThreadId).1.binding other = registry.binding other) ∧
      ((registry.materializeDeferred provider pendingHandle providerThreadId).1.materializedNonIdentitySessionForProviderHandle
        provider providerThreadId = if providerThreadId = sessionId then none else some sessionId)
  replayed : ∀ done, (registry.materializeDeferred provider pendingHandle providerThreadId).2 = .ok done →
    (registry.materializeDeferred provider pendingHandle providerThreadId).1.materializeDeferred provider pendingHandle
      providerThreadId = ((registry.materializeDeferred provider pendingHandle providerThreadId).1, .ok none)

/-- Writing the registry out and loading it again. -/
structure RestoresAll (registry : SessionBindingRegistry) : Prop where
  dropped : (restore registry.persistable).2 = []
  written : ∀ sessionId, (restore registry.persistable).1.binding sessionId = registry.persistable.get sessionId
  kept : ∀ sessionId binding, registry.binding sessionId = some binding → binding.isMaterialized = true →
    binding.isIdentityFor sessionId = false → (restore registry.persistable).1.binding sessionId = some binding

theorem route_kept {registry : SessionBindingRegistry} {provider handle sessionId : String} {binding : SessionBinding}
    (found : registry.binding sessionId = some binding) :
    (registry.routeProviderEvent provider handle).1.binding sessionId = some binding := by
  rcases registry.route_cases provider handle with ⟨_, _, routed, _, _⟩ | ⟨routed, _, fresh, _⟩
  · rw [routed]
    exact found
  · rw [routed]
    exact binding_point_new fresh found

theorem routesAlike (registry : SessionBindingRegistry) (provider handle : String) :
    registry.RoutesAlike provider handle := by
  refine ⟨(routeProviderEvent_registry registry provider handle).symm, ?_, fun _ _ => route_kept⟩
  rcases registry.route_cases provider handle with ⟨target, answer, routed, adopted, same⟩ | ⟨routed, adopted, _⟩
  · rw [routed, adopted]
    exact same
  · rw [routed, adopted]
    exact ⟨rfl, rfl⟩

/-- What a materialization does: nothing, or one bind of the session that owns the pending handle. -/
theorem materialize_cases (registry : SessionBindingRegistry) (provider pendingHandle providerThreadId : String) :
    (registry.materializeDeferred provider pendingHandle providerThreadId = (registry, .ok none)) ∨
      ∃ sessionId, registry.sessionForProviderHandle provider pendingHandle = some sessionId ∧
        (∀ held, registry.binding sessionId = some held → held.providerThreadId = none) ∧
        ((∃ error, registry.materializeDeferred provider pendingHandle providerThreadId = (registry, .error error)) ∨
          registry.materializeDeferred provider pendingHandle providerThreadId =
            (registry.point sessionId ⟨provider, providerThreadId, some providerThreadId⟩, .ok (some sessionId))) := by
  unfold SessionBindingRegistry.materializeDeferred
  split
  · exact .inl rfl
  rename_i sessionId owned
  split
  · exact .inl rfl
  rename_i pending
  refine .inr ⟨sessionId, owned, fun held found => ?_, ?_⟩
  · rw [found] at pending
    simpa [SessionBinding.isMaterialized] using pending
  · rcases registry.bind_cases sessionId ⟨provider, providerThreadId, some providerThreadId⟩ with
      ⟨error, refused⟩ | ⟨pointed, _⟩
    · rw [refused]
      exact .inl ⟨error, rfl⟩
    · rw [pointed]
      exact .inr rfl

theorem refusalsChangeNothing (registry : SessionBindingRegistry) : registry.RefusalsChangeNothing where
  bind := by
    intro sessionId binding error refused
    rcases registry.bind_cases sessionId binding with ⟨_, same⟩ | ⟨pointed, _⟩
    · rw [same]
    · rw [pointed] at refused
      cases refused
  materialize := by
    intro provider pendingHandle providerThreadId error refused
    rcases registry.materialize_cases provider pendingHandle providerThreadId with
      same | ⟨_, _, _, ⟨_, same⟩ | pointed⟩
    · rw [same]
    · rw [same]
    · rw [pointed] at refused
      cases refused
  adopt := by
    intro provider handle error refused
    rcases registry.route_cases provider handle with ⟨_, _, _, same, _⟩ | ⟨_, pointed, _⟩
    · rw [same]
    · rw [pointed] at refused
      cases refused
  refused := by
    intro provider handle owner refused
    rcases registry.route_cases provider handle with ⟨_, _, same, _⟩ | ⟨pointed, _⟩
    · rw [same]
    · rw [pointed] at refused
      cases refused
  unroutable := by
    intro provider handle refused
    rcases registry.route_cases provider handle with ⟨_, _, same, _⟩ | ⟨pointed, _⟩
    · rw [same]
    · rw [pointed] at refused
      cases refused

/-- The pending address is gone after the move, or it is the native one and materialized. -/
theorem Sound.replayed {registry : SessionBindingRegistry} {provider pendingHandle providerThreadId sessionId : String}
    (sound : registry.Sound) (owned : registry.sessionForProviderHandle provider pendingHandle = some sessionId)
    (next : (registry.point sessionId ⟨provider, providerThreadId, some providerThreadId⟩).Sound) :
    (registry.point sessionId ⟨provider, providerThreadId, some providerThreadId⟩).materializeDeferred provider
      pendingHandle providerThreadId =
        (registry.point sessionId ⟨provider, providerThreadId, some providerThreadId⟩, .ok none) := by
  unfold SessionBindingRegistry.materializeDeferred
  split
  · rfl
  rename_i owner found
  obtain ⟨held, at_owner, at_key⟩ := (next.inverse _ owner).mp found
  rw [binding_point] at at_owner
  split at at_owner
  · rename_i same
    rw [same, binding_point, if_pos rfl]
    rfl
  · rename_i other
    obtain ⟨pending, at_session, pending_key⟩ := (sound.inverse _ sessionId).mp owned
    exact absurd (sound.one_owner at_owner at_session (at_key.trans pending_key.symm)) other

theorem Sound.materializesInPlace {registry : SessionBindingRegistry} (sound : registry.Sound)
    (provider pendingHandle providerThreadId : String) :
    registry.MaterializesInPlace provider pendingHandle providerThreadId := by
  have next := sound.materializeDeferred provider pendingHandle providerThreadId
  rcases registry.materialize_cases provider pendingHandle providerThreadId with
    same | ⟨sessionId, owned, pending, ⟨error, same⟩ | pointed⟩
  · rw [same] at next
    refine ⟨fun _ moved => ?_, fun _ _ => ?_⟩
    · rw [same] at moved
      cases moved
    · rw [same]
      exact same
  · refine ⟨fun _ moved => ?_, fun _ moved => ?_⟩ <;>
      rw [same] at moved <;> cases moved
  · rw [pointed] at next
    refine ⟨fun moved_id moved => ?_, fun _ _ => ?_⟩
    · rw [pointed] at moved ⊢
      obtain rfl : sessionId = moved_id := Option.some.inj (Except.ok.inj moved)
      obtain ⟨held, at_session, _⟩ := (sound.inverse _ sessionId).mp owned
      have here : (registry.point sessionId ⟨provider, providerThreadId, some providerThreadId⟩).binding sessionId =
          some ⟨provider, providerThreadId, some providerThreadId⟩ := by rw [binding_point, if_pos rfl]
      refine ⟨owned, ⟨held, at_session, pending held at_session⟩, here, fun other apart => ?_, ?_⟩
      · rw [binding_point, if_neg apart]
      · have index := next.has_key here
        unfold materializedNonIdentitySessionForProviderHandle sessionForProviderHandle
        simp only [SessionBinding.routeKey] at index
        rw [index]
        simp only [Option.bind_eq_bind, Option.bind_some, here]
        by_cases same : providerThreadId = sessionId <;>
          simp [SessionBinding.isMaterialized, SessionBinding.isIdentityFor, same]
    · rw [pointed]
      exact sound.replayed owned next

/-- Entries that share no session and no address with each other or with the registry are all bound. -/
theorem restoreEntries_all (registry : SessionBindingRegistry) (dropped : List String)
    {entries : List (String × SessionBinding)}
    (named : ∀ entry ∈ entries, entry.1 ≠ "" ∧ entry.2.provider ≠ "" ∧ entry.2.providerHandle ≠ "")
    (apart : entries.Pairwise fun a b => a.1 ≠ b.1 ∧ a.2.routeKey ≠ b.2.routeKey)
    (free : ∀ entry ∈ entries, registry.binding entry.1 = none ∧ registry.byProviderHandle.get entry.2.routeKey = none) :
    (entries.foldl restoreEntry (registry, dropped)).2 = dropped ∧ ∀ sessionId binding,
      (entries.foldl restoreEntry (registry, dropped)).1.binding sessionId = some binding ↔
        (sessionId, binding) ∈ entries ∨ registry.binding sessionId = some binding := by
  induction entries generalizing registry with
  | nil => simp
  | cons entry rest ih =>
    obtain ⟨fresh, unheld⟩ := free entry (List.mem_cons_self ..)
    have bound : registry.bind entry.1 entry.2 = (registry.point entry.1 entry.2, .ok ()) := by
      obtain ⟨session, provider, handle⟩ := named entry (List.mem_cons_self ..)
      unfold SessionBindingRegistry.bind
      rw [if_neg session, if_neg provider, if_neg handle, unheld]
    have step : restoreEntry (registry, dropped) entry = (registry.point entry.1 entry.2, dropped) := by
      unfold restoreEntry
      rw [bound]
    obtain ⟨first, others⟩ := List.pairwise_cons.mp apart
    rw [List.foldl_cons, step]
    have tail := ih (registry.point entry.1 entry.2)
      (fun other member => named other (List.mem_cons_of_mem _ member)) others fun other member => by
        obtain ⟨session, address⟩ := first other member
        obtain ⟨unbound, unowned⟩ := free other (List.mem_cons_of_mem _ member)
        refine ⟨?_, ?_⟩
        · rw [binding_point, if_neg (Ne.symm session)]
          exact unbound
        · rw [get_point, if_neg (Ne.symm address)]
          unfold leaveKey
          rw [fresh]
          exact unowned
    refine ⟨tail.1, fun sessionId binding => ?_⟩
    rw [tail.2, binding_point, List.mem_cons]
    split
    · rename_i same
      subst same
      constructor
      · rintro (later | here)
        · exact .inl (.inr later)
        · exact .inl (.inl (by rw [← Option.some.inj here]))
      · rintro ((here | later) | held)
        · exact .inr (by rw [← here])
        · exact .inl later
        · rw [fresh] at held
          cases held
    · rename_i other
      constructor
      · rintro (later | held)
        · exact .inl (.inr later)
        · exact .inr held
      · rintro ((here | later) | held)
        · exact absurd (congrArg Prod.fst here) other
        · exact .inl later
        · exact .inr held

theorem Sound.restoresAll {registry : SessionBindingRegistry} (sound : registry.Sound) : registry.RestoresAll := by
  let entries := registry.persistable.pairs.mergeSort fun left right => left.1 ≤ right.1
  have member (entry : String × SessionBinding) :
      entry ∈ entries ↔ registry.persistable.get entry.1 = some entry.2 := by
    rw [List.mem_mergeSort]
    exact Table.mem_pairs_iff
  have held (entry : String × SessionBinding) (there : entry ∈ entries) : registry.binding entry.1 = some entry.2 :=
    Table.get_of_get_retain ((member entry).mp there)
  have once : (entries.map Prod.fst).Nodup :=
    ((List.mergeSort_perm _ _).map Prod.fst).nodup_iff.mpr (Table.pairs_nodup _)
  have sessions : entries.Pairwise fun a b => a.1 ≠ b.1 := List.pairwise_map.mp once
  have apart : entries.Pairwise fun a b => a.1 ≠ b.1 ∧ a.2.routeKey ≠ b.2.routeKey := by
    refine sessions.imp_of_mem fun {a b} first second other => ⟨other, fun same => ?_⟩
    exact other (sound.one_owner (held a first) (held b second) same)
  obtain ⟨none_dropped, all⟩ := restoreEntries_all empty []
    (fun entry there => sound.named _ _ (held entry there)) apart (by simp [empty, SessionBindingRegistry.binding])
  have written (sessionId : String) :
      (restore registry.persistable).1.binding sessionId = registry.persistable.get sessionId := by
    apply Option.ext
    intro binding
    have found := all sessionId binding
    rw [member (sessionId, binding)] at found
    exact found.trans (or_iff_left (by simp [empty, SessionBindingRegistry.binding]))
  refine ⟨none_dropped, written, fun sessionId binding found materialized moved => ?_⟩
  rw [written]
  unfold SessionBindingRegistry.binding at found
  unfold persistable
  rw [Table.get_retain, found]
  simp [materialized, moved]

end SessionBindingRegistry

/-- The reverse index is the inverse of the forward map in every registry reached, and no operation
re-points a session behind its back. -/
theorem bindings_are_a_bijection {registry : SessionBindingRegistry}
    (reached : Reaches Call.run (fun _ _ => True) empty registry) :
    (∀ key sessionId, registry.byProviderHandle.get key = some sessionId ↔
        ∃ binding, registry.binding sessionId = some binding ∧ binding.routeKey = key) ∧
      (∀ first second one two, registry.binding first = some one → registry.binding second = some two →
        one.routeKey = two.routeKey → first = second) ∧
      registry.RefusalsChangeNothing ∧
      (∀ provider handle, registry.RoutesAlike provider handle) ∧
      (∀ provider pendingHandle providerThreadId,
        registry.MaterializesInPlace provider pendingHandle providerThreadId) ∧
      registry.RestoresAll := by
  have sound := reached_sound reached
  refine ⟨sound.inverse, ?_, registry.refusalsChangeNothing, registry.routesAlike, sound.materializesInPlace,
    sound.restoresAll⟩
  intro first second one two at_first at_second same
  exact sound.one_owner at_first at_second same

/-- A deferred session that met its native id. -/
theorem materialized_session_is_restored :
    (restore ((Call.materializeDeferred "claude" "claude-pending-1" "native-1").run
      ((Call.bindDeferred "s-1" "claude" "claude-pending-1").run empty)).persistable).1.binding "s-1" =
        some ⟨"claude", "native-1", some "native-1"⟩ := by
  have restored := (bindings_are_a_bijection (.next (m := .materializeDeferred "claude" "claude-pending-1" "native-1")
    (.next (m := .bindDeferred "s-1" "claude" "claude-pending-1") .start trivial) trivial)).2.2.2.2.2
  exact restored.kept "s-1" _ (by decide) (by decide) (by decide)

end Sealwire.Sessions

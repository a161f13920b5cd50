import Sealwire.Remote.World

namespace Sealwire.Remote

open Requests

namespace Phone

/-- An attempt at the action with this identity is on the channel or being signed, or will be made again. -/
def InPlay (p : Phone) (actionId : String) (op : Op) : Prop :=
  (∃ frame ∈ p.sent, frame.actionId = actionId ∧ frame.op = op) ∨
    (∃ s ∈ p.signing, s.actionId = actionId ∧ s.op = op) ∨
      ∃ object, p.objects.get actionId = some object ∧ object.op = some op

def Sent (p : Phone) (actionId : String) : Prop :=
  ∃ frame ∈ p.sent, frame.actionId = actionId

/-- Every attempt is of an action that was pending, and an action that was sent has its identity. -/
structure Sound (p : Phone) : Prop where
  known : ∀ actionId ∈ p.pendingActions, p.objects.has actionId = true
  nodup : p.pendingActions.Nodup
  held : ∀ s ∈ p.signing, s.held = true ∧ p.objects.has s.actionId = true
  passes : ∀ s ∈ p.signing, ∀ rest, s.caller = .resend rest →
    (s.actionId :: rest).Nodup ∧ ∀ actionId ∈ rest, p.objects.has actionId = true
  sentKnown : ∀ actionId, p.Sent actionId → p.objects.has actionId = true
  fixed : ∀ actionId, p.Sent actionId → actionId ∈ p.pendingActions →
    ∃ op, (p.objects.get actionId).bind Pending.op = some op

/-- The identity a first attempt would take now. -/
def Fresh (p : Phone) (op : Op) : Prop :=
  ∃ claim, p.claim = some claim ∧ op = { boot := claim.boot, t0 := p.relayClockNow claim }

/-- What a step of the phone adds to what is in play: fresh identities, and only of actions never sent. -/
structure Plays (p after : Phone) : Prop where
  claim : after.claim = p.claim
  now : after.now = p.now
  sent : ∀ actionId, p.Sent actionId → after.Sent actionId
  inPlay : ∀ actionId op, after.InPlay actionId op → p.InPlay actionId op ∨ ¬p.Sent actionId ∧ p.Fresh op

theorem Plays.refl (p : Phone) : p.Plays p :=
  ⟨rfl, rfl, fun _ sent => sent, fun _ _ inPlay => .inl inPlay⟩

theorem Plays.trans {p middle after : Phone} (first : p.Plays middle) (second : middle.Plays after) : p.Plays after := by
  refine ⟨second.claim.trans first.claim, second.now.trans first.now, fun id sent => second.sent id (first.sent id sent), ?_⟩
  intro actionId op inPlay
  rcases second.inPlay actionId op inPlay with before | ⟨unsent, claim, held, identity⟩
  · exact first.inPlay actionId op before
  · right
    refine ⟨fun sent => unsent (first.sent actionId sent), claim, first.claim ▸ held, ?_⟩
    rw [identity, relayClockNow, relayClockNow, first.now]

/-- The step keeps the phone sound and plays by the rule. -/
def Steps (p after : Phone) : Prop :=
  after.Sound ∧ p.Plays after

theorem Steps.trans {p middle after : Phone} (first : p.Steps middle) (second : middle.Steps after) : p.Steps after :=
  ⟨second.1, first.2.trans second.2⟩

theorem Sound.steps_refl {p : Phone} (sound : p.Sound) : p.Steps p :=
  ⟨sound, .refl p⟩

section Steps

variable {p : Phone}

theorem has_of_ops {objects after : Table String Pending}
    (ops : ∀ id, (after.get id).map Pending.op = (objects.get id).map Pending.op) (id : String) :
    after.has id = objects.has id := by
  have same := congrArg Option.isSome (ops id)
  simpa [Table.has] using same

theorem bind_of_ops {objects after : Table String Pending}
    (ops : ∀ id, (after.get id).map Pending.op = (objects.get id).map Pending.op) (id : String) :
    (after.get id).bind Pending.op = (objects.get id).bind Pending.op := by
  have same := ops id
  cases now : after.get id with
  | none =>
    have none_before : objects.get id = none := by simpa [now] using same.symm
    rw [none_before]
  | some object =>
    obtain ⟨old, at_old, op_old⟩ := Option.map_eq_some_iff.mp (same.symm.trans (by rw [now]; rfl))
    rw [at_old]
    exact op_old.symm

/-- Marks on pending actions do not matter. -/
theorem Sound.mark (sound : p.Sound) (objects : Table String Pending) (claiming : List String)
    (ops : ∀ id, (objects.get id).map Pending.op = (p.objects.get id).map Pending.op) :
    p.Steps { p with objects := objects, claiming := claiming } := by
  have has := has_of_ops ops
  have bind := bind_of_ops ops
  refine ⟨⟨?_, sound.nodup, ?_, ?_, ?_, ?_⟩, rfl, rfl, fun _ sent => sent, ?_⟩
  · simpa only [has] using sound.known
  · simpa only [has] using sound.held
  · simpa only [has] using sound.passes
  · intro actionId sent
    simpa only [has] using sound.sentKnown actionId sent
  · intro actionId sent pending
    simpa only [bind] using sound.fixed actionId sent pending
  · rintro actionId op (sent | signing | ⟨object, held, identity⟩)
    · exact .inl (.inl sent)
    · exact .inl (.inr (.inl signing))
    · have same := ops actionId
      rw [show objects.get actionId = some object from held] at same
      obtain ⟨old, at_old, op_old⟩ := Option.map_eq_some_iff.mp same.symm
      exact .inl (.inr (.inr ⟨old, at_old, op_old.trans identity⟩))

/-- Actions leave the map. -/
theorem Sound.leave (sound : p.Sound) {pendingActions : List String} (sub : pendingActions.Sublist p.pendingActions) :
    p.Steps { p with pendingActions := pendingActions } := by
  refine ⟨⟨?_, sound.nodup.sublist sub, sound.held, sound.passes, sound.sentKnown, ?_⟩, rfl, rfl, fun _ sent => sent,
    fun _ _ inPlay => .inl inPlay⟩
  · intro actionId pending
    exact sound.known actionId (sub.subset pending)
  · intro actionId sent pending
    exact sound.fixed actionId sent (sub.subset pending)

theorem Sound.reject (sound : p.Sound) (actionId : String) : p.Steps (p.rejectPendingAction actionId) :=
  sound.leave List.filter_sublist

theorem Sound.extend (sound : p.Sound) (actionId : String) : p.Steps (p.extendPendingActionDeadline actionId) := by
  unfold extendPendingActionDeadline
  split
  · refine sound.mark _ _ ?_
    intro id
    rw [Table.get_modify]
    split
    · rename_i same
      subst same
      cases p.objects.get id <;> rfl
    · rfl
  · exact sound.steps_refl

/-- An attempt is started for an action that is pending. -/
theorem Sound.begin (sound : p.Sound) {actionId actionType request : String} {caller : Caller} {after : Phone}
    (pending : actionId ∈ p.pendingActions)
    (pass : ∀ rest, caller = .resend rest → (actionId :: rest).Nodup ∧ ∀ id ∈ rest, p.objects.has id = true)
    (starts : p.sendRemoteActionFrame actionId actionType request caller = .ok after) : p.Steps after := by
  have has := sound.known actionId pending
  obtain ⟨object, at_object⟩ := Table.has_iff.mp has
  have in_map : p.pending actionId = some object := by simp [Phone.pending, pending, at_object]
  unfold sendRemoteActionFrame at starts
  split at starts
  · cases starts
  split at starts
  · cases starts
  rename_i claim usable
  have held_claim : p.claim = some claim := (Option.filter_eq_some_iff.mp usable).1
  split at starts
  · cases starts
  split at starts
  · cases starts
  simp only [Except.ok.injEq] at starts
  subst starts
  refine ⟨⟨sound.known, sound.nodup, ?_, ?_, sound.sentKnown, sound.fixed⟩, rfl, rfl, fun _ sent => sent, ?_⟩
  · intro s signing
    rcases List.mem_append.mp signing with old | new
    · exact sound.held s old
    · cases List.mem_singleton.mp new
      exact ⟨by simp [in_map], has⟩
  · intro s signing rest caller_
    rcases List.mem_append.mp signing with old | new
    · exact sound.passes s old rest caller_
    · cases List.mem_singleton.mp new
      exact pass rest caller_
  · rintro id op (sent | ⟨s, signing, of_id, identity⟩ | object)
    · exact .inl (.inl sent)
    · rcases List.mem_append.mp signing with old | new
      · exact .inl (.inr (.inl ⟨s, old, of_id, identity⟩))
      · cases List.mem_singleton.mp new
        subst of_id
        -- A first attempt takes a fresh identity, and the action was never sent; a later one takes the action's.
        cases fixed : object.op with
        | some fixed_op =>
          have same : op = fixed_op := by simpa [in_map, fixed] using identity.symm
          exact .inl (.inr (.inr ⟨object, at_object, same ▸ fixed⟩))
        | none =>
          right
          constructor
          · intro sent
            obtain ⟨other, at_other⟩ := sound.fixed actionId sent pending
            simp [at_object, fixed] at at_other
          · exact ⟨claim, held_claim, by simpa [in_map, fixed] using identity.symm⟩
    · exact .inl (.inr (.inr object))

/-- What a resend pass has left is still pending, or is too old to be sent again. -/
def PassHolds (p : Phone) (rest : List String) : Prop :=
  ∀ actionId ∈ rest, actionId ∈ p.pendingActions ∨ p.retryWindowOver actionId = true

theorem Sound.resend {rest : List String} (sound : p.Sound) (nodup : rest.Nodup)
    (known : ∀ id ∈ rest, p.objects.has id = true) (holds : p.PassHolds rest) : p.Steps (p.resendPendingActions rest) := by
  induction rest generalizing p with
  | nil => exact sound.steps_refl
  | cons actionId rest ih =>
    obtain ⟨apart, nodup⟩ := List.nodup_cons.mp nodup
    obtain ⟨object, at_object⟩ := Table.has_iff.mp (known actionId List.mem_cons_self)
    have rest_known : ∀ id ∈ rest, p.objects.has id = true := fun id member => known id (List.mem_cons_of_mem _ member)
    have rejected : p.Steps ((p.rejectPendingAction actionId).resendPendingActions rest) := by
      have gone := sound.reject actionId
      refine gone.trans (ih gone.1 nodup rest_known ?_)
      intro id member
      have other : id ≠ actionId := fun same => apart (same ▸ member)
      rcases holds id (List.mem_cons_of_mem _ member) with pending | expired
      · exact .inl (List.mem_filter.mpr ⟨pending, by simpa using other⟩)
      · exact .inr expired
    simp only [resendPendingActions, at_object]
    split
    · exact rejected
    rename_i within
    have pending : actionId ∈ p.pendingActions := (holds actionId List.mem_cons_self).resolve_right within
    split
    · rename_i after starts
      refine sound.begin pending ?_ starts
      intro other same
      cases same
      exact ⟨List.nodup_cons.mpr ⟨apart, nodup⟩, rest_known⟩
    · exact rejected

/-- The attempt is handed to the socket, and its action has its identity from then on. -/
theorem Sound.send {k : Nat} {s : Signing} (sound : p.Sound) (peerId : String) (seq : Nat) (at_k : p.signing[k]? = some s) :
    p.Steps
      { p with
        signing := p.signing.eraseIdx k
        sent := p.sent ++ [s.frame peerId seq]
        objects := p.objects.modify s.actionId fun object => object.attempted s p.now } := by
  have member : s ∈ p.signing := List.mem_of_getElem? at_k
  obtain ⟨object, at_object⟩ := Table.has_iff.mp (sound.held s member).2
  have keeps (id : String) : (p.objects.modify s.actionId fun object => object.attempted s p.now).has id = p.objects.has id := by
    simp only [Table.has, Table.get_modify]
    split
    · rename_i same
      simp [same]
    · rfl
  have sent_cases {id : String}
      (sent : ∃ frame ∈ p.sent ++ [s.frame peerId seq], frame.actionId = id) : p.Sent id ∨ id = s.actionId := by
    obtain ⟨frame, there, of_id⟩ := sent
    rcases List.mem_append.mp there with old | new
    · exact .inl ⟨frame, old, of_id⟩
    · cases List.mem_singleton.mp new
      exact .inr of_id.symm
  refine ⟨⟨?_, sound.nodup, ?_, ?_, ?_, ?_⟩, rfl, rfl, ?_, ?_⟩
  · intro id pending
    exact (keeps id).trans (sound.known id pending)
  · intro other signing
    have before := sound.held other (List.mem_of_mem_eraseIdx signing)
    exact ⟨before.1, (keeps _).trans before.2⟩
  · intro other signing rest caller
    have before := sound.passes other (List.mem_of_mem_eraseIdx signing) rest caller
    exact ⟨before.1, fun id left => (keeps id).trans (before.2 id left)⟩
  · intro id sent
    rw [keeps id]
    rcases sent_cases sent with old | rfl
    · exact sound.sentKnown id old
    · exact (sound.held s member).2
  · intro id sent pending
    by_cases same : id = s.actionId
    · subst same
      cases fixed : object.op <;> simp [Table.get_modify, at_object, Pending.attempted, fixed]
    · have old : p.Sent id := (sent_cases sent).resolve_right same
      simpa [Table.get_modify, same] using sound.fixed id old pending
  · rintro id ⟨frame, there, of_id⟩
    exact ⟨frame, List.mem_append_left _ there, of_id⟩
  · rintro id op (⟨frame, there, of_id, identity⟩ | ⟨other, signing, rest⟩ | ⟨after, at_after, identity⟩)
    · rcases List.mem_append.mp there with old | new
      · exact .inl (.inl ⟨frame, old, of_id, identity⟩)
      · cases List.mem_singleton.mp new
        exact .inl (.inr (.inl ⟨s, member, of_id, identity⟩))
    · exact .inl (.inr (.inl ⟨other, List.mem_of_mem_eraseIdx signing, rest⟩))
    · by_cases same : id = s.actionId
      · subst same
        simp only [Table.get_modify, if_pos, at_object, Option.map_some, Option.some.injEq] at at_after
        subst at_after
        cases fixed : object.op with
        | none =>
          have of_s : s.op = op := by simpa [Pending.attempted, fixed] using identity
          exact .inl (.inr (.inl ⟨s, member, rfl, of_s⟩))
        | some before =>
          have kept : before = op := by simpa [Pending.attempted, fixed] using identity
          exact .inl (.inr (.inr ⟨object, at_object, kept ▸ fixed⟩))
      · simp only [Table.get_modify, same, if_false] at at_after
        exact .inl (.inr (.inr ⟨after, at_after, identity⟩))

/-- An attempt is given up. -/
theorem Sound.erase (sound : p.Sound) (k : Nat) : p.Steps { p with signing := p.signing.eraseIdx k } := by
  refine ⟨⟨sound.known, sound.nodup, ?_, ?_, sound.sentKnown, sound.fixed⟩, rfl, rfl, fun _ sent => sent, ?_⟩
  · intro s signing
    exact sound.held s (List.mem_of_mem_eraseIdx signing)
  · intro s signing
    exact sound.passes s (List.mem_of_mem_eraseIdx signing)
  · rintro id op (sent | ⟨s, signing, rest⟩ | object)
    · exact .inl (.inl sent)
    · exact .inl (.inr (.inl ⟨s, List.mem_of_mem_eraseIdx signing, rest⟩))
    · exact .inl (.inr (.inr object))

/-- The attempt takes its peer and its number. -/
theorem Sound.encrypt (sound : p.Sound) (k : Nat) : p.Steps (p.encrypted k) := by
  unfold encrypted
  split
  · rename_i s at_k
    split
    · have member : s ∈ p.signing := List.mem_of_getElem? at_k
      refine ⟨⟨sound.known, sound.nodup, ?_, ?_, sound.sentKnown, sound.fixed⟩, rfl, rfl, fun _ sent => sent, ?_⟩
      · intro other signing
        rcases List.mem_or_eq_of_mem_set signing with old | rfl
        · exact sound.held other old
        · exact sound.held s member
      · intro other signing rest caller
        rcases List.mem_or_eq_of_mem_set signing with old | rfl
        · exact sound.passes other old rest caller
        · exact sound.passes s member rest caller
      · rintro id op (sent | ⟨other, signing, of_id, identity⟩ | object)
        · exact .inl (.inl sent)
        · rcases List.mem_or_eq_of_mem_set signing with old | rfl
          · exact .inl (.inr (.inl ⟨other, old, of_id, identity⟩))
          · exact .inl (.inr (.inl ⟨s, member, of_id, identity⟩))
        · exact .inl (.inr (.inr object))
    · exact sound.steps_refl
  · exact sound.steps_refl

/-- A pass still holds when only another action was touched. -/
theorem PassHolds.touch {after : Phone} {actionId : String} {rest : List String} (holds : p.PassHolds rest)
    (apart : actionId ∉ rest) (now : after.now = p.now)
    (pending : ∀ id, id ≠ actionId → id ∈ p.pendingActions → id ∈ after.pendingActions)
    (objects : ∀ id, id ≠ actionId → after.objects.get id = p.objects.get id) : after.PassHolds rest := by
  intro id member
  have other : id ≠ actionId := fun same => apart (same ▸ member)
  rcases holds id member with there | expired
  · exact .inl (pending id other there)
  · refine .inr ?_
    simpa only [retryWindowOver, now, objects id other] using expired

theorem extend_get (p : Phone) {actionId id : String} (other : id ≠ actionId) :
    (p.extendPendingActionDeadline actionId).objects.get id = p.objects.get id := by
  unfold extendPendingActionDeadline
  split
  · simp [Table.get_modify, other]
  · rfl

theorem extend_rest (p : Phone) (actionId : String) :
    (p.extendPendingActionDeadline actionId).pendingActions = p.pendingActions ∧
      (p.extendPendingActionDeadline actionId).now = p.now := by
  unfold extendPendingActionDeadline
  split <;> exact ⟨rfl, rfl⟩

theorem Sound.resolve {actionId : String} {caller : Caller} (sound : p.Sound)
    (pass : ∀ rest, caller = .resend rest →
      (actionId :: rest).Nodup ∧ (∀ id ∈ rest, p.objects.has id = true) ∧ p.PassHolds rest) :
    p.Steps (p.resolved actionId caller) := by
  cases caller with
  | dispatch => exact sound.steps_refl
  | reauthorize => exact sound.extend actionId
  | resend rest =>
    obtain ⟨nodup, known, holds⟩ := pass rest rfl
    obtain ⟨apart, nodup⟩ := List.nodup_cons.mp nodup
    have extended := sound.extend actionId
    refine extended.trans (extended.1.resend nodup ?_ ?_)
    · intro id member
      have other : id ≠ actionId := fun same => apart (same ▸ member)
      have has := known id member
      rwa [Table.has, p.extend_get other]
    · refine holds.touch apart (p.extend_rest actionId).2 ?_ fun id other => p.extend_get other
      intro id _ there
      rwa [(p.extend_rest actionId).1]

theorem Sound.throw {actionId : String} {caller : Caller} (sound : p.Sound)
    (pass : ∀ rest, caller = .resend rest →
      (actionId :: rest).Nodup ∧ (∀ id ∈ rest, p.objects.has id = true) ∧ p.PassHolds rest) :
    p.Steps (p.thrown actionId caller) := by
  cases caller with
  | dispatch => exact sound.reject actionId
  | reauthorize => exact sound.reject actionId
  | resend rest =>
    obtain ⟨nodup, known, holds⟩ := pass rest rfl
    obtain ⟨apart, nodup⟩ := List.nodup_cons.mp nodup
    have rejected := sound.reject actionId
    refine rejected.trans (rejected.1.resend nodup known ?_)
    refine holds.touch apart (by rfl) ?_ fun _ _ => rfl
    intro id other there
    exact List.mem_filter.mpr ⟨there, by simpa using other⟩

/-- What the pass that waits for an attempt has left. -/
def passLeft (p : Phone) (k : Nat) : List String :=
  match p.signing[k]?.map Signing.caller with
  | some (.resend rest) => rest
  | _ => []

/-- The pass that waits for an attempt, if one does, holds. -/
def PassesHold (p : Phone) : PhoneEvent → Prop
  | .signed k | .failed k => p.PassHolds (p.passLeft k)
  | _ => True

instance (p : Phone) (event : PhoneEvent) : Decidable (p.PassesHold event) := by
  cases event <;> unfold PassesHold PassHolds <;> infer_instance

theorem passLeft_of_caller {k : Nat} {s : Signing} {rest : List String} (at_k : p.signing[k]? = some s)
    (caller : s.caller = .resend rest) : p.passLeft k = rest := by
  simp [passLeft, at_k, caller]

theorem Sound.signed {k : Nat} (sound : p.Sound) (holds : p.PassesHold (.signed k)) : p.Steps (p.signed k) := by
  unfold Phone.signed
  split
  · rename_i s at_k
    have member : s ∈ p.signing := List.mem_of_getElem? at_k
    split
    · rename_i peerId seq fields
      simp only [(sound.held s member).1, if_true]
      split
      · have handed := sound.send peerId seq at_k
        refine handed.trans (handed.1.resolve ?_)
        intro rest caller
        obtain ⟨nodup, known⟩ := sound.passes s member rest caller
        refine ⟨nodup, ?_, ?_⟩
        · intro id left
          have other : id ≠ s.actionId := fun same => (List.nodup_cons.mp nodup).1 (same ▸ left)
          have has := known id left
          simpa [Table.has, Table.get_modify, other] using has
        · refine (passLeft_of_caller at_k caller ▸ holds : p.PassHolds rest).touch (List.nodup_cons.mp nodup).1 (by rfl) (fun _ _ there => there) ?_
          intro id other
          simp [Table.get_modify, other]
      · have erased := sound.erase k
        refine erased.trans (erased.1.throw ?_)
        intro rest caller
        obtain ⟨nodup, known⟩ := sound.passes s member rest caller
        exact ⟨nodup, known, passLeft_of_caller at_k caller ▸ holds⟩
    · exact sound.steps_refl
  · exact sound.steps_refl

theorem Sound.failed {k : Nat} (sound : p.Sound) (holds : p.PassesHold (.failed k)) : p.Steps (p.failed k) := by
  unfold Phone.failed
  split
  · rename_i s at_k
    have member : s ∈ p.signing := List.mem_of_getElem? at_k
    have erased := sound.erase k
    refine erased.trans (erased.1.throw ?_)
    intro rest caller
    obtain ⟨nodup, known⟩ := sound.passes s member rest caller
    exact ⟨nodup, known, passLeft_of_caller at_k caller ▸ holds⟩
  · exact sound.steps_refl

/-- A new action is registered. -/
theorem Sound.register {actionId : String} (sound : p.Sound) (object : Pending) (new : p.objects.has actionId = false)
    (first : object.op = none) :
    p.Steps { p with objects := p.objects.put actionId object, pendingActions := p.pendingActions ++ [actionId] } := by
  have keeps {id : String} (has : p.objects.has id = true) : (p.objects.put actionId object).has id = true :=
    Table.has_put.mpr (.inr has)
  have absent {id : String} (has : p.objects.has id = true) : id ≠ actionId := by
    rintro rfl
    simp [new] at has
  refine ⟨⟨?_, ?_, ?_, ?_, ?_, ?_⟩, rfl, rfl, fun _ sent => sent, ?_⟩
  · intro id pending
    rcases List.mem_append.mp pending with old | here
    · exact keeps (sound.known id old)
    · exact Table.has_put.mpr (.inl (List.mem_singleton.mp here))
  · refine List.nodup_append.mpr ⟨sound.nodup, List.nodup_singleton _, ?_⟩
    intro id old other here
    rw [List.mem_singleton.mp here]
    exact absent (sound.known id old)
  · intro s signing
    exact ⟨(sound.held s signing).1, keeps (sound.held s signing).2⟩
  · intro s signing rest caller
    obtain ⟨nodup, known⟩ := sound.passes s signing rest caller
    exact ⟨nodup, fun id left => keeps (known id left)⟩
  · intro id sent
    exact keeps (sound.sentKnown id sent)
  · intro id sent pending
    have other := absent (sound.sentKnown id sent)
    have old : id ∈ p.pendingActions := by simpa [other] using pending
    simpa [Table.get_put, other] using sound.fixed id sent old
  · rintro id op (sent | signing | ⟨after, at_after, identity⟩)
    · exact .inl (.inl sent)
    · exact .inl (.inr (.inl signing))
    · by_cases same : id = actionId
      · subst same
        simp only [Table.get_put_self, Option.some.injEq] at at_after
        subst at_after
        simp [first] at identity
      · simp only [Table.get_put_ne _ _ same] at at_after
        exact .inl (.inr (.inr ⟨after, at_after, identity⟩))

theorem Sound.dispatch (sound : p.Sound) (actionId actionType request : String) :
    p.Steps (p.dispatchRemoteAction actionId actionType request) := by
  unfold dispatchRemoteAction
  split
  · exact sound.steps_refl
  rename_i ready
  have new : p.objects.has actionId = false := by
    simpa using (not_or.mp ready).2
  simp only
  split
  · rename_i after starts
    have registered := sound.register ⟨actionType, request, none, none, none, 0, true⟩ new rfl
    refine registered.trans (registered.1.begin (List.mem_append_right _ (List.mem_singleton_self _)) ?_ starts)
    simp
  · have registered := sound.register ⟨actionType, request, none, none, none, 0, true⟩ new rfl
    exact registered.trans (registered.1.reject actionId)

theorem Sound.reauthorize (sound : p.Sound) (actionId : String) : p.Steps (p.reauthorizePendingAction actionId) := by
  unfold reauthorizePendingAction
  split
  · exact sound.steps_refl
  rename_i object pending
  split
  · exact sound.reject actionId
  · have at_object : p.objects.get actionId = some object := by
      unfold Phone.pending at pending
      split at pending
      · exact pending
      · cases pending
    refine sound.mark _ _ ?_
    intro id
    rw [Table.get_put]
    split
    · rename_i same
      subst same
      simp [at_object]
    · rfl

theorem Sound.reauthorized (sound : p.Sound) (actionId : String) : p.Steps (p.reauthorized actionId) := by
  unfold Phone.reauthorized
  split
  · have left := sound.mark p.objects (p.claiming.erase actionId) fun _ => rfl
    simp only
    split
    · exact left
    rename_i object pending
    have in_map : actionId ∈ p.pendingActions := by
      unfold Phone.pending at pending
      split at pending
      · assumption
      · cases pending
    split
    · rename_i after starts
      exact left.trans (left.1.begin in_map (by simp) starts)
    · exact left.trans (left.1.reject actionId)
  · exact sound.steps_refl

theorem Sound.suspend (sound : p.Sound) : p.Steps p.suspendPendingActionDeadlines := by
  refine sound.mark _ p.claiming ?_
  have ops (actions : List String) (objects : Table String Pending)
      (same : ∀ id, (objects.get id).map Pending.op = (p.objects.get id).map Pending.op) (id : String) :
      ((actions.foldl (fun objects actionId => objects.modify actionId fun object => { object with deadline := false })
        objects).get id).map Pending.op = (p.objects.get id).map Pending.op := by
    induction actions generalizing objects with
    | nil => exact same id
    | cons actionId actions ih =>
      refine ih _ ?_
      intro id
      rw [Table.get_modify, ← same id]
      split
      · rename_i here
        subst here
        cases objects.get id <;> rfl
      · rfl
  exact ops p.pendingActions p.objects fun _ => rfl

/-- What is true after a step of the phone: it is sound, what the step adds to what is in play is fresh, and a
new claim is the one that came in. -/
structure Stepped (p : Phone) (event : PhoneEvent) (after : Phone) : Prop where
  sound : after.Sound
  sent : ∀ id, p.Sent id → after.Sent id
  inPlay : ∀ id op, after.InPlay id op → p.InPlay id op ∨ ¬p.Sent id ∧ p.Fresh op
  claim : ∀ claim, after.claim = some claim →
    p.claim = some claim ∨ ∃ grant, event = .claimed grant ∧ claim.boot = grant.bootId

theorem Steps.stepped {after : Phone} (steps : p.Steps after) (event : PhoneEvent) : p.Stepped event after :=
  ⟨steps.1, steps.2.sent, steps.2.inPlay, fun _ held => .inl (steps.2.claim ▸ held)⟩

/-- A change around the actions starts nothing. -/
theorem Sound.around {event : PhoneEvent} {after : Phone} (sound : p.Sound) (objects : after.objects = p.objects)
    (pendingActions : after.pendingActions = p.pendingActions) (signing : after.signing = p.signing)
    (sent : after.sent = p.sent)
    (claim : ∀ claim, after.claim = some claim →
      p.claim = some claim ∨ ∃ grant, event = .claimed grant ∧ claim.boot = grant.bootId) : p.Stepped event after := by
  refine ⟨⟨?_, ?_, ?_, ?_, ?_, ?_⟩, ?_, ?_, claim⟩
  · simpa only [objects, pendingActions] using sound.known
  · simpa only [pendingActions] using sound.nodup
  · simpa only [objects, signing] using sound.held
  · simpa only [objects, signing] using sound.passes
  · simpa only [Sent, objects, sent] using sound.sentKnown
  · simpa only [Sent, objects, pendingActions, sent] using sound.fixed
  · intro id
    simp only [Sent, sent, imp_self]
  · intro id op inPlay
    simp only [InPlay, sent, signing, objects] at inPlay
    exact .inl inPlay

theorem Sound.step {event : PhoneEvent} (sound : p.Sound) (holds : p.PassesHold event) : p.Stepped event (p.step event) := by
  cases event with
  | tick | wall | connect | bind => exact sound.around rfl rfl rfl rfl fun _ held => .inl held
  | clearClaim => exact sound.around rfl rfl rfl rfl fun _ held => by cases held
  | claimed grant =>
    refine sound.around rfl rfl rfl rfl ?_
    intro claim held
    cases held
    exact .inr ⟨grant, rfl, rfl⟩
  | dispatch actionId actionType request => exact (sound.dispatch actionId actionType request).stepped _
  | encrypted k => exact (sound.encrypt k).stepped _
  | signed k => exact (sound.signed holds).stepped _
  | failed k => exact (sound.failed holds).stepped _
  | settle actionId => exact (sound.reject actionId).stepped _
  | pendingNotice actionId => exact (sound.extend actionId).stepped _
  | deadline actionId =>
    simp only [Phone.step, deadlinePassed]
    split
    · split
      · exact (sound.reject actionId).stepped _
      · exact sound.steps_refl.stepped _
    · exact sound.steps_refl.stepped _
  | suspend => exact sound.suspend.stepped _
  | rejectAll => exact (sound.leave (List.nil_sublist _)).stepped _
  | resend => exact (sound.resend sound.nodup sound.known fun _ pending => .inl pending).stepped _
  | reauthorize actionId => exact (sound.reauthorize actionId).stepped _
  | reauthorized actionId => exact (sound.reauthorized actionId).stepped _
  | claimFailed actionId =>
    simp only [Phone.step]
    split
    · have left := sound.mark p.objects (p.claiming.erase actionId) fun _ => rfl
      exact (left.trans (left.1.reject actionId)).stepped _
    · exact sound.steps_refl.stepped _

end Steps

theorem sound_new : new.Sound := by
  constructor <;> simp [new, Sent]

end Phone

end Sealwire.Remote

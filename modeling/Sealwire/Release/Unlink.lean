import Mathlib.Data.List.DropRight
import Sealwire.Lib.Runs
import Sealwire.Release.Access

namespace Sealwire.Release

variable (origins : Origins) (sha256Hex : String → String)

/-- The bearers that registrations were ever written with have fingerprints of their own. -/
def Apart (w : ReleaseWorld) : Prop :=
  ∀ a ∈ w.issued, ∀ b ∈ w.issued, bearerFingerprint sha256Hex a = bearerFingerprint sha256Hex b → a = b

/-- The row is the registration of exactly this control URL, relay, room and bearer. -/
def Identifies (row : CredentialRow) (identity : Identity) : Prop :=
  StandsAt origins row identity.controlUrl ∧ row.secret = identity.bearer ∧
    ∃ info, row.info = some info ∧ info.schemaVersion = publicRelayRegistrationSchemaVersion ∧
      info.relayId = identity.relayId ∧ info.brokerRoomId = identity.brokerRoomId

/-- The marker is about the registration in the row. -/
def MarkerNames (marker : PendingReleaseMarker) (row : CredentialRow) : Prop :=
  StandsAt origins row marker.controlUrl ∧ bearerFingerprint sha256Hex row.secret = marker.bearerFingerprint ∧
    ∃ info, row.info = some info ∧ info.relayId = marker.relayId ∧ info.brokerRoomId = marker.brokerRoomId

/-- The broker confirmed the release: by a success in this run, or by refusing the bearer after it had answered that
the access is released, earlier in this run or in a run that saved its marker. -/
def Confirmed (log : List ReleaseEvent) (run : Nat) (identity : Identity) : Prop :=
  .replied run identity .confirmed ∈ log ∨
    ∃ newer older, log = newer ++ .replied run identity .unauthorized :: older ∧
      (.replied run identity .accessReleased ∈ older ∨
        ∃ earlier, .saved earlier identity ∈ older ∧ .replied earlier identity .accessReleased ∈ older)

/-- No registration of the origin has the bearer of the marker kept for it. -/
def Unnamed (w : ReleaseWorld) (controlUrl : String) : Prop :=
  ∀ marker, w.pending controlUrl = some marker → ∀ row ∈ w.rows, StandsAt origins row controlUrl →
    bearerFingerprint sha256Hex row.secret ≠ marker.bearerFingerprint

/-- What a run knows of the registration it read: a row of the origin is that registration still, or a newer one that
the marker is not about. -/
structure Held (rows : List CredentialRow) (pending : Option PendingReleaseMarker) (issued : List String)
    (controlUrl : String) (identity : Identity) : Prop where
  here : identity.controlUrl = controlUrl
  issued : identity.bearer ∈ issued
  readable : Readable origins rows controlUrl
  rows : ∀ row ∈ rows, StandsAt origins row controlUrl → Identifies origins row identity ∨
    ∀ marker, pending = some marker → bearerFingerprint sha256Hex row.secret ≠ marker.bearerFingerprint

def PhaseSound (w : ReleaseWorld) (controlUrl : String) : Phase → Prop
  | .started => True
  | .notLinked | .clearing _ => Unnamed origins sha256Hex w controlUrl
  | .loaded identity => Held origins sha256Hex w.rows (w.pending controlUrl) w.issued controlUrl identity
  | .asking identity markerMatches =>
    Held origins sha256Hex w.rows (w.pending controlUrl) w.issued controlUrl identity ∧
      (markerMatches = true ↔ w.pending controlUrl = some (identity.marker sha256Hex))
  | .saving identity _ | .retrying identity _ _ | .resaving identity _ =>
    Held origins sha256Hex w.rows (w.pending controlUrl) w.issued controlUrl identity ∧ .replied w.runs identity .accessReleased ∈ w.log
  | .deleting identity _ =>
    Held origins sha256Hex w.rows (w.pending controlUrl) w.issued controlUrl identity ∧ Confirmed w.log w.runs identity

structure Sound (w : ReleaseWorld) : Prop where
  ids : (w.rows.map CredentialRow.id).Nodup
  issued : ∀ row ∈ w.rows, row.secret ∈ w.issued
  pending : ∀ origin marker, w.pending origin = some marker → ∃ earlier identity,
    marker = identity.marker sha256Hex ∧ identity.controlUrl = origin ∧ identity.bearer ∈ w.issued ∧
      .saved earlier identity ∈ w.log ∧ .replied earlier identity .accessReleased ∈ w.log
  /-- A registration that a marker was saved for and that still stands is the one the marker is about. -/
  saved : ∀ earlier identity, .saved earlier identity ∈ w.log → identity.bearer ∈ w.issued ∧
    ∀ row ∈ w.rows, Identifies origins row identity →
      w.pending identity.controlUrl = some (identity.marker sha256Hex)
  run : ∀ run, w.run = some run → origins.normalizeControlOrigin run.controlUrl = .ok run.controlUrl ∧
    PhaseSound origins sha256Hex w run.controlUrl run.phase

variable {origins} {sha256Hex} {w : ReleaseWorld} {controlUrl : String} {identity : Identity}

/-- With bearers apart, a row the fingerprint singles out is the registration itself. -/
theorem bearer_eq (apart : Apart sha256Hex w) {a b : String} (left : a ∈ w.issued) (right : b ∈ w.issued)
    (same : bearerFingerprint sha256Hex a = bearerFingerprint sha256Hex b) : a = b :=
  apart a left b right same

/-- Markers of issued bearers that are alike are of one identity. -/
theorem identity_of_marker (apart : Apart sha256Hex w) {first second : Identity} (left : first.bearer ∈ w.issued)
    (right : second.bearer ∈ w.issued) (same : first.marker sha256Hex = second.marker sha256Hex) : first = second := by
  simp only [Identity.marker, PendingReleaseMarker.mk.injEq, true_and] at same
  obtain ⟨url, relay, room, fingerprint⟩ := same
  have bearer := bearer_eq apart left right fingerprint
  cases first
  cases second
  simp_all

theorem StandsAt.origin_eq {row : CredentialRow} {first second : String} (left : StandsAt origins row first)
    (right : StandsAt origins row second) : first = second := by
  unfold StandsAt at left right
  rw [left] at right
  exact Except.ok.inj right

@[simp] theorem setPending_same {pending : String → Option PendingReleaseMarker}
    {marker : Option PendingReleaseMarker} (key : origins.normalizeControlOrigin controlUrl = .ok controlUrl) :
    setPending origins pending controlUrl marker controlUrl = marker := by
  unfold setPending
  rw [key]
  exact if_pos rfl

theorem setPending_other {pending : String → Option PendingReleaseMarker} {marker : Option PendingReleaseMarker}
    (key : origins.normalizeControlOrigin controlUrl = .ok controlUrl) {origin : String} (other : origin ≠ controlUrl) :
    setPending origins pending controlUrl marker origin = pending origin := by
  unfold setPending
  rw [key]
  exact if_neg other

/-- The run's own phase moves on; the record it leaves is what the new phase needs. -/
theorem Sound.goOn (sound : Sound origins sha256Hex w) (key : origins.normalizeControlOrigin controlUrl = .ok controlUrl)
    {phase : Phase} (next : PhaseSound origins sha256Hex w controlUrl phase) :
    Sound origins sha256Hex (w.goOn controlUrl phase) where
  ids := sound.ids
  issued := sound.issued
  pending := sound.pending
  saved := sound.saved
  run run same := by
    cases same
    refine ⟨key, ?_⟩
    cases phase <;> exact next

theorem Sound.finish (sound : Sound origins sha256Hex w) (outcome : ReleaseOutcome) :
    Sound origins sha256Hex (w.finish outcome) where
  ids := sound.ids
  issued := sound.issued
  pending := sound.pending
  saved := sound.saved
  run _ same := by cases same

/-- A reply is noted, and the run is at whatever phase is sound with it. -/
theorem Sound.replied (sound : Sound origins sha256Hex w) (verdict : Verdict) :
    Sound origins sha256Hex ({ w with run := none }.note (.replied w.runs identity verdict)) where
  ids := sound.ids
  issued := sound.issued
  pending origin marker held := by
    obtain ⟨earlier, of, same, url, known, saved, replied⟩ := sound.pending origin marker held
    exact ⟨earlier, of, same, url, known, List.mem_cons_of_mem _ saved, List.mem_cons_of_mem _ replied⟩
  saved earlier of member := by
    rcases List.mem_cons.1 member with impossible | old
    · cases impossible
    · exact sound.saved earlier of old
  run _ same := by cases same

/-- A phase that the noted reply supports. -/
theorem Sound.afterReply (sound : Sound origins sha256Hex w)
    (key : origins.normalizeControlOrigin controlUrl = .ok controlUrl) {verdict : Verdict} {phase : Phase}
    (next : PhaseSound origins sha256Hex (w.note (.replied w.runs identity verdict)) controlUrl phase) :
    Sound origins sha256Hex ((w.note (.replied w.runs identity verdict)).goOn controlUrl phase) := by
  have noted : Sound origins sha256Hex ({ w with run := none }.note (.replied w.runs identity verdict)) :=
    sound.replied verdict
  refine noted.goOn key ?_
  cases phase <;> exact next

/-- A marker kept for the run's identity was saved by an earlier run that was told the access is released. -/
theorem Sound.earlierRelease (sound : Sound origins sha256Hex w) (apart : Apart sha256Hex w)
    (issued : identity.bearer ∈ w.issued) (kept : w.pending controlUrl = some (identity.marker sha256Hex)) :
    ∃ earlier, .saved earlier identity ∈ w.log ∧ .replied earlier identity .accessReleased ∈ w.log := by
  obtain ⟨earlier, of, same, _, known, saved, replied⟩ := sound.pending _ _ kept
  have self := identity_of_marker apart issued known same
  subst self
  exact ⟨earlier, saved, replied⟩

theorem Sound.receive (sound : Sound origins sha256Hex w) (apart : Apart sha256Hex w) (exchange : Exchange) :
    Sound origins sha256Hex (receive w exchange) := by
  unfold Release.receive
  split
  · rename_i url identity markerMatches running
    obtain ⟨key, held, matched⟩ := sound.run _ running
    dsimp only at key held matched ⊢
    cases posted : postAccessRelease exchange with
    | ok =>
      exact sound.afterReply key ⟨held, .inl (List.mem_cons_self ..)⟩
    | error error =>
      cases error with
      | unauthorized =>
        cases markerMatches with
        | true =>
          have before := sound.earlierRelease apart held.issued (matched.1 rfl)
          exact sound.afterReply key ⟨held, .inr ⟨[], w.log, rfl, .inr before⟩⟩
        | false => exact (sound.replied _).finish _
      | unavailable accessReleased message =>
        cases accessReleased with
        | true => exact sound.afterReply key ⟨held, List.mem_cons_self ..⟩
        | false => exact (sound.replied _).finish _
      | _ => exact (sound.replied _).finish _
  · rename_i url identity message markerError running
    obtain ⟨key, held, told⟩ := sound.run _ running
    dsimp only at key held told ⊢
    cases posted : postAccessRelease exchange with
    | ok =>
      exact sound.afterReply key ⟨held, .inl (List.mem_cons_self ..)⟩
    | error error =>
      cases error with
      | unauthorized => exact sound.afterReply key ⟨held, .inr ⟨[], w.log, rfl, .inl told⟩⟩
      | unavailable accessReleased message =>
        cases accessReleased with
        | true => exact sound.afterReply key ⟨held, List.mem_cons_self ..⟩
        | false => exact (sound.replied _).finish _
      | _ => exact (sound.replied _).finish _
  · exact sound

/-- The marker of the run's registration is saved: a row of the origin that some marker was about is this one. -/
theorem Sound.keepMarker (sound : Sound origins sha256Hex w) (apart : Apart sha256Hex w)
    (key : origins.normalizeControlOrigin controlUrl = .ok controlUrl)
    (held : Held origins sha256Hex w.rows (w.pending controlUrl) w.issued controlUrl identity)
    (told : .replied w.runs identity .accessReleased ∈ w.log) (outcome : ReleaseOutcome) :
    Sound origins sha256Hex
      (({ w with pending := setPending origins w.pending controlUrl (some (identity.marker sha256Hex)) }.note
        (.saved w.runs identity)).finish outcome) where
  ids := sound.ids
  issued := sound.issued
  pending origin marker kept := by
    by_cases here : origin = controlUrl
    · subst here
      have same : setPending origins w.pending origin (some (identity.marker sha256Hex)) origin = some marker := kept
      rw [setPending_same key] at same
      cases same
      exact ⟨w.runs, identity, rfl, held.here, held.issued, List.mem_cons_self .., List.mem_cons_of_mem _ told⟩
    · have same : setPending origins w.pending controlUrl (some (identity.marker sha256Hex)) origin = some marker := kept
      rw [setPending_other key here] at same
      obtain ⟨earlier, of, rfl, url, known, saved, replied⟩ := sound.pending origin marker same
      exact ⟨earlier, of, rfl, url, known, List.mem_cons_of_mem _ saved, List.mem_cons_of_mem _ replied⟩
  saved earlier of member := by
    rcases List.mem_cons.1 member with new | old
    · cases new
      refine ⟨held.issued, fun row inside identifies => ?_⟩
      show setPending origins w.pending controlUrl (some (identity.marker sha256Hex)) identity.controlUrl = _
      rw [held.here, setPending_same key]
    · obtain ⟨known, named⟩ := sound.saved earlier of old
      refine ⟨known, fun row inside identifies => ?_⟩
      have was := named row inside identifies
      show setPending origins w.pending controlUrl (some (identity.marker sha256Hex)) of.controlUrl = _
      by_cases here : of.controlUrl = controlUrl
      · -- the old marker was about this row, so the row is the registration the run read
        rw [here, setPending_same key]
        rw [here] at was
        have fingerprint : bearerFingerprint sha256Hex row.secret = (of.marker sha256Hex).bearerFingerprint := by
          rw [identifies.2.1]
          rfl
        have stands : StandsAt origins row controlUrl := here ▸ identifies.1
        rcases held.rows row inside stands with self | other
        · have bearer : identity.bearer = of.bearer := self.2.1.symm.trans identifies.2.1
          obtain ⟨_, _, info, found, _, relay, room⟩ := self
          obtain ⟨_, _, info', found', _, relay', room'⟩ := identifies
          rw [found] at found'
          cases found'
          have same : identity = of := by
            have urls : identity.controlUrl = of.controlUrl := held.here.trans here.symm
            cases identity
            cases of
            simp_all
          rw [same]
        · exact absurd fingerprint (other _ was)
      · rw [setPending_other key here]
        exact was
  run _ same := by cases same

theorem Sound.saveMarker (sound : Sound origins sha256Hex w) (apart : Apart sha256Hex w) (stored : Except String Unit) :
    Sound origins sha256Hex (saveMarker origins sha256Hex w stored) := by
  unfold Release.saveMarker
  split
  · rename_i url identity message running
    obtain ⟨key, held, told⟩ := sound.run _ running
    cases stored with
    | ok => exact sound.keepMarker apart key held told _
    | error markerError => exact sound.goOn key ⟨held, told⟩
  · rename_i url identity message running
    obtain ⟨key, held, told⟩ := sound.run _ running
    cases stored with
    | ok => exact sound.keepMarker apart key held told _
    | error markerError => exact sound.finish _
  · exact sound

/-- What the compare-and-delete does: it removes the one row that is the registration asked about, or nothing because
no row of the origin is that registration. -/
theorem deleteRegistrationIfMatches_ok {rows next : List CredentialRow} {removed : Bool}
    (key : origins.normalizeControlOrigin identity.controlUrl = .ok identity.controlUrl)
    (apart : ∀ row ∈ rows, bearerFingerprint sha256Hex row.secret = bearerFingerprint sha256Hex identity.bearer →
      row.secret = identity.bearer)
    (ran : deleteRegistrationIfMatches origins sha256Hex rows identity = .ok (next, removed)) :
    (removed = true ∧ ∃ row ∈ rows, Identifies origins row identity ∧ next = deleteCredential rows row.id ∧
        ∀ other ∈ rows, StandsAt origins other identity.controlUrl → other = row) ∨
      (removed = false ∧ next = rows ∧ ∀ row ∈ rows, ¬ Identifies origins row identity) := by
  unfold deleteRegistrationIfMatches at ran
  cases read : rowForOrigin origins rows identity.controlUrl with
  | error error => simp [read] at ran
  | ok found =>
    obtain ⟨inside, unique⟩ := rowForOrigin_ok key read
    cases found with
    | none =>
      simp only [read, Except.ok.injEq, Prod.mk.injEq] at ran
      refine .inr ⟨ran.2.symm, ran.1.symm, fun row member identifies => ?_⟩
      cases unique row member identifies.1
    | some row =>
      obtain ⟨member, stands⟩ := inside row rfl
      have only : ∀ other ∈ rows, StandsAt origins other identity.controlUrl → other = row :=
        fun other also here => (Option.some.inj (unique other also here)).symm
      simp only [read] at ran
      cases decoded : row.info with
      | none => simp [decoded] at ran
      | some info =>
        simp only [decoded] at ran
        split at ran
        · cases ran
        · rename_i schema
          rw [not_not] at schema
          split at ran
          · rename_i matching
            unfold deleteForOrigin at ran
            simp only [read, Except.ok.injEq, Prod.mk.injEq] at ran
            obtain ⟨rfl, rfl⟩ := ran
            refine .inl ⟨?_, row, member, ⟨stands, apart row member matching.2.2.1, info, decoded, schema, matching.1,
              matching.2.1⟩, rfl, only⟩
            exact List.any_eq_true.2 ⟨row, member, by simp⟩
          · rename_i different
            simp only [Except.ok.injEq, Prod.mk.injEq] at ran
            refine .inr ⟨ran.2.symm, ran.1.symm, fun other also identifies => different ?_⟩
            have same := only other also identifies.1
            subst same
            obtain ⟨_, bearer, info', found', _, relay, room⟩ := identifies
            rw [decoded] at found'
            cases found'
            have origin : origins.normalizeControlOrigin info.controlUrl = .ok identity.controlUrl := by
              unfold StandsAt rowOrigin at stands
              rwa [decoded] at stands
            exact ⟨relay, room, by rw [bearer], origins.loose_eq origin⟩

theorem Sound.apartFrom (sound : Sound origins sha256Hex w) (apart : Apart sha256Hex w)
    (issued : identity.bearer ∈ w.issued) :
    ∀ row ∈ w.rows, bearerFingerprint sha256Hex row.secret = bearerFingerprint sha256Hex identity.bearer →
      row.secret = identity.bearer :=
  fun row member same => bearer_eq apart (sound.issued row member) issued same

theorem mem_deleteCredential {rows : List CredentialRow} {row : CredentialRow} {id : String} :
    row ∈ deleteCredential rows id ↔ row ∈ rows ∧ row.id ≠ id := by
  unfold deleteCredential
  rw [List.mem_filter, decide_eq_true_eq]

theorem Sound.deleteConfirmed (sound : Sound origins sha256Hex w) (apart : Apart sha256Hex w)
    (stored : Except String Unit) : Sound origins sha256Hex (deleteConfirmed origins sha256Hex w stored) := by
  unfold Release.deleteConfirmed
  split
  · rename_i url identity success running
    obtain ⟨key, held, confirmed⟩ := sound.run _ running
    have origin : origins.normalizeControlOrigin identity.controlUrl = .ok identity.controlUrl := by
      rw [held.here]
      exact key
    split
    · rename_i next ran
      rcases deleteRegistrationIfMatches_ok origin (sound.apartFrom apart held.issued) ran with
        ⟨_, row, member, identifies, rfl, only⟩ | ⟨impossible, _⟩
      · have kept : ∀ other ∈ deleteCredential w.rows row.id, other ∈ w.rows :=
          fun other inside => (mem_deleteCredential.1 inside).1
        refine Sound.goOn (w := { w with rows := deleteCredential w.rows row.id }) ?_ key ?_
        · exact
            { ids := sound.ids.sublist (List.filter_sublist.map _)
              issued := fun other inside => sound.issued other (kept other inside)
              pending := sound.pending
              saved := fun earlier of saved =>
                ⟨(sound.saved earlier of saved).1, fun other inside =>
                  (sound.saved earlier of saved).2 other (kept other inside)⟩
              run := by
                intro run same
                rw [running] at same
                cases same
                refine ⟨key, ⟨held.here, held.issued, ?_, fun other inside => held.rows other (kept other inside)⟩,
                  confirmed⟩
                exact readable_of_unique (fun other inside => held.readable.named other (kept other inside))
                  (sound.ids.sublist (List.filter_sublist.map _))
                  (fun first one second two here too => held.readable.unique (kept first one) (kept second two) here too) }
        · intro marker _ other inside stands
          have self := only other (kept other inside) (by rw [held.here]; exact stands)
          exact absurd (congrArg CredentialRow.id self) (mem_deleteCredential.1 inside).2
      · cases impossible
    · rename_i next ran
      rcases deleteRegistrationIfMatches_ok origin (sound.apartFrom apart held.issued) ran with
        ⟨impossible, _⟩ | ⟨_, _, none_left⟩
      · cases impossible
      · refine sound.goOn key (fun marker kept row member stands => ?_)
        rcases held.rows row member stands with self | other
        · exact absurd self (none_left row member)
        · exact other marker kept
    · exact sound.finish _
    · exact sound.finish _
  · exact sound

/-- A marker goes only where no registration of the origin has its bearer. -/
theorem Sound.dropMarker (sound : Sound origins sha256Hex w)
    (key : origins.normalizeControlOrigin controlUrl = .ok controlUrl)
    (unnamed : Unnamed origins sha256Hex w controlUrl) (stored : Bool) (outcome : ReleaseOutcome) :
    Sound origins sha256Hex
      ({ w with pending := if stored then setPending origins w.pending controlUrl none else w.pending }.finish
        outcome) := by
  cases stored with
  | false => exact sound.finish _
  | true =>
    exact
      { ids := sound.ids
        issued := sound.issued
        pending := by
          intro origin marker kept
          have same : setPending origins w.pending controlUrl none origin = some marker := kept
          by_cases here : origin = controlUrl
          · subst here
            rw [setPending_same key] at same
            cases same
          · rw [setPending_other key here] at same
            exact sound.pending origin marker same
        saved := by
          intro earlier of member
          obtain ⟨known, named⟩ := sound.saved earlier of member
          refine ⟨known, fun row inside identifies => ?_⟩
          have was := named row inside identifies
          show setPending origins w.pending controlUrl none of.controlUrl = _
          by_cases here : of.controlUrl = controlUrl
          · have stands : StandsAt origins row controlUrl := here ▸ identifies.1
            rw [here] at was
            exact absurd (by rw [identifies.2.1]; rfl) (unnamed _ was row inside stands)
          · rw [setPending_other key here]
            exact was
        run := by
          intro _ same
          cases same }

theorem Sound.clearMarker (sound : Sound origins sha256Hex w) (stored : Bool) :
    Sound origins sha256Hex (clearMarker origins w stored) := by
  unfold Release.clearMarker
  split
  · rename_i url running
    obtain ⟨key, unnamed⟩ := sound.run _ running
    exact sound.dropMarker key unnamed stored _
  · rename_i url outcome running
    obtain ⟨key, unnamed⟩ := sound.run _ running
    exact sound.dropMarker key unnamed stored _
  · exact sound

theorem loadRegistration_some {rows : List CredentialRow}
    (key : origins.normalizeControlOrigin controlUrl = .ok controlUrl)
    (loaded : loadRegistrationForRelease origins rows controlUrl = .ok (some identity)) :
    identity.controlUrl = controlUrl ∧ Readable origins rows controlUrl ∧ (∃ row ∈ rows, row.secret = identity.bearer) ∧
      ∀ row ∈ rows, StandsAt origins row controlUrl → Identifies origins row identity := by
  unfold loadRegistrationForRelease at loaded
  cases read : rowForOrigin origins rows controlUrl with
  | error error => simp [read] at loaded
  | ok found =>
    obtain ⟨inside, unique⟩ := rowForOrigin_ok key read
    cases found with
    | none => simp [read] at loaded
    | some row =>
      obtain ⟨member, stands⟩ := inside row rfl
      simp only [read] at loaded
      cases decoded : row.info with
      | none => simp [decoded] at loaded
      | some info =>
        simp only [decoded] at loaded
        split at loaded
        · cases loaded
        · rename_i schema
          cases loaded
          refine ⟨rfl, ⟨some row, ?_⟩, ⟨row, member, rfl⟩, fun other also here => ?_⟩
          · unfold rowForOrigin at read
            rwa [key] at read
          · cases unique other also here
            exact ⟨stands, rfl, info, decoded, not_not.1 schema, rfl, rfl⟩

theorem loadRegistration_none {rows : List CredentialRow}
    (key : origins.normalizeControlOrigin controlUrl = .ok controlUrl)
    (loaded : loadRegistrationForRelease origins rows controlUrl = .ok none) :
    ∀ row ∈ rows, ¬ StandsAt origins row controlUrl := by
  unfold loadRegistrationForRelease at loaded
  cases read : rowForOrigin origins rows controlUrl with
  | error error => simp [read] at loaded
  | ok found =>
    cases found with
    | none =>
      intro row member stands
      cases (rowForOrigin_ok key read).2 row member stands
    | some row =>
      simp only [read] at loaded
      cases decoded : row.info with
      | none => simp [decoded] at loaded
      | some info =>
        simp only [decoded] at loaded
        split at loaded <;> cases loaded

theorem Sound.loadMarker (sound : Sound origins sha256Hex w)
    (running : w.run = some ⟨controlUrl, .loaded identity⟩) {marker : Option PendingReleaseMarker}
    (read : pendingFor origins w.pending controlUrl = .ok marker) :
    (marker.any (fun marker => decide (marker.controlUrl = controlUrl ∧ marker.relayId = identity.relayId ∧
      marker.brokerRoomId = identity.brokerRoomId ∧
      marker.bearerFingerprint = bearerFingerprint sha256Hex identity.bearer))) = true ↔
        w.pending controlUrl = some (identity.marker sha256Hex) := by
  obtain ⟨key, held⟩ := sound.run _ running
  dsimp only at key held
  unfold pendingFor at read
  rw [key] at read
  cases kept : w.pending controlUrl with
  | none =>
    simp only [kept, Except.ok.injEq] at read
    subst read
    simp
  | some found =>
    obtain ⟨_, of, rfl, _⟩ := sound.pending _ _ kept
    simp only [kept, Identity.marker, ne_eq, not_true_eq_false, if_false, Except.ok.injEq] at read
    subst read
    have here := held.here
    simp [Identity.marker, here]

theorem Sound.activate (sound : Sound origins sha256Hex w) {relayId brokerRoomId bearer : String}
    {rows : List CredentialRow} (fresh : bearer ∉ w.issued)
    (apart : Apart sha256Hex { w with issued := bearer :: w.issued })
    (written : writeForOrigin origins w.rows controlUrl bearer
      ⟨publicRelayRegistrationSchemaVersion, controlUrl, relayId, brokerRoomId⟩ = .ok rows) :
    Sound origins sha256Hex { w with rows := rows, issued := bearer :: w.issued } := by
  obtain ⟨origin, names⟩ : ∃ origin, origins.normalizeControlOrigin controlUrl = .ok origin := by
    unfold writeForOrigin rowForOrigin at written
    cases named : origins.normalizeControlOrigin controlUrl with
    | error error => simp [named] at written
    | ok origin => exact ⟨origin, rfl⟩
  have readable : Readable origins w.rows origin := by
    unfold writeForOrigin at written
    cases read : rowForOrigin origins w.rows controlUrl with
    | error error => simp [read] at written
    | ok found =>
      unfold rowForOrigin at read
      rw [names] at read
      exact ⟨found, read⟩
  obtain ⟨_, ids, new, secret, _, members⟩ := readable.put sound.ids (by rfl) names written
  -- a bearer never issued before is no marker's bearer
  have unmarked (marker : PendingReleaseMarker) (at_origin : String) (kept : w.pending at_origin = some marker) :
      bearerFingerprint sha256Hex new.secret ≠ marker.bearerFingerprint := by
    obtain ⟨_, of, rfl, _, known, _⟩ := sound.pending _ _ kept
    intro same
    rw [secret] at same
    have bearers := apart bearer (List.mem_cons_self ..) of.bearer (List.mem_cons_of_mem _ known) same
    rw [bearers] at fresh
    exact fresh known
  have unnamed (at_origin : String) (was : Unnamed origins sha256Hex w at_origin) :
      Unnamed origins sha256Hex { w with rows := rows, issued := bearer :: w.issued } at_origin := by
    intro marker kept row member stands
    rcases members row member with rfl | old
    · exact unmarked marker _ kept
    · exact was marker kept row old stands
  have holds (at_origin : String) (of : Identity)
      (was : Held origins sha256Hex w.rows (w.pending at_origin) w.issued at_origin of) :
      Held origins sha256Hex rows (w.pending at_origin) (bearer :: w.issued) at_origin of := by
    refine ⟨was.here, List.mem_cons_of_mem _ was.issued, (was.readable.put sound.ids (by rfl) names written).1, ?_⟩
    intro row member stands
    rcases members row member with rfl | old
    · exact .inr (fun marker kept => unmarked marker _ kept)
    · exact was.rows row old stands
  exact
    { ids := ids
      issued := by
        intro row member
        rcases members row member with rfl | old
        · rw [secret]
          exact List.mem_cons_self ..
        · exact List.mem_cons_of_mem _ (sound.issued row old)
      pending := by
        intro at_origin marker kept
        obtain ⟨earlier, of, same, url, known, saved, replied⟩ := sound.pending _ _ kept
        exact ⟨earlier, of, same, url, List.mem_cons_of_mem _ known, saved, replied⟩
      saved := by
        intro earlier of saved
        obtain ⟨known, named⟩ := sound.saved earlier of saved
        refine ⟨List.mem_cons_of_mem _ known, fun row member identifies => ?_⟩
        rcases members row member with rfl | old
        · rw [← identifies.2.1, secret] at known
          exact absurd known fresh
        · exact named row old identifies
      run := by
        intro run running
        obtain ⟨key, phase⟩ := sound.run run running
        refine ⟨key, ?_⟩
        obtain ⟨url, at_phase⟩ := run
        cases at_phase with
        | started => trivial
        | notLinked | clearing => exact unnamed _ phase
        | loaded => exact holds _ _ phase
        | asking | saving | retrying | resaving | deleting => exact ⟨holds _ _ phase.1, phase.2⟩ }

/-- Only a move of another process adds a bearer to those issued. -/
theorem run_issued (w : ReleaseWorld) (m : ReleaseMove) :
    (m.run origins sha256Hex w).issued = w.issued ∨
      ∃ controlUrl relayId brokerRoomId bearer, m = .activate controlUrl relayId brokerRoomId bearer := by
  cases m with
  | activate => exact .inr ⟨_, _, _, _, rfl⟩
  | _ =>
    left
    simp only [ReleaseMove.run, receive, saveMarker, deleteConfirmed, clearMarker]
    repeat' split
    all_goals rfl

theorem Apart.before {m : ReleaseMove} (apart : Apart sha256Hex (m.run origins sha256Hex w)) : Apart sha256Hex w := by
  have subset : ∀ a ∈ w.issued, a ∈ (m.run origins sha256Hex w).issued := by
    intro a issued
    rcases @run_issued origins sha256Hex w m with same | ⟨_, _, _, _, rfl⟩
    · rw [same]
      exact issued
    · dsimp only [ReleaseMove.run]
      split
      · exact List.mem_cons_of_mem _ issued
      · exact issued
  exact fun a left b right same => apart a (subset a left) b (subset b right) same

theorem Sound.run_move (sound : Sound origins sha256Hex w) {m : ReleaseMove} (allowed : mayRelease w m)
    (apart : Apart sha256Hex (m.run origins sha256Hex w)) : Sound origins sha256Hex (m.run origins sha256Hex w) := by
  have before := apart.before
  cases m with
  | start url =>
    dsimp only [ReleaseMove.run]
    split
    · rename_i expected idle named
      exact
        { ids := sound.ids
          issued := sound.issued
          pending := sound.pending
          saved := sound.saved
          run := by
            intro run same
            cases same
            exact ⟨origins.idempotent named, trivial⟩ }
    · exact sound
  | fails message =>
    dsimp only [ReleaseMove.run]
    split
    · exact sound.finish _
    · exact sound.finish _
    · exact sound.finish _
    · exact sound
  | loadRegistration =>
    dsimp only [ReleaseMove.run]
    split
    · rename_i url running
      have key := (sound.run _ running).1
      split
      · exact sound.finish _
      · rename_i loaded
        exact sound.goOn key (fun _ _ row member stands => absurd stands (loadRegistration_none key loaded row member))
      · rename_i identity loaded
        obtain ⟨here, readable, ⟨row, member, secret⟩, rows⟩ := loadRegistration_some key loaded
        refine sound.goOn key ⟨here, ?_, readable, fun other also stands => .inl (rows other also stands)⟩
        rw [← secret]
        exact sound.issued row member
    · exact sound
  | loadMarker =>
    dsimp only [ReleaseMove.run]
    split
    · rename_i url identity running
      have key := (sound.run _ running).1
      split
      · exact sound.finish _
      · rename_i marker read
        exact sound.goOn key ⟨(sound.run _ running).2, sound.loadMarker running read⟩
    · exact sound
  | reply exchange => exact sound.receive before exchange
  | save stored => exact sound.saveMarker before stored
  | delete stored => exact sound.deleteConfirmed before stored
  | clear stored => exact sound.clearMarker stored
  | crash =>
    exact
      { ids := sound.ids
        issued := sound.issued
        pending := sound.pending
        saved := sound.saved
        run := by
          intro _ same
          cases same }
  | activate url relayId brokerRoomId bearer =>
    dsimp only [ReleaseMove.run] at apart ⊢
    split
    · rename_i rows written
      rw [written] at apart
      exact sound.activate allowed apart written
    · exact sound

/-- A database with registrations in it, and no release run yet. -/
def linked (rows : List CredentialRow) : ReleaseWorld where
  rows := rows
  issued := rows.map CredentialRow.secret

theorem Sound.linked {rows : List CredentialRow} (distinct : (rows.map CredentialRow.id).Nodup) :
    Sound origins sha256Hex (linked rows) where
  ids := distinct
  issued _ member := List.mem_map_of_mem member
  pending _ _ held := by cases held
  saved _ _ member := by cases member
  run _ same := by cases same

theorem sound_of_reaches {rows : List CredentialRow} (distinct : (rows.map CredentialRow.id).Nodup)
    (reached : Reaches (ReleaseMove.run origins sha256Hex) mayRelease (linked rows) w) (apart : Apart sha256Hex w) :
    Sound origins sha256Hex w := by
  induction reached with
  | start => exact .linked distinct
  | next _ allowed ih => exact (ih apart.before).run_move allowed apart

/-- A registration leaves the database by the delete of a confirmed release, or another is written in its place. -/
theorem Sound.deleted (sound : Sound origins sha256Hex w) (apart : Apart sha256Hex w) {m : ReleaseMove}
    {row : CredentialRow} (member : row ∈ w.rows) (gone : row ∉ (m.run origins sha256Hex w).rows) :
    (∃ controlUrl relayId brokerRoomId bearer, m = .activate controlUrl relayId brokerRoomId bearer) ∨
      ∃ identity, Identifies origins row identity ∧ Confirmed w.log w.runs identity := by
  cases m with
  | activate => exact .inl ⟨_, _, _, _, rfl⟩
  | delete stored =>
    right
    dsimp only [ReleaseMove.run, Release.deleteConfirmed] at gone
    split at gone
    · rename_i url identity success running
      obtain ⟨key, held, confirmed⟩ := sound.run _ running
      have origin : origins.normalizeControlOrigin identity.controlUrl = .ok identity.controlUrl := by
        rw [held.here]
        exact key
      split at gone
      · rename_i next ran
        rcases deleteRegistrationIfMatches_ok origin (sound.apartFrom apart held.issued) ran with
          ⟨_, found, inside, identifies, rfl, _⟩ | ⟨impossible, _⟩
        · -- ids are a key, so the row that went is the row that was found
          have id : row.id = found.id := by
            by_contra other
            exact gone (mem_deleteCredential.2 ⟨member, other⟩)
          have same : row = found := List.inj_on_of_nodup_map sound.ids member inside id
          rw [same]
          exact ⟨identity, identifies, confirmed⟩
        · cases impossible
      · exact absurd member gone
      · exact absurd member gone
      · exact absurd member gone
    · exact absurd member gone
  | _ =>
    exfalso
    refine gone ?_
    simp only [ReleaseMove.run, Release.receive, Release.saveMarker, Release.clearMarker]
    repeat' split
    all_goals exact member

theorem setPending_some_ne {pending : String → Option PendingReleaseMarker} {marker : PendingReleaseMarker}
    {origin : String} (key : origins.normalizeControlOrigin controlUrl = .ok controlUrl)
    (held : ∃ kept, pending origin = some kept) : setPending origins pending controlUrl (some marker) origin ≠ none := by
  obtain ⟨kept, was⟩ := held
  by_cases here : origin = controlUrl
  · subst here
    rw [setPending_same key]
    exact Option.some_ne_none _
  · rw [setPending_other key here, was]
    exact Option.some_ne_none _

/-- A marker that goes when the origin's is dropped is the origin's, and no registration there has its bearer. -/
theorem Unnamed.dropped {origin : String} {marker : PendingReleaseMarker} {stored : Bool}
    (unnamed : Unnamed origins sha256Hex w controlUrl)
    (key : origins.normalizeControlOrigin controlUrl = .ok controlUrl) (named : marker.controlUrl = origin)
    (kept : w.pending origin = some marker)
    (gone : (if stored then setPending origins w.pending controlUrl none else w.pending) origin = none) :
    ∀ row ∈ w.rows, ¬ MarkerNames origins sha256Hex marker row := by
  intro row member names
  by_cases here : origin = controlUrl
  · subst here
    exact unnamed marker kept row member (named ▸ names.1) names.2.1
  · cases stored with
    | false =>
      rw [if_neg Bool.false_ne_true, kept] at gone
      cases gone
    | true =>
      rw [if_pos rfl, setPending_other key here, kept] at gone
      cases gone

/-- A marker is cleared where no registration it could be about stands. -/
theorem Sound.cleared (sound : Sound origins sha256Hex w) {m : ReleaseMove} {origin : String}
    {marker : PendingReleaseMarker} (kept : w.pending origin = some marker)
    (gone : (m.run origins sha256Hex w).pending origin = none) :
    ∀ row ∈ w.rows, ¬ MarkerNames origins sha256Hex marker row := by
  have named : marker.controlUrl = origin := by
    obtain ⟨_, of, rfl, url, _⟩ := sound.pending _ _ kept
    exact url
  have stays (same : (m.run origins sha256Hex w).pending origin = w.pending origin) :
      ∀ row ∈ w.rows, ¬ MarkerNames origins sha256Hex marker row := by
    rw [same, kept] at gone
    cases gone
  cases m with
  | clear stored =>
    dsimp only [ReleaseMove.run, Release.clearMarker] at gone stays
    split at gone
    · rename_i url running
      obtain ⟨key, unnamed⟩ := sound.run _ running
      exact Unnamed.dropped unnamed key named kept gone
    · rename_i url outcome running
      obtain ⟨key, unnamed⟩ := sound.run _ running
      exact Unnamed.dropped unnamed key named kept gone
    · rw [kept] at gone
      cases gone
  | save stored =>
    dsimp only [ReleaseMove.run, Release.saveMarker] at gone
    split at gone
    · rename_i running
      have key := (sound.run _ running).1
      split at gone
      · exact absurd gone (setPending_some_ne key ⟨marker, kept⟩)
      · exact absurd (kept.symm.trans gone) (Option.some_ne_none _)
    · rename_i running
      have key := (sound.run _ running).1
      split at gone
      · exact absurd gone (setPending_some_ne key ⟨marker, kept⟩)
      · exact absurd (kept.symm.trans gone) (Option.some_ne_none _)
    · exact absurd (kept.symm.trans gone) (Option.some_ne_none _)
  | _ =>
    refine stays ?_
    simp only [ReleaseMove.run, Release.receive, Release.deleteConfirmed]
    repeat' split
    all_goals rfl

/-- The compare-and-delete finds a registration that stands. -/
theorem deleteRegistrationIfMatches_of_identifies {rows : List CredentialRow} {row : CredentialRow}
    (key : origins.normalizeControlOrigin identity.controlUrl = .ok identity.controlUrl)
    (readable : Readable origins rows identity.controlUrl) (member : row ∈ rows)
    (identifies : Identifies origins row identity) :
    deleteRegistrationIfMatches origins sha256Hex rows identity = .ok (deleteCredential rows row.id, true) := by
  obtain ⟨found, read⟩ := readable
  have reads : rowForOrigin origins rows identity.controlUrl = .ok found := by
    unfold rowForOrigin
    rw [key]
    exact read
  have same := (rowForOrigin_ok key reads).2 row member identifies.1
  subst same
  obtain ⟨stands, bearer, info, decoded, schema, relay, room⟩ := identifies
  have origin : origins.normalizeControlOrigin info.controlUrl = .ok identity.controlUrl := by
    unfold StandsAt rowOrigin at stands
    rwa [decoded] at stands
  have present : rows.any (fun old => decide (old.id = row.id)) = true := List.any_eq_true.2 ⟨row, member, by simp⟩
  have matching : info.relayId = identity.relayId ∧ info.brokerRoomId = identity.brokerRoomId ∧
      bearerFingerprint sha256Hex row.secret = bearerFingerprint sha256Hex identity.bearer ∧
      origins.normalizeControlUrlLoose info.controlUrl = identity.controlUrl :=
    ⟨relay, room, by rw [bearer], origins.loose_eq origin⟩
  simp only [deleteRegistrationIfMatches, reads, decoded, schema, ne_eq, not_true_eq_false, if_false, matching,
    and_self, if_true, deleteForOrigin, present]

/-- The run has asked the broker and waits for its reply. -/
def Phase.awaitsReply : Phase → Bool
  | asking _ _ | retrying _ _ _ => true
  | _ => false

/-- A reply that the credential is released or refused. -/
def Settles (exchange : Exchange) : Prop :=
  postAccessRelease exchange = .ok () ∨ postAccessRelease exchange = .error .unauthorized

/-- The rest of a run that is told so, its own storage at work. -/
def settling (exchange : Exchange) : List ReleaseMove := [.reply exchange, .delete (.ok ()), .clear true]

theorem identity_of_row (left : Identifies origins row identity) {other : Identity}
    (right : Identifies origins row other) : identity = other := by
  obtain ⟨stands, bearer, info, decoded, _, relay, room⟩ := left
  obtain ⟨stands', bearer', info', decoded', _, relay', room'⟩ := right
  have origin := stands.origin_eq stands'
  rw [decoded] at decoded'
  cases decoded'
  cases identity
  cases other
  simp_all

/-- A registration whose marker was saved goes with its marker once a later run is told that it is released or refused. -/
theorem Sound.completes (sound : Sound origins sha256Hex w) (apart : Apart sha256Hex w) {earlier : Nat}
    {row : CredentialRow} (saved : .saved earlier identity ∈ w.log) (member : row ∈ w.rows)
    (identifies : Identifies origins row identity) {phase : Phase}
    (running : w.run = some ⟨identity.controlUrl, phase⟩) (waits : phase.awaitsReply = true) {exchange : Exchange}
    (settles : Settles exchange) :
    row ∉ ((settling exchange).foldl (ReleaseMove.run origins sha256Hex) w).rows ∧
      ((settling exchange).foldl (ReleaseMove.run origins sha256Hex) w).pending identity.controlUrl = none ∧
      ((settling exchange).foldl (ReleaseMove.run origins sha256Hex) w).run = none := by
  obtain ⟨issued, named⟩ := sound.saved earlier identity saved
  have kept := named row member identifies
  have key := (sound.run _ running).1
  dsimp only at key
  -- the registration the run read is the one the marker is about
  have same {of : Identity} (held : Held origins sha256Hex w.rows (w.pending identity.controlUrl) w.issued
      identity.controlUrl of) : of = identity := by
    rcases held.rows row member identifies.1 with self | other
    · exact identity_of_row self identifies
    · exact absurd (by rw [identifies.2.1]; rfl) (other _ kept)
  obtain ⟨success, after⟩ : ∃ success, ∃ verdict, Release.receive w exchange =
      (w.note (.replied w.runs identity verdict)).goOn identity.controlUrl (.deleting identity success) := by
    have phased := (sound.run _ running).2
    cases phase with
    | asking of markerMatches =>
      obtain ⟨held, matched⟩ := phased
      have self := same held
      subst self
      have yes := matched.2 kept
      subst yes
      rcases settles with posted | posted
      · exact ⟨.released, .of (.ok ()), by simp only [Release.receive, running, posted]⟩
      · exact ⟨.alreadyReleased, .of (.error .unauthorized), by simp only [Release.receive, running, posted, if_true]⟩
    | retrying of message markerError =>
      have self := same phased.1
      subst self
      rcases settles with posted | posted
      · exact ⟨.released, .of (.ok ()), by simp only [Release.receive, running, posted]⟩
      · exact ⟨.alreadyReleased, .of (.error .unauthorized), by simp only [Release.receive, running, posted]⟩
    | _ => cases waits
  obtain ⟨verdict, received⟩ := after
  have readable : Readable origins w.rows identity.controlUrl := by
    have phased := (sound.run _ running).2
    cases phase with
    | asking => exact phased.1.readable
    | retrying => exact phased.1.readable
    | _ => cases waits
  have deletes : deleteRegistrationIfMatches origins sha256Hex w.rows identity = _ :=
    deleteRegistrationIfMatches_of_identifies key readable member identifies
  have final : (settling exchange).foldl (ReleaseMove.run origins sha256Hex) w =
      Release.clearMarker origins (Release.deleteConfirmed origins sha256Hex (Release.receive w exchange) (.ok ()))
        true := rfl
  rw [final, received]
  simp only [Release.deleteConfirmed, ReleaseWorld.goOn, ReleaseWorld.note, deletes, Release.clearMarker,
    ReleaseWorld.finish, if_true]
  exact ⟨fun left => (mem_deleteCredential.1 left).2 rfl, setPending_same key, trivial⟩

variable (origins sha256Hex) in
/-- What unlinking keeps to, in a state and at every step from it. -/
structure ReleaseSafe (w : ReleaseWorld) : Prop where
  deleted : ∀ m row, mayRelease w m → row ∈ w.rows → row ∉ (ReleaseMove.run origins sha256Hex w m).rows →
    (∃ controlUrl relayId brokerRoomId bearer, m = .activate controlUrl relayId brokerRoomId bearer) ∨
      ∃ identity, Identifies origins row identity ∧ Confirmed w.log w.runs identity
  cleared : ∀ m origin marker, w.pending origin = some marker →
    (ReleaseMove.run origins sha256Hex w m).pending origin = none →
      ∀ row ∈ w.rows, ¬ MarkerNames origins sha256Hex marker row
  completes : ∀ earlier identity row phase exchange, .saved earlier identity ∈ w.log → row ∈ w.rows →
    Identifies origins row identity → w.run = some ⟨identity.controlUrl, phase⟩ → phase.awaitsReply = true →
      Settles exchange → let done := (settling exchange).foldl (ReleaseMove.run origins sha256Hex) w
        row ∉ done.rows ∧ done.pending identity.controlUrl = none ∧ done.run = none

/-- Unlinking forgets no registration the broker still honours, whatever it answers and wherever a run breaks off. -/
theorem unlinking_forgets_only_released {rows : List CredentialRow} {w : ReleaseWorld}
    (distinct : (rows.map CredentialRow.id).Nodup)
    (reached : Reaches (ReleaseMove.run origins sha256Hex) mayRelease (linked rows) w) (apart : Apart sha256Hex w) :
    ReleaseSafe origins sha256Hex w := by
  have sound := sound_of_reaches distinct reached apart
  exact
    { deleted := fun _ _ _ member gone => sound.deleted apart member gone
      cleared := fun _ _ _ kept gone => sound.cleared kept gone
      completes := fun _ _ _ _ _ saved member identifies running waits settles =>
        sound.completes apart saved member identifies running waits settles }

/-- A control URL that is nothing but an origin loses its trailing slashes. -/
def bareOrigin (url : String) : String :=
  String.ofList (url.toList.rdropWhile (fun c => c = '/'))

theorem bareOrigin_idem (url : String) : bareOrigin (bareOrigin url) = bareOrigin url := by
  unfold bareOrigin
  rw [String.toList_ofList, List.rdropWhile_idempotent]

def bareOrigins : Origins where
  normalizeControlOrigin url := .ok (bareOrigin url)
  normalizeControlUrlLoose := bareOrigin
  loose_eq read := Except.ok.inj read
  idempotent read := by
    cases read
    rw [bareOrigin_idem]

/-- SHA-256 of the one bearer the example has. -/
def bearerDigest (_ : String) : String := "fe8a3bcff628da3902e6f1a342e656516d1525a242988223241035fdb0d322fe"

def cloudRegistration : CredentialRow :=
  ⟨"https://cloud.example", "bearer-1", some ⟨1, "https://cloud.example/", "relay-1", "room-1"⟩⟩

def answered (status : Nat) (body : ReleaseErrorBody) : Exchange :=
  ⟨.received 200 none (.error "not a release") none, .ok (), .received status none (.error "not a release") (some body)⟩

/-- The access is released but its cleanup is not confirmed; the next run is refused as unauthorized. -/
def releasedThenRefused : List ReleaseMove :=
  [.start "https://cloud.example/", .loadRegistration, .loadMarker,
    .reply (answered 503 { accessReleased := some true }), .save (.ok ()),
    .start "https://cloud.example/", .loadRegistration, .loadMarker, .reply (answered 401 {})]

theorem releasedThenRefused_safe :
    ReleaseSafe bareOrigins bearerDigest
      (releasedThenRefused.foldl (ReleaseMove.run bareOrigins bearerDigest) (linked [cloudRegistration])) :=
  unlinking_forgets_only_released (by decide)
    (Reaches.foldl ⟨trivial, trivial, trivial, trivial, trivial, trivial, trivial, trivial, trivial, trivial⟩)
    (by
      have issued : (releasedThenRefused.foldl (ReleaseMove.run bareOrigins bearerDigest)
          (linked [cloudRegistration])).issued = ["bearer-1"] := by decide +kernel
      intro a left b right _
      rw [issued, List.mem_singleton] at left right
      rw [left, right])

end Sealwire.Release

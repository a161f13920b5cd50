import Mathlib.Data.List.Nodup

namespace Sealwire.Release

/-- How control URLs are read as origins. The two readings agree where both succeed, and an origin reads as itself. -/
structure Origins where
  normalizeControlOrigin : String → Except String String
  normalizeControlUrlLoose : String → String
  loose_eq : ∀ {url origin}, normalizeControlOrigin url = .ok origin → normalizeControlUrlLoose url = origin
  idempotent : ∀ {url origin}, normalizeControlOrigin url = .ok origin → normalizeControlOrigin origin = .ok origin

structure StoredRegistrationInfo where
  schemaVersion : Nat
  controlUrl : String
  relayId : String
  brokerRoomId : String
  deriving DecidableEq

/-- A row of registrations: the bearer is the secret, and an `info` that names no control URL is absent. -/
structure CredentialRow where
  id : String
  secret : String
  info : Option StoredRegistrationInfo
  deriving DecidableEq

def publicRelayRegistrationSchemaVersion : Nat := 1

variable (origins : Origins)

def rowOrigin (row : CredentialRow) : Except String String :=
  match row.info with
  | some info => origins.normalizeControlOrigin info.controlUrl
  | none => .error ("public_registration entry \"" ++ row.id ++ "\" names no control url")

def rowAmong (wanted : String) : Option CredentialRow → List CredentialRow → Except String (Option CredentialRow)
  | found, [] => .ok found
  | found, row :: rest =>
    match rowOrigin origins row with
    | .error error => .error error
    | .ok origin =>
      if origin = wanted then
        match found with
        | some _ => .error ("public_registration has two entries for " ++ wanted)
        | none => rowAmong wanted (some row) rest
      else rowAmong wanted found rest

/-- A broker's registration, found by the control origin in its `info`. -/
def rowForOrigin (rows : List CredentialRow) (controlUrl : String) : Except String (Option CredentialRow) :=
  match origins.normalizeControlOrigin controlUrl with
  | .error error => .error error
  | .ok wanted => rowAmong origins wanted none rows

def putCredential (rows : List CredentialRow) (row : CredentialRow) : List CredentialRow :=
  row :: rows.filter (fun old => old.id ≠ row.id)

def deleteCredential (rows : List CredentialRow) (id : String) : List CredentialRow :=
  rows.filter (fun old => old.id ≠ id)

def writeForOrigin (rows : List CredentialRow) (controlUrl secret : String) (info : StoredRegistrationInfo) :
    Except String (List CredentialRow) :=
  match rowForOrigin origins rows controlUrl with
  | .error error => .error error
  | .ok (some row) => .ok (putCredential rows ⟨row.id, secret, some info⟩)
  | .ok none =>
    match origins.normalizeControlOrigin controlUrl with
    | .error error => .error error
    | .ok id => .ok (putCredential rows ⟨id, secret, some info⟩)

def deleteForOrigin (rows : List CredentialRow) (controlUrl : String) :
    Except String (List CredentialRow × Bool) :=
  match rowForOrigin origins rows controlUrl with
  | .error error => .error error
  | .ok none => .ok (rows, false)
  | .ok (some row) => .ok (deleteCredential rows row.id, rows.any (fun old => old.id = row.id))

variable {origins} {rows : List CredentialRow} {row : CredentialRow} {wanted controlUrl : String}

/-- The row stands at the origin. -/
def StandsAt (origins : Origins) (row : CredentialRow) (origin : String) : Prop :=
  rowOrigin origins row = .ok origin

/-- Every row names an origin, and at most the one found names this one. -/
def Readable (origins : Origins) (rows : List CredentialRow) (wanted : String) : Prop :=
  ∃ found, rowAmong origins wanted none rows = .ok found

theorem rowAmong_found {found result : Option CredentialRow}
    (read : rowAmong origins wanted found rows = .ok result) :
    (∀ row ∈ rows, ∃ origin, StandsAt origins row origin) ∧
      (∀ row ∈ rows, StandsAt origins row wanted → result = some row) ∧
      (∀ row, found = some row → result = some row) ∧
      ∀ row, result = some row → found = some row ∨ (row ∈ rows ∧ StandsAt origins row wanted) := by
  induction rows generalizing found with
  | nil =>
    cases read
    exact ⟨by simp, by simp, fun _ same => same, fun _ same => .inl same⟩
  | cons head rest ih =>
    unfold rowAmong at read
    cases stands : rowOrigin origins head with
    | error error => simp [stands] at read
    | ok origin =>
      simp only [stands] at read
      by_cases here : origin = wanted
      · subst here
        rw [if_pos rfl] at read
        cases found with
        | some old => cases read
        | none =>
          obtain ⟨named, unique, kept, source⟩ := ih read
          have result_eq := kept head rfl
          refine ⟨?_, ?_, fun _ none_eq => (by cases none_eq), ?_⟩
          · intro row member
            rcases List.mem_cons.1 member with rfl | old
            · exact ⟨origin, stands⟩
            · exact named row old
          · intro row member at_origin
            rcases List.mem_cons.1 member with rfl | old
            · exact result_eq
            · exact unique row old at_origin
          · intro row same
            rw [result_eq] at same
            cases same
            exact .inr ⟨List.mem_cons_self .., stands⟩
      · rw [if_neg here] at read
        obtain ⟨named, unique, kept, source⟩ := ih read
        refine ⟨?_, ?_, kept, ?_⟩
        · intro row member
          rcases List.mem_cons.1 member with rfl | old
          · exact ⟨origin, stands⟩
          · exact named row old
        · intro row member at_origin
          rcases List.mem_cons.1 member with rfl | old
          · rw [StandsAt, stands] at at_origin
            cases at_origin
            exact absurd rfl here
          · exact unique row old at_origin
        · intro row same
          rcases source row same with old | ⟨member, at_origin⟩
          · exact .inl old
          · exact .inr ⟨List.mem_cons_of_mem _ member, at_origin⟩

/-- What is found stands there, and nothing else does. -/
theorem rowForOrigin_ok (origin : origins.normalizeControlOrigin controlUrl = .ok wanted) {found : Option CredentialRow}
    (read : rowForOrigin origins rows controlUrl = .ok found) :
    (∀ row, found = some row → row ∈ rows ∧ StandsAt origins row wanted) ∧
      ∀ row ∈ rows, StandsAt origins row wanted → found = some row := by
  unfold rowForOrigin at read
  rw [origin] at read
  obtain ⟨_, unique, _, source⟩ := rowAmong_found read
  refine ⟨fun row same => ?_, unique⟩
  rcases source row same with impossible | here
  · cases impossible
  · exact here

theorem mem_putCredential {old new : CredentialRow} (member : old ∈ putCredential rows new) :
    old = new ∨ (old ∈ rows ∧ old.id ≠ new.id) := by
  rcases List.mem_cons.1 member with same | kept
  · exact .inl same
  · rw [List.mem_filter, decide_eq_true_eq] at kept
    exact .inr kept

theorem putCredential_ids {new : CredentialRow} (distinct : (rows.map CredentialRow.id).Nodup) :
    ((putCredential rows new).map CredentialRow.id).Nodup := by
  unfold putCredential
  rw [List.map_cons, List.nodup_cons]
  constructor
  · intro member
    obtain ⟨old, kept, same⟩ := List.mem_map.1 member
    rw [List.mem_filter, decide_eq_true_eq] at kept
    exact kept.2 same
  · exact distinct.sublist (List.filter_sublist.map _)

/-- Rows that all name an origin, no two of them the wanted one, are read through. -/
theorem rowAmong_readable {found : Option CredentialRow} (named : ∀ row ∈ rows, ∃ origin, StandsAt origins row origin)
    (one : ∀ row, found = some row → ∀ other ∈ rows, ¬ StandsAt origins other wanted)
    (apart : rows.Pairwise (fun row other => ¬ (StandsAt origins row wanted ∧ StandsAt origins other wanted))) :
    ∃ result, rowAmong origins wanted found rows = .ok result := by
  induction rows generalizing found with
  | nil => exact ⟨found, rfl⟩
  | cons head rest ih =>
    rw [List.pairwise_cons] at apart
    obtain ⟨origin, stands⟩ := named head (List.mem_cons_self ..)
    have rest_named : ∀ row ∈ rest, ∃ origin, StandsAt origins row origin :=
      fun row member => named row (List.mem_cons_of_mem _ member)
    unfold rowAmong
    rw [show rowOrigin origins head = .ok origin from stands]
    by_cases here : origin = wanted
    · subst here
      cases found with
      | some old => exact absurd stands (one old rfl head (List.mem_cons_self ..))
      | none =>
        simp only [if_true]
        exact ih rest_named (fun _ _ other member at_origin => apart.1 other member ⟨stands, at_origin⟩) apart.2
    · simp only [here, if_false]
      exact ih rest_named (fun row same other member => one row same other (List.mem_cons_of_mem _ member)) apart.2

theorem Readable.named (readable : Readable origins rows wanted) :
    ∀ row ∈ rows, ∃ origin, StandsAt origins row origin := by
  obtain ⟨found, read⟩ := readable
  exact (rowAmong_found read).1

theorem Readable.unique (readable : Readable origins rows wanted) {first second : CredentialRow}
    (inside : first ∈ rows) (also : second ∈ rows) (at_origin : StandsAt origins first wanted)
    (too : StandsAt origins second wanted) : first = second := by
  obtain ⟨found, read⟩ := readable
  have unique := (rowAmong_found read).2.1
  have same := (unique first inside at_origin).symm.trans (unique second also too)
  cases same
  rfl

theorem readable_of_unique (named : ∀ row ∈ rows, ∃ origin, StandsAt origins row origin)
    (distinct : (rows.map CredentialRow.id).Nodup)
    (unique : ∀ first ∈ rows, ∀ second ∈ rows, StandsAt origins first wanted → StandsAt origins second wanted →
      first = second) : Readable origins rows wanted := by
  refine rowAmong_readable named (fun _ none_eq => by cases none_eq) ?_
  have apart := List.pairwise_map.1 distinct
  refine apart.imp_of_mem (fun inside also different both => ?_)
  rw [unique _ inside _ also both.1 both.2] at different
  exact different rfl

/-- A write at any origin leaves rows that can be read at this one. -/
theorem Readable.put (readable : Readable origins rows wanted) (distinct : (rows.map CredentialRow.id).Nodup)
    {secret origin : String} {info : StoredRegistrationInfo} {written : List CredentialRow}
    (same : info.controlUrl = controlUrl) (names : origins.normalizeControlOrigin controlUrl = .ok origin)
    (write : writeForOrigin origins rows controlUrl secret info = .ok written) :
    Readable origins written wanted ∧ (written.map CredentialRow.id).Nodup ∧
      ∃ new, new.secret = secret ∧ StandsAt origins new origin ∧ ∀ row ∈ written, row = new ∨ row ∈ rows := by
  subst same
  unfold writeForOrigin at write
  obtain ⟨new, rfl, standing, secret_eq, replaces⟩ : ∃ new, written = putCredential rows new ∧
      StandsAt origins new origin ∧ new.secret = secret ∧
        ∀ row ∈ rows, StandsAt origins row origin → row.id = new.id := by
    cases read : rowForOrigin origins rows info.controlUrl with
    | error error => simp [read] at write
    | ok found =>
      have unique := (rowForOrigin_ok names read).2
      cases found with
      | some row =>
        simp only [read, Except.ok.injEq] at write
        refine ⟨⟨row.id, secret, some info⟩, write.symm, names, rfl, fun other member at_origin => ?_⟩
        have same := unique other member at_origin
        cases same
        rfl
      | none =>
        simp only [read, names, Except.ok.injEq] at write
        refine ⟨⟨origin, secret, some info⟩, write.symm, names, rfl, fun other member at_origin => ?_⟩
        cases unique other member at_origin
  refine ⟨?_, putCredential_ids distinct, new, secret_eq, standing, fun row member =>
    (mem_putCredential member).imp_right And.left⟩
  refine readable_of_unique (fun row member => ?_) (putCredential_ids distinct) (fun first inside second also here too => ?_)
  · rcases mem_putCredential member with rfl | ⟨old, _⟩
    · exact ⟨origin, standing⟩
    · exact readable.named row old
  · -- the new row took the id of the old one at its origin, so an old row there is gone
    rcases mem_putCredential inside with rfl | ⟨first_old, first_id⟩ <;>
      rcases mem_putCredential also with same | ⟨second_old, second_id⟩
    · exact same.symm
    · have origin_eq : origin = wanted := by
        rw [StandsAt] at standing here
        rw [standing] at here
        exact Except.ok.inj here
      subst origin_eq
      exact absurd (replaces second second_old too) second_id
    · subst same
      have origin_eq : origin = wanted := by
        rw [StandsAt] at standing too
        rw [standing] at too
        exact Except.ok.inj too
      subst origin_eq
      exact absurd (replaces first first_old here) first_id
    · exact readable.unique first_old second_old here too

end Sealwire.Release

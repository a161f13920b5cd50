import Sealwire.Lib.Table

namespace Sealwire.Control

structure PersistedRelayRegistration where
  relayId : String
  brokerRoomId : String
  refreshTokenHash : String
  createdAt : Nat
  relayLabel : Option String := none
  relayVerifyKey : Option String := none
  deriving DecidableEq, Repr

/-- A refresh token hash that was rotated away but stays valid until `expiresAt`. -/
structure SupersededToken where
  refreshTokenHash : String
  expiresAt : Nat
  deriving DecidableEq, Repr

structure PersistedDeviceGrant where
  relayId : String
  brokerRoomId : String
  deviceId : String
  refreshTokenHash : String
  createdAt : Nat
  lastSeen : Option Nat := none
  superseded : List SupersededToken := []
  deriving DecidableEq, Repr

structure PersistedClientIdentity where
  clientId : String
  clientVerifyKey : String
  refreshTokenHash : String
  createdAt : Nat
  clientLabel : Option String := none
  superseded : List SupersededToken := []
  deriving DecidableEq, Repr

structure PersistedClientRelayGrant where
  clientId : String
  relayId : String
  brokerRoomId : String
  deviceId : String
  grantedAt : Nat
  relayLabel : Option String := none
  deviceLabel : Option String := none
  deriving DecidableEq, Repr

structure PublicControlStateStore where
  relayRegistrationsByHash : Table String PersistedRelayRegistration := ∅
  clientRegistrationsByHash : Table String PersistedClientIdentity := ∅
  grantsByHash : Table String PersistedDeviceGrant := ∅
  clientRelayGrantsByKey : Table String PersistedClientRelayGrant := ∅

inductive CredentialKind
  | relay
  | device
  | client
  | clientId
  deriving DecidableEq, Repr

/-- What a lookup of each kind of credential finds, with the primary hash of the row. -/
inductive Credential
  | relay (registration : PersistedRelayRegistration)
  | device (hash : String) (grant : PersistedDeviceGrant)
  | client (hash : String) (identity : PersistedClientIdentity)
  | clientId (identity : PersistedClientIdentity)
  deriving DecidableEq, Repr

/-- The list names the token, and its entry has not expired. -/
def supersedes (superseded : List SupersededToken) (tokenHash : String) (now : Nat) : Bool :=
  superseded.any fun token => token.refreshTokenHash == tokenHash && token.expiresAt > now

/-- The row under the hash, else the first row one of whose superseded tokens it is. -/
def findForToken {Row : Type} (rows : Table String Row) (superseded : Row → List SupersededToken)
    (tokenHash : String) (now : Nat) : Option (String × Row) :=
  match rows.get tokenHash with
  | some row => some (tokenHash, row)
  | none => rows.pairs.find? fun (_, row) => supersedes (superseded row) tokenHash now

/-- A row is under the hash, or supersedes it. -/
def hasToken {Row : Type} (rows : Table String Row) (superseded : Row → List SupersededToken)
    (tokenHash : String) (now : Nat) : Bool :=
  rows.has tokenHash || rows.pairs.any fun (_, row) => supersedes (superseded row) tokenHash now

namespace PublicControlStateStore

variable (store : PublicControlStateStore)

def findClientIdentityForToken (tokenHash : String) (now : Nat) : Option (String × PersistedClientIdentity) :=
  findForToken store.clientRegistrationsByHash (·.superseded) tokenHash now

def findDeviceGrantForToken (tokenHash : String) (now : Nat) : Option (String × PersistedDeviceGrant) :=
  findForToken store.grantsByHash (·.superseded) tokenHash now

def clientIdentityForId (clientId : String) : Option PersistedClientIdentity :=
  (store.clientRegistrationsByHash.pairs.find? fun (_, client) => client.clientId == clientId).map (·.2)

/-- The lookup that the callers of `find_credential` hand it for each kind. -/
def lookup : CredentialKind → String → Nat → Option Credential
  | .relay, tokenHash, _ => (store.relayRegistrationsByHash.get tokenHash).map .relay
  | .device, tokenHash, now => (store.findDeviceGrantForToken tokenHash now).map fun (hash, grant) => .device hash grant
  | .client, tokenHash, now =>
    (store.findClientIdentityForToken tokenHash now).map fun (hash, identity) => .client hash identity
  | .clientId, clientId, _ => (store.clientIdentityForId clientId).map .clientId

/-- The existence probe. -/
def hasCredential : CredentialKind → String → Nat → Bool
  | .relay, tokenHash, _ => store.relayRegistrationsByHash.has tokenHash
  | .device, tokenHash, now => hasToken store.grantsByHash (·.superseded) tokenHash now
  | .client, tokenHash, now => hasToken store.clientRegistrationsByHash (·.superseded) tokenHash now
  | .clientId, clientId, _ => (store.clientIdentityForId clientId).isSome

end PublicControlStateStore

section Lookups

variable {Row : Type} {rows : Table String Row} {superseded : Row → List SupersededToken} {tokenHash : String}
  {now : Nat}

theorem findForToken_isSome :
    (findForToken rows superseded tokenHash now).isSome = hasToken rows superseded tokenHash now := by
  unfold findForToken hasToken Table.has
  cases primary : rows.get tokenHash with
  | some row => rfl
  | none => simp only [List.isSome_find?, Option.isSome_none, Bool.false_or]

theorem mem_pairs_iff {key : String} {row : Row} : (key, row) ∈ rows.pairs ↔ rows.get key = some row := by
  rw [Table.get_eq_some_iff]
  simp [Table.pairs]

theorem hasToken_iff : hasToken rows superseded tokenHash now = true ↔
    ∃ key row, rows.get key = some row ∧ (key = tokenHash ∨ supersedes (superseded row) tokenHash now = true) := by
  simp only [hasToken, Bool.or_eq_true, Table.has_iff, List.any_eq_true, Prod.exists]
  constructor
  · rintro (⟨row, found⟩ | ⟨key, row, member, names⟩)
    · exact ⟨tokenHash, row, found, .inl rfl⟩
    · exact ⟨key, row, mem_pairs_iff.mp member, .inr names⟩
  · rintro ⟨key, row, found, primary | names⟩
    · subst primary
      exact .inl ⟨row, found⟩
    · exact .inr ⟨key, row, mem_pairs_iff.mpr found, names⟩

/-- A superseded token that is valid later is valid now: its entry only has to outlive the clock. -/
theorem supersedes_earlier {list : List SupersededToken} {later : Nat} (order : now ≤ later)
    (names : supersedes list tokenHash later = true) : supersedes list tokenHash now = true := by
  simp only [supersedes, List.any_eq_true, Bool.and_eq_true, decide_eq_true_eq, gt_iff_lt] at names ⊢
  obtain ⟨token, member, same, lasts⟩ := names
  exact ⟨token, member, same, by omega⟩

end Lookups

namespace PublicControlStateStore

variable {store : PublicControlStateStore} {kind : CredentialKind} {tokenHash : String} {now : Nat}

/-- The lookup in memory and the probe agree on every store, token and time. -/
theorem lookup_isSome (store : PublicControlStateStore) (kind : CredentialKind) (tokenHash : String) (now : Nat) :
    (store.lookup kind tokenHash now).isSome = store.hasCredential kind tokenHash now := by
  cases kind with
  | relay => simp only [lookup, Option.isSome_map, hasCredential, Table.has]
  | device => simp only [lookup, Option.isSome_map, hasCredential, findDeviceGrantForToken, findForToken_isSome]
  | client => simp only [lookup, Option.isSome_map, hasCredential, findClientIdentityForToken, findForToken_isSome]
  | clientId => simp only [lookup, Option.isSome_map, hasCredential]

theorem lookup_eq_none_iff : store.lookup kind tokenHash now = none ↔ store.hasCredential kind tokenHash now = false := by
  rw [← lookup_isSome, Option.isSome_eq_false_iff, Option.isNone_iff_eq_none]

theorem hasCredential_earlier {later : Nat} (order : now ≤ later)
    (valid : store.hasCredential kind tokenHash later = true) : store.hasCredential kind tokenHash now = true := by
  cases kind with
  | relay => exact valid
  | clientId => exact valid
  | device =>
    obtain ⟨key, row, found, named⟩ := hasToken_iff.mp valid
    exact hasToken_iff.mpr ⟨key, row, found, named.imp_right (supersedes_earlier order)⟩
  | client =>
    obtain ⟨key, row, found, named⟩ := hasToken_iff.mp valid
    exact hasToken_iff.mpr ⟨key, row, found, named.imp_right (supersedes_earlier order)⟩

/-- The two stores hold the same rows in the table that tells a credential of the kind. -/
def Agree (kind : CredentialKind) (one other : PublicControlStateStore) : Prop :=
  match kind with
  | .relay => ∀ key, one.relayRegistrationsByHash.get key = other.relayRegistrationsByHash.get key
  | .device => ∀ key, one.grantsByHash.get key = other.grantsByHash.get key
  | .client | .clientId => ∀ key, one.clientRegistrationsByHash.get key = other.clientRegistrationsByHash.get key

theorem clientIdentityForId_isSome_iff {clientId : String} : (store.clientIdentityForId clientId).isSome = true ↔
    ∃ key client, store.clientRegistrationsByHash.get key = some client ∧ client.clientId = clientId := by
  simp only [clientIdentityForId, Option.isSome_map, List.find?_isSome, Prod.exists, mem_pairs_iff, beq_iff_eq]

theorem hasCredential_congr {other : PublicControlStateStore} (agree : Agree kind store other) :
    store.hasCredential kind tokenHash now = other.hasCredential kind tokenHash now := by
  rw [Bool.eq_iff_iff]
  cases kind with
  | relay =>
    dsimp only [Agree] at agree
    simp only [hasCredential, Table.has, agree]
  | device =>
    dsimp only [Agree] at agree
    simp only [hasCredential, hasToken_iff, agree]
  | client =>
    dsimp only [Agree] at agree
    simp only [hasCredential, hasToken_iff, agree]
  | clientId =>
    dsimp only [Agree] at agree
    simp only [hasCredential, clientIdentityForId_isSome_iff, agree]

end PublicControlStateStore

end Sealwire.Control

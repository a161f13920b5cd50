import Sealwire.Control.Refresh
import Sealwire.Lib.Steps

namespace Sealwire.Control

section Texts

/-- A signed text keeps no trace of whether a field is absent or empty. -/
def written (fields : List (Option String)) : List String := fields.map fun field => field.getD ""

def chars (fields : List (Option String)) : List (List Char) := (written fields).map String.toList

/-- The two do not give the same pieces between colons; or each field of the one gives as many
as that of the other, and the same fields are absent. -/
def CutAlike (fields others : List (Option String)) : Prop :=
  pieces ':' (chars fields) = pieces ':' (chars others) →
    cuts ':' (chars fields) = cuts ':' (chars others) ∧ fields.map Option.isSome = others.map Option.isSome

variable {fields others : List (Option String)}

theorem colonJoined_eq_iff (some_ : fields ≠ []) (others_ : others ≠ []) :
    colonJoined (written fields) = colonJoined (written others) ↔
      pieces ':' (chars fields) = pieces ':' (chars others) := by
  rw [colonJoined, colonJoined, String.ofList_inj]
  exact joined_eq_iff (by simpa [written] using some_) (by simpa [written] using others_)

/-- What is written and which fields are absent tell the fields. -/
theorem eq_of_written (same : written fields = written others)
    (present : fields.map Option.isSome = others.map Option.isSome) : fields = others := by
  induction fields generalizing others with
  | nil =>
    cases others with
    | nil => rfl
    | cons other rest => cases same
  | cons field fields ih =>
    cases others with
    | nil => cases same
    | cons other others =>
      obtain ⟨value, values⟩ := List.cons.inj same
      obtain ⟨presence, presences⟩ := List.cons.inj present
      have first : field = other := by
        cases field <;> cases other <;> simp_all
      rw [first, ih values presences]

theorem chars_inj (same : chars fields = chars others) : written fields = written others :=
  List.map_injective_iff.mpr (fun _ _ => String.toList_inj.mp) same

/-- One text tells one tuple exactly where both are cut alike. -/
theorem one_text_iff (some_ : fields ≠ []) (others_ : others ≠ []) :
    (colonJoined (written fields) = colonJoined (written others) → fields = others) ↔ CutAlike fields others := by
  constructor
  · intro one_text same
    have equal := one_text ((colonJoined_eq_iff some_ others_).mpr same)
    rw [equal]
    exact ⟨rfl, rfl⟩
  · intro alike text
    have same := (colonJoined_eq_iff some_ others_).mp text
    obtain ⟨cut, present⟩ := alike same
    exact eq_of_written (chars_inj (eq_of_pieces_of_cuts same cut)) present

end Texts

/-- The tuple that the client signs to ask for a challenge. -/
def CredentialRefreshChallengeRequest.asked (request : CredentialRefreshChallengeRequest) (origin : String) :
    List (Option String) :=
  [some origin, some request.clientId, request.brokerRoomId, request.deviceId, some request.nonce]

/-- The tuple that the client signs to complete the refresh. -/
def CredentialRefreshChallengeResponse.tuple (challenge : CredentialRefreshChallengeResponse) : List (Option String) :=
  [some challenge.brokerOrigin, some challenge.challengeId, some challenge.nonce, some challenge.clientId,
    challenge.brokerRoomId, challenge.deviceId]

section Messages

variable {request request' : CredentialRefreshChallengeRequest} {origin origin' : String}
  {challenge challenge' : CredentialRefreshChallengeResponse}

theorem credentialRefreshInitMessage_eq : credentialRefreshInitMessage request origin =
    "agent-relay:credential-refresh-init:" ++ colonJoined (written (request.asked origin)) := rfl

theorem credentialRefreshMessage_eq :
    credentialRefreshMessage challenge = "agent-relay:credential-refresh:" ++ colonJoined (written challenge.tuple) := rfl

theorem prefix_inj {front one other : String} : front ++ one = front ++ other ↔ one = other := by
  rw [← String.toList_inj, String.toList_append, String.toList_append, List.append_cancel_left_eq, String.toList_inj]

/-- The families differ in the character after their common beginning. -/
theorem init_ne_refresh : credentialRefreshInitMessage request origin ≠ credentialRefreshMessage challenge := by
  intro same
  have texts := congrArg String.toList same
  rw [credentialRefreshInitMessage_eq, credentialRefreshMessage_eq, String.toList_append, String.toList_append] at texts
  have at_thirty := congrArg (fun text : List Char => text[30]?) texts
  simp at at_thirty

end Messages

section Signatures

variable {keys : Keys} {store : PublicControlStateStore} {request : CredentialRefreshChallengeRequest} {origin : String}
  {client : PersistedClientIdentity} {device : Option String} {key message message' signature : String}

theorem of_requireValid {valid : Bool} (passes : requireValid valid = .ok ()) : valid = true := by
  cases valid with
  | true => rfl
  | false => cases passes

theorem of_orInvalid {α : Type} {value : α} {found : Option α} (passes : orInvalid found = .ok value) :
    found = some value := by
  cases found with
  | none => cases passes
  | some _ => rw [Except.ok.inj passes]

/-- No signature of a key is one of two texts. -/
def Keys.OneText (keys : Keys) : Prop := ∀ key message message' signature,
  keys.verify key message signature = true → keys.verify key message' signature = true → message = message'

theorem Keys.OneText.of_verifies (one_text : keys.OneText) (one : keys.verifies key message signature = .ok ())
    (other : keys.verifies key message' signature = .ok ()) : message = message' := by
  obtain ⟨decoded, decodes, one⟩ := bind_eq_ok one
  obtain ⟨parsed, parses, valid⟩ := bind_eq_ok one
  obtain ⟨decoded', decodes', other⟩ := bind_eq_ok other
  obtain ⟨parsed', parses', valid'⟩ := bind_eq_ok other
  rw [decodes, Except.ok.injEq] at decodes'
  rw [parses, Except.ok.injEq] at parses'
  subst decodes' parses'
  exact one_text _ _ _ _ (of_requireValid valid) (of_requireValid valid')

/-- What an admitted request has passed. -/
structure Admitted (keys : Keys) (store : PublicControlStateStore) (request : CredentialRefreshChallengeRequest)
    (origin : String) (client : PersistedClientIdentity) (device : Option String) : Prop where
  nonce : request.nonce ≠ ""
  found : store.clientIdentityForId request.clientId = some client
  signed : keys.verifies client.clientVerifyKey (credentialRefreshInitMessage request origin) request.signature = .ok ()
  owned : store.refreshDevice client.clientId request.brokerRoomId = .ok device
  named : request.deviceId = none ∨ request.deviceId = device

theorem admitted_of_admitRefresh (admitted : admitRefresh keys store request origin = .ok (client, device)) :
    Admitted keys store request origin client device := by
  obtain ⟨-, -, admitted⟩ := bind_eq_ok admitted
  obtain ⟨-, -, admitted⟩ := bind_eq_ok admitted
  obtain ⟨_, some_, admitted⟩ := bind_eq_ok admitted
  obtain ⟨-, -, admitted⟩ := bind_eq_ok admitted
  obtain ⟨-, -, admitted⟩ := bind_eq_ok admitted
  obtain ⟨found, finds, admitted⟩ := bind_eq_ok admitted
  obtain ⟨_, signed, admitted⟩ := bind_eq_ok admitted
  obtain ⟨owned, owns, admitted⟩ := bind_eq_ok admitted
  obtain ⟨_, named, admitted⟩ := bind_eq_ok admitted
  cases admitted
  exact {
    nonce := by simpa using of_requireValid some_
    found := of_orInvalid finds
    signed
    owned := owns
    named := by simpa using of_requireValid named }

theorem verifies_of_takeRefresh {pending : PendingRefreshes} {now : Nat} {request : CredentialRefreshRequest}
    {challenge : CredentialRefreshChallengeResponse}
    (taken : (takeRefresh keys pending now request origin).1 = .ok challenge) :
    ∃ entry, pending.get request.challengeId = some entry ∧ entry.challenge = challenge ∧
      keys.verifies entry.clientVerifyKey (credentialRefreshMessage challenge) request.signature = .ok () := by
  unfold takeRefresh at taken
  simp only at taken
  split at taken
  · cases taken
  · rename_i entry found
    split_ifs at taken
    split at taken
    · cases taken
    · rename_i valid
      cases taken
      exact ⟨entry, Table.get_of_get_retain found, rfl, valid⟩

/-- What starts a refresh never completes one. -/
theorem not_completed_of_started (one_text : keys.OneText) (admitted : Admitted keys store request origin client device)
    {pending : PendingRefreshes} {now : Nat} {completes : CredentialRefreshRequest} {origin' : String}
    {entry : PendingCredentialRefresh} (there : pending.get completes.challengeId = some entry)
    (same_key : entry.clientVerifyKey = client.clientVerifyKey) (same_signature : completes.signature = request.signature)
    (challenge : CredentialRefreshChallengeResponse) : (takeRefresh keys pending now completes origin').1 ≠ .ok challenge := by
  intro taken
  obtain ⟨found, is_found, -, signed⟩ := verifies_of_takeRefresh taken
  rw [there, Option.some.injEq] at is_found
  subst is_found
  rw [same_key, same_signature] at signed
  exact init_ne_refresh (one_text.of_verifies admitted.signed signed)

/-- What starts two refreshes of tuples that are cut alike starts one. -/
theorem asked_eq_of_one_signature (one_text : keys.OneText) (admitted : Admitted keys store request origin client device)
    {request' : CredentialRefreshChallengeRequest} {origin' : String} {client' : PersistedClientIdentity}
    {device' : Option String} (admitted' : Admitted keys store request' origin' client' device')
    (same_key : client'.clientVerifyKey = client.clientVerifyKey) (same_signature : request'.signature = request.signature)
    (alike : CutAlike (request.asked origin) (request'.asked origin')) : request.asked origin = request'.asked origin' := by
  have signed := admitted'.signed
  rw [same_key, same_signature] at signed
  have texts := one_text.of_verifies admitted.signed signed
  rw [credentialRefreshInitMessage_eq, credentialRefreshInitMessage_eq, prefix_inj] at texts
  exact (one_text_iff (List.cons_ne_nil _ _) (List.cons_ne_nil _ _)).mpr alike texts

end Signatures

/-- Keys whose one signature of a text is the text under the key. -/
def plainKeys : Keys where
  VerifyingKey := String
  Signature := String
  clientKey clientId := if clientId = "c" then some "k" else none
  decodeSignature := some
  parseRelayVerifyingKey := .ok
  verify key message signature := signature == key ++ message

end Sealwire.Control

import Sealwire.Remote.ContentNonces

namespace Sealwire.Remote

/-- A frame of the relay; an absent text is empty where only its truth value is asked. -/
structure RelayFrame (Payload : Type) where
  isHelloProof : Bool
  payload : Payload
  helloNonce : Option String
  deviceId : Option String
  relayContentSession : String
  relayContentNonce : String
  relayContentSignature : String

/-- What the relay signs. -/
structure RelayContentFields (Payload : Type) where
  payload : Payload
  session : String
  nonce : String

def RelayFrame.fields {Payload : Type} (frame : RelayFrame Payload) : RelayContentFields Payload :=
  ⟨frame.payload, frame.relayContentSession, frame.relayContentNonce⟩

namespace ContentConnection

variable {Payload : Type} (verify : RelayContentFields Payload → String → Bool) (connection : ContentConnection)
  (frame : RelayFrame Payload)

def acceptRelayHelloProof : Bool × ContentConnection :=
  if connection.helloNonce = "" ∨ frame.helloNonce ≠ some connection.helloNonce then (false, connection)
  else if frame.deviceId ≠ some connection.helloDeviceId then (false, connection)
  else if frame.relayContentSession = "" ∨ frame.relayContentNonce = "" ∨ frame.relayContentSignature = "" then
    (false, connection)
  else if !verify frame.fields frame.relayContentSignature then (false, connection)
  else
    match connection.rememberContentNonce frame.relayContentNonce frame.relayContentSignature with
    | (false, connection) => (false, connection)
    | (true, connection) => (true, { connection with relayContentSession := frame.relayContentSession })

def acceptRelayContent : Bool × ContentConnection :=
  if frame.relayContentSession ≠ connection.relayContentSession then (false, connection)
  else if frame.relayContentNonce = "" ∨ frame.relayContentSignature = "" then (false, connection)
  else if !verify frame.fields frame.relayContentSignature then (false, connection)
  else connection.rememberContentNonce frame.relayContentNonce frame.relayContentSignature

def receive : Bool × ContentConnection :=
  if frame.isHelloProof then connection.acceptRelayHelloProof verify frame
  else if connection.relayContentSession = "" then (false, connection)
  else connection.acceptRelayContent verify frame

/-- The frames of the run that the phone acts on. -/
def received (connection : ContentConnection) : List (RelayFrame Payload) → List (RelayFrame Payload)
  | [] => []
  | frame :: rest =>
    let (accepted, next) := connection.receive verify frame
    if accepted then frame :: next.received rest else next.received rest

end ContentConnection

section Frames

variable {Payload : Type} {verify : RelayContentFields Payload → String → Bool} {connection : ContentConnection}
  {frame : RelayFrame Payload} {taken : List ContentPair}

/-- The name of the session does not bear on what is remembered. -/
theorem Remembers.rename (remembers : Remembers connection taken) (session : String) :
    Remembers { connection with relayContentSession := session } taken :=
  ⟨remembers.tracks, remembers.signed, remembers.one⟩

/-- A frame is dropped and changes nothing, or its verified pair goes through the window. -/
theorem receive_cases (verify : RelayContentFields Payload → String → Bool) (connection : ContentConnection) (frame : RelayFrame Payload) :
    connection.receive verify frame = (false, connection) ∨
    verify frame.fields frame.relayContentSignature = true ∧ ∃ pair : ContentPair,
      pair.nonce = frame.relayContentNonce ∧ pair.signature = frame.relayContentSignature ∧
      (connection.receive verify frame).1 = connection.takes pair ∧
      ∃ session, (connection.receive verify frame).2 = { connection.remember pair with relayContentSession := session } := by
  unfold ContentConnection.receive ContentConnection.acceptRelayHelloProof ContentConnection.acceptRelayContent
  split_ifs with proof_ _ _ absent unverified _ _ absent unverified
  all_goals first | exact .inl rfl | skip
  · right
    simp only [not_or] at absent
    refine ⟨by simpa using unverified, ⟨frame.relayContentNonce, frame.relayContentSignature, absent.2.2⟩, rfl, rfl, ?_⟩
    unfold ContentConnection.takes ContentConnection.remember
    cases kept : connection.rememberContentNonce frame.relayContentNonce frame.relayContentSignature with
    | mk accepted next =>
      cases accepted with
      | false => exact ⟨rfl, next.relayContentSession, rfl⟩
      | true => exact ⟨rfl, frame.relayContentSession, rfl⟩
  · right
    simp only [not_or] at absent
    refine ⟨by simpa using unverified, ⟨frame.relayContentNonce, frame.relayContentSignature, absent.2⟩, rfl, rfl, rfl, ?_⟩
    exact ⟨(connection.rememberContentNonce frame.relayContentNonce frame.relayContentSignature).2.relayContentSession, rfl⟩

/-- The frames acted on, each with its verified pair, are what the window remembers. -/
theorem received_remembered (verify : RelayContentFields Payload → String → Bool)
    (remembers : Remembers connection taken) (frames : List (RelayFrame Payload)) :
    ∃ pairs : List ContentPair, (∃ last, Remembers last (taken ++ pairs)) ∧
      ∀ frame ∈ connection.received verify frames, verify frame.fields frame.relayContentSignature = true ∧
        ∃ pair ∈ pairs, pair.nonce = frame.relayContentNonce ∧ pair.signature = frame.relayContentSignature := by
  induction frames generalizing connection taken with
  | nil => exact ⟨[], ⟨connection, by simpa using remembers⟩, by simp [ContentConnection.received]⟩
  | cons frame rest ih =>
    rcases receive_cases verify connection frame with dropped |
      ⟨verified, pair, nonce, signature, accepts, session, next⟩
    · simpa [ContentConnection.received, dropped] using ih remembers
    · have step := (remembers.step pair).rename session
      rw [← next] at step
      obtain ⟨pairs, ⟨last, whole⟩, covered⟩ := ih step
      simp only [ContentConnection.received, accepts]
      cases takes : connection.takes pair with
      | false =>
        rw [takes] at whole
        exact ⟨pairs, ⟨last, whole⟩, covered⟩
      | true =>
        rw [takes, if_pos rfl, List.append_assoc] at whole
        refine ⟨[pair] ++ pairs, ⟨last, whole⟩, fun other member => ?_⟩
        rcases List.mem_cons.mp member with rfl | later
        · exact ⟨verified, pair, List.mem_cons_self, nonce, signature⟩
        · obtain ⟨valid, known, there, rest⟩ := covered other later
          exact ⟨valid, known, List.mem_cons_of_mem _ there, rest⟩

/-- After a hello the phone acts on one content under a number, whatever frames come, where a
signature is of one content. -/
theorem one_payload_per_number (one_text : ∀ fields fields' signature,
      verify fields signature = true → verify fields' signature = true → fields = fields')
    (connection : ContentConnection) (helloNonce deviceId : String) (frames : List (RelayFrame Payload)) :
    ∀ frame ∈ (connection.sendRelayHello helloNonce deviceId).received verify frames,
      ∀ other ∈ (connection.sendRelayHello helloNonce deviceId).received verify frames,
        frame.relayContentNonce = other.relayContentNonce → frame.payload = other.payload := by
  intro frame member other member' same
  obtain ⟨pairs, ⟨last, remembers⟩, covered⟩ :=
    received_remembered verify (remembers_sendRelayHello helloNonce deviceId) frames
  obtain ⟨valid, pair, there, nonce, signature⟩ := covered frame member
  obtain ⟨valid', pair', there', nonce', signature'⟩ := covered other member'
  have signatures := remembers.one pair there pair' there' (by rw [nonce, nonce', same])
  rw [signature, signature'] at signatures
  rw [← signatures] at valid'
  exact congrArg RelayContentFields.payload (one_text _ _ _ valid valid')

end Frames

end Sealwire.Remote

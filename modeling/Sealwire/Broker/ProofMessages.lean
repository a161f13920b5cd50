import Std.Data.String.ToNat
import Sealwire.Lib.Framing

namespace Sealwire.Broker

/-- A field too long for its four length bytes fails with the caller's text. -/
def lengthPrefixedMessage (domain : List UInt8) (fields : List (List UInt8)) (error : String) :
    Except String (List UInt8) :=
  match fields.foldlM (fun out field =>
      if field.length < 2 ^ 32 then some (out ++ bigEndian32 field.length ++ field) else none) domain with
  | some out => .ok out
  | none => .error error

def relayWsTicketDomain : List UInt8 := asciiBytes "agent-relay:relay-ws-ticket-v1\x00"

def relayJoinDomain : List UInt8 := asciiBytes "agent-relay:relay-join-v1\x00"

def relayControlDomain : List UInt8 := asciiBytes "agent-relay:relay-control-v1\x00"

def requestDomain : List UInt8 := asciiBytes "agent-relay:remote-request-v1\x00"

def relayWsTicketMessage (origin id nonce relay room peer tokenHash : String) : Except String (List UInt8) :=
  lengthPrefixedMessage relayWsTicketDomain
    ([origin, id, nonce, relay, room, peer, tokenHash].map utf8Bytes)
    "relay ws ticket challenge field is too long"

def relayJoinMessage (origin id nonce ticketHash relay room peer : String) : Except String (List UInt8) :=
  lengthPrefixedMessage relayJoinDomain
    ([origin, id, nonce, ticketHash, relay, room, peer].map utf8Bytes)
    "relay join challenge field is too long"

def relayControlMessage (origin id nonce operation relay room tokenHash bodyHash : String) :
    Except String (List UInt8) :=
  lengthPrefixedMessage relayControlDomain
    ([origin, id, nonce, operation, relay, room, tokenHash, bodyHash].map utf8Bytes)
    "relay control challenge field is too long"

/-- Who the relay is, as the phone pinned it. -/
structure RelayRequestBinding where
  relayVerifyKey : String
  brokerRoomId : String
  relayPeerId : String

inductive RemoteActionKind
  | claimChallenge | claimDevice | openTerminal | readTerminal | watchTerminal | writeTerminal
  | closeTerminal | startSession | forkSession | resumeSession | updateSessionSettings | sendMessage
  | stopTurn | heartbeat | watchThreads | listProviders | listThreads | listProviderModels
  | fetchThreadEntryDetail | fetchThreadTranscript | fetchThreadRows | decideApproval | applyFileChange
  | projectAction | renameThread | setThreadFlag | repairWorkspace | fetchWorkspaceDiff
  | fetchWorkspaceGitContext | fetchThreadWorkspace | setThreadWorkspace | fetchThreadSettings
  | fetchThreadSkills | fetchReviews | fetchWorkflows | fetchDevices | recheckSignedOutProviders
  | fetchProjects | fetchAskUserQuestionDetail | fetchAsk | decideModelRequest | submitAskUserAnswer
  | requestReview | startWorkflow | resolveReview | resolveWorkflow | deleteReview | acceptReview
  | delegate | handover | ackHandover | setGoal | stopGoal | goalCard | registerPushSubscription
  | registerApnsToken | unregisterApnsToken | unregisterPushSubscription

def RemoteActionKind.asStr : RemoteActionKind → String
  | .claimChallenge => "claim_challenge"
  | .claimDevice => "claim_device"
  | .openTerminal => "open_terminal"
  | .readTerminal => "read_terminal"
  | .watchTerminal => "watch_terminal"
  | .writeTerminal => "write_terminal"
  | .closeTerminal => "close_terminal"
  | .startSession => "start_session"
  | .forkSession => "fork_session"
  | .resumeSession => "resume_session"
  | .updateSessionSettings => "update_session_settings"
  | .sendMessage => "send_message"
  | .stopTurn => "stop_turn"
  | .heartbeat => "heartbeat"
  | .watchThreads => "watch_threads"
  | .listProviders => "list_providers"
  | .listThreads => "list_threads"
  | .listProviderModels => "list_provider_models"
  | .fetchThreadEntryDetail => "fetch_thread_entry_detail"
  | .fetchThreadTranscript => "fetch_thread_transcript"
  | .fetchThreadRows => "fetch_thread_rows"
  | .decideApproval => "decide_approval"
  | .applyFileChange => "apply_file_change"
  | .projectAction => "project_action"
  | .renameThread => "rename_thread"
  | .setThreadFlag => "set_thread_flag"
  | .repairWorkspace => "repair_workspace"
  | .fetchWorkspaceDiff => "fetch_workspace_diff"
  | .fetchWorkspaceGitContext => "fetch_workspace_git_context"
  | .fetchThreadWorkspace => "fetch_thread_workspace"
  | .setThreadWorkspace => "set_thread_workspace"
  | .fetchThreadSettings => "fetch_thread_settings"
  | .fetchThreadSkills => "fetch_thread_skills"
  | .fetchReviews => "fetch_reviews"
  | .fetchWorkflows => "fetch_workflows"
  | .fetchDevices => "fetch_devices"
  | .recheckSignedOutProviders => "recheck_signed_out_providers"
  | .fetchProjects => "fetch_projects"
  | .fetchAskUserQuestionDetail => "fetch_ask_user_question_detail"
  | .fetchAsk => "fetch_ask"
  | .decideModelRequest => "decide_model_request"
  | .submitAskUserAnswer => "submit_ask_user_answer"
  | .requestReview => "request_review"
  | .startWorkflow => "start_workflow"
  | .resolveReview => "resolve_review"
  | .resolveWorkflow => "resolve_workflow"
  | .deleteReview => "delete_review"
  | .acceptReview => "accept_review"
  | .delegate => "delegate"
  | .handover => "handover"
  | .ackHandover => "ack_handover"
  | .setGoal => "set_goal"
  | .stopGoal => "stop_goal"
  | .goalCard => "goal_card"
  | .registerPushSubscription => "register_push_subscription"
  | .registerApnsToken => "register_apns_token"
  | .unregisterApnsToken => "unregister_apns_token"
  | .unregisterPushSubscription => "unregister_push_subscription"

/-- The kind a name is of. -/
def RemoteActionKind.ofStr : String → Option RemoteActionKind
  | "claim_challenge" => some .claimChallenge
  | "claim_device" => some .claimDevice
  | "open_terminal" => some .openTerminal
  | "read_terminal" => some .readTerminal
  | "watch_terminal" => some .watchTerminal
  | "write_terminal" => some .writeTerminal
  | "close_terminal" => some .closeTerminal
  | "start_session" => some .startSession
  | "fork_session" => some .forkSession
  | "resume_session" => some .resumeSession
  | "update_session_settings" => some .updateSessionSettings
  | "send_message" => some .sendMessage
  | "stop_turn" => some .stopTurn
  | "heartbeat" => some .heartbeat
  | "watch_threads" => some .watchThreads
  | "list_providers" => some .listProviders
  | "list_threads" => some .listThreads
  | "list_provider_models" => some .listProviderModels
  | "fetch_thread_entry_detail" => some .fetchThreadEntryDetail
  | "fetch_thread_transcript" => some .fetchThreadTranscript
  | "fetch_thread_rows" => some .fetchThreadRows
  | "decide_approval" => some .decideApproval
  | "apply_file_change" => some .applyFileChange
  | "project_action" => some .projectAction
  | "rename_thread" => some .renameThread
  | "set_thread_flag" => some .setThreadFlag
  | "repair_workspace" => some .repairWorkspace
  | "fetch_workspace_diff" => some .fetchWorkspaceDiff
  | "fetch_workspace_git_context" => some .fetchWorkspaceGitContext
  | "fetch_thread_workspace" => some .fetchThreadWorkspace
  | "set_thread_workspace" => some .setThreadWorkspace
  | "fetch_thread_settings" => some .fetchThreadSettings
  | "fetch_thread_skills" => some .fetchThreadSkills
  | "fetch_reviews" => some .fetchReviews
  | "fetch_workflows" => some .fetchWorkflows
  | "fetch_devices" => some .fetchDevices
  | "recheck_signed_out_providers" => some .recheckSignedOutProviders
  | "fetch_projects" => some .fetchProjects
  | "fetch_ask_user_question_detail" => some .fetchAskUserQuestionDetail
  | "fetch_ask" => some .fetchAsk
  | "decide_model_request" => some .decideModelRequest
  | "submit_ask_user_answer" => some .submitAskUserAnswer
  | "request_review" => some .requestReview
  | "start_workflow" => some .startWorkflow
  | "resolve_review" => some .resolveReview
  | "resolve_workflow" => some .resolveWorkflow
  | "delete_review" => some .deleteReview
  | "accept_review" => some .acceptReview
  | "delegate" => some .delegate
  | "handover" => some .handover
  | "ack_handover" => some .ackHandover
  | "set_goal" => some .setGoal
  | "stop_goal" => some .stopGoal
  | "goal_card" => some .goalCard
  | "register_push_subscription" => some .registerPushSubscription
  | "register_apns_token" => some .registerApnsToken
  | "unregister_apns_token" => some .unregisterApnsToken
  | "unregister_push_subscription" => some .unregisterPushSubscription
  | _ => none

theorem RemoteActionKind.ofStr_asStr (kind : RemoteActionKind) : ofStr kind.asStr = some kind := by
  cases kind <;> rfl

theorem RemoteActionKind.asStr_injective {a b : RemoteActionKind} (same : a.asStr = b.asStr) : a = b := by
  have kinds := ofStr_asStr a
  rw [same, ofStr_asStr] at kinds
  exact (Option.some.inj kinds).symm

/-- The attempt fields the phone sends beside the envelope. -/
structure SignedAttempt where
  action : RemoteActionKind
  sid : String
  bootId : String
  seq : UInt64
  sentMs : UInt64
  opBoot : String
  opT0 : UInt64

def relayProtocolVersion : UInt64 := 5

def remoteRequestFields (binding : RelayRequestBinding) (deviceId peerId actionId : String) (attempt : SignedAttempt)
    (envelopeDigest : String) : List String :=
  [relayProtocolVersion.toNat.repr, binding.relayVerifyKey, binding.brokerRoomId, binding.relayPeerId, deviceId, peerId,
    attempt.sid, attempt.bootId, attempt.seq.toNat.repr, attempt.sentMs.toNat.repr, actionId, attempt.action.asStr,
    attempt.opBoot, attempt.opT0.toNat.repr, envelopeDigest]

def remoteRequestMessage (binding : RelayRequestBinding) (deviceId peerId actionId : String) (attempt : SignedAttempt)
    (envelopeDigest : String) : Except String (List UInt8) :=
  lengthPrefixedMessage requestDomain
    ((remoteRequestFields binding deviceId peerId actionId attempt envelopeDigest).map utf8Bytes)
    "request field is too long"

/-- What a relay or a phone may put its signature on. -/
inductive SignedMessage
  | relayWsTicket (origin id nonce relay room peer tokenHash : String)
  | relayJoin (origin id nonce ticketHash relay room peer : String)
  | relayControl (origin id nonce operation relay room tokenHash bodyHash : String)
  | remoteRequest (binding : RelayRequestBinding) (deviceId peerId actionId : String) (attempt : SignedAttempt)
      (envelopeDigest : String)

namespace SignedMessage

def bytes : SignedMessage → Except String (List UInt8)
  | .relayWsTicket origin id nonce relay room peer tokenHash =>
    relayWsTicketMessage origin id nonce relay room peer tokenHash
  | .relayJoin origin id nonce ticketHash relay room peer => relayJoinMessage origin id nonce ticketHash relay room peer
  | .relayControl origin id nonce operation relay room tokenHash bodyHash =>
    relayControlMessage origin id nonce operation relay room tokenHash bodyHash
  | .remoteRequest binding deviceId peerId actionId attempt envelopeDigest =>
    remoteRequestMessage binding deviceId peerId actionId attempt envelopeDigest

def domain : SignedMessage → List UInt8
  | .relayWsTicket .. => relayWsTicketDomain
  | .relayJoin .. => relayJoinDomain
  | .relayControl .. => relayControlDomain
  | .remoteRequest .. => requestDomain

def fields : SignedMessage → List String
  | .relayWsTicket origin id nonce relay room peer tokenHash => [origin, id, nonce, relay, room, peer, tokenHash]
  | .relayJoin origin id nonce ticketHash relay room peer => [origin, id, nonce, ticketHash, relay, room, peer]
  | .relayControl origin id nonce operation relay room tokenHash bodyHash =>
    [origin, id, nonce, operation, relay, room, tokenHash, bodyHash]
  | .remoteRequest binding deviceId peerId actionId attempt envelopeDigest =>
    remoteRequestFields binding deviceId peerId actionId attempt envelopeDigest

end SignedMessage

end Sealwire.Broker

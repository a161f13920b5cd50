import Sealwire.Transcript.Record

namespace Sealwire.Snapshot

open Transcript (TranscriptEntryKind TranscriptContentState)

inductive InjectionKind
  | handoverRequest
  | handoverSummary
  | handoverBrief
  | reviewRecap
  | reviewBrief
  | reviewCall
  | reviewReply
  | reviewResult
  | reviewCommit
  | reviewApproved
  | reviewEscalated
  | delegateRequest
  | delegateBrief
  | delegateCall
  | delegateTask
  | delegateNudge
  | delegateAnswer
  | delegateReported
  | goalTurn
  | goalSettled
  | forkBrief
  | forkStart
  deriving DecidableEq

def InjectionKind.isReview : InjectionKind → Bool
  | .reviewRecap | .reviewCall | .reviewBrief | .reviewReply | .reviewResult | .reviewCommit | .reviewApproved
  | .reviewEscalated => true
  | _ => false

structure HandoverCardView where
  status : String

structure DelegateCardView where
  task : String
  taskClipped : Bool
  status : String
  answer : Option String
  answerClipped : Bool
  cited : List String
  sentAt : Option UInt64

structure ReviewFindingView where
  severity : String
  location : Option String
  text : String
  clipped : Bool

structure ReviewRoundView where
  findings : List ReviewFindingView
  fixed : List ReviewFindingView
  change : Option String

structure ReviewCardView where
  rounds : List ReviewRoundView

structure GoalStepView where
  note : Option String

structure GoalSettledCardView where
  steps : List GoalStepView
  leftForYou : List String
  report : String
  reportClipped : Bool

structure ForkCardView where
  note : String
  noteClipped : Bool

inductive InjectionCard
  | handover (handover : HandoverCardView)
  | review (review : ReviewCardView)
  | delegate (asks : List DelegateCardView)
  | goalTurn
  | goalSettled (settled : GoalSettledCardView)
  | fork (fork : ForkCardView)

/-- `textClipped`: the row's text is the card's body, cut short. -/
structure InjectionView where
  kind : InjectionKind
  card : InjectionCard
  textClipped : Bool

/-- How a client draws a row that carries a card. -/
inductive CardRow
  | textBody
  | replaced
  deriving DecidableEq

def InjectionView.handover (mark : InjectionView) : Option HandoverCardView :=
  match mark.card with
  | .handover handover => some handover
  | _ => none

def InjectionView.delegates (mark : InjectionView) : List DelegateCardView :=
  match mark.card with
  | .delegate asks => asks
  | _ => []

def InjectionView.drawsRow (mark : InjectionView) (kind : TranscriptEntryKind) : Option CardRow :=
  let drawn (shown : Bool) (row : CardRow) := if shown then some row else none
  match mark.kind, kind with
  | .handoverSummary, .agentText => drawn (mark.handover.any fun handover => handover.status ≠ "failed") .textBody
  | .delegateBrief, .agentText =>
    drawn (mark.delegates.head?.any fun ask => ask.sentAt.isSome || ask.status = "working") .textBody
  | .handoverBrief, .userText | .delegateTask, .userText | .delegateReported, .agentText => some .textBody
  | .delegateCall, .toolCall | .reviewCall, .toolCall | .goalSettled, .toolCall | .delegateReported, .toolCall
  | .handoverRequest, .userText | .delegateRequest, .userText | .delegateAnswer, .userText | .delegateNudge, .userText
  | .goalTurn, .userText | .forkBrief, .userText => some .replaced
  | review, .userText => if review.isReview then some .replaced else none
  | _, _ => none

/-- A transcript row with the mark of the prompt the relay sent as it. -/
structure TranscriptEntryView extends Transcript.TranscriptEntryView where
  injection : Option InjectionView

def contentRank : TranscriptContentState → Nat
  | .full => 2
  | .preview => 1
  | .omitted => 0

def downgradeTo (current state : TranscriptContentState) : TranscriptContentState :=
  if contentRank state < contentRank current then state else current

structure LogEntryView where
  kind : String
  message : String
  createdAt : UInt64
  remoteSafe : Bool

structure ProviderStatusView where
  provider : String
  displayName : String
  connected : Bool
  reason : Option String

structure ApprovalRequestView where
  summary : String
  detail : Option String
  command : Option String
  contextPreview : Option String

structure AskUserOptionView where
  label : String
  description : String

structure AskUserQuestionView where
  question : String
  header : String
  multiSelect : Bool
  options : List AskUserOptionView

structure AskUserQuestionRequestView where
  requestId : String
  questionCount : Nat
  questionsInlineComplete : Bool
  detailAvailable : Bool
  contentHash : Option String
  questions : List AskUserQuestionView

structure ReviewJobView where
  id : String
  status : String
  updatedAt : UInt64

structure ReviewActivityView where
  id : String
  parentThreadId : String
  reviewerThreadId : Option String
  status : String

structure ReviewerThreadView where
  reviewerThreadId : String
  parentThreadId : String

structure WorkflowVerdictView where
  summary : Option String
  findings : List String

structure WorkflowRunView where
  id : String
  anchorItemId : String
  status : String
  currentStep : String
  lockedThreadIds : List String
  lastVerdict : Option WorkflowVerdictView
  updatedAt : UInt64
  error : Option String

structure WorkflowActivityView where
  id : String
  parentThreadId : String
  status : String
  lockedThreadIds : List String

structure DeviceRecordView where
  deviceId : String

structure PairedDeviceView where
  deviceId : String

structure PendingPairingRequestView where
  pairingId : String

/-- What compaction reads or writes of a snapshot. -/
structure SessionSnapshot where
  providerStatus : List ProviderStatusView
  activeThreadId : Option String
  currentCwd : String
  threadWorkspaceCwd : Option String
  deviceRecords : List DeviceRecordView
  pairedDevices : List PairedDeviceView
  pendingPairingRequests : List PendingPairingRequestView
  pendingApprovals : List ApprovalRequestView
  pendingAskUserQuestions : List AskUserQuestionRequestView
  transcriptTruncated : Bool
  transcript : List TranscriptEntryView
  logs : List LogEntryView
  activeReviewJobs : List ReviewJobView
  reviewerThreads : List ReviewerThreadView
  reviewActivity : List ReviewActivityView
  activeWorkflowRuns : List WorkflowRunView
  workflowActivity : List WorkflowActivityView

/-- The sizes of what is sent, and the digest of a question set. -/
structure SnapshotJson where
  snapshotLen : SessionSnapshot → Nat
  requestLen : AskUserQuestionRequestView → Nat
  questionsContentHash : List AskUserQuestionView → String

structure SessionSnapshotCompactBudget where
  maxLogs : Nat
  maxLogChars : Nat
  maxTranscriptEntries : Nat
  maxTranscriptChars : Nat
  maxApprovalSummaryChars : Nat
  maxApprovalDetailChars : Nat
  maxApprovalCommandChars : Nat
  maxApprovalContextChars : Nat
  targetBytes : Nat
  minTranscriptEntriesBeforeTextShrink : Nat
  minLogsBeforeTextShrink : Nat
  fallbackTranscriptChars : Nat
  fallbackLogChars : Nat
  maxFileChanges : Nat
  fallbackFileChanges : Nat
  maxPendingAskUserQuestionInlineBytes : Option Nat
  reviewerThreadsActiveParentOnly : Bool
  dropOperatorOnlyLogs : Bool
  emergencyShellTranscript : Bool
  maxActiveReviewJobs : Nat
  maxReviewActivityJobs : Nat
  maxActiveWorkflowRuns : Nat
  maxWorkflowActivityRuns : Nat
  maxWorkflowActivityLockedThreadIds : Nat
  maxWorkflowFieldBytes : Nat
  maxWorkflowVerdictBytes : Nat
  maxWorkflowVerdictFindings : Nat
  maxReviewerThreads : Nat
  maxDeviceRecords : Nat

def remoteSurfaceBudget : SessionSnapshotCompactBudget where
  maxLogs := 8
  maxLogChars := 180
  maxTranscriptEntries := 6
  maxTranscriptChars := 1200
  maxApprovalSummaryChars := 140
  maxApprovalDetailChars := 320
  maxApprovalCommandChars := 320
  maxApprovalContextChars := 800
  targetBytes := 8000
  minTranscriptEntriesBeforeTextShrink := 3
  minLogsBeforeTextShrink := 4
  fallbackTranscriptChars := 400
  fallbackLogChars := 96
  maxFileChanges := 12
  fallbackFileChanges := 4
  maxPendingAskUserQuestionInlineBytes := some 4000
  reviewerThreadsActiveParentOnly := true
  dropOperatorOnlyLogs := true
  emergencyShellTranscript := true
  maxActiveReviewJobs := 8
  maxReviewActivityJobs := 4
  maxActiveWorkflowRuns := 8
  maxWorkflowActivityRuns := 1
  maxWorkflowActivityLockedThreadIds := 8
  maxWorkflowFieldBytes := 256
  maxWorkflowVerdictBytes := 768
  maxWorkflowVerdictFindings := 4
  maxReviewerThreads := 8
  maxDeviceRecords := 12

def localWebBudget : SessionSnapshotCompactBudget where
  maxLogs := 16
  maxLogChars := 280
  maxTranscriptEntries := 8
  maxTranscriptChars := 1600
  maxApprovalSummaryChars := 180
  maxApprovalDetailChars := 640
  maxApprovalCommandChars := 640
  maxApprovalContextChars := 1600
  targetBytes := 16000
  minTranscriptEntriesBeforeTextShrink := 4
  minLogsBeforeTextShrink := 8
  fallbackTranscriptChars := 640
  fallbackLogChars := 160
  maxFileChanges := 16
  fallbackFileChanges := 6
  maxPendingAskUserQuestionInlineBytes := none
  reviewerThreadsActiveParentOnly := false
  dropOperatorOnlyLogs := false
  emergencyShellTranscript := true
  maxActiveReviewJobs := 24
  maxReviewActivityJobs := 8
  maxActiveWorkflowRuns := 24
  maxWorkflowActivityRuns := 1
  maxWorkflowActivityLockedThreadIds := 24
  maxWorkflowFieldBytes := 512
  maxWorkflowVerdictBytes := 1536
  maxWorkflowVerdictFindings := 6
  maxReviewerThreads := 48
  maxDeviceRecords := 48

inductive SessionSnapshotCompactProfile
  | localWeb
  | remoteSurface
  | iosSurface
  deriving DecidableEq

def SessionSnapshotCompactProfile.budget : SessionSnapshotCompactProfile → SessionSnapshotCompactBudget
  | .localWeb => localWebBudget
  | .remoteSurface => remoteSurfaceBudget
  | .iosSurface => remoteSurfaceBudget

end Sealwire.Snapshot

import RustyCrew.Coordination.Store

namespace RustyCrew.Coordination

open Library Protocol

/-! ## Review submissions -/

inductive ReviewSubmissionPhase where
  | submitted
  | denHandoffRecorded
  | gatePending
  | gateFailed
  | reviewerDispatchPending
  | reviewerDispatched
  | denFinalizationPending
  | denFinalized
  | replyPending
  | replied
  | replyTerminal
  | reviewTerminal
  | superseded
  deriving DecidableEq, Repr

def ReviewSubmissionPhase.debugName : ReviewSubmissionPhase → String
  | .submitted => "Submitted"
  | .denHandoffRecorded => "DenHandoffRecorded"
  | .gatePending => "GatePending"
  | .gateFailed => "GateFailed"
  | .reviewerDispatchPending => "ReviewerDispatchPending"
  | .reviewerDispatched => "ReviewerDispatched"
  | .denFinalizationPending => "DenFinalizationPending"
  | .denFinalized => "DenFinalized"
  | .replyPending => "ReplyPending"
  | .replied => "Replied"
  | .replyTerminal => "ReplyTerminal"
  | .reviewTerminal => "ReviewTerminal"
  | .superseded => "Superseded"

def reviewSubmissionTerminal : ReviewSubmissionPhase → Bool
  | .replied | .replyTerminal | .reviewTerminal | .superseded => true
  | _ => false

inductive ReviewSubmissionDeploymentRole where
  | production
  | debug
  deriving DecidableEq, Repr

structure ReviewSubmissionGateBypassEvidence where
  (reason configRevision : String)
  deploymentRole : ReviewSubmissionDeploymentRole
  bypassedAt : IsoTimestamp
  deriving DecidableEq, Repr

structure ReviewFindingStatus where
  findingId : Nat
  status : String
  deriving DecidableEq, Repr

structure ReviewSubmissionRequest where
  caller : AgentCoordinationCaller
  projectId : ProjectId
  taskId : TaskId
  (repository commitSha gitRef : String)
  requiredChecks : List String
  baseCommit : Option String
  (reviewSummaryMd reviewer : String)
  now : IsoTimestamp
  deriving DecidableEq, Repr

structure ReviewSubmissionRecord where
  submissionId : String
  projectId : ProjectId
  taskId : TaskId
  (repository commitSha gitRef : String)
  requiredChecks : List String
  baseCommit : Option String
  (reviewSummaryMd reviewer : String)
  submitterAgentId : AgentId
  submitterSessionId : Option SessionId
  caller : AgentCoordinationCaller
  phase : ReviewSubmissionPhase
  (reviewRoundId gateId : Option Nat)
  gateStatus : Option String
  gateBypassEvidence : Option ReviewSubmissionGateBypassEvidence
  reviewerSessionId : Option SessionId
  (dispatchMessageId dispatchDeliveryId reviewResultDigest reviewResultJson : Option String)
  (reviewFinalizationId reviewPacketId reviewPacketMessageId : Option Nat)
  (reviewExactHeadCommit reviewVerdict : Option String)
  reviewFindingStatuses : List ReviewFindingStatus
  (reviewTaskStatus reviewMaterialDigest replyMessageId replyDeliveryId replyStatus : Option String)
  (replyReasonCode terminalReason lastAdapterError : Option String)
  reviewerDispatchAttempts : Nat
  reviewerDispatchGeneration : Option String
  reviewerDispatchNextRetryAt : Option IsoTimestamp
  (createdAt updatedAt : IsoTimestamp)
  revision : Nat

inductive ReviewSubmissionTransition where
  | denHandoffRecorded (reviewRoundId : Nat)
  | gateRegistered (gateId : Nat)
  | gateBypassed (reason configRevision : String)
      (deploymentRole : ReviewSubmissionDeploymentRole)
  | gateTerminal (gateStatus terminalReason : String)
  | adapterFailed (reasonCode summary : String)
  | reviewerDispatchFailed (reasonCode summary retryGeneration : String)
  | reviewerDispatched (reviewerSessionId : SessionId)
      (dispatchMessageId dispatchDeliveryId : String)
  | reviewerRedispatchPending (reasonCode : String)
  | denFinalizationPending (resultDigest resultJson : String)
  | denFinalized (finalizationId packetId packetMessageId : Nat) (exactHeadCommit verdict : String)
      (findingStatuses : List ReviewFindingStatus) (taskStatus : String)
      (materialDigest : Option String)
  | denAlreadyFinalized (reviewRoundId : Nat)
      (exactHeadCommit verdict taskStatus terminalReason : String)
  | denTaskTerminal (taskStatus terminalReason : String)
  | replyPending
  | replySent (replyMessageId replyDeliveryId replyStatus : String)
  | replyTerminal (reasonCode : String)
  | gateFailureSettled (terminalReason : String)
  | reviewTerminal (terminalReason : String)
  deriving DecidableEq, Repr

structure ReviewSubmissionTransitionRequest where
  submissionId : String
  expectedRevision : Nat
  transition : ReviewSubmissionTransition
  now : IsoTimestamp
  deriving DecidableEq, Repr

/-! ## Gates -/

inductive GitHubGateWaitPhase where
  | waiting
  | wakeScheduled
  | consumed
  | cancelled
  deriving DecidableEq, Repr

structure GitHubGateWaitRecord where
  sessionId : SessionId
  runId : Option RunId
  providerThreadId : Option String
  projectId : ProjectId
  taskId : TaskId
  gateId : Nat
  commitSha : String
  phase : GitHubGateWaitPhase
  terminalEventId : Option Nat
  (createdAt updatedAt : IsoTimestamp)
  deriving DecidableEq, Repr

structure GitHubGateTerminalEvent where
  (eventId gateId : Nat)
  projectId : ProjectId
  taskId : TaskId
  (commitSha status terminalReason : String)
  (summary failureSummary : Option String)
  completedAt : IsoTimestamp
  deriving DecidableEq, Repr

structure GitHubGateTerminalReceipt where
  (eventId cursor : Nat)
  (duplicate wakeScheduled : Bool)
  ignoredReason : Option String
  wait : Option GitHubGateWaitRecord
  deriving DecidableEq, Repr

structure GitHubGateCursor where
  projectId : ProjectId
  cursor : Nat
  deriving DecidableEq, Repr

structure GitHubGateSuspendRequest where
  sessionId : SessionId
  runId : Option RunId
  providerThreadId : Option String
  projectId : ProjectId
  taskId : TaskId
  gateId : Nat
  commitSha : String
  now : IsoTimestamp
  deriving DecidableEq, Repr

/-! ## Their tables -/

/-- The table of review submissions, and the entries of the key-value store that hold the waits of
sessions for a gate and the cursors over the gate events. -/
structure ReviewTables where
  submissions : Table ReviewSubmissionRecord.submissionId
  gateWaits : Table GitHubGateWaitRecord.sessionId
  gateCursor : Option Nat
  projectCursors : Table GitHubGateCursor.projectId

namespace ReviewTables

def empty : ReviewTables := ⟨.empty, .empty, none, .empty⟩

variable (tables : ReviewTables)

def getReviewSubmission (submissionId : String) : Option ReviewSubmissionRecord :=
  tables.submissions.find? submissionId

def listReviewSubmissions : List ReviewSubmissionRecord :=
  orderedBy (·.updatedAt) (·.submissionId) tables.submissions.rows

def sameSubmitter (a b : ReviewSubmissionRecord) : Bool :=
  a.taskId = b.taskId && a.commitSha = b.commitSha && a.submitterSessionId.isSome &&
    a.submitterSessionId = b.submitterSessionId

def insertReviewSubmission (record : ReviewSubmissionRecord) :
    CoreResult (ReviewSubmissionRecord × ReviewTables) := do
  rejectIf ((tables.submissions.find? record.submissionId).isSome ∨
      tables.submissions.rows.any (sameSubmitter record))
    ⟨.alreadyExists, s!"review submission {record.submissionId} already exists"⟩
  pure (record, { tables with submissions := tables.submissions.put record })

/-- The engine only passes records that keep the columns an update leaves alone. -/
def updateReviewSubmission (record : ReviewSubmissionRecord)
    (expectedRevision : Nat) : CoreResult (ReviewSubmissionRecord × ReviewTables) := do
  rejectIf ((tables.submissions.find? record.submissionId).any
      (·.revision = expectedRevision) = false)
    ⟨.actionRejected, s!"review submission {record.submissionId} revision mismatch: expected " ++
      toString expectedRevision⟩
  pure (record, { tables with submissions := tables.submissions.put record })

/-! ### Entries of the key-value store -/

def validateSimpleKvPart (label value : String) (maxBytes : Nat) : CoreResult Unit := do
  rejectIf (Text.isBlank value) ⟨.invalidInput, s!"simple_kv {label} must be non-empty"⟩
  rejectIf (maxBytes < value.utf8ByteSize)
    ⟨.actionRejected, s!"simple_kv {label} exceeds {maxBytes} bytes"⟩
  rejectIf (value.toList.any fun c => c.toNat = 0)
    ⟨.invalidInput, s!"simple_kv {label} must not contain NUL bytes"⟩

/-- The entry is looked for among the first two whose key begins like the session id. -/
def loadWait (sessionId : SessionId) : CoreResult (Option GitHubGateWaitRecord) := do
  validateSimpleKvPart "key_prefix" sessionId.raw 256
  let entries := orderedBy (·.sessionId.raw) (·.sessionId.raw)
    (tables.gateWaits.select fun wait => Text.beginsLike sessionId.raw wait.sessionId.raw)
  pure ((entries.take 2).find? fun wait => wait.sessionId = sessionId)

def listWaits : List GitHubGateWaitRecord :=
  (orderedBy (·.sessionId.raw) (·.sessionId.raw) tables.gateWaits.rows).take 1000

def saveWait (wait : GitHubGateWaitRecord) : CoreResult ReviewTables := do
  validateSimpleKvPart "key" wait.sessionId.raw 256
  pure { tables with gateWaits := tables.gateWaits.put wait }

def loadCursor : Nat := tables.gateCursor.getD 0

def loadProjectCursor (projectId : ProjectId) : CoreResult Nat := do
  validateSimpleKvPart "scope_id" projectId.raw 256
  pure (((tables.projectCursors.find? projectId).map (·.cursor)).getD 0)

def saveCursor (cursor : Nat) : ReviewTables :=
  { tables with gateCursor := some (max cursor tables.loadCursor) }

def saveProjectCursor (projectId : ProjectId) (cursor : Nat) : CoreResult ReviewTables := do
  let current ← tables.loadProjectCursor projectId
  pure { tables with projectCursors := tables.projectCursors.put ⟨projectId, max cursor current⟩ }

end ReviewTables

end RustyCrew.Coordination

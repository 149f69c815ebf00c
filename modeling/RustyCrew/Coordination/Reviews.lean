import RustyCrew.Coordination.Engine

namespace RustyCrew.Coordination

open Library Protocol CoordinationM Effect
open RustyCrew.Engine (Calendar QueuedMessageRecord Surroundings addMillisToIso defaultDeltaPolicy
  parseRfc3339 sha256Text)

def listReviewSubmissionRecords : CoordinationM (List ReviewSubmissionRecord) :=
  loadReviews fun reviews => pure reviews.listReviewSubmissions

def saveReviewSubmissionRecord (record : ReviewSubmissionRecord) : CoordinationM Unit := do
  match ← loadReviewSubmissionRecord record.submissionId with
  | some existing => do
    let _ ← inReviews fun reviews => reviews.updateReviewSubmission record existing.revision
  | none => do
    let _ ← inReviews fun reviews => reviews.insertReviewSubmission record

def saveQueuedMessage (record : QueuedMessageRecord) : CoordinationM Unit :=
  inStore fun tables => pure ((), { tables with queue := tables.queue.saveQueuedMessage record })

/-! ## Beginning a submission -/

def isHexDigit (c : Char) : Bool :=
  c.isDigit || ('a' ≤ c && c ≤ 'f') || ('A' ≤ c && c ≤ 'F')

def validFullGithubSha (value : String) : Bool :=
  value.utf8ByteSize = 40 && value.toList.all isHexDigit

def validRepository (repository : String) : Bool :=
  match repository.toList.span (· ≠ '/') with
  | (owner, _ :: repo) =>
    !Text.isBlank (String.ofList owner) && !Text.isBlank (String.ofList repo) && '/' ∉ repo
  | (_, []) => false

def isExternalCli : AgentCoordinationCaller → Bool
  | .externalCli .. => true
  | _ => false

variable (request : ReviewSubmissionRequest)

def validateExternalCli : CoreResult Unit :=
  match request.caller with
  | .externalCli clientId idempotencyKey =>
    rejectIf (Text.isBlank clientId ∨ Text.isBlank idempotencyKey ∨
        128 < clientId.utf8ByteSize ∨ 256 < idempotencyKey.utf8ByteSize ∨
        request.reviewer ≠ "@reviewer")
      ⟨.invalidInput, "external CLI review submissions require bounded client identity, " ++
        "idempotency key, and fixed @reviewer recipient"⟩
  | _ => .ok ()

def validateReviewSubmissionRequest : CoreResult Unit := do
  rejectIf (Text.isBlank request.projectId.raw ∨ Text.isBlank request.taskId.raw ∨
      validRepository request.repository = false ∨
      validFullGithubSha request.commitSha = false ∨ Text.isBlank request.gitRef ∨
      (request.requiredChecks = [] ∧ isExternalCli request.caller = false) ∨
      request.requiredChecks.any Text.isBlank ∨ Text.isBlank request.reviewSummaryMd ∨
      64 * 1024 < request.reviewSummaryMd.utf8ByteSize ∨
      request.reviewer.toList.head? ≠ some '@')
    ⟨.invalidInput, "invalid review submission request"⟩
  rejectIf (request.baseCommit.any fun sha => !validFullGithubSha sha)
    ⟨.invalidInput, "review submission base_commit must be an exact SHA"⟩
  validateExternalCli request

def submitterOf : AgentCoordinationCaller → CoordinationM (AgentId × Option SessionId)
  | .externalCli clientId _ => pure (⟨"external-cli:" ++ clientId⟩, none)
  | caller => do
    let resolved ← resolveCoordinationCaller caller
    let sessionId ← require resolved.sessionId .actionRejected
      "review_submission_requires_session_caller"
    pure (resolved.agentId, some sessionId)

def callerIdentity : AgentCoordinationCaller → String
  | .directBrain sessionId _ _ => sessionId.raw
  | .externalCli clientId idempotencyKey => s!"external-cli|{clientId}|{idempotencyKey}"
  | _ => "unsupported"

def reviewSubmissionId (projectId : ProjectId) (taskId : TaskId) (commitSha : String)
    (caller : AgentCoordinationCaller) : String :=
  "review-submission:" ++ sha256Text (projectId.raw ++ "|" ++ taskId.raw ++ "|" ++
    Text.toAsciiLowercase commitSha ++ "|" ++ callerIdentity caller)

def validateDuplicateReviewSubmission (existing : ReviewSubmissionRecord)
    (request : ReviewSubmissionRequest) : CoreResult Unit :=
  rejectIf (¬(existing.projectId = request.projectId ∧ existing.taskId = request.taskId ∧
      existing.repository = request.repository ∧
      Text.eqIgnoreAsciiCase existing.commitSha request.commitSha ∧
      existing.gitRef = request.gitRef ∧ existing.requiredChecks = request.requiredChecks ∧
      existing.reviewSummaryMd = request.reviewSummaryMd ∧ existing.reviewer = request.reviewer ∧
      (existing.baseCommit = request.baseCommit ∨ existing.baseCommit = none)))
    ⟨.actionRejected, "review_submission_duplicate_payload_mismatch"⟩

/-- A request for a submission that exists can still name its base commit. -/
def repeatReviewSubmission (existing : ReviewSubmissionRecord)
    (request : ReviewSubmissionRequest) : CoordinationM ReviewSubmissionRecord := do
  lift (validateDuplicateReviewSubmission existing request)
  if existing.baseCommit.isNone ∧ request.baseCommit.isSome then do
    let based :=
      { existing with
        baseCommit := request.baseCommit, updatedAt := request.now
        revision := existing.revision + 1 }
    saveReviewSubmissionRecord based
    pure based
  else pure existing

def supersededBy (existing : ReviewSubmissionRecord) : Bool :=
  existing.taskId = request.taskId && !reviewSubmissionTerminal existing.phase &&
    !Text.eqIgnoreAsciiCase existing.commitSha request.commitSha

def supersedeReviewSubmission (existing : ReviewSubmissionRecord) : CoordinationM Unit :=
  if supersededBy request existing then
    saveReviewSubmissionRecord
      { existing with
        phase := .superseded, terminalReason := some "newer_review_submission"
        updatedAt := request.now, revision := existing.revision + 1 }
  else pure ()

def newReviewSubmission (submissionId : String) (submitterAgentId : AgentId)
    (submitterSessionId : Option SessionId) (request : ReviewSubmissionRequest) :
    ReviewSubmissionRecord where
  submissionId := submissionId
  projectId := request.projectId
  taskId := request.taskId
  repository := request.repository
  commitSha := Text.toAsciiLowercase request.commitSha
  gitRef := request.gitRef
  requiredChecks := request.requiredChecks
  baseCommit := request.baseCommit
  reviewSummaryMd := request.reviewSummaryMd
  reviewer := request.reviewer
  submitterAgentId := submitterAgentId
  submitterSessionId := submitterSessionId
  caller := request.caller
  phase := .submitted
  reviewRoundId := none
  gateId := none
  gateStatus := none
  gateBypassEvidence := none
  reviewerSessionId := none
  dispatchMessageId := none
  dispatchDeliveryId := none
  reviewResultDigest := none
  reviewResultJson := none
  reviewFinalizationId := none
  reviewPacketId := none
  reviewPacketMessageId := none
  reviewExactHeadCommit := none
  reviewVerdict := none
  reviewFindingStatuses := []
  reviewTaskStatus := none
  reviewMaterialDigest := none
  replyMessageId := none
  replyDeliveryId := none
  replyStatus := none
  replyReasonCode := none
  terminalReason := none
  lastAdapterError := none
  reviewerDispatchAttempts := 0
  reviewerDispatchGeneration := none
  reviewerDispatchNextRetryAt := none
  createdAt := request.now
  updatedAt := request.now
  revision := 1

def beginReviewSubmission : CoordinationM ReviewSubmissionRecord := do
  lift (validateReviewSubmissionRequest request)
  let (agentId, sessionId) ← submitterOf request.caller
  let submissionId :=
    reviewSubmissionId request.projectId request.taskId request.commitSha request.caller
  match ← loadReviewSubmissionRecord submissionId with
  | some existing => repeatReviewSubmission existing request
  | none => do
    let records ← listReviewSubmissionRecords
    forEach (supersedeReviewSubmission request) records
    let record := newReviewSubmission submissionId agentId sessionId request
    saveReviewSubmissionRecord record
    pure record

/-! ## Transitions -/

def maxReviewerDispatchAttempts : Nat := 6

def requireReviewPhase (record : ReviewSubmissionRecord) (expected : ReviewSubmissionPhase) :
    CoreResult Unit :=
  rejectIf (record.phase ≠ expected)
    ⟨.actionRejected, s!"review_submission_phase_mismatch: expected {expected.debugName}, " ++
      s!"found {record.phase.debugName}"⟩

/-- A handoff without required checks passes without a gate. -/
def requireGatePhase (record : ReviewSubmissionRecord) (gateStatus terminalReason : String) :
    CoreResult Unit :=
  if record.phase = .denHandoffRecorded ∧ record.requiredChecks = [] ∧ gateStatus = "passed" ∧
      terminalReason = "no_required_checks" then .ok ()
  else requireReviewPhase record .gatePending

section
variable (calendar : Calendar)

def reviewerDispatchRetryAt (now : IsoTimestamp) (attempts : Nat) :
    CoreResult (Option IsoTimestamp) :=
  if maxReviewerDispatchAttempts ≤ attempts then pure none
  else do
    let parsed ← parseRfc3339 calendar now
    let retryAt ← orFailWith
      (calendar.formatAfter parsed (30000 * 2 ^ min (attempts - 1) 4)) fun error =>
        ⟨.internalError, "format reviewer dispatch retry time: " ++ error⟩
    pure (some retryAt)

variable (record : ReviewSubmissionRecord)

def dispatchFailed (now : IsoTimestamp)
    (reasonCode summary retryGeneration : String) : CoreResult ReviewSubmissionRecord := do
  let attempts :=
    (if record.reviewerDispatchGeneration = some retryGeneration
      then record.reviewerDispatchAttempts else 0) + 1
  let retryAt ← reviewerDispatchRetryAt calendar now attempts
  pure
    { record with
      reviewerDispatchAttempts := attempts
      reviewerDispatchGeneration := some retryGeneration
      lastAdapterError := some s!"{reasonCode}: {summary}"
      reviewerDispatchNextRetryAt := retryAt }

/-- The record after a transition and before it is stamped, or none when the transition leaves it
as it is. -/
def transitioned (now : IsoTimestamp) :
    ReviewSubmissionTransition → CoreResult (Option ReviewSubmissionRecord)
  | .denHandoffRecorded reviewRoundId => do
    requireReviewPhase record .submitted
    rejectIf (reviewRoundId = 0) ⟨.invalidInput, "review_round_id must be positive"⟩
    pure (some
      { record with
        reviewRoundId := some reviewRoundId
        phase := .denHandoffRecorded
        lastAdapterError := none })
  | .gateRegistered gateId => do
    requireReviewPhase record .denHandoffRecorded
    rejectIf (gateId = 0) ⟨.invalidInput, "gate_id must be positive"⟩
    pure (some
      { record with gateId := some gateId, phase := .gatePending, lastAdapterError := none })
  | .gateBypassed reason configRevision deploymentRole => do
    rejectIf (record.phase ≠ .denHandoffRecorded ∧ record.phase ≠ .gatePending)
      ⟨.actionRejected, "review_submission_phase_mismatch: gate bypass cannot settle " ++
        record.phase.debugName⟩
    rejectIf (Text.isBlank reason ∨ Text.isBlank configRevision)
      ⟨.invalidInput, "review gate bypass requires a reason and config revision"⟩
    pure (some
      { record with
        gateStatus := some "passed"
        terminalReason := some "operator_bypass_github_gate"
        gateBypassEvidence := some ⟨reason, configRevision, deploymentRole, now⟩
        phase := .reviewerDispatchPending
        lastAdapterError := none })
  | .gateTerminal gateStatus terminalReason => do
    requireGatePhase record gateStatus terminalReason
    rejectIf (gateStatus ∉ ["passed", "failed", "timed_out", "superseded"] ∨
        Text.isBlank terminalReason)
      ⟨.invalidInput, "invalid Review GitHub gate terminal state"⟩
    pure (some
      { record with
        gateStatus := some gateStatus
        terminalReason := some terminalReason
        phase := if gateStatus = "passed" then .reviewerDispatchPending else .gateFailed
        lastAdapterError := none })
  | .adapterFailed reasonCode summary =>
    let failure := s!"{reasonCode}: {summary}"
    if record.lastAdapterError = some failure then pure none
    else pure (some { record with lastAdapterError := some failure })
  | .reviewerDispatchFailed reasonCode summary retryGeneration => do
    requireReviewPhase record .reviewerDispatchPending
    rejectIf (Text.isBlank reasonCode ∨ Text.isBlank summary ∨ Text.isBlank retryGeneration)
      ⟨.invalidInput,
        "reviewer dispatch failure requires reason, summary, and retry generation"⟩
    if record.reviewerDispatchGeneration = some retryGeneration ∧
        maxReviewerDispatchAttempts ≤ record.reviewerDispatchAttempts then pure none
    else do
      let failed ← dispatchFailed calendar record now reasonCode summary retryGeneration
      pure (some failed)
  | .reviewerDispatched reviewerSessionId dispatchMessageId dispatchDeliveryId => do
    requireReviewPhase record .reviewerDispatchPending
    pure (some
      { record with
        reviewerSessionId := some reviewerSessionId
        dispatchMessageId := some dispatchMessageId
        dispatchDeliveryId := some dispatchDeliveryId
        phase := .reviewerDispatched
        lastAdapterError := none
        reviewerDispatchNextRetryAt := none })
  | .reviewerRedispatchPending reasonCode => do
    requireReviewPhase record .reviewerDispatched
    rejectIf (Text.isBlank reasonCode)
      ⟨.invalidInput, "reviewer redispatch reason code is required"⟩
    -- The coordinates of the earlier dispatch stay until another one is accepted.
    pure (some
      { record with
        phase := .reviewerDispatchPending
        lastAdapterError := some ("reviewer_redispatch_pending: " ++ reasonCode)
        reviewerDispatchAttempts := 0
        reviewerDispatchGeneration := none
        reviewerDispatchNextRetryAt := none })
  | .denFinalizationPending resultDigest resultJson => do
    requireReviewPhase record .reviewerDispatched
    rejectIf (Text.isBlank resultDigest ∨ Text.isBlank resultJson)
      ⟨.invalidInput, "review result digest and JSON are required"⟩
    rejectIf (8192 < resultJson.utf8ByteSize)
      ⟨.invalidInput, "review result JSON exceeds 8192 bytes"⟩
    pure (some
      { record with
        reviewResultDigest := some resultDigest
        reviewResultJson := some resultJson
        phase := .denFinalizationPending
        lastAdapterError := none })
  | .denFinalized finalizationId packetId packetMessageId exactHeadCommit verdict findingStatuses
      taskStatus materialDigest => do
      requireReviewPhase record .denFinalizationPending
      rejectIf (finalizationId = 0 ∨ packetId = 0 ∨ packetMessageId = 0 ∨
          Text.isBlank exactHeadCommit ∨ Text.isBlank verdict ∨ Text.isBlank taskStatus)
        ⟨.invalidInput, "incomplete Den review finalization receipt"⟩
      pure (some
        { record with
          reviewFinalizationId := some finalizationId
          reviewPacketId := some packetId
          reviewPacketMessageId := some packetMessageId
          reviewExactHeadCommit := some exactHeadCommit
          reviewVerdict := some verdict
          reviewFindingStatuses := findingStatuses
          reviewTaskStatus := some taskStatus
          reviewMaterialDigest := materialDigest
          phase := .denFinalized
          lastAdapterError := none })
  | .denAlreadyFinalized reviewRoundId exactHeadCommit verdict taskStatus terminalReason =>
    if reviewSubmissionTerminal record.phase then pure none
    else do
      rejectIf (reviewRoundId = 0 ∨
          Text.eqIgnoreAsciiCase exactHeadCommit record.commitSha = false ∨
          (verdict, taskStatus) ∉ [("looks_good", "done"), ("changes_requested", "in_progress")] ∨
          Text.isBlank terminalReason)
        ⟨.invalidInput, "invalid already-finalized Den review state"⟩
      pure (some
        { record with
          reviewRoundId := some reviewRoundId
          reviewExactHeadCommit := some exactHeadCommit
          reviewVerdict := some verdict
          reviewTaskStatus := some taskStatus
          terminalReason := some terminalReason
          phase := .reviewTerminal
          lastAdapterError := none })
  | .denTaskTerminal taskStatus terminalReason =>
    if reviewSubmissionTerminal record.phase then pure none
    else do
      rejectIf (taskStatus ∉ ["done", "cancelled"] ∨ Text.isBlank terminalReason)
        ⟨.invalidInput, "invalid terminal Den task reconciliation"⟩
      pure (some
        { record with
          reviewTaskStatus := some taskStatus
          terminalReason := some terminalReason
          phase := .superseded
          lastAdapterError := none
          reviewerDispatchNextRetryAt := none })
  | .replyPending => do
    requireReviewPhase record .denFinalized
    pure (some
      { record with phase := .replyPending, replyReasonCode := none, lastAdapterError := none })
  | .replySent replyMessageId replyDeliveryId replyStatus => do
    requireReviewPhase record .replyPending
    rejectIf (Text.isBlank replyMessageId ∨ Text.isBlank replyDeliveryId ∨
        Text.isBlank replyStatus)
      ⟨.invalidInput, "reply delivery identifiers and status are required"⟩
    pure (some
      { record with
        replyMessageId := some replyMessageId
        replyDeliveryId := some replyDeliveryId
        replyStatus := some replyStatus
        phase := .replied
        lastAdapterError := none })
  | .replyTerminal reasonCode => do
    rejectIf (record.phase ≠ .denFinalized ∧ record.phase ≠ .replyPending)
      ⟨.actionRejected, "review_submission_phase_mismatch: reply terminal cannot settle " ++
        record.phase.debugName⟩
    pure (some
      { record with
        replyReasonCode := some reasonCode
        terminalReason := some reasonCode
        phase := .replyTerminal
        lastAdapterError := none })
  | .gateFailureSettled terminalReason | .reviewTerminal terminalReason =>
    if reviewSubmissionTerminal record.phase then pure none
    else pure (some
      { record with
        phase := .reviewTerminal
        terminalReason := some terminalReason
        lastAdapterError := none })

/-! ### What a transition does besides -/

def providerThreadId : AgentCoordinationCaller → Option String
  | .externalAgent _ _ _ _ nativeThreadId _ _ => some nativeThreadId
  | _ => none

def saveGithubGateWait (wait : GitHubGateWaitRecord) : CoordinationM Unit :=
  saveReviews fun reviews => reviews.saveWait wait

def awaitGate (gateId : Nat) (now : IsoTimestamp) : CoordinationM Unit :=
  match record.submitterSessionId with
  | none => pure ()
  | some sessionId =>
    saveGithubGateWait
      { sessionId
        runId := none
        providerThreadId := providerThreadId record.caller
        projectId := record.projectId
        taskId := record.taskId
        gateId
        commitSha := record.commitSha
        phase := .waiting
        terminalEventId := none
        createdAt := now
        updatedAt := now }

def queuedMessageTtlMs (sessionId : SessionId) : CoordinationM Nat := do
  let _ ← call
  let _ ← getSession sessionId
  pure defaultDeltaPolicy.queuedMessageTtlMs

def noticeMessage (messageId : String) (sessionId : SessionId) (sender recipient : AgentId)
    (body correlationId : String) (enqueuedAt expiresAt : IsoTimestamp) (ttlMs : Nat) :
    QueuedMessageRecord where
  messageId := messageId
  ownerSessionId := some sessionId
  ownerAgentId := recipient
  message := ⟨sender, recipient, none, some sessionId, body, some correlationId, none⟩
  sourceSequence := none
  enqueuedAt := enqueuedAt
  expiresAt := expiresAt
  ttlMs := ttlMs
  deliveryAttempts := 0
  state := .pending
  terminalAt := none
  stateReason := none

def failureBody (reasonCode summary : String) : String :=
  (Json.ofMembers
    [("type", .string "review_submission_failure"),
      ("submissionId", .string record.submissionId),
      ("taskId", .string record.taskId.raw),
      ("commitSha", .string record.commitSha),
      ("reasonCode", .string reasonCode),
      ("summary", .string summary)]).render

def wakeSubmitter (sessionId : SessionId)
    (reasonCode summary : String) (now : IsoTimestamp) : CoordinationM Unit := do
  let ttlMs ← queuedMessageTtlMs sessionId
  let expiresAt ← lift (addMillisToIso calendar now ttlMs)
  saveQueuedMessage (noticeMessage ("review-submission-failure:" ++ record.submissionId) sessionId
    ⟨"rusty-crew:review-submission"⟩ record.submitterAgentId
    (failureBody record reasonCode summary) record.submissionId now expiresAt ttlMs)
  let _ ← publish (.brainWakeRequested sessionId)

def scheduleReviewSubmissionFailureWake
    (reasonCode summary : String) (now : IsoTimestamp) : CoordinationM Unit :=
  match record.submitterSessionId with
  | none => pure ()
  | some sessionId => do
    let session ← getSession sessionId
    if session.status = .archived ∨ session.agentId ≠ record.submitterAgentId then pure ()
    else wakeSubmitter calendar record sessionId reasonCode summary now

def besideTransition (now : IsoTimestamp) : ReviewSubmissionTransition → CoordinationM Unit
  | .gateRegistered gateId => awaitGate record gateId now
  | .reviewerDispatchFailed reasonCode summary _ =>
    if record.reviewerDispatchAttempts = 1 then
      scheduleReviewSubmissionFailureWake calendar record reasonCode summary now
    else pure ()
  | _ => pure ()

def transitionReviewSubmission (request : ReviewSubmissionTransitionRequest) :
    CoordinationM ReviewSubmissionRecord := do
  let record ← require (← loadReviewSubmissionRecord request.submissionId) .notFound
    "review_submission_not_found"
  refuse (record.revision ≠ request.expectedRevision) .actionRejected
    (s!"review_submission_revision_mismatch: expected {request.expectedRevision}, found " ++
      toString record.revision)
  match ← lift (transitioned calendar record request.now request.transition) with
  | none => pure record
  | some next => do
    besideTransition calendar next request.now request.transition
    let saved := { next with updatedAt := request.now, revision := next.revision + 1 }
    saveReviewSubmissionRecord saved
    pure saved

end

/-! ## Gate events and replies of reviewers -/

variable (event : GitHubGateTerminalEvent)

def awaitsGate (record : ReviewSubmissionRecord) : Bool :=
  record.phase = .gatePending && record.gateId = some event.gateId &&
    Text.eqIgnoreAsciiCase record.commitSha event.commitSha

def afterGate (record : ReviewSubmissionRecord) : ReviewSubmissionRecord :=
  { record with
    gateStatus := some event.status
    terminalReason := some event.terminalReason
    phase := if event.status = "passed" then .reviewerDispatchPending else .gateFailed
    updatedAt := event.completedAt
    revision := record.revision + 1 }

def applyReviewGateTerminal : CoordinationM (Option ReviewSubmissionRecord) := do
  let records ← listReviewSubmissionRecords
  match records.find? (awaitsGate event) with
  | none => pure none
  | some record => do
    saveReviewSubmissionRecord (afterGate event record)
    pure (some (afterGate event record))

def awaitsReply (dispatchMessageId : String) (record : ReviewSubmissionRecord) : Bool :=
  record.phase = .reviewerDispatched && record.dispatchMessageId = some dispatchMessageId

def markReviewReplyTerminal (dispatchMessageId : String) (now : IsoTimestamp) :
    CoordinationM Unit := do
  let records ← listReviewSubmissionRecords
  match records.find? (awaitsReply dispatchMessageId) with
  | none => pure ()
  | some record =>
    saveReviewSubmissionRecord
      { record with
        phase := .reviewTerminal
        terminalReason := some "reviewer_reply_received"
        updatedAt := now
        revision := record.revision + 1 }

def validateGithubGateTerminalEvent : CoreResult Unit :=
  rejectIf (event.eventId = 0 ∨ event.gateId = 0 ∨ validFullGithubSha event.commitSha = false ∨
      event.status ∉ ["passed", "failed", "timed_out", "superseded"] ∨
      event.terminalReason ∉ ["checks_passed", "checks_failed", "required_checks_missing",
        "timeout", "superseded"])
    ⟨.invalidInput, "invalid Review GitHub gate terminal event"⟩

def saveGithubGateEventCursors : CoordinationM Unit := do
  saveReviews fun reviews => reviews.saveProjectCursor event.projectId event.eventId
  saveReviews fun reviews => pure (reviews.saveCursor event.eventId)

def GitHubGateTerminalEvent.receipt (cursor : Nat)
    (ignoredReason : Option String) (wait : Option GitHubGateWaitRecord) :
    GitHubGateTerminalReceipt where
  eventId := event.eventId
  cursor := max cursor event.eventId
  duplicate := false
  wakeScheduled := ignoredReason.isNone
  ignoredReason := ignoredReason
  wait := wait

def matchesWait (wait : GitHubGateWaitRecord) : Bool :=
  wait.phase = .waiting && wait.gateId = event.gateId &&
    Text.eqIgnoreAsciiCase wait.commitSha event.commitSha

def settledWait (phase : GitHubGateWaitPhase)
    (wait : GitHubGateWaitRecord) : GitHubGateWaitRecord :=
  { wait with
    phase := phase, terminalEventId := some event.eventId, updatedAt := event.completedAt }

def settleWait (phase : GitHubGateWaitPhase)
    (wait : GitHubGateWaitRecord) : CoordinationM Unit := do
  saveGithubGateWait (settledWait event phase wait)
  saveGithubGateEventCursors event

def consumeUnawaited (cursor : Nat) : CoordinationM GitHubGateTerminalReceipt := do
  let submission ← applyReviewGateTerminal event
  saveGithubGateEventCursors event
  let reason :=
    if submission.isSome ∧ event.status = "passed" then "review_submission_dispatch_pending"
    else if submission.isSome then "review_submission_gate_failed"
    else "no_current_wait_for_gate_and_sha"
  pure (event.receipt cursor (some reason) none)

def optionalText : Option String → Json
  | none => .null
  | some text => .string text

def gateResultBody : String :=
  (Json.ofMembers
    [("type", .string "github_gate_terminal_result"),
      ("result", Json.ofMembers
        [("event_id", .number (toString event.eventId)),
          ("gate_id", .number (toString event.gateId)),
          ("commit_sha", .string event.commitSha),
          ("status", .string event.status),
          ("terminal_reason", .string event.terminalReason),
          ("summary", optionalText event.summary),
          ("failure_summary", optionalText event.failureSummary),
          ("completed_at", .string event.completedAt)])]).render

section
variable (calendar : Calendar)

def wakeForGate (event : GitHubGateTerminalEvent) (cursor : Nat) (wait : GitHubGateWaitRecord)
    (agentId : AgentId) : CoordinationM GitHubGateTerminalReceipt := do
  let ttlMs ← queuedMessageTtlMs wait.sessionId
  let expiresAt ← lift (addMillisToIso calendar event.completedAt ttlMs)
  let eventKey := "github-gate-event:" ++ toString event.eventId
  saveQueuedMessage (noticeMessage eventKey wait.sessionId ⟨"rusty-crew:review-gate"⟩ agentId
    (gateResultBody event) eventKey event.completedAt expiresAt ttlMs)
  settleWait event .wakeScheduled wait
  let _ ← publish (.brainWakeRequested wait.sessionId)
  pure (event.receipt cursor none (some (settledWait event .wakeScheduled wait)))

def consumeAwaited (event : GitHubGateTerminalEvent) (cursor : Nat) (wait : GitHubGateWaitRecord) :
    CoordinationM GitHubGateTerminalReceipt := do
  let session ← getSession wait.sessionId
  if session.status = .archived then do
    settleWait event .cancelled wait
    pure (event.receipt cursor (some "session_cancelled_or_archived")
      (some (settledWait event .cancelled wait)))
  else do
    let submission ← applyReviewGateTerminal event
    if submission.isSome ∧ event.status = "passed" then do
      settleWait event .consumed wait
      pure (event.receipt cursor (some "review_submission_dispatch_pending")
        (some (settledWait event .consumed wait)))
    else wakeForGate calendar event cursor wait session.agentId

def consumeGithubGateTerminalEvent (event : GitHubGateTerminalEvent) :
    CoordinationM GitHubGateTerminalReceipt := do
  lift (validateGithubGateTerminalEvent event)
  let cursor ← loadReviews fun reviews => pure reviews.loadCursor
  let projectCursor ← loadReviews fun reviews => reviews.loadProjectCursor event.projectId
  if event.eventId ≤ projectCursor then
    pure ⟨event.eventId, cursor, true, false, some "event_cursor_already_consumed", none⟩
  else do
    let waits ← loadReviews fun reviews => pure reviews.listWaits
    match waits.find? (matchesWait event) with
    | none => consumeUnawaited event cursor
    | some wait => consumeAwaited calendar event cursor wait

end

variable (request : GitHubGateSuspendRequest)

def validateGithubGateSuspend : CoreResult Unit :=
  rejectIf (request.gateId = 0 ∨ Text.isBlank request.projectId.raw ∨
      Text.isBlank request.taskId.raw ∨ validFullGithubSha request.commitSha = false)
    ⟨.invalidInput, "GitHub gate suspension requires gate_id, project/task, and an exact " ++
      "40-character SHA"⟩

def suspendedWait : GitHubGateWaitRecord where
  sessionId := request.sessionId
  runId := request.runId
  providerThreadId := request.providerThreadId
  projectId := request.projectId
  taskId := request.taskId
  gateId := request.gateId
  commitSha := Text.toAsciiLowercase request.commitSha
  phase := .waiting
  terminalEventId := none
  createdAt := request.now
  updatedAt := request.now

def isSuspended (wait : GitHubGateWaitRecord) : Bool :=
  wait.phase = .waiting && wait.gateId = request.gateId && wait.commitSha = request.commitSha

def suspendForGithubGate : CoordinationM GitHubGateWaitRecord := do
  lift (validateGithubGateSuspend request)
  let session ← getSession request.sessionId
  refuse (session.status = .archived) .sessionExpired
    s!"session {request.sessionId.raw} is archived"
  let existing ← loadReviews fun reviews => reviews.loadWait request.sessionId
  match existing.filter (isSuspended request) with
  | some wait => pure wait
  | none => do
    saveGithubGateWait (suspendedWait request)
    let idle ← inRegistry fun registry => registry.markIdle request.sessionId request.now
    inStore fun tables => pure ((), tables.saveSession idle.sessionId)
    pure (suspendedWait request)

/-! ## Runs -/

inductive ReviewCall where
  | beginSubmission (request : ReviewSubmissionRequest)
  | transition (request : ReviewSubmissionTransitionRequest)
  | gateEvent (event : GitHubGateTerminalEvent)
  | suspend (request : GitHubGateSuspendRequest)
  | reviewerReply (dispatchMessageId : String) (now : IsoTimestamp)
  /-- The rest of the engine, which leaves the review tables alone. -/
  | elsewhere (other : CoordinationEngine)

def discardResult {α : Type} (x : CoordinationM α) : CoordinationM Unit := do
  let _ ← x

def ReviewCall.perform (calendar : Calendar) : ReviewCall → CoordinationM Unit
  | .beginSubmission request => discardResult (beginReviewSubmission request)
  | .transition request => discardResult (transitionReviewSubmission calendar request)
  | .gateEvent event => discardResult (consumeGithubGateTerminalEvent calendar event)
  | .suspend request => discardResult (suspendForGithubGate request)
  | .reviewerReply dispatchMessageId now => markReviewReplyTerminal dispatchMessageId now
  | .elsewhere other =>
    Attended.transact fun engine => pure ((), { other with reviews := engine.reviews })

def CoordinationEngine.review (calendar : Calendar) (engine : CoordinationEngine)
    (attendance : ReviewCall × (Nat → Surroundings)) : CoordinationEngine :=
  (attendance.1.perform calendar ⟨engine, attendance.2⟩).2.state

end RustyCrew.Coordination

import RustyCrew.Persistence.Operations

namespace RustyCrew.Persistence

open Library Protocol

variable (record : LogicalTurnRecord)

def continuationTicket (reason : ContinuationYieldReason)
    (createdAt : IsoTimestamp) : LogicalTurnContinuationTicket :=
  ⟨record.logicalTurnId, record.currentContinuationId, record.sessionId, reason, createdAt⟩

def releaseClaim (now : IsoTimestamp) : LogicalTurnRecord :=
  { record with
    activeEpochId := none
    claimHolder := none
    claimExpiresAt := none
    updatedAt := now
    revision := record.revision + 1 }

def claimedRecord (request : LogicalTurnClaimRequest) : LogicalTurnRecord :=
  { record with
    phase := .running
    activeEpochId := some request.executionEpochId
    claimGeneration := some (record.claimGeneration.getD 0 + 1)
    claimHolder := some request.claimHolder
    claimExpiresAt := some request.claimExpiresAt
    updatedAt := request.now
    revision := record.revision + 1 }

def yieldedRecord (request : LogicalTurnYieldRequest) : LogicalTurnRecord :=
  { releaseClaim record request.now with
    phase := .yielded
    currentContinuationId := request.checkpoint.continuationId
    continuationSequence := request.checkpoint.sequence }

def attentionRecord (request : LogicalTurnAttentionRequest) : LogicalTurnRecord :=
  { releaseClaim record request.now with
    phase := .attentionRequired
    currentContinuationId := request.checkpoint.continuationId
    continuationSequence := request.checkpoint.sequence
    attention := some request.attention }

def resolvedRecord (now : IsoTimestamp) : LogicalTurnRecord :=
  { record with
    phase := .runnable
    attention := none
    updatedAt := now
    revision := record.revision + 1 }

def completedRecord (request : LogicalTurnCompletionRequest) : LogicalTurnRecord :=
  { releaseClaim record request.now with
    phase := request.lifecycleEvent.phase
    terminalAt := some request.now }

def cancellingRecord (now : IsoTimestamp) : LogicalTurnRecord :=
  { record with
    phase := .cancelRequested
    cancellationGeneration := record.cancellationGeneration + 1
    updatedAt := now
    revision := record.revision + 1 }

def cancelledRecord (now : IsoTimestamp) : LogicalTurnRecord :=
  { releaseClaim record now with
    phase := .cancelled
    cancellationGeneration := record.cancellationGeneration + 1
    attention := none
    terminalAt := some now }

def cancelReceiptRow (request : LogicalTurnCancelRequest)
    (receipt : LogicalTurnCancellationReceipt) : CancelReceiptRow :=
  ⟨request.logicalTurnId, request.idempotencyKey, request.now, receipt⟩

namespace Store

variable (s : Store)

def insertLogicalTurnAdmission (write : LogicalTurnAdmissionWrite) :
    CoreResult (Store × LogicalTurnAdmission) := do
  validateAdmission write
  let s ← write.frozenContent.foldlM insertContentBlob s
  let record := write.admission.record
  let s ← s.insertTurn record
  let s ← s.insertCheckpoint write.admission.initialCheckpoint
  let s ← s.insertOutbox write.admission.lifecycleEvent
  let s := s.upsertTicket (continuationTicket record .initialAdmission record.admittedAt)
  .ok (s, write.admission)

def claimLogicalTurn (request : LogicalTurnClaimRequest) :
    CoreResult (Store × LogicalTurnContinuationClaim) := do
  let record ← orFail (s.loadTurn request.logicalTurnId) logicalTurnNotFound
  let checkpoint ← orFail (s.loadCheckpoint request.continuationId)
    ⟨.notFound, "logical turn checkpoint not found"⟩
  if record.phase = .running ∧ record.activeEpochId = some request.executionEpochId ∧
      record.claimHolder = some request.claimHolder then
    .ok (s, ⟨record, checkpoint, record.claimGeneration.getD 0, true⟩)
  else do
    requireRevision record request.expectedRevision
    rejectIf (¬record.phase.isRunnable ∨ record.currentContinuationId ≠ request.continuationId ∨
        checkpoint.logicalTurnId ≠ record.logicalTurnId)
      ⟨.actionRejected, "logical turn is not claimable at the requested continuation"⟩
    let claimed := claimedRecord record request
    let s ← s.updateTurn claimed record.revision
    let s := s.deleteTicket claimed.logicalTurnId
    let s ← s.insertOutbox (lifecycleForRecord claimed checkpoint.progress .continuationClaimed
      "continuation_claimed" "logical turn continuation claimed for an execution epoch"
      request.now)
    .ok (s, ⟨claimed, checkpoint, record.claimGeneration.getD 0 + 1, false⟩)

def yieldLogicalTurn (request : LogicalTurnYieldRequest) :
    CoreResult (Store × LogicalTurnYieldReceipt) := do
  let record ← orFail (s.loadTurn request.logicalTurnId) logicalTurnNotFound
  match s.loadCheckpoint request.checkpoint.continuationId with
  | some existing =>
    if existing = request.checkpoint ∧ record.currentContinuationId = existing.continuationId then
      .ok (s, ⟨record, existing, true⟩)
    else
      .error ⟨.actionRejected,
        "logical turn continuation id already has different checkpoint content"⟩
  | none => do
    requireRunningFence record request.expectedRevision request.expectedEpochId
      request.expectedClaimGeneration request.expectedCancellationGeneration
    validateYield record request
    let yielded := yieldedRecord record request
    let s ← s.updateTurn yielded record.revision
    let s ← s.insertCheckpoint request.checkpoint
    let s ← s.insertOutbox request.lifecycleEvent
    let s := s.upsertTicket (continuationTicket yielded request.checkpoint.yieldReason request.now)
    .ok (s, ⟨yielded, request.checkpoint, false⟩)

def requireLogicalTurnAttention (request : LogicalTurnAttentionRequest) :
    CoreResult (Store × LogicalTurnAttentionReceipt) := do
  let record ← orFail (s.loadTurn request.logicalTurnId) logicalTurnNotFound
  match s.loadCheckpoint request.checkpoint.continuationId with
  | some existing =>
    if existing = request.checkpoint ∧ record.currentContinuationId = existing.continuationId ∧
        record.phase = .attentionRequired ∧ record.attention = some request.attention then
      .ok (s, ⟨record, existing, true⟩)
    else
      .error ⟨.actionRejected,
        "logical turn attention continuation id already has different content"⟩
  | none => do
    requireRunningFence record request.expectedRevision request.expectedEpochId
      request.expectedClaimGeneration request.expectedCancellationGeneration
    validateAttention record request
    let attending := attentionRecord record request
    let s ← s.updateTurn attending record.revision
    let s ← s.insertCheckpoint request.checkpoint
    let s ← s.insertOutbox request.lifecycleEvent
    let s := s.deleteTicket attending.logicalTurnId
    .ok (s, ⟨attending, request.checkpoint, false⟩)

def resolveLogicalTurnAttention (request : LogicalTurnAttentionResolutionRequest) :
    CoreResult (Store × LogicalTurnAttentionResolutionReceipt) := do
  let record ← orFail (s.loadTurn request.logicalTurnId) logicalTurnNotFound
  validateAttentionResolution record request
  let checkpoint ← orFail (s.loadCheckpoint record.currentContinuationId)
    ⟨.persistenceFailure, "attention-required logical turn has no current checkpoint"⟩
  let s ← s.reconcileUnknownHostToolOperation record request
  let resolved := resolvedRecord record request.now
  let s ← s.updateTurn resolved record.revision
  let s ← s.insertOutbox request.lifecycleEvent
  let s := s.upsertTicket (continuationTicket resolved .operatorRequested request.now)
  .ok (s, ⟨resolved, checkpoint, request.action, false⟩)

def updateCheckpoint (checkpoint : LogicalTurnCheckpoint) : Store :=
  { s with checkpoints := s.checkpoints.put checkpoint }

def completeLogicalTurn (request : LogicalTurnCompletionRequest) :
    CoreResult (Store × LogicalTurnRecord) := do
  let record ← orFail (s.loadTurn request.logicalTurnId) logicalTurnNotFound
  if record.phase.isTerminal then .ok (s, record)
  else do
    requireRunningFence record request.expectedRevision request.expectedEpochId
      request.expectedClaimGeneration request.expectedCancellationGeneration
    validateCompletion record request
    let checkpoint ← orFail (s.loadCheckpoint record.currentContinuationId)
      ⟨.internalError, "logical turn completion checkpoint is missing"⟩
    let s := s.updateCheckpoint { checkpoint with progress := request.lifecycleEvent.progress }
    let completed := completedRecord record request
    let s ← s.updateTurn completed record.revision
    let s ← s.insertOutbox request.lifecycleEvent
    let s := s.deleteTicket completed.logicalTurnId
    .ok (s, completed)

def insertCancelReceipt (request : LogicalTurnCancelRequest)
    (receipt : LogicalTurnCancellationReceipt) : CoreResult Store :=
  if (s.cancelReceipts.find? (request.logicalTurnId, request.idempotencyKey)).isSome then
    .error (persistenceError "save logical turn cancellation receipt"
      ("UNIQUE constraint failed: logical_brain_turn_cancel_receipts.logical_turn_id, " ++
        "logical_brain_turn_cancel_receipts.idempotency_key"))
  else .ok { s with cancelReceipts := s.cancelReceipts.put (cancelReceiptRow request receipt) }

def cancelActiveTurn (record : LogicalTurnRecord)
    (request : LogicalTurnCancelRequest) : CoreResult (Store × LogicalTurnRecord) := do
  requireRevision record request.expectedRevision
  let progress ← s.currentProgress record
  let s ← s.insertOutbox (lifecycleForRecord (cancellingRecord record request.now) progress
    .cancelRequested "operator_cancel_requested" "logical turn cancellation requested" request.now)
  let cancelled := cancelledRecord record request.now
  let s ← s.updateTurn cancelled record.revision
  let s ← s.insertOutbox (lifecycleForRecord cancelled progress .cancelled request.reasonCode
    request.summary request.now)
  .ok (s.deleteTicket cancelled.logicalTurnId, cancelled)

def cancelLogicalTurn (request : LogicalTurnCancelRequest) :
    CoreResult (Store × LogicalTurnCancellationReceipt) :=
  match s.cancelReceipts.find? (request.logicalTurnId, request.idempotencyKey) with
  | some row => .ok (s, { row.receipt with replayed := true })
  | none => do
    let record ← orFail (s.loadTurn request.logicalTurnId) logicalTurnNotFound
    let alreadyTerminal := record.phase.isTerminal
    let (s, record) ←
      if alreadyTerminal then .ok (s, record) else s.cancelActiveTurn record request
    let receipt := ⟨record, false, alreadyTerminal⟩
    let s ← s.insertCancelReceipt request receipt
    .ok (s, receipt)

def listLogicalTurnTickets : List LogicalTurnContinuationTicket :=
  s.tickets.rows.insertionSort fun a b =>
    a.createdAt < b.createdAt ∨
      a.createdAt = b.createdAt ∧ a.logicalTurnId.raw ≤ b.logicalTurnId.raw

def listPendingLogicalTurnOutbox : List LogicalTurnOutboxRecord :=
  (s.outbox.select fun row => row.deliveredAt.isNone).insertionSort fun a b =>
    a.event.occurredAt < b.event.occurredAt ∨
      a.event.occurredAt = b.event.occurredAt ∧ a.projectionId.raw ≤ b.projectionId.raw

def markLogicalTurnOutboxDelivered (projectionId : TurnProjectionId)
    (deliveredAt : IsoTimestamp) : Store :=
  match s.outbox.find? projectionId with
  | some ⟨event, none⟩ => { s with outbox := s.outbox.put ⟨event, some deliveredAt⟩ }
  | _ => s

end Store

end RustyCrew.Persistence

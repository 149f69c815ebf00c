import RustyCrew.Proof.Persistence.Validation
import RustyCrew.Proof.Persistence.Views

namespace RustyCrew.Proof.Persistence

open Library Protocol RustyCrew.Persistence RustyCrew.Lifecycle Store

variable {request : LogicalTurnCancelRequest}

/-! ## What an accepted call did

Each lemma splits an accepted call into its replay, which leaves the store alone, and the writes it
made. -/

variable {s s' : Store}

theorem insertLogicalTurnAdmission_ok
    (accepted : s.insertLogicalTurnAdmission write = .ok (s', admission)) :
    validateAdmission write = .ok () ∧ admission = write.admission ∧ ∃ blobs s₁ s₂ s₃,
        Store.insertTurn { s with blobs := blobs } write.admission.record = .ok s₁ ∧
        s₁.insertCheckpoint write.admission.initialCheckpoint = .ok s₂ ∧
        s₂.insertOutbox write.admission.lifecycleEvent = .ok s₃ ∧
        s' = s₃.upsertTicket (continuationTicket write.admission.record .initialAdmission
          write.admission.record.admittedAt) := by
  simp only [insertLogicalTurnAdmission, bind_eq_ok, Except.ok.injEq, Prod.mk.injEq] at accepted
  obtain ⟨_, valid, s₀, frozen, s₁, turn, s₂, checkpoint, s₃, event, rfl, rfl⟩ := accepted
  obtain ⟨blobs, rfl⟩ := insertContentBlobs_ok frozen
  exact ⟨valid, rfl, blobs, s₁, s₂, s₃, turn, checkpoint, event, rfl⟩

theorem claimLogicalTurn_ok {request : LogicalTurnClaimRequest}
    {claim : LogicalTurnContinuationClaim}
    (accepted : s.claimLogicalTurn request = .ok (s', claim)) :
    ∃ record checkpoint, s.loadTurn request.logicalTurnId = some record ∧
      s.loadCheckpoint request.continuationId = some checkpoint ∧
      ((record.phase = .running ∧ record.activeEpochId = some request.executionEpochId ∧
          record.claimHolder = some request.claimHolder ∧ s' = s ∧
          claim = ⟨record, checkpoint, record.claimGeneration.getD 0, true⟩) ∨
        (record.revision = request.expectedRevision ∧ record.phase.isRunnable = true ∧
          record.currentContinuationId = request.continuationId ∧
          checkpoint.logicalTurnId = record.logicalTurnId ∧
          claim = ⟨claimedRecord record request, checkpoint,
            record.claimGeneration.getD 0 + 1, false⟩ ∧
          insertOutbox (deleteTicket
            { s with turns := s.turns.put (claimedRecord record request) } record.logicalTurnId)
            (lifecycleForRecord (claimedRecord record request) checkpoint.progress
              .continuationClaimed "continuation_claimed"
              "logical turn continuation claimed for an execution epoch" request.now) =
              .ok s')) := by
  simp only [claimLogicalTurn, bind_eq_ok, orFail_eq_ok] at accepted
  obtain ⟨record, stored, checkpoint, loaded, accepted⟩ := accepted
  refine ⟨record, checkpoint, stored, loaded, ?_⟩
  split at accepted
  · next replay =>
    simp only [Except.ok.injEq, Prod.mk.injEq] at accepted
    exact .inl ⟨replay.1, replay.2.1, replay.2.2, accepted.1.symm, accepted.2.symm⟩
  · simp only [bind_eq_ok, rejectIf_eq_ok, requireRevision_ok, not_or, ne_eq, not_not,
      Except.ok.injEq, Prod.mk.injEq] at accepted
    obtain ⟨_, revision, _, ⟨runnable, current, turn⟩, s₁, updated, s₂, recorded, rfl, rfl⟩ :=
      accepted
    obtain rfl := updateTurn_ok updated
    exact .inr ⟨revision, runnable, current, turn, rfl, recorded⟩

theorem yieldLogicalTurn_ok {request : LogicalTurnYieldRequest} {receipt : LogicalTurnYieldReceipt}
    (accepted : s.yieldLogicalTurn request = .ok (s', receipt)) :
    ∃ record, s.loadTurn request.logicalTurnId = some record ∧
      ((s.loadCheckpoint request.checkpoint.continuationId = some request.checkpoint ∧
          record.currentContinuationId = request.checkpoint.continuationId ∧ s' = s ∧
          receipt = ⟨record, request.checkpoint, true⟩) ∨
        (requireRunningFence record request.expectedRevision request.expectedEpochId
            request.expectedClaimGeneration request.expectedCancellationGeneration = .ok () ∧
          validateYield record request = .ok () ∧
          receipt = ⟨yieldedRecord record request, request.checkpoint, false⟩ ∧
          ∃ s₁ s₂, insertCheckpoint
              { s with turns := s.turns.put (yieldedRecord record request) } request.checkpoint =
                .ok s₁ ∧
            s₁.insertOutbox request.lifecycleEvent = .ok s₂ ∧
            s' = s₂.upsertTicket (continuationTicket (yieldedRecord record request)
              request.checkpoint.yieldReason request.now))) := by
  simp only [yieldLogicalTurn, bind_eq_ok, orFail_eq_ok] at accepted
  obtain ⟨record, stored, accepted⟩ := accepted
  refine ⟨record, stored, ?_⟩
  split at accepted
  · next existing loaded =>
    split at accepted
    · next replay =>
      obtain ⟨rfl, current⟩ := replay
      simp only [Except.ok.injEq, Prod.mk.injEq] at accepted
      exact .inl ⟨loaded, current, accepted.1.symm, accepted.2.symm⟩
    · cases accepted
  · simp only [bind_eq_ok, Except.ok.injEq, Prod.mk.injEq] at accepted
    obtain ⟨_, fence, _, valid, s₀, updated, s₁, checkpoint, s₂, event, rfl, rfl⟩ := accepted
    obtain rfl := updateTurn_ok updated
    exact .inr ⟨fence, valid, rfl, s₁, s₂, checkpoint, event, rfl⟩

theorem requireLogicalTurnAttention_ok {request : LogicalTurnAttentionRequest}
    {receipt : LogicalTurnAttentionReceipt}
    (accepted : s.requireLogicalTurnAttention request = .ok (s', receipt)) :
    ∃ record, s.loadTurn request.logicalTurnId = some record ∧
      ((record.phase = .attentionRequired ∧ s' = s ∧ receipt = ⟨record, request.checkpoint, true⟩) ∨
        (requireRunningFence record request.expectedRevision request.expectedEpochId
            request.expectedClaimGeneration request.expectedCancellationGeneration = .ok () ∧
          validateAttention record request = .ok () ∧
          receipt = ⟨attentionRecord record request, request.checkpoint, false⟩ ∧
          ∃ s₁ s₂, insertCheckpoint
              { s with turns := s.turns.put (attentionRecord record request) } request.checkpoint =
                .ok s₁ ∧
            s₁.insertOutbox request.lifecycleEvent = .ok s₂ ∧
            s' = s₂.deleteTicket record.logicalTurnId)) := by
  simp only [requireLogicalTurnAttention, bind_eq_ok, orFail_eq_ok] at accepted
  obtain ⟨record, stored, accepted⟩ := accepted
  refine ⟨record, stored, ?_⟩
  split at accepted
  · next existing loaded =>
    split at accepted
    · next replay =>
      obtain ⟨rfl, -, phase, -⟩ := replay
      simp only [Except.ok.injEq, Prod.mk.injEq] at accepted
      exact .inl ⟨phase, accepted.1.symm, accepted.2.symm⟩
    · cases accepted
  · simp only [bind_eq_ok, Except.ok.injEq, Prod.mk.injEq] at accepted
    obtain ⟨_, fence, _, valid, s₀, updated, s₁, checkpoint, s₂, event, rfl, rfl⟩ := accepted
    obtain rfl := updateTurn_ok updated
    exact .inr ⟨fence, valid, rfl, s₁, s₂, checkpoint, event, rfl⟩

theorem resolveLogicalTurnAttention_ok {request : LogicalTurnAttentionResolutionRequest}
    {receipt : LogicalTurnAttentionResolutionReceipt}
    (accepted : s.resolveLogicalTurnAttention request = .ok (s', receipt)) :
    ∃ record s₁ s₂, s.loadTurn request.logicalTurnId = some record ∧
      validateAttentionResolution record request = .ok () ∧
      s.reconcileUnknownHostToolOperation record request = .ok s₁ ∧
      insertOutbox { s₁ with turns := s₁.turns.put (resolvedRecord record request.now) }
        request.lifecycleEvent = .ok s₂ ∧
      s' = s₂.upsertTicket (continuationTicket (resolvedRecord record request.now)
        .operatorRequested request.now) := by
  simp only [resolveLogicalTurnAttention, bind_eq_ok, orFail_eq_ok, Except.ok.injEq,
    Prod.mk.injEq] at accepted
  obtain ⟨record, stored, _, valid, checkpoint, -, s₁, reconciled, s₀, updated, s₂, event, rfl,
    -⟩ := accepted
  obtain rfl := updateTurn_ok updated
  exact ⟨record, s₁, s₂, stored, valid, reconciled, event, rfl⟩

theorem completeLogicalTurn_ok {request : LogicalTurnCompletionRequest}
    {record' : LogicalTurnRecord}
    (accepted : s.completeLogicalTurn request = .ok (s', record')) :
    ∃ record, s.loadTurn request.logicalTurnId = some record ∧
      ((record.phase.isTerminal = true ∧ s' = s ∧ record' = record) ∨
        (requireRunningFence record request.expectedRevision request.expectedEpochId
            request.expectedClaimGeneration request.expectedCancellationGeneration = .ok () ∧
          validateCompletion record request = .ok () ∧ record' = completedRecord record request ∧
          ∃ checkpoint s₁, s.loadCheckpoint record.currentContinuationId = some checkpoint ∧
            insertOutbox { s.updateCheckpoint
                  { checkpoint with progress := request.lifecycleEvent.progress } with
                turns := s.turns.put (completedRecord record request) }
              request.lifecycleEvent = .ok s₁ ∧
            s' = s₁.deleteTicket record.logicalTurnId)) := by
  simp only [completeLogicalTurn, bind_eq_ok, orFail_eq_ok] at accepted
  obtain ⟨record, stored, accepted⟩ := accepted
  refine ⟨record, stored, ?_⟩
  split at accepted
  · next terminal =>
    simp only [Except.ok.injEq, Prod.mk.injEq] at accepted
    exact .inl ⟨terminal, accepted.1.symm, accepted.2.symm⟩
  · simp only [bind_eq_ok, orFail_eq_ok, Except.ok.injEq, Prod.mk.injEq] at accepted
    obtain ⟨_, fence, _, valid, checkpoint, loaded, s₀, updated, s₁, event, rfl, rfl⟩ := accepted
    obtain rfl := updateTurn_ok updated
    exact .inr ⟨fence, valid, rfl, checkpoint, s₁, loaded, event, rfl⟩

theorem cancelActiveTurn_ok (accepted : s.cancelActiveTurn record request = .ok (s', cancelled)) :
    record.revision = request.expectedRevision ∧ cancelled = cancelledRecord record request.now ∧
      ∃ progress s₁ s₂, s.insertOutbox (lifecycleForRecord (cancellingRecord record request.now)
          progress .cancelRequested "operator_cancel_requested"
          "logical turn cancellation requested" request.now) = .ok s₁ ∧
        insertOutbox { s₁ with turns := s₁.turns.put (cancelledRecord record request.now) }
          (lifecycleForRecord (cancelledRecord record request.now) progress .cancelled
            request.reasonCode request.summary request.now) = .ok s₂ ∧
        s' = s₂.deleteTicket record.logicalTurnId := by
  simp only [cancelActiveTurn, bind_eq_ok, requireRevision_ok, Except.ok.injEq,
    Prod.mk.injEq] at accepted
  obtain ⟨_, revision, progress, -, s₁, requested, s₀, updated, s₂, cancelled, rfl, rfl⟩ := accepted
  obtain rfl := updateTurn_ok updated
  exact ⟨revision, rfl, progress, s₁, s₂, requested, cancelled, rfl⟩

theorem insertCancelReceipt_ok (inserted : s.insertCancelReceipt request receipt = .ok s') :
    s.cancelReceipts.find? (request.logicalTurnId, request.idempotencyKey) = none ∧
      s' = { s with
        cancelReceipts := s.cancelReceipts.put (cancelReceiptRow request receipt) } := by
  unfold insertCancelReceipt at inserted
  split at inserted
  · cases inserted
  · next absent =>
    refine ⟨by simpa using absent, ?_⟩
    simpa using inserted.symm

theorem cancelLogicalTurn_ok (accepted : s.cancelLogicalTurn request = .ok (s', receipt)) :
    (∃ row, s.cancelReceipts.find? (request.logicalTurnId, request.idempotencyKey) = some row ∧
        s' = s ∧ receipt = { row.receipt with replayed := true }) ∨
      ∃ record, s.cancelReceipts.find? (request.logicalTurnId, request.idempotencyKey) = none ∧
        s.loadTurn request.logicalTurnId = some record ∧
        ((record.phase.isTerminal = true ∧ receipt = ⟨record, false, true⟩ ∧
            s.insertCancelReceipt request receipt = .ok s') ∨
          (record.phase.isTerminal = false ∧
            receipt = ⟨cancelledRecord record request.now, false, false⟩ ∧
            ∃ s₁, s.cancelActiveTurn record request = .ok (s₁, cancelledRecord record request.now) ∧
              s₁.insertCancelReceipt request receipt = .ok s')) := by
  unfold cancelLogicalTurn at accepted
  split at accepted
  · next row found =>
    simp only [Except.ok.injEq, Prod.mk.injEq] at accepted
    exact .inl ⟨row, found, accepted.1.symm, accepted.2.symm⟩
  · next absent =>
    simp only [bind_eq_ok, orFail_eq_ok] at accepted
    obtain ⟨record, stored, accepted⟩ := accepted
    refine .inr ⟨record, absent, stored, ?_⟩
    split at accepted
    · next terminal =>
      simp only [ok_bind, bind_eq_ok, Except.ok.injEq, Prod.mk.injEq, terminal] at accepted
      obtain ⟨s₂, inserted, rfl, rfl⟩ := accepted
      exact .inl ⟨terminal, rfl, inserted⟩
    · next active =>
      simp only [bind_eq_ok, Except.ok.injEq, Prod.mk.injEq, Prod.exists] at accepted
      obtain ⟨s₁, cancelled, cancels, s₂, inserted, rfl, rfl⟩ := accepted
      obtain ⟨-, rfl, -⟩ := cancelActiveTurn_ok cancels
      simp only [Bool.not_eq_true] at active
      refine .inr ⟨active, by rw [active], s₁, cancels, inserted⟩

theorem leaseLogicalTurnOperation_ok {request : LogicalTurnOperationLeaseRequest}
    (accepted : s.leaseLogicalTurnOperation request = .ok (s', operation)) :
    ∃ turn, s.loadTurn request.operation.logicalTurnId = some turn ∧
      requireRunningFence turn request.expectedTurnRevision request.operation.executionEpochId
        request.expectedClaimGeneration request.expectedCancellationGeneration = .ok () ∧
      request.operation.phase = .leased ∧ request.operation.revision = 1 ∧
      (s' = s ∧ s.loadOperation request.operation.operationId = some request.operation ∨
        s.insertOperation request.operation = .ok s') := by
  simp only [leaseLogicalTurnOperation, bind_eq_ok, orFail_eq_ok, rejectIf_eq_ok, not_or,
    ne_eq, not_not] at accepted
  obtain ⟨turn, stored, _, fence, _, ⟨leased, first, -⟩, accepted⟩ := accepted
  split at accepted
  · next existing loaded =>
    split at accepted
    · next same =>
      cases accepted
      exact ⟨turn, stored, fence, leased, first, .inl ⟨rfl, same ▸ loaded⟩⟩
    · cases accepted
  · simp only [bind_eq_ok, Except.ok.injEq, Prod.mk.injEq] at accepted
    obtain ⟨s₁, inserted, rfl, rfl⟩ := accepted
    exact ⟨turn, stored, fence, leased, first, .inr inserted⟩

theorem completeLogicalTurnOperation_ok {request : LogicalTurnOperationCompletionRequest}
    (accepted : s.completeLogicalTurnOperation request = .ok (s', operation)) :
    ∃ turn existing, s.loadTurn request.operation.logicalTurnId = some turn ∧
      completedOperation turn request = .ok operation ∧
      operation.revision = request.expectedOperationRevision + 1 ∧
      s.loadOperation operation.operationId = some existing ∧
      existing.revision = request.expectedOperationRevision ∧
      existing.logicalTurnId = operation.logicalTurnId ∧
      existing.continuationId = operation.continuationId ∧
      existing.executionEpochId = operation.executionEpochId ∧
      existing.requestFingerprint = operation.requestFingerprint ∧
      s.updateOperation operation request.expectedOperationRevision = .ok s' := by
  simp only [completeLogicalTurnOperation, bind_eq_ok, orFail_eq_ok, rejectIf_eq_ok, not_or,
    ne_eq, not_not, Except.ok.injEq, Prod.mk.injEq, Option.isNone_iff_eq_none,
    ← Option.isSome_iff_ne_none] at accepted
  obtain ⟨turn, stored, completed, phase, _, ⟨next, -⟩, existing, loaded, _,
    ⟨revision, owner, continuation, epoch, fingerprint⟩, s₁, updated, rfl, rfl⟩ := accepted
  exact ⟨turn, existing, stored, phase, next, loaded, revision, owner, continuation, epoch,
    fingerprint, updated⟩

end RustyCrew.Proof.Persistence

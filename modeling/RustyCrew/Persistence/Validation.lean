import RustyCrew.Persistence.Store

namespace RustyCrew.Persistence

open Library Protocol

structure LogicalTurnAdmissionWrite where
  admission : LogicalTurnAdmission
  frozenContent : List LogicalTurnContentWrite
  deriving DecidableEq

structure LogicalTurnCompletionRequest where
  logicalTurnId : LogicalTurnId
  expectedRevision : Nat
  expectedEpochId : ExecutionEpochId
  (expectedClaimGeneration expectedCancellationGeneration : Nat)
  lifecycleEvent : LogicalTurnLifecycleEvent
  now : IsoTimestamp
  deriving DecidableEq, Repr

variable (record : LogicalTurnRecord)

def validateLifecycleIdentity (event : LogicalTurnLifecycleEvent) : CoreResult Unit :=
  rejectIf (event.logicalTurnId ≠ record.logicalTurnId ∨ event.sessionId ≠ record.sessionId ∨
      event.wakeId ≠ record.sourceWakeId)
    ⟨.invalidInput, "logical turn lifecycle event identity does not match the turn"⟩

def requireRevision (expected : Nat) : CoreResult Unit :=
  rejectIf (record.revision ≠ expected)
    ⟨.actionRejected, "logical turn " ++ record.logicalTurnId.raw ++
      " revision mismatch: expected " ++ toString expected ++ ", found " ++
      toString record.revision⟩

def requireRunningFence (expectedRevision : Nat) (expectedEpochId : ExecutionEpochId)
    (expectedClaimGeneration expectedCancellationGeneration : Nat) : CoreResult Unit := do
  requireRevision record expectedRevision
  rejectIf (record.phase ≠ .running ∨ record.activeEpochId ≠ some expectedEpochId ∨
      record.claimGeneration ≠ some expectedClaimGeneration ∨
      record.cancellationGeneration ≠ expectedCancellationGeneration)
    ⟨.actionRejected, "logical turn execution fence no longer matches the active claim"⟩

def validateAdmission (write : LogicalTurnAdmissionWrite) : CoreResult Unit := do
  let admission := write.admission
  let record := admission.record
  let checkpoint := admission.initialCheckpoint
  let event := admission.lifecycleEvent
  rejectIf (record.phase ≠ .admitted ∨ record.logicalTurnId ≠ checkpoint.logicalTurnId ∨
      record.currentContinuationId ≠ checkpoint.continuationId ∨ checkpoint.sequence ≠ 0 ∨
      checkpoint.parentContinuationId.isSome ∨ event.kind ≠ .admitted)
    ⟨.invalidInput, "logical turn admission contract is internally inconsistent"⟩
  validateLifecycleIdentity record event
  rejectIf (event.continuationId ≠ record.currentContinuationId ∨
      event.logicalTurnRevision ≠ record.revision ∨ event.phase ≠ record.phase)
    ⟨.invalidInput, "logical turn admission lifecycle does not describe the admitted revision"⟩
  let requiredRefs := [checkpoint.frozenInput.bodyStateRef, checkpoint.frozenInput.systemPromptRef,
    checkpoint.frozenInput.roleAssemblyRef]
  rejectIf (requiredRefs.any fun required =>
      !write.frozenContent.any fun content => content.contentRef = required)
    ⟨.invalidInput, "logical turn admission is missing frozen input content"⟩

def validateYield (request : LogicalTurnYieldRequest) : CoreResult Unit := do
  let checkpoint := request.checkpoint
  let event := request.lifecycleEvent
  rejectIf (checkpoint.logicalTurnId ≠ record.logicalTurnId ∨
      checkpoint.parentContinuationId ≠ some record.currentContinuationId ∨
      checkpoint.completedEpochId ≠ some request.expectedEpochId ∨
      checkpoint.sequence ≠ record.continuationSequence + 1 ∨
      checkpoint.bindingGeneration ≠ record.bindingGeneration ∨
      event.kind ≠ .continuationYielded ∨ event.phase ≠ .yielded ∨
      event.continuationId ≠ checkpoint.continuationId ∨
      event.executionEpochId ≠ some request.expectedEpochId ∨
      event.logicalTurnRevision ≠ record.revision + 1)
    ⟨.invalidInput, "logical turn yield contract is internally inconsistent"⟩
  validateLifecycleIdentity record event

def validateAttention (request : LogicalTurnAttentionRequest) : CoreResult Unit := do
  let checkpoint := request.checkpoint
  let event := request.lifecycleEvent
  rejectIf (checkpoint.logicalTurnId ≠ record.logicalTurnId ∨
      checkpoint.parentContinuationId ≠ some record.currentContinuationId ∨
      checkpoint.completedEpochId ≠ some request.expectedEpochId ∨
      checkpoint.sequence ≠ record.continuationSequence + 1 ∨
      checkpoint.bindingGeneration ≠ record.bindingGeneration ∨
      event.kind ≠ .attentionRequired ∨ event.phase ≠ .attentionRequired ∨
      event.continuationId ≠ checkpoint.continuationId ∨
      event.executionEpochId ≠ some request.expectedEpochId ∨
      event.logicalTurnRevision ≠ record.revision + 1 ∨
      request.attention.reasonCode ≠ event.reasonCode ∨
      request.attention.summary ≠ event.summary)
    ⟨.invalidInput, "logical turn attention contract is internally inconsistent"⟩
  validateLifecycleIdentity record event

def isToolConfirmation : LogicalTurnResolutionAction → Bool
  | .confirmToolCompleted | .confirmToolNotCompleted => true
  | _ => false

/-- The actions that resume a turn; the other two have their own entry points. -/
def resumesTurn : LogicalTurnResolutionAction → Bool
  | .retryUnchanged | .retryProviderOperation | .confirmToolCompleted
  | .confirmToolNotCompleted => true
  | .rebind | .cancel => false

def validateAttentionResolution
    (request : LogicalTurnAttentionResolutionRequest) : CoreResult Unit := do
  let event := request.lifecycleEvent
  requireRevision record request.expectedRevision
  let attention ← orFail record.attention
    ⟨.actionRejected, "logical turn does not require operator attention"⟩
  rejectIf (record.phase ≠ .attentionRequired ∨ request.action ∉ attention.resolutionActions ∨
      ¬resumesTurn request.action ∨
      (request.action = .retryUnchanged ∧ ¬attention.retryUnchangedSafe) ∨
      event.kind ≠ .continuationResumed ∨ event.phase ≠ .runnable ∨
      event.continuationId ≠ record.currentContinuationId ∨ event.executionEpochId.isSome ∨
      event.logicalTurnRevision ≠ record.revision + 1)
    ⟨.actionRejected, "logical turn attention resolution is not valid for the current state"⟩
  rejectIf (isToolConfirmation request.action ∧ attention.reason ≠ .toolOutcomeUnknown)
    ⟨.actionRejected, "tool outcome confirmation requires tool-outcome-unknown attention"⟩
  validateLifecycleIdentity record event

def validateCompletion (request : LogicalTurnCompletionRequest) : CoreResult Unit := do
  let event := request.lifecycleEvent
  rejectIf ((event.kind ≠ .completed ∧ event.kind ≠ .failed) ∨
      (event.phase ≠ .completed ∧ event.phase ≠ .failed))
    ⟨.invalidInput, "logical turn completion requires completed or failed lifecycle event"⟩
  validateLifecycleIdentity record event
  rejectIf (event.continuationId ≠ record.currentContinuationId ∨
      event.executionEpochId ≠ some request.expectedEpochId ∨
      event.logicalTurnRevision ≠ record.revision + 1)
    ⟨.invalidInput,
      "logical turn completion lifecycle does not describe the active execution fence"⟩

end RustyCrew.Persistence

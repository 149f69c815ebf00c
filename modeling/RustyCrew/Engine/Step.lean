import RustyCrew.Engine.Wake

namespace RustyCrew.Engine

open Library Protocol RustyCrew.Persistence Effect

structure BrainWakeAttention where
  reason : LogicalTurnAttentionReason
  (reasonCode summary : String)
  evidenceRefs : List String
  resolutionActions : List LogicalTurnResolutionAction
  retryUnchangedSafe : Bool
  consecutiveNoProgressSamples : Nat
  deriving DecidableEq, Repr

inductive LogicalTurnEpochResult where
  | completed
  | yielded (moduleState : BrainContinuationPayload)
  | attentionRequired (moduleState : BrainContinuationPayload) (attention : BrainWakeAttention)
  | failed (reasonCode summary : String)
  deriving DecidableEq

inductive BrainWakeOutcome where
  | completed
  | continuing
  deriving DecidableEq, Repr

structure LogicalTurnEpochSettlement where
  outcome : BrainWakeOutcome
  phase : LogicalTurnPhase
  deriving DecidableEq, Repr

structure EpochEnd where
  claim : LogicalTurnContinuationClaim
  epochId : ExecutionEpochId
  snapshot : Option BrainWakeProgressSnapshot
  now : IsoTimestamp

namespace EpochEnd

variable (epoch : EpochEnd)

def progress : LogicalTurnProgress :=
  logicalTurnProgress epoch.claim.checkpoint.progress epoch.snapshot epoch.now

def nextCheckpoint (continuationId : ContinuationId)
    (moduleState : BrainContinuationPayload) (progress : LogicalTurnProgress)
    (yieldReason : ContinuationYieldReason) : LogicalTurnCheckpoint where
  continuationId := continuationId
  logicalTurnId := epoch.claim.record.logicalTurnId
  sequence := epoch.claim.record.continuationSequence + 1
  parentContinuationId := some epoch.claim.record.currentContinuationId
  completedEpochId := some epoch.epochId
  bindingGeneration := epoch.claim.record.bindingGeneration
  frozenInput := epoch.claim.checkpoint.frozenInput
  moduleState := moduleState
  operationCursor := epoch.claim.checkpoint.operationCursor
  projectionCursor := epoch.claim.checkpoint.projectionCursor + 1
  progress := progress
  yieldReason := yieldReason
  createdAt := epoch.now

def nextContinuationId (moduleState : BrainContinuationPayload)
    (suffix : String) : ContinuationId :=
  ⟨"continuation:" ++ sha256Text (epoch.claim.record.logicalTurnId.raw ++ "|" ++
    epoch.claim.record.currentContinuationId.raw ++ "|" ++
    toString (epoch.claim.record.continuationSequence + 1) ++ "|" ++
    moduleState.payloadFingerprint ++ suffix)⟩

def yieldRequest (moduleState : BrainContinuationPayload) : LogicalTurnYieldRequest :=
  let continuationId := epoch.nextContinuationId moduleState ""
  let progress :=
    { epoch.progress with
      semanticRevision := epoch.progress.semanticRevision + 1
      stateFingerprint := moduleState.payloadFingerprint
      lastSemanticProgressAt := epoch.now
      consecutiveNoProgressSamples := 0 }
  { logicalTurnId := epoch.claim.record.logicalTurnId
    expectedRevision := epoch.claim.record.revision
    expectedEpochId := epoch.epochId
    expectedClaimGeneration := epoch.claim.claimGeneration
    expectedCancellationGeneration := epoch.claim.record.cancellationGeneration
    checkpoint :=
      epoch.nextCheckpoint continuationId moduleState progress .workQuantumReached
    lifecycleEvent := lifecycleEvent epoch.claim.record
      { continuationId := continuationId
        executionEpochId := some epoch.epochId
        kind := .continuationYielded
        phase := .yielded
        progress := progress
        reasonCode := "work_quantum_reached"
        summary := "logical turn reached its scheduling quantum and will continue"
        occurredAt := epoch.now }
    now := epoch.now }

def attentionRequest (moduleState : BrainContinuationPayload)
    (attention : BrainWakeAttention) : LogicalTurnAttentionRequest :=
  let continuationId := epoch.nextContinuationId moduleState "|attention"
  let progress :=
    { epoch.progress with
      stateFingerprint := moduleState.payloadFingerprint
      consecutiveNoProgressSamples := attention.consecutiveNoProgressSamples }
  { logicalTurnId := epoch.claim.record.logicalTurnId
    expectedRevision := epoch.claim.record.revision
    expectedEpochId := epoch.epochId
    expectedClaimGeneration := epoch.claim.claimGeneration
    expectedCancellationGeneration := epoch.claim.record.cancellationGeneration
    checkpoint := epoch.nextCheckpoint continuationId moduleState progress .operatorRequested
    attention :=
      { reason := attention.reason
        reasonCode := attention.reasonCode
        summary := attention.summary
        evidenceRefs := attention.evidenceRefs
        resolutionActions := attention.resolutionActions
        retryUnchangedSafe := attention.retryUnchangedSafe
        requiredAt := epoch.now }
    lifecycleEvent := lifecycleEvent epoch.claim.record
      { continuationId := continuationId
        executionEpochId := some epoch.epochId
        kind := .attentionRequired
        phase := .attentionRequired
        progress := progress
        reasonCode := attention.reasonCode
        summary := attention.summary
        occurredAt := epoch.now }
    now := epoch.now }

def completionRequest (kind : LogicalTurnLifecycleEventKind)
    (phase : LogicalTurnPhase) (reasonCode summary : String) : LogicalTurnCompletionRequest where
  logicalTurnId := epoch.claim.record.logicalTurnId
  expectedRevision := epoch.claim.record.revision
  expectedEpochId := epoch.epochId
  expectedClaimGeneration := epoch.claim.claimGeneration
  expectedCancellationGeneration := epoch.claim.record.cancellationGeneration
  lifecycleEvent := lifecycleEvent epoch.claim.record
    { continuationId := epoch.claim.record.currentContinuationId
      executionEpochId := some epoch.epochId
      kind := kind
      phase := phase
      progress := epoch.progress
      reasonCode := reasonCode
      summary := summary
      occurredAt := epoch.now }
  now := epoch.now

end EpochEnd

def resolutionRequest (record : LogicalTurnRecord) (progress : LogicalTurnProgress)
    (logicalTurnId : LogicalTurnId) (expectedRevision : Nat)
    (action : LogicalTurnResolutionAction) (now : IsoTimestamp) :
    LogicalTurnAttentionResolutionRequest where
  logicalTurnId := logicalTurnId
  expectedRevision := expectedRevision
  action := action
  lifecycleEvent := lifecycleEvent record
    { continuationId := record.currentContinuationId
      executionEpochId := none
      kind := .continuationResumed
      phase := .runnable
      progress := progress
      reasonCode := "operator_resolution_" ++ resolutionActionCode action
      summary := "operator resolved logical turn attention with " ++ resolutionActionCode action
      occurredAt := now }
  now := now

namespace CoreEngine

variable (services : Services)

def checkPayload (claim : LogicalTurnContinuationClaim) (moduleState : BrainContinuationPayload)
    (ending mismatch : String) : CoreResult Unit := do
  rejectIf (moduleState.moduleId ≠ claim.record.binding.brainModuleId)
    ⟨.actionRejected,
      "logical turn " ++ ending ++ " module does not match the bound brain module"⟩
  rejectIf (jsonFingerprint moduleState.payload ≠ moduleState.payloadFingerprint)
    ⟨.invalidInput, "logical turn " ++ mismatch ++ " payload fingerprint mismatch"⟩

def finishLogicalTurnEpoch (epoch : EpochEnd) (kind : LogicalTurnLifecycleEventKind)
    (phase : LogicalTurnPhase) (reasonCode summary : String) :
    EngineM LogicalTurnEpochSettlement := do
  let record ← completeLogicalTurn services
    (epoch.completionRequest kind phase reasonCode summary)
  pure ⟨.completed, record.phase⟩

def settleEpoch (epoch : EpochEnd) : LogicalTurnEpochResult → EngineM LogicalTurnEpochSettlement
  | .yielded moduleState => do
    lift (checkPayload epoch.claim moduleState "yield" "continuation")
    let receipt ← yieldLogicalTurn services (epoch.yieldRequest moduleState)
    pure ⟨.continuing, receipt.record.phase⟩
  | .attentionRequired moduleState attention => do
    lift (checkPayload epoch.claim moduleState "attention" "attention continuation")
    let receipt ← requireLogicalTurnAttention services
      (epoch.attentionRequest moduleState attention)
    pure ⟨.continuing, receipt.record.phase⟩
  | .completed =>
    finishLogicalTurnEpoch services epoch .completed .completed "completed"
      "logical turn completed"
  | .failed reasonCode summary =>
    finishLogicalTurnEpoch services epoch .failed .failed reasonCode summary

def settleLogicalTurnEpochWithProgress (claim : LogicalTurnContinuationClaim)
    (result : LogicalTurnEpochResult) (snapshot : Option BrainWakeProgressSnapshot) :
    EngineM LogicalTurnEpochSettlement := do
  let settledAt ← now services
  let epochId ← lift (orFail claim.record.activeEpochId
    ⟨.actionRejected, "logical turn claim has no active execution epoch"⟩)
  settleEpoch services ⟨claim, epochId, snapshot, settledAt⟩ result

def resolveLogicalTurnAttentionForOperator (logicalTurnId : LogicalTurnId)
    (expectedRevision : Nat) (action : LogicalTurnResolutionAction) :
    EngineM LogicalTurnAttentionResolutionReceipt := do
  lift (rejectIf (action = .cancel)
    ⟨.invalidInput, "cancel attention through the logical-turn cancel operation"⟩)
  let stored ← loadStore services fun s => s.loadTurn logicalTurnId
  let record ← lift (orFail stored logicalTurnNotFound)
  let current ← loadStore services fun s => s.loadCheckpoint record.currentContinuationId
  let checkpoint ← lift
    (orFail current ⟨.internalError, "logical turn current checkpoint is missing"⟩)
  let resolvedAt ← now services
  resolveLogicalTurnAttention services (resolutionRequest record checkpoint.progress logicalTurnId
    expectedRevision action resolvedAt)

end CoreEngine

/-- The calls on an engine that write the modelled tables, each with the services as they answer
during it. `queueMessage` stands for every other writer of the follow-up queue. -/
inductive EngineCall where
  | prepare (services : Services) (wake : Wake)
  | settle (services : Services) (claim : LogicalTurnContinuationClaim)
      (result : LogicalTurnEpochResult) (snapshot : Option BrainWakeProgressSnapshot)
  | cancel (services : Services) (request : LogicalTurnCancelRequest)
  | resolve (services : Services) (logicalTurnId : LogicalTurnId) (expectedRevision : Nat)
      (action : LogicalTurnResolutionAction)
  | startup (services : Services)
  | leaseOperation (request : LogicalTurnOperationLeaseRequest)
  | completeOperation (request : LogicalTurnOperationCompletionRequest)
  | queueMessage (record : QueuedMessageRecord)

namespace CoreEngine

def step (e : CoreEngine) : EngineCall → CoreEngine
  | .prepare services wake => (prepareLogicalTurnWake services wake e).2
  | .settle services claim result snapshot =>
    (settleLogicalTurnEpochWithProgress services claim result snapshot e).2
  | .cancel services request => (cancelLogicalTurn services request e).2
  | .resolve services logicalTurnId expectedRevision action =>
    (resolveLogicalTurnAttentionForOperator services logicalTurnId expectedRevision action e).2
  | .startup services => (hydrateLogicalTurnContinuations services e).2
  | .leaseOperation request => (onStore (fun s => s.leaseLogicalTurnOperation request) e).2
  | .completeOperation request => (onStore (fun s => s.completeLogicalTurnOperation request) e).2
  | .queueMessage record => { e with queue := e.queue.saveQueuedMessage record }

end CoreEngine

end RustyCrew.Engine

import RustyCrew.Protocol.Json

namespace RustyCrew.Protocol

inductive CoreErrorKind where
  | invalidInput
  | notFound
  | alreadyExists
  | sessionExpired
  | timeoutExpired
  | persistenceFailure
  | adapterUnavailable
  | brainUnavailable
  | actionRejected
  | internalError
  deriving DecidableEq, Repr

structure CoreError where
  kind : CoreErrorKind
  message : String
  deriving DecidableEq, Repr

abbrev CoreResult (α : Type) := Except CoreError α

/-- An RFC 3339 text; the store orders timestamps as texts. -/
abbrev IsoTimestamp := String

structure LogicalTurnId where
  raw : String
  deriving DecidableEq, Repr

structure ContinuationId where
  raw : String
  deriving DecidableEq, Repr

structure ExecutionEpochId where
  raw : String
  deriving DecidableEq, Repr

structure BrainOperationId where
  raw : String
  deriving DecidableEq, Repr

structure TurnProjectionId where
  raw : String
  deriving DecidableEq, Repr

structure SessionId where
  raw : String
  deriving DecidableEq, Repr

structure ProfileId where
  raw : String
  deriving DecidableEq, Repr

inductive LogicalTurnPhase where
  | admitted
  | runnable
  | running
  | yielded
  | attentionRequired
  | cancelRequested
  | completed
  | cancelled
  | failed
  deriving DecidableEq, Repr

namespace LogicalTurnPhase

def isTerminal : LogicalTurnPhase → Bool
  | .completed | .cancelled | .failed => true
  | _ => false

def isRunnable : LogicalTurnPhase → Bool
  | .admitted | .runnable | .yielded => true
  | _ => false

end LogicalTurnPhase

inductive ContinuationYieldReason where
  | initialAdmission
  | workQuantumReached
  | schedulerFairness
  | providerRetry
  | bufferPressure
  | restartRecovery
  | operatorRequested
  deriving DecidableEq, Repr

inductive LogicalTurnAttentionReason where
  | noProgress
  | toolOutcomeUnknown
  | providerConfigurationRequired
  | providerCredentialRequired
  | providerProtocolFailure
  | checkpointVersionUnsupported
  | rebindIncompatible
  | storageRepairRequired
  | invariantRepairRequired
  deriving DecidableEq, Repr

inductive LogicalTurnResolutionAction where
  | retryUnchanged
  | retryProviderOperation
  | confirmToolCompleted
  | confirmToolNotCompleted
  | rebind
  | cancel
  deriving DecidableEq, Repr

structure LogicalTurnBindingSnapshot where
  profileId : ProfileId
  profileRevision : Nat
  (promptFingerprint toolSelectionFingerprint toolRegistryRevision brainModuleId : String)
  (brainStrategyId modelConfigId : String)
  modelConfigRevision : Nat
  endpointId : String
  endpointRevision : Nat
  providerAlias : Option String
  providerRevision : Option Nat
  providerFingerprint : String
  credentialId : Option String
  credentialRevision : Option Nat
  deriving DecidableEq, Repr

structure LogicalTurnFrozenInput where
  (bodyStateRef bodyStateFingerprint systemPromptRef systemPromptFingerprint : String)
  (roleAssemblyRef roleAssemblyFingerprint : String)
  transcriptCursor : Nat
  attachmentRefs : List String
  deriving DecidableEq, Repr

structure LogicalTurnProgress where
  (semanticRevision committedProviderOperations committedToolOperations : Nat)
  (committedProjectionCursor assistantContentBytes acceptedActionCount : Nat)
  delegatedCompletionCount : Nat
  stateFingerprint : String
  (lastLivenessAt lastSemanticProgressAt : IsoTimestamp)
  consecutiveNoProgressSamples : Nat
  deriving DecidableEq, Repr

structure BrainContinuationPayload where
  (moduleId payloadVersion payloadFingerprint : String)
  payload : Json
  deriving DecidableEq, Repr

structure LogicalTurnCheckpoint where
  continuationId : ContinuationId
  logicalTurnId : LogicalTurnId
  sequence : Nat
  parentContinuationId : Option ContinuationId
  completedEpochId : Option ExecutionEpochId
  bindingGeneration : Nat
  frozenInput : LogicalTurnFrozenInput
  moduleState : BrainContinuationPayload
  (operationCursor projectionCursor : Nat)
  progress : LogicalTurnProgress
  yieldReason : ContinuationYieldReason
  createdAt : IsoTimestamp
  deriving DecidableEq, Repr

structure LogicalTurnAttention where
  reason : LogicalTurnAttentionReason
  (reasonCode summary : String)
  evidenceRefs : List String
  resolutionActions : List LogicalTurnResolutionAction
  retryUnchangedSafe : Bool
  requiredAt : IsoTimestamp
  deriving DecidableEq, Repr

/-- The durable record of one turn. Its counters are `u64` in the source and start at 1 or 0. -/
structure LogicalTurnRecord where
  logicalTurnId : LogicalTurnId
  sessionId : SessionId
  sourceWakeId : String
  phase : LogicalTurnPhase
  binding : LogicalTurnBindingSnapshot
  currentContinuationId : ContinuationId
  (continuationSequence bindingGeneration cancellationGeneration : Nat)
  activeEpochId : Option ExecutionEpochId
  claimGeneration : Option Nat
  claimHolder : Option String
  claimExpiresAt : Option IsoTimestamp
  attention : Option LogicalTurnAttention
  revision : Nat
  (admittedAt updatedAt : IsoTimestamp)
  terminalAt : Option IsoTimestamp
  deriving DecidableEq, Repr

inductive LogicalTurnOperationKind where
  | providerRequest
  | hostToolExecution
  deriving DecidableEq, Repr

inductive LogicalTurnOperationPhase where
  | planned
  | leased
  | completed
  | outcomeUnknown
  | superseded
  | completedAfterCancel
  deriving DecidableEq, Repr

def LogicalTurnOperationPhase.isTerminal : LogicalTurnOperationPhase → Bool
  | .completed | .superseded | .completedAfterCancel => true
  | _ => false

structure LogicalTurnOperationRecord where
  operationId : BrainOperationId
  logicalTurnId : LogicalTurnId
  continuationId : ContinuationId
  executionEpochId : ExecutionEpochId
  kind : LogicalTurnOperationKind
  phase : LogicalTurnOperationPhase
  (requestFingerprint idempotencyKey : String)
  leaseHolder : Option String
  leaseGeneration : Option Nat
  leaseExpiresAt : Option IsoTimestamp
  resultRef : Option String
  resultPayload : Option Json
  reasonCode : Option String
  revision : Nat
  (createdAt updatedAt : IsoTimestamp)
  deriving DecidableEq, Repr

inductive LogicalTurnLifecycleEventKind where
  | admitted
  | continuationClaimed
  | continuationProgress
  | continuationCheckpointed
  | continuationYielded
  | continuationResumed
  | attentionRequired
  | rebindRequested
  | rebound
  | cancelRequested
  | completed
  | cancelled
  | failed
  deriving DecidableEq, Repr

def LogicalTurnLifecycleEventKind.asStr : LogicalTurnLifecycleEventKind → String
  | .admitted => "admitted"
  | .continuationClaimed => "continuation_claimed"
  | .continuationProgress => "continuation_progress"
  | .continuationCheckpointed => "continuation_checkpointed"
  | .continuationYielded => "continuation_yielded"
  | .continuationResumed => "continuation_resumed"
  | .attentionRequired => "attention_required"
  | .rebindRequested => "rebind_requested"
  | .rebound => "rebound"
  | .cancelRequested => "cancel_requested"
  | .completed => "completed"
  | .cancelled => "cancelled"
  | .failed => "failed"

inductive LogicalTurnOperatorState where
  | queuedToContinue
  | running
  | pausedForAttention
  | cancelling
  | completed
  | cancelled
  | failed
  deriving DecidableEq, Repr

def LogicalTurnOperatorState.forPhase : LogicalTurnPhase → LogicalTurnOperatorState
  | .admitted | .runnable | .yielded => .queuedToContinue
  | .running => .running
  | .attentionRequired => .pausedForAttention
  | .cancelRequested => .cancelling
  | .completed => .completed
  | .cancelled => .cancelled
  | .failed => .failed

inductive LogicalTurnProgressClassification where
  | admitted
  | providerProgress
  | toolProgress
  | semanticProgress
  | livenessOnly
  | noProgress
  | attentionRequired
  | completed
  | cancelled
  | failed
  deriving DecidableEq, Repr

def LogicalTurnProgressClassification.forState (phase : LogicalTurnPhase)
    (attentionRequired : Bool) (progress : LogicalTurnProgress) :
    LogicalTurnProgressClassification :=
  if attentionRequired then .attentionRequired
  else
    match phase with
    | .completed => .completed
    | .cancelled => .cancelled
    | .failed => .failed
    | phase =>
      if progress.consecutiveNoProgressSamples > 0 then .noProgress
      else if progress.committedToolOperations > 0 then .toolProgress
      else if progress.committedProviderOperations > 0 then .providerProgress
      else if progress.semanticRevision > 0 then .semanticProgress
      else if phase = .admitted then .admitted
      else .livenessOnly

structure LogicalTurnLifecycleEvent where
  projectionId : TurnProjectionId
  logicalTurnId : LogicalTurnId
  sessionId : SessionId
  wakeId : String
  continuationId : ContinuationId
  continuationCount : Nat
  executionEpochId : Option ExecutionEpochId
  kind : LogicalTurnLifecycleEventKind
  phase : LogicalTurnPhase
  operatorState : LogicalTurnOperatorState
  progressClassification : LogicalTurnProgressClassification
  progress : LogicalTurnProgress
  (reasonCode summary : String)
  occurredAt : IsoTimestamp
  logicalTurnRevision : Nat
  deriving DecidableEq, Repr

/-! ## Requests and receipts -/

structure LogicalTurnAdmission where
  record : LogicalTurnRecord
  initialCheckpoint : LogicalTurnCheckpoint
  lifecycleEvent : LogicalTurnLifecycleEvent
  deriving DecidableEq, Repr

structure LogicalTurnClaimRequest where
  logicalTurnId : LogicalTurnId
  expectedRevision : Nat
  continuationId : ContinuationId
  executionEpochId : ExecutionEpochId
  claimHolder : String
  (claimExpiresAt now : IsoTimestamp)
  deriving DecidableEq, Repr

structure LogicalTurnContinuationClaim where
  record : LogicalTurnRecord
  checkpoint : LogicalTurnCheckpoint
  claimGeneration : Nat
  replayed : Bool
  deriving DecidableEq, Repr

structure LogicalTurnYieldRequest where
  logicalTurnId : LogicalTurnId
  expectedRevision : Nat
  expectedEpochId : ExecutionEpochId
  (expectedClaimGeneration expectedCancellationGeneration : Nat)
  checkpoint : LogicalTurnCheckpoint
  lifecycleEvent : LogicalTurnLifecycleEvent
  now : IsoTimestamp
  deriving DecidableEq, Repr

structure LogicalTurnYieldReceipt where
  record : LogicalTurnRecord
  checkpoint : LogicalTurnCheckpoint
  replayed : Bool
  deriving DecidableEq, Repr

structure LogicalTurnAttentionRequest where
  logicalTurnId : LogicalTurnId
  expectedRevision : Nat
  expectedEpochId : ExecutionEpochId
  (expectedClaimGeneration expectedCancellationGeneration : Nat)
  checkpoint : LogicalTurnCheckpoint
  attention : LogicalTurnAttention
  lifecycleEvent : LogicalTurnLifecycleEvent
  now : IsoTimestamp
  deriving DecidableEq, Repr

structure LogicalTurnAttentionReceipt where
  record : LogicalTurnRecord
  checkpoint : LogicalTurnCheckpoint
  replayed : Bool
  deriving DecidableEq, Repr

structure LogicalTurnAttentionResolutionRequest where
  logicalTurnId : LogicalTurnId
  expectedRevision : Nat
  action : LogicalTurnResolutionAction
  lifecycleEvent : LogicalTurnLifecycleEvent
  now : IsoTimestamp
  deriving DecidableEq, Repr

structure LogicalTurnAttentionResolutionReceipt where
  record : LogicalTurnRecord
  checkpoint : LogicalTurnCheckpoint
  action : LogicalTurnResolutionAction
  replayed : Bool
  deriving DecidableEq, Repr

structure LogicalTurnCancelRequest where
  logicalTurnId : LogicalTurnId
  expectedRevision : Nat
  (idempotencyKey reasonCode summary : String)
  now : IsoTimestamp
  deriving DecidableEq, Repr

structure LogicalTurnCancellationReceipt where
  record : LogicalTurnRecord
  (replayed alreadyTerminal : Bool)
  deriving DecidableEq, Repr

structure LogicalTurnHydrationReport where
  (inspected madeRunnable attentionRequired alreadyRunnable terminalSkipped : Nat)
  hydratedAt : IsoTimestamp
  deriving DecidableEq, Repr

end RustyCrew.Protocol

import RustyCrew.Engine.Services
import RustyCrew.Persistence.Step

namespace RustyCrew.Engine

open Library Protocol RustyCrew.Persistence

def logicalTurnClaimExpiresAt : IsoTimestamp := "9999-12-31T23:59:59Z"

structure LifecycleEventInput where
  continuationId : ContinuationId
  executionEpochId : Option ExecutionEpochId
  kind : LogicalTurnLifecycleEventKind
  phase : LogicalTurnPhase
  progress : LogicalTurnProgress
  (reasonCode summary : String)
  occurredAt : IsoTimestamp

def lifecycleEvent (record : LogicalTurnRecord) (input : LifecycleEventInput) :
    LogicalTurnLifecycleEvent :=
  let revision := if input.kind = .admitted then record.revision else record.revision + 1
  { projectionId := ⟨"projection:" ++ record.logicalTurnId.raw ++ ":" ++ toString revision ++ ":" ++
      input.reasonCode⟩
    logicalTurnId := record.logicalTurnId
    sessionId := record.sessionId
    wakeId := record.sourceWakeId
    continuationId := input.continuationId
    continuationCount := record.continuationSequence +
      if input.continuationId = record.currentContinuationId then 1 else 2
    executionEpochId := input.executionEpochId
    kind := input.kind
    phase := input.phase
    operatorState := .forPhase input.phase
    progressClassification := .forState input.phase (input.phase = .attentionRequired)
      input.progress
    progress := input.progress
    reasonCode := input.reasonCode
    summary := input.summary
    occurredAt := input.occurredAt
    logicalTurnRevision := revision }

structure BrainWakeProgressSnapshot where
  (providerRequestCount toolRoundCount : Nat)
  deriving DecidableEq, Repr

def logicalTurnProgress (previous : LogicalTurnProgress)
    (snapshot : Option BrainWakeProgressSnapshot) (now : IsoTimestamp) : LogicalTurnProgress :=
  let progress := { previous with lastLivenessAt := now }
  match snapshot with
  | none => progress
  | some snapshot =>
    let advanced := snapshot.providerRequestCount > progress.committedProviderOperations ∨
      snapshot.toolRoundCount > progress.committedToolOperations
    { progress with
      committedProviderOperations :=
        max progress.committedProviderOperations snapshot.providerRequestCount
      committedToolOperations := max progress.committedToolOperations snapshot.toolRoundCount
      lastSemanticProgressAt := if advanced then now else progress.lastSemanticProgressAt }

def logicalTurnContent (content : List UInt8) (fingerprint contentKind : String)
    (createdAt : IsoTimestamp) : LogicalTurnContentWrite :=
  ⟨"sha256:" ++ fingerprint, fingerprint, contentKind, content, createdAt⟩

def executionEpochId (record : LogicalTurnRecord) (serviceInstanceId : String) :
    ExecutionEpochId :=
  ⟨"epoch:" ++ sha256Text (record.logicalTurnId.raw ++ "|" ++ record.currentContinuationId.raw ++
    "|" ++ toString record.revision ++ "|" ++ serviceInstanceId)⟩

structure Wake where
  registration : BrainImplementationRegistration
  sessionId : SessionId
  (sourceWakeId systemPrompt : String)
  roleAssemblyJson : List UInt8
  deriving DecidableEq

def admittedTurnId (wake : Wake) : LogicalTurnId :=
  ⟨"turn:" ++ sha256Text (wake.sessionId.raw ++ "|" ++ wake.sourceWakeId)⟩

def admittedContinuationId (wake : Wake) : ContinuationId :=
  ⟨"continuation:" ++ sha256Text ((admittedTurnId wake).raw ++ "|0")⟩

def initialPayload : Json := .object []

def initialProgress (now : IsoTimestamp) : LogicalTurnProgress where
  semanticRevision := 0
  committedProviderOperations := 0
  committedToolOperations := 0
  committedProjectionCursor := 0
  assistantContentBytes := 0
  acceptedActionCount := 0
  delegatedCompletionCount := 0
  stateFingerprint := jsonFingerprint initialPayload
  lastLivenessAt := now
  lastSemanticProgressAt := now
  consecutiveNoProgressSamples := 0

def admittedRecord (wake : Wake) (binding : LogicalTurnBindingSnapshot) (now : IsoTimestamp) :
    LogicalTurnRecord where
  logicalTurnId := admittedTurnId wake
  sessionId := wake.sessionId
  sourceWakeId := wake.sourceWakeId
  phase := .admitted
  binding := binding
  currentContinuationId := admittedContinuationId wake
  continuationSequence := 0
  bindingGeneration := 1
  cancellationGeneration := 0
  activeEpochId := none
  claimGeneration := none
  claimHolder := none
  claimExpiresAt := none
  attention := none
  revision := 1
  admittedAt := now
  updatedAt := now
  terminalAt := none

def frozenInput (wake : Wake) (bodyStateJson : List UInt8) : LogicalTurnFrozenInput :=
  let bodyFingerprint := sha256Hex bodyStateJson
  let promptFingerprint := sha256Text wake.systemPrompt
  let roleFingerprint := sha256Hex wake.roleAssemblyJson
  { bodyStateRef := "sha256:" ++ bodyFingerprint
    bodyStateFingerprint := bodyFingerprint
    systemPromptRef := "sha256:" ++ promptFingerprint
    systemPromptFingerprint := promptFingerprint
    roleAssemblyRef := "sha256:" ++ roleFingerprint
    roleAssemblyFingerprint := roleFingerprint
    transcriptCursor := 0
    attachmentRefs := [] }

def admittedCheckpoint (wake : Wake) (bodyStateJson : List UInt8) (now : IsoTimestamp) :
    LogicalTurnCheckpoint where
  continuationId := admittedContinuationId wake
  logicalTurnId := admittedTurnId wake
  sequence := 0
  parentContinuationId := none
  completedEpochId := none
  bindingGeneration := 1
  frozenInput := frozenInput wake bodyStateJson
  moduleState :=
    { moduleId := brainModuleId wake.registration
      payloadVersion := "1"
      payloadFingerprint := jsonFingerprint initialPayload
      payload := initialPayload }
  operationCursor := 0
  projectionCursor := 0
  progress := initialProgress now
  yieldReason := .initialAdmission
  createdAt := now

def frozenContent (wake : Wake) (bodyStateJson : List UInt8) (now : IsoTimestamp) :
    List LogicalTurnContentWrite :=
  [logicalTurnContent bodyStateJson (sha256Hex bodyStateJson) "body_state" now,
    logicalTurnContent (utf8Bytes wake.systemPrompt) (sha256Text wake.systemPrompt)
      "system_prompt" now,
    logicalTurnContent wake.roleAssemblyJson (sha256Hex wake.roleAssemblyJson) "role_assembly" now]

def admissionWrite (wake : Wake) (binding : LogicalTurnBindingSnapshot)
    (bodyStateJson : List UInt8) (now : IsoTimestamp) : LogicalTurnAdmissionWrite :=
  let record := admittedRecord wake binding now
  { admission :=
      { record := record
        initialCheckpoint := admittedCheckpoint wake bodyStateJson now
        lifecycleEvent := lifecycleEvent record
          { continuationId := admittedContinuationId wake
            executionEpochId := none
            kind := .admitted
            phase := .admitted
            progress := initialProgress now
            reasonCode := "initial_admission"
            summary := "logical turn admitted with frozen input"
            occurredAt := now } }
    frozenContent := frozenContent wake bodyStateJson now }

def claimRequest (record : LogicalTurnRecord) (continuationId : ContinuationId)
    (serviceInstanceId : String) (now : IsoTimestamp) : LogicalTurnClaimRequest where
  logicalTurnId := record.logicalTurnId
  expectedRevision := record.revision
  continuationId := continuationId
  executionEpochId := executionEpochId record serviceInstanceId
  claimHolder := serviceInstanceId
  claimExpiresAt := logicalTurnClaimExpiresAt
  now := now

def resolutionActionCode : LogicalTurnResolutionAction → String
  | .retryUnchanged => "retry_unchanged"
  | .retryProviderOperation => "retry_provider_operation"
  | .confirmToolCompleted => "confirm_tool_completed"
  | .confirmToolNotCompleted => "confirm_tool_not_completed"
  | .rebind => "rebind"
  | .cancel => "cancel"

end RustyCrew.Engine

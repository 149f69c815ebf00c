import RustyCrew.Bridge.State
import RustyCrew.Library.Text

namespace RustyCrew.Bridge

open Library Protocol RustyCrew.Persistence RustyCrew.Engine Effect

def requiredJsonString (value : Json) (name : String) : CoreResult String :=
  orFail ((value.get name).bind Json.asStr)
    ⟨.invalidInput, "brain operation payload requires " ++ name⟩

variable (active : ActiveLogicalWake)

def requiredClaimGeneration : CoreResult Nat :=
  orFail active.claim.record.claimGeneration
    ⟨.actionRejected, "active logical wake has no claim generation"⟩

def requiredEpoch : CoreResult ExecutionEpochId :=
  orFail active.claim.record.activeEpochId
    ⟨.actionRejected, "active logical wake has no execution epoch"⟩

def nextSequence (sequence : Nat) : Nat := (sequence + 1) % 2 ^ 64

def leaseRequest (operationId : BrainOperationId)
    (kind : LogicalTurnOperationKind) (requestFingerprint : String) (epochId : ExecutionEpochId)
    (claimGeneration : Nat) (now : IsoTimestamp) : LogicalTurnOperationLeaseRequest where
  operation :=
    { operationId := operationId
      logicalTurnId := active.claim.record.logicalTurnId
      continuationId := active.claim.record.currentContinuationId
      executionEpochId := epochId
      kind := kind
      phase := .leased
      requestFingerprint := requestFingerprint
      idempotencyKey := operationId.raw
      leaseHolder := active.claim.record.claimHolder
      leaseGeneration := active.claim.record.claimGeneration
      leaseExpiresAt := active.claim.record.claimExpiresAt
      resultRef := none
      resultPayload := none
      reasonCode := none
      revision := 1
      createdAt := now
      updatedAt := now }
  expectedTurnRevision := active.claim.record.revision
  expectedClaimGeneration := claimGeneration
  expectedCancellationGeneration := active.claim.record.cancellationGeneration

def completionRequest (operation : LogicalTurnOperationRecord)
    (resultText : String) (payload : Json) (reasonCode : Option String) (claimGeneration : Nat)
    (now : IsoTimestamp) : LogicalTurnOperationCompletionRequest where
  operation :=
    { operation with
      phase := .completed
      resultRef := some ("sha256:" ++ sha256Text resultText)
      resultPayload := some payload
      reasonCode := reasonCode
      revision := operation.revision + 1
      updatedAt := now }
  expectedOperationRevision := operation.revision
  expectedTurnRevision := active.claim.record.revision
  expectedClaimGeneration := claimGeneration
  expectedCancellationGeneration := active.claim.record.cancellationGeneration

/-! ## Names of operations -/

def providerOperationBase (turn : LogicalTurnId) (continuation : ContinuationId)
    (epochId : ExecutionEpochId) : String :=
  "operation:" ++ turn.raw ++ ":" ++ continuation.raw ++ ":provider:" ++ sha256Text epochId.raw

def providerOperationId (baseOperationId : String) (sequence : Nat) : BrainOperationId :=
  ⟨if sequence = 0 then baseOperationId
    else baseOperationId ++ ":request:" ++ toString sequence⟩

def hostToolOperationBase (turn : LogicalTurnId) (continuation : ContinuationId)
    (sequence : Nat) : String :=
  "operation:" ++ turn.raw ++ ":" ++ continuation.raw ++ ":host-tool:" ++ toString sequence

def hostToolRetryId (baseOperationId : String) (attempt : Nat) : BrainOperationId :=
  ⟨baseOperationId ++ ":retry:" ++ toString attempt⟩

/-- The number of the attempt that an operation id is of the base id. -/
def hostToolOperationAttempt (baseOperationId operationId : String) : Option Nat :=
  if operationId = baseOperationId then some 0
  else do
    let rest ← operationId.toList.dropPrefix? baseOperationId.toList
    let attempt ← rest.dropPrefix? ":retry:".toList
    Text.parseUnsigned (2 ^ 64) attempt

def hostToolFingerprint (name argumentsJson : String) : String :=
  sha256Text (Json.ofMembers
    [("name", .string name), ("argumentsJson", .string argumentsJson)]).render

/-! ## Choosing the attempt -/

def recordedAttempts (baseOperationId : String) (operations : List LogicalTurnOperationRecord) :
    List (Nat × LogicalTurnOperationRecord) :=
  operations.filterMap fun operation =>
    (hostToolOperationAttempt baseOperationId operation.operationId.raw).map fun attempt =>
      (attempt, operation)

def latestAttempt (attempts : List (Nat × LogicalTurnOperationRecord)) :
    Option (Nat × LogicalTurnOperationRecord) :=
  attempts.foldl (fun best entry =>
    match best with
    | some latest => if entry.1 < latest.1 then some latest else some entry
    | none => some entry) none

inductive HostToolAnswer where
  | replay (operation : LogicalTurnOperationRecord)
  | suppress
  | lease (operationId : BrainOperationId)

def chooseAttempt (baseOperationId : String) (sequence : Nat) (requestFingerprint : String) :
    Option (Nat × LogicalTurnOperationRecord) → CoreResult HostToolAnswer
  | none => .ok (.lease ⟨baseOperationId⟩)
  | some (attempt, existing) => do
    rejectIf (existing.requestFingerprint ≠ requestFingerprint)
      ⟨.actionRejected, "logical turn replay diverged at host tool operation " ++ toString sequence⟩
    match existing.phase with
    | .completed => .ok (.replay existing)
    | .completedAfterCancel => .ok .suppress
    | .superseded => .ok (.lease (hostToolRetryId baseOperationId (min (attempt + 1) (2 ^ 64 - 1))))
    | _ => .error ⟨.actionRejected,
        "host tool operation already exists without a replayable completed result"⟩

def ActiveLogicalWake.recordCall (callId : String)
    (operationId : BrainOperationId) : ActiveLogicalWake :=
  { active with hostToolOperations := active.hostToolOperations.put ⟨callId, operationId⟩ }

def replayedPayload (members : List (String × Json)) (wakeId callId : String) : Json :=
  .object (Json.insertMember "callId" (.string callId)
    (Json.insertMember "wakeId" (.string wakeId) members))

namespace NativeBridge

variable (services : BridgeServices)

variable (active : ActiveLogicalWake)

def listOperations : BridgeM (List LogicalTurnOperationRecord) :=
  onEngine (read fun e => e.store.listLogicalTurnOperations active.claim.record.logicalTurnId)

def findOperation (operationId : BrainOperationId)
    (missing : String) : BridgeM LogicalTurnOperationRecord := do
  let operations ← listOperations active
  lift (orFail (operations.find? fun operation => operation.operationId = operationId)
    ⟨.notFound, missing⟩)

def leaseOperation (request : LogicalTurnOperationLeaseRequest) :
    BridgeM LogicalTurnOperationRecord :=
  onEngine (CoreEngine.onStore fun s => s.leaseLogicalTurnOperation request)

def completeOperation (request : LogicalTurnOperationCompletionRequest) :
    BridgeM LogicalTurnOperationRecord :=
  onEngine (CoreEngine.onStore fun s => s.completeLogicalTurnOperation request)

/-! ## Provider requests -/

def leaseActiveProvider (inputJson : String) : BridgeM Unit := do
  let epochId ← lift (requiredEpoch active)
  let operationId := providerOperationId (providerOperationBase active.claim.record.logicalTurnId
      active.claim.record.currentContinuationId epochId) active.nextProviderOperation
  let counted := { active with nextProviderOperation := nextSequence active.nextProviderOperation }
  saveWake counted
  onEngine (pure ())
  let claimGeneration ← lift (requiredClaimGeneration active)
  let _ ← leaseOperation (leaseRequest active operationId .providerRequest
    (sha256Text inputJson) epochId claimGeneration services.now)
  saveWake { counted with providerOperationId := some operationId }

def leaseProviderOperation (wakeId inputJson : String) : BridgeM Unit := do
  let active ← activeWake wakeId
  match active with
  | none => pure ()
  | some active => leaseActiveProvider services active inputJson

def completeActiveProvider (operationId : BrainOperationId) (payload : Json) : BridgeM Unit := do
  let operation ← findOperation active operationId "provider operation not found"
  if operation.phase ≠ .leased then pure ()
  else do
    let claimGeneration ← lift (requiredClaimGeneration active)
    let _ ← completeOperation (completionRequest active operation payload.render payload
      operation.reasonCode claimGeneration services.now)
    pure ()

def completeProviderOperation (wakeId : String) (payload : Json) : BridgeM Unit := do
  let active ← activeWake wakeId
  match active.bind fun active => active.providerOperationId.map fun operationId =>
      (active, operationId) with
  | none => pure ()
  | some (active, operationId) => completeActiveProvider services active operationId payload

/-! ## Host tools -/

def submitToolOutput (moduleId replayJson : String) : BridgeM Unit := do
  lift (rejectIf (moduleId ≠ chatCompletionsModuleId ∧ moduleId ≠ openaiResponsesModuleId)
    ⟨.invalidInput, "unsupported brain module"⟩)
  lift (match services.submitToolOutput moduleId replayJson with
    | .ok _ => .ok ()
    | .error error => .error ⟨.internalError, "replay durable host tool result: " ++ error⟩)
  edit fun bridge => { bridge with toolOutputs := bridge.toolOutputs ++ [(moduleId, replayJson)] }

def replayHostToolResult (moduleId callId : String)
    (operation : LogicalTurnOperationRecord) : BridgeM Bool := do
  saveWake (active.recordCall callId operation.operationId)
  let payload ← lift (orFail operation.resultPayload
    ⟨.persistenceFailure, "completed host tool operation has no durable result payload"⟩)
  let members ← lift (orFail payload.asObject
    ⟨.persistenceFailure, "durable host tool result payload is not an object"⟩)
  submitToolOutput services moduleId (replayedPayload members active.wakeId callId).render
  pure false

def leaseHostTool (callId requestFingerprint : String)
    (operationId : BrainOperationId) : BridgeM Bool := do
  let epochId ← lift (requiredEpoch active)
  let claimGeneration ← lift (requiredClaimGeneration active)
  let _ ← leaseOperation (leaseRequest active operationId .hostToolExecution requestFingerprint
    epochId claimGeneration services.now)
  saveWake (active.recordCall callId operationId)
  pure true

def answerHostTool (moduleId callId requestFingerprint : String) : HostToolAnswer → BridgeM Bool
  | .replay operation => replayHostToolResult services active moduleId callId operation
  | .suppress => pure false
  | .lease operationId => leaseHostTool services active callId requestFingerprint operationId

def prepareActiveHostTool (moduleId : String) (request : Json) : BridgeM Bool := do
  let callId ← lift (requiredJsonString request "call_id")
  let name ← lift (requiredJsonString request "name")
  let argumentsJson ← lift (requiredJsonString request "arguments_json")
  let sequence := active.nextHostToolOperation
  let counted := { active with nextHostToolOperation := nextSequence sequence }
  saveWake counted
  let baseOperationId := hostToolOperationBase active.claim.record.logicalTurnId
    active.claim.record.currentContinuationId sequence
  let requestFingerprint := hostToolFingerprint name argumentsJson
  let operations ← listOperations counted
  let answer ← lift (chooseAttempt baseOperationId sequence requestFingerprint
    (latestAttempt (recordedAttempts baseOperationId operations)))
  answerHostTool services counted moduleId callId requestFingerprint answer

def prepareHostToolOperation (moduleId wakeId : String) (request : Json) : BridgeM Bool := do
  let active ← activeWake wakeId
  match active with
  | none => pure true
  | some active => prepareActiveHostTool services active moduleId request

def finishHostTool (operation : LogicalTurnOperationRecord)
    (inputJson : String) (payload : Json) : BridgeM Bool := do
  let claimGeneration ← lift (requiredClaimGeneration active)
  let completed ← completeOperation (completionRequest active operation inputJson payload
    ((payload.get "reasonCode").bind Json.asStr) claimGeneration services.now)
  pure (completed.phase = .completed)

def settleHostTool (operation : LogicalTurnOperationRecord)
    (inputJson : String) (payload : Json) : BridgeM Bool :=
  if operation.phase = .completed ∨ operation.phase = .completedAfterCancel then do
    lift (rejectIf (operation.resultPayload ≠ some payload)
      ⟨.actionRejected, "host tool operation already completed with a different result"⟩)
    pure (operation.phase = .completed)
  else do
    lift (rejectIf (operation.phase ≠ .leased)
      ⟨.actionRejected, "host tool operation is not leased"⟩)
    finishHostTool services active operation inputJson payload

def completeActiveHostTool (callId inputJson : String) (payload : Json) : BridgeM Bool := do
  let call ← lift (orFail (active.hostToolOperations.find? callId)
    ⟨.actionRejected, "host tool result has no durable operation lease"⟩)
  let operation ← findOperation active call.operationId "durable host tool operation not found"
  settleHostTool services active operation inputJson payload

def completeHostToolOperation (inputJson : String) : BridgeM Bool := do
  let payload ← lift (match services.parseJson inputJson with
    | .ok payload => .ok payload
    | .error error => .error ⟨.invalidInput, "invalid host tool result JSON: " ++ error⟩)
  let wakeId ← lift (requiredJsonString payload "wakeId")
  let callId ← lift (requiredJsonString payload "callId")
  let active ← activeWake wakeId
  match active with
  | none => pure true
  | some active => completeActiveHostTool services active callId inputJson payload

end NativeBridge

/-! ## The process and its restarts -/

/-- The calls on the bridge that reach the modelled state, and crashes. -/
inductive BridgeCall where
  | initializeEngine (services : BridgeServices)
  | shutdownEngine (services : BridgeServices)
  | crash (writes : List TurnWrite)
  | buildWakeRequest (services : BridgeServices) (brain : BrainImplementationHandle)
      (sessionId : SessionId) (systemPrompt : String) (roleAssemblyJson : List UInt8)
      (wakeId : String)
  | settleWake (services : BridgeServices) (wakeId : String) (result : LogicalTurnEpochResult)
      (progress : Option BrainWakeProgressSnapshot)
  | cancelTurn (services : BridgeServices) (request : LogicalTurnCancelRequest)
  | resolveAttention (services : BridgeServices) (logicalTurnId : LogicalTurnId)
      (expectedRevision : Nat) (action : LogicalTurnResolutionAction)
  | leaseProvider (services : BridgeServices) (wakeId inputJson : String)
  | completeProvider (services : BridgeServices) (wakeId : String) (payload : Json)
  | prepareHostTool (services : BridgeServices) (moduleId wakeId : String) (request : Json)
  | completeHostTool (services : BridgeServices) (inputJson : String)
  | queueMessage (record : QueuedMessageRecord)

namespace NativeBridge

def step (bridge : NativeBridge) : BridgeCall → NativeBridge
  | .initializeEngine services => (initializeEngine services bridge).2
  | .shutdownEngine services => (shutdownEngine services bridge).2
  | .crash writes => bridge.crash writes
  | .buildWakeRequest services brain sessionId systemPrompt roleAssemblyJson wakeId =>
    (buildBrainWakeRequestForSession services brain sessionId systemPrompt roleAssemblyJson
      wakeId bridge).2
  | .settleWake services wakeId result progress =>
    (settleBrainWake services wakeId result progress bridge).2
  | .cancelTurn services request => (cancelLogicalTurn services request bridge).2
  | .resolveAttention services logicalTurnId expectedRevision action =>
    (resolveLogicalTurnAttentionForOperator services logicalTurnId expectedRevision action bridge).2
  | .leaseProvider services wakeId inputJson =>
    (leaseProviderOperation services wakeId inputJson bridge).2
  | .completeProvider services wakeId payload =>
    (completeProviderOperation services wakeId payload bridge).2
  | .prepareHostTool services moduleId wakeId request =>
    (prepareHostToolOperation services moduleId wakeId request bridge).2
  | .completeHostTool services inputJson => (completeHostToolOperation services inputJson bridge).2
  | .queueMessage record =>
    { bridge with engine := { bridge.engine with
        queue := bridge.engine.queue.saveQueuedMessage record } }

end NativeBridge

end RustyCrew.Bridge

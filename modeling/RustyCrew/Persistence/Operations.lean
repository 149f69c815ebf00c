import RustyCrew.Persistence.Validation

namespace RustyCrew.Persistence

open Library Protocol

structure LogicalTurnOperationLeaseRequest where
  operation : LogicalTurnOperationRecord
  (expectedTurnRevision expectedClaimGeneration expectedCancellationGeneration : Nat)
  deriving DecidableEq, Repr

structure LogicalTurnOperationCompletionRequest where
  operation : LogicalTurnOperationRecord
  (expectedOperationRevision expectedTurnRevision expectedClaimGeneration : Nat)
  expectedCancellationGeneration : Nat
  deriving DecidableEq, Repr

namespace Store

def leaseLogicalTurnOperation (s : Store) (request : LogicalTurnOperationLeaseRequest) :
    CoreResult (Store × LogicalTurnOperationRecord) := do
  let operation := request.operation
  let turn ← orFail (s.loadTurn operation.logicalTurnId) logicalTurnNotFound
  requireRunningFence turn request.expectedTurnRevision operation.executionEpochId
    request.expectedClaimGeneration request.expectedCancellationGeneration
  rejectIf (operation.phase ≠ .leased ∨ operation.revision ≠ 1 ∨ operation.resultRef.isSome ∨
      operation.resultPayload.isSome)
    ⟨.invalidInput, "logical turn operation lease must start at leased revision 1 without a result"⟩
  match s.loadOperation operation.operationId with
  | some existing =>
    if existing = operation then .ok (s, existing)
    else
      .error ⟨.alreadyExists, "logical turn operation id already exists with different content"⟩
  | none =>
    let s ← s.insertOperation operation
    .ok (s, operation)

/-- The record a completion request would store: under a live fence as given, after a cancellation
marked as too late. -/
def completedOperation (turn : LogicalTurnRecord)
    (request : LogicalTurnOperationCompletionRequest) : CoreResult LogicalTurnOperationRecord :=
  match requireRunningFence turn request.expectedTurnRevision request.operation.executionEpochId
    request.expectedClaimGeneration request.expectedCancellationGeneration with
  | .ok _ =>
    if request.operation.phase ≠ .completed then
      .error ⟨.invalidInput, "active logical turn operation completion must use completed phase"⟩
    else .ok request.operation
  | .error _ =>
    if turn.cancellationGeneration ≠ request.expectedCancellationGeneration ∨
        turn.phase = .cancelRequested ∨ turn.phase = .cancelled then
      .ok { request.operation with phase := .completedAfterCancel }
    else
      .error ⟨.actionRejected,
        "logical turn operation completion no longer matches the active execution fence"⟩

def completeLogicalTurnOperation (s : Store) (request : LogicalTurnOperationCompletionRequest) :
    CoreResult (Store × LogicalTurnOperationRecord) := do
  let turn ← orFail (s.loadTurn request.operation.logicalTurnId) logicalTurnNotFound
  let completed ← completedOperation turn request
  rejectIf
    (completed.revision ≠ request.expectedOperationRevision + 1 ∨ completed.resultRef.isNone ∨
      completed.resultPayload.isNone)
    ⟨.invalidInput,
      "logical turn operation completion requires the next revision and durable result"⟩
  let existing ← orFail (s.loadOperation completed.operationId)
    ⟨.notFound, "logical turn operation not found"⟩
  rejectIf (existing.revision ≠ request.expectedOperationRevision ∨
      existing.logicalTurnId ≠ completed.logicalTurnId ∨
      existing.continuationId ≠ completed.continuationId ∨
      existing.executionEpochId ≠ completed.executionEpochId ∨
      existing.requestFingerprint ≠ completed.requestFingerprint)
    ⟨.actionRejected, "logical turn operation changed before completion"⟩
  let s ← s.updateOperation completed request.expectedOperationRevision
  .ok (s, completed)

def listLogicalTurnOperations (s : Store) (id : LogicalTurnId) : List LogicalTurnOperationRecord :=
  ((s.operations.select fun row => row.logicalTurnId = id).insertionSort
    fun a b => a.operationId.raw ≤ b.operationId.raw).map OperationRow.record

def outcomeUnknownOperation (now : IsoTimestamp) (operation : LogicalTurnOperationRecord) :
    LogicalTurnOperationRecord :=
  { operation with
    phase := .outcomeUnknown
    reasonCode := some "host_tool_outcome_unknown_after_restart"
    updatedAt := now
    revision := operation.revision + 1 }

def markLeasedHostToolsOutcomeUnknown (s : Store) (id : LogicalTurnId) (now : IsoTimestamp) :
    CoreResult (Store × List LogicalTurnOperationRecord) := do
  let operations := s.operationsIn id .hostToolExecution .leased
  let s ← operations.foldlM (fun s operation =>
    s.updateOperation (outcomeUnknownOperation now operation) operation.revision) s
  .ok (s, operations.map (outcomeUnknownOperation now))

def operatorConfirmedPayload (operationId : BrainOperationId) : Json :=
  .ofMembers
    [("output", .string ("[Rusty Crew operator confirmation] The tool completed before the " ++
        "service restart, but its original output was unavailable.")),
      ("status", .string "succeeded"),
      ("retryable", .bool false),
      ("reasonCode", .string "operator_confirmed_tool_completed"),
      ("action", .string "operator_confirmation"),
      ("summary", .string "operator confirmed the unknown host tool outcome as completed"),
      ("stateFingerprint", .string ("operator-confirmed:" ++ operationId.raw))]

def confirmedOperation (action : LogicalTurnResolutionAction) (now : IsoTimestamp)
    (operation : LogicalTurnOperationRecord) : LogicalTurnOperationRecord :=
  if action = .confirmToolCompleted then
    { operation with
      updatedAt := now
      revision := operation.revision + 1
      phase := .completed
      reasonCode := some "operator_confirmed_tool_completed"
      resultRef := some ("operator-confirmed:" ++ operation.operationId.raw ++ ":" ++
        toString (operation.revision + 1))
      resultPayload := some (operatorConfirmedPayload operation.operationId) }
  else
    { operation with
      updatedAt := now
      revision := operation.revision + 1
      phase := .superseded
      reasonCode := some "operator_confirmed_tool_not_completed"
      resultRef := none
      resultPayload := none }

def reconcileUnknownHostToolOperation (s : Store) (record : LogicalTurnRecord)
    (request : LogicalTurnAttentionResolutionRequest) : CoreResult Store :=
  if isToolConfirmation request.action then
    match s.operationsIn record.logicalTurnId .hostToolExecution .outcomeUnknown with
    | [operation] =>
      s.updateOperation (confirmedOperation request.action request.now operation) operation.revision
    | _ =>
      .error ⟨.actionRejected,
        "tool outcome confirmation requires exactly one outcome-unknown host operation"⟩
  else .ok s

end Store

end RustyCrew.Persistence

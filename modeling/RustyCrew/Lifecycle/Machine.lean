import RustyCrew.Persistence.Step

namespace RustyCrew.Lifecycle

open Library Protocol RustyCrew.Persistence

/-- What the store holds about one turn, each list in the order its rows were written. -/
@[ext] structure TurnView where
  record : Option LogicalTurnRecord
  checkpoints : List LogicalTurnCheckpoint
  operations : List OperationRow
  ticket : Option LogicalTurnContinuationTicket
  log : List LogicalTurnLifecycleEvent

def TurnView.absent : TurnView := ⟨none, [], [], none, []⟩

def checkpointsOf (s : Store) (id : LogicalTurnId) : List LogicalTurnCheckpoint :=
  s.checkpoints.select fun row => row.logicalTurnId = id

def operationsOf (s : Store) (id : LogicalTurnId) : List OperationRow :=
  s.operations.select fun row => row.logicalTurnId = id

def logOf (s : Store) (id : LogicalTurnId) : List LogicalTurnLifecycleEvent :=
  (s.outbox.select fun row => row.event.logicalTurnId = id).map LogicalTurnOutboxRecord.event

def view (s : Store) (id : LogicalTurnId) : TurnView where
  record := s.turns.find? id
  checkpoints := checkpointsOf s id
  operations := operationsOf s id
  ticket := s.tickets.find? id
  log := logOf s id

def OperationRow.isHostTool (row : OperationRow) (phase : LogicalTurnOperationPhase) : Bool :=
  row.kind = .hostToolExecution ∧ row.record.phase = phase

def hostTools (phase : LogicalTurnOperationPhase) (rows : List OperationRow) : List OperationRow :=
  rows.filter fun row => OperationRow.isHostTool row phase

def rewriteOperation (operation : LogicalTurnOperationRecord) (rows : List OperationRow) :
    List OperationRow :=
  rows.map fun row =>
    if row.operationId = operation.operationId then { row with record := operation } else row

def interruptTools (now : IsoTimestamp) (rows : List OperationRow) : List OperationRow :=
  rows.map fun row =>
    if OperationRow.isHostTool row .leased then
      { row with record := Store.outcomeUnknownOperation now row.record }
    else row

def rewriteCheckpoint (checkpoint : LogicalTurnCheckpoint) (rows : List LogicalTurnCheckpoint) :
    List LogicalTurnCheckpoint :=
  rows.map fun row => if row.continuationId = checkpoint.continuationId then checkpoint else row

/-- What an accepted resolution does to the operations of the turn. -/
def Reconciles (request : LogicalTurnAttentionResolutionRequest)
    (before after : List OperationRow) : Prop :=
  if isToolConfirmation request.action then
    ∃ row, hostTools .outcomeUnknown before = [row] ∧
      after = rewriteOperation
        (Store.confirmedOperation request.action request.now row.record) before
  else after = before

/-- The life of one turn: what an accepted call can do to it. A call on another turn does nothing
here, and hydration does at most one of its four steps. -/
inductive TurnStep : Op → TurnView → TurnView → Prop where
  | admitTurn {write} (valid : validateAdmission write = .ok ()) :
      TurnStep (.admitTurn write) .absent
        { record := some write.admission.record
          checkpoints := [write.admission.initialCheckpoint]
          operations := []
          ticket := some (continuationTicket write.admission.record .initialAdmission
            write.admission.record.admittedAt)
          log := [write.admission.lifecycleEvent] }
  | claim {v record request progress} (stored : v.record = some record)
      (target : record.logicalTurnId = request.logicalTurnId)
      (revision : record.revision = request.expectedRevision)
      (runnable : record.phase.isRunnable = true)
      (current : record.currentContinuationId = request.continuationId) :
      TurnStep (.claim request) v
        { v with
          record := some (claimedRecord record request)
          ticket := none
          log := v.log ++ [lifecycleForRecord (claimedRecord record request) progress
            .continuationClaimed "continuation_claimed"
            "logical turn continuation claimed for an execution epoch" request.now] }
  | yield {v record request} (stored : v.record = some record)
      (target : record.logicalTurnId = request.logicalTurnId)
      (fence : requireRunningFence record request.expectedRevision request.expectedEpochId
        request.expectedClaimGeneration request.expectedCancellationGeneration = .ok ())
      (valid : validateYield record request = .ok ()) :
      TurnStep (.yield request) v
        { v with
          record := some (yieldedRecord record request)
          checkpoints := v.checkpoints ++ [request.checkpoint]
          ticket := some (continuationTicket (yieldedRecord record request)
            request.checkpoint.yieldReason request.now)
          log := v.log ++ [request.lifecycleEvent] }
  | requireAttention {v record request} (stored : v.record = some record)
      (target : record.logicalTurnId = request.logicalTurnId)
      (fence : requireRunningFence record request.expectedRevision request.expectedEpochId
        request.expectedClaimGeneration request.expectedCancellationGeneration = .ok ())
      (valid : validateAttention record request = .ok ()) :
      TurnStep (.requireAttention request) v
        { v with
          record := some (attentionRecord record request)
          checkpoints := v.checkpoints ++ [request.checkpoint]
          ticket := none
          log := v.log ++ [request.lifecycleEvent] }
  | resolveAttention {v record request operations} (stored : v.record = some record)
      (target : record.logicalTurnId = request.logicalTurnId)
      (valid : validateAttentionResolution record request = .ok ())
      (reconciles : Reconciles request v.operations operations) :
      TurnStep (.resolveAttention request) v
        { v with
          record := some (resolvedRecord record request.now)
          operations := operations
          ticket := some (continuationTicket (resolvedRecord record request.now)
            .operatorRequested request.now)
          log := v.log ++ [request.lifecycleEvent] }
  | complete {v record request checkpoint} (stored : v.record = some record)
      (target : record.logicalTurnId = request.logicalTurnId)
      (fence : requireRunningFence record request.expectedRevision request.expectedEpochId
        request.expectedClaimGeneration request.expectedCancellationGeneration = .ok ())
      (valid : validateCompletion record request = .ok ())
      (member : checkpoint ∈ v.checkpoints)
      (current : checkpoint.continuationId = record.currentContinuationId)
      (only : ∀ other ∈ v.checkpoints,
        other.continuationId = record.currentContinuationId → other = checkpoint) :
      TurnStep (.complete request) v
        { v with
          record := some (completedRecord record request)
          checkpoints := rewriteCheckpoint
            { checkpoint with progress := request.lifecycleEvent.progress } v.checkpoints
          ticket := none
          log := v.log ++ [request.lifecycleEvent] }
  | cancel {v record request progress} (stored : v.record = some record)
      (target : record.logicalTurnId = request.logicalTurnId)
      (active : record.phase.isTerminal = false)
      (revision : record.revision = request.expectedRevision) :
      TurnStep (.cancel request) v
        { v with
          record := some (cancelledRecord record request.now)
          ticket := none
          log := v.log ++
            [lifecycleForRecord (cancellingRecord record request.now) progress .cancelRequested
                "operator_cancel_requested" "logical turn cancellation requested" request.now,
              lifecycleForRecord (cancelledRecord record request.now) progress .cancelled
                request.reasonCode request.summary request.now] }
  | leaseOperation {v record request} (stored : v.record = some record)
      (target : record.logicalTurnId = request.operation.logicalTurnId)
      (fence : requireRunningFence record request.expectedTurnRevision
        request.operation.executionEpochId request.expectedClaimGeneration
        request.expectedCancellationGeneration = .ok ())
      (leased : request.operation.phase = .leased) (first : request.operation.revision = 1)
      (absent : ∀ row ∈ v.operations, row.operationId ≠ request.operation.operationId) :
      TurnStep (.leaseOperation request) v
        { v with operations := v.operations ++ [.ofRecord request.operation] }
  | completeOperation {v record request completed row} (stored : v.record = some record)
      (target : record.logicalTurnId = request.operation.logicalTurnId)
      (accepted : Store.completedOperation record request = .ok completed)
      (next : completed.revision = request.expectedOperationRevision + 1)
      (member : row ∈ v.operations) (same : row.operationId = completed.operationId)
      (revision : row.record.revision = request.expectedOperationRevision)
      (continuation : row.record.continuationId = completed.continuationId)
      (epoch : row.record.executionEpochId = completed.executionEpochId)
      (fingerprint : row.record.requestFingerprint = completed.requestFingerprint) :
      TurnStep (.completeOperation request) v
        { v with operations := rewriteOperation completed v.operations }
  | finalize {v record progress now} (stored : v.record = some record)
      (requested : record.phase = .cancelRequested) :
      TurnStep (.hydrate now) v
        { v with
          record := some (finalizedRecord record now)
          ticket := none
          log := v.log ++ [lifecycleForRecord (finalizedRecord record now) progress .cancelled
            "cancelled_during_restart_hydration"
            "logical turn cancellation was finalized during restart hydration" now] }
  | interrupt {v record progress now} (stored : v.record = some record)
      (running : record.phase = .running) (leased : hostTools .leased v.operations ≠ []) :
      TurnStep (.hydrate now) v
        { v with
          record := some (interruptedRecord record (hostTools .leased v.operations).length now)
          operations := interruptTools now v.operations
          log := v.log ++ [lifecycleForRecord
            (interruptedRecord record (hostTools .leased v.operations).length now) progress
            .attentionRequired "host_tool_outcome_unknown_after_restart"
            "logical turn requires operator resolution before it can continue" now] }
  | refresh {v record now} (stored : v.record = some record) (runnable : record.phase = .runnable) :
      TurnStep (.hydrate now) v
        { v with ticket := some (continuationTicket record .restartRecovery now) }
  | recover {v record progress now} (stored : v.record = some record)
      (resumable : record.phase = .admitted ∨ record.phase = .yielded ∨
        (record.phase = .running ∧ hostTools .leased v.operations = [])) :
      TurnStep (.hydrate now) v
        { v with
          record := some (recoveredRecord record now)
          ticket := some (continuationTicket (recoveredRecord record now) .restartRecovery now)
          log := v.log ++ [lifecycleForRecord (recoveredRecord record now) progress
            .continuationResumed "restart_recovery"
            "logical turn continuation recovered after service restart" now] }

end RustyCrew.Lifecycle

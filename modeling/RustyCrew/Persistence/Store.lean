import RustyCrew.Library.Result
import RustyCrew.Library.Table
import RustyCrew.Protocol.LogicalTurn

namespace RustyCrew.Persistence

open Library Protocol

structure LogicalTurnContentWrite where
  (contentRef fingerprint contentKind : String)
  content : List UInt8
  createdAt : IsoTimestamp
  deriving DecidableEq

structure LogicalTurnContinuationTicket where
  logicalTurnId : LogicalTurnId
  continuationId : ContinuationId
  sessionId : SessionId
  reason : ContinuationYieldReason
  createdAt : IsoTimestamp
  deriving DecidableEq, Repr

structure LogicalTurnOutboxRecord where
  event : LogicalTurnLifecycleEvent
  deliveredAt : Option IsoTimestamp
  deriving DecidableEq, Repr

def LogicalTurnOutboxRecord.projectionId (row : LogicalTurnOutboxRecord) : TurnProjectionId :=
  row.event.projectionId

/-- An operation row. An update rewrites the stored record, its phase and its revision, but never
the columns `logical_turn_id`, `kind` and `idempotency_key` that queries and constraints read. -/
structure OperationRow where
  operationId : BrainOperationId
  logicalTurnId : LogicalTurnId
  kind : LogicalTurnOperationKind
  idempotencyKey : String
  record : LogicalTurnOperationRecord
  deriving DecidableEq, Repr

def OperationRow.ofRecord (operation : LogicalTurnOperationRecord) : OperationRow :=
  ⟨operation.operationId, operation.logicalTurnId, operation.kind, operation.idempotencyKey,
    operation⟩

structure CancelReceiptRow where
  logicalTurnId : LogicalTurnId
  idempotencyKey : String
  createdAt : IsoTimestamp
  receipt : LogicalTurnCancellationReceipt
  deriving DecidableEq, Repr

def CancelReceiptRow.key (row : CancelReceiptRow) : LogicalTurnId × String :=
  (row.logicalTurnId, row.idempotencyKey)

structure Store where
  turns : Table LogicalTurnRecord.logicalTurnId
  checkpoints : Table LogicalTurnCheckpoint.continuationId
  operations : Table OperationRow.operationId
  outbox : Table LogicalTurnOutboxRecord.projectionId
  tickets : Table LogicalTurnContinuationTicket.logicalTurnId
  cancelReceipts : Table CancelReceiptRow.key
  blobs : Table LogicalTurnContentWrite.contentRef
  deriving DecidableEq

def Store.empty : Store :=
  ⟨Table.empty, Table.empty, Table.empty, Table.empty, Table.empty, Table.empty, Table.empty⟩

def persistenceError (context error : String) : CoreError :=
  ⟨.persistenceFailure, context ++ ": " ++ error⟩

def logicalTurnNotFound : CoreError := ⟨.notFound, "logical turn not found"⟩

namespace Store

variable (s : Store)

def loadTurn (id : LogicalTurnId) : Option LogicalTurnRecord := s.turns.find? id

def loadCheckpoint (id : ContinuationId) : Option LogicalTurnCheckpoint :=
  s.checkpoints.find? id

def loadOperation (id : BrainOperationId) : Option LogicalTurnOperationRecord :=
  (s.operations.find? id).map OperationRow.record

def loadLogicalTurnContent (contentRef : String) : Option (List UInt8) :=
  (s.blobs.find? contentRef).map LogicalTurnContentWrite.content

def loadAllTurns : List LogicalTurnRecord :=
  s.turns.rows.insertionSort fun a b =>
    a.updatedAt < b.updatedAt ∨
      a.updatedAt = b.updatedAt ∧ a.logicalTurnId.raw ≤ b.logicalTurnId.raw

def insertTurn (record : LogicalTurnRecord) : CoreResult Store :=
  if (s.loadTurn record.logicalTurnId).isSome then
    .error ⟨.alreadyExists, "logical turn " ++ record.logicalTurnId.raw ++ " already exists"⟩
  else .ok { s with turns := s.turns.put record }

def updateTurn (record : LogicalTurnRecord) (expectedRevision : Nat) : CoreResult Store :=
  if (s.loadTurn record.logicalTurnId).map LogicalTurnRecord.revision = some expectedRevision then
    .ok { s with turns := s.turns.put record }
  else .error ⟨.actionRejected, "logical turn changed during atomic transition"⟩

def insertCheckpoint (checkpoint : LogicalTurnCheckpoint) : CoreResult Store :=
  if (s.loadCheckpoint checkpoint.continuationId).isSome then
    .error (persistenceError "insert logical turn checkpoint"
      "UNIQUE constraint failed: logical_brain_turn_checkpoints.continuation_id")
  else if s.checkpoints.rows.any fun row =>
      row.logicalTurnId = checkpoint.logicalTurnId ∧ row.sequence = checkpoint.sequence then
    .error (persistenceError "insert logical turn checkpoint"
      ("UNIQUE constraint failed: logical_brain_turn_checkpoints.logical_turn_id, " ++
        "logical_brain_turn_checkpoints.sequence"))
  else .ok { s with checkpoints := s.checkpoints.put checkpoint }

def insertOutbox (event : LogicalTurnLifecycleEvent) : CoreResult Store :=
  match s.outbox.find? event.projectionId with
  | some existing =>
    if existing.event ≠ event then
      .error ⟨.actionRejected,
        "logical turn projection id collides with a different lifecycle event"⟩
    else .ok s
  | none => .ok { s with outbox := s.outbox.put ⟨event, none⟩ }

def upsertTicket (ticket : LogicalTurnContinuationTicket) : Store :=
  { s with tickets := s.tickets.put ticket }

def deleteTicket (id : LogicalTurnId) : Store :=
  { s with tickets := s.tickets.erase id }

def insertContentBlob (content : LogicalTurnContentWrite) : CoreResult Store :=
  match s.blobs.find? content.contentRef with
  | some existing =>
    if (existing.fingerprint, existing.contentKind, existing.content) ≠
        (content.fingerprint, content.contentKind, content.content) then
      .error ⟨.actionRejected, "logical turn content ref collides with different bytes"⟩
    else .ok s
  | none => .ok { s with blobs := s.blobs.put content }

def insertOperation (operation : LogicalTurnOperationRecord) : CoreResult Store :=
  if (s.loadOperation operation.operationId).isSome then
    .error (persistenceError "insert logical turn operation"
      "UNIQUE constraint failed: logical_brain_turn_operations.operation_id")
  else if s.operations.rows.any fun row =>
      row.logicalTurnId = operation.logicalTurnId ∧
        row.idempotencyKey = operation.idempotencyKey then
    .error (persistenceError "insert logical turn operation"
      ("UNIQUE constraint failed: logical_brain_turn_operations.logical_turn_id, " ++
        "logical_brain_turn_operations.idempotency_key"))
  else .ok { s with operations := s.operations.put (.ofRecord operation) }

def updateOperation (operation : LogicalTurnOperationRecord)
    (expectedRevision : Nat) : CoreResult Store :=
  match s.operations.find? operation.operationId with
  | some row =>
    if row.record.revision = expectedRevision then
      .ok { s with operations := s.operations.put { row with record := operation } }
    else .error ⟨.actionRejected, "logical turn operation revision mismatch or missing"⟩
  | none => .error ⟨.actionRejected, "logical turn operation revision mismatch or missing"⟩

def operationsIn (id : LogicalTurnId) (kind : LogicalTurnOperationKind)
    (phase : LogicalTurnOperationPhase) : List LogicalTurnOperationRecord :=
  ((s.operations.select fun row =>
      row.logicalTurnId = id ∧ row.kind = kind ∧ row.record.phase = phase).insertionSort
    fun a b => a.operationId.raw ≤ b.operationId.raw).map OperationRow.record

def currentProgress (record : LogicalTurnRecord) : CoreResult LogicalTurnProgress :=
  orFail ((s.loadCheckpoint record.currentContinuationId).map LogicalTurnCheckpoint.progress)
    ⟨.persistenceFailure, "logical turn " ++ record.logicalTurnId.raw ++ " current checkpoint " ++
      record.currentContinuationId.raw ++ " is missing"⟩

end Store

def lifecycleForRecord (record : LogicalTurnRecord) (progress : LogicalTurnProgress)
    (kind : LogicalTurnLifecycleEventKind) (reasonCode summary : String)
    (occurredAt : IsoTimestamp) : LogicalTurnLifecycleEvent where
  projectionId := ⟨"projection:" ++ record.logicalTurnId.raw ++ ":" ++ toString record.revision ++
    ":" ++ kind.asStr⟩
  logicalTurnId := record.logicalTurnId
  sessionId := record.sessionId
  wakeId := record.sourceWakeId
  continuationId := record.currentContinuationId
  continuationCount := record.continuationSequence + 1
  executionEpochId := record.activeEpochId
  kind := kind
  phase := record.phase
  operatorState := .forPhase record.phase
  progressClassification := .forState record.phase record.attention.isSome progress
  progress := progress
  reasonCode := reasonCode
  summary := summary
  occurredAt := occurredAt
  logicalTurnRevision := record.revision

end RustyCrew.Persistence

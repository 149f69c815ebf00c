import RustyCrew.Library.ReadCommitted
import RustyCrew.Persistence.LogicalTurns

namespace RustyCrew.Persistence.Postgres

open Library Protocol

inductive Row where
  | turn (id : LogicalTurnId)
  | projection (id : TurnProjectionId)
  | ticket (id : LogicalTurnId)
  | cancelReceipt (key : LogicalTurnId × String)
  | checkpoint (id : ContinuationId)
  | operation (id : BrainOperationId)
  | blob (contentRef : String)
  deriving DecidableEq

abbrev Tx (α : Type) := Transaction Store Row (CoreResult α)

variable {α : Type}

def fail (failure : CoreError) : Tx α := .finish false (.error failure)

def uniqueViolation (context table : String) : CoreError :=
  ⟨.persistenceFailure, "[postgres_integrity_constraint_violation] " ++ context ++
    ": PostgreSQL SQLSTATE 23505: duplicate key value violates unique constraint \"" ++ table ++
    "_pkey\" (table=" ++ table ++ ", constraint=" ++ table ++ "_pkey)"⟩

def insertRow (row : Row) (taken : Store → Bool) (insert : Store → Store) (violation : CoreError)
    (next : Tx α) : Tx α :=
  .write row (fun shown s => if taken shown then s else insert s) fun shown =>
    if taken shown then fail violation else next

def insertOutboxPg (event : LogicalTurnLifecycleEvent) (next : Tx α) : Tx α :=
  .query fun shown =>
    match shown.outbox.find? event.projectionId with
    | some existing =>
      if existing.event ≠ event then
        fail ⟨.actionRejected,
          "logical turn projection id collides with a different lifecycle event"⟩
      else next
    | none =>
      insertRow (.projection event.projectionId)
        (fun shown => (shown.outbox.find? event.projectionId).isSome)
        (fun s => { s with outbox := s.outbox.put ⟨event, none⟩ })
        (uniqueViolation "insert PostgreSQL logical turn outbox event"
          "logical_brain_turn_projection_outbox") next

def updateTurnPg (record : LogicalTurnRecord) (expectedRevision : Nat) (next : Tx α) : Tx α :=
  let stored (s : Store) :=
    (s.loadTurn record.logicalTurnId).map LogicalTurnRecord.revision = some expectedRevision
  .write (.turn record.logicalTurnId)
    (fun shown s => if stored shown then { s with turns := s.turns.put record } else s)
    fun shown =>
      if stored shown then next
      else fail ⟨.actionRejected, "logical turn changed during atomic transition"⟩

def deleteTicketPg (id : LogicalTurnId) (next : Tx α) : Tx α :=
  .write (.ticket id) (fun _ s => s.deleteTicket id) fun _ => next

def currentProgressPg (record : LogicalTurnRecord) (next : LogicalTurnProgress → Tx α) : Tx α :=
  .query fun shown =>
    match shown.currentProgress record with
    | .ok progress => next progress
    | .error failure => fail failure

def saveCancelReceiptPg (request : LogicalTurnCancelRequest)
    (receipt : LogicalTurnCancellationReceipt) : Tx LogicalTurnCancellationReceipt :=
  insertRow (.cancelReceipt (request.logicalTurnId, request.idempotencyKey)) (fun shown =>
      (shown.cancelReceipts.find? (request.logicalTurnId, request.idempotencyKey)).isSome)
    (fun s => { s with cancelReceipts := s.cancelReceipts.put (cancelReceiptRow request receipt) })
    (uniqueViolation "save PostgreSQL cancellation receipt" "logical_brain_turn_cancel_receipts")
    (.finish true (.ok receipt))

def cancelActiveTurnPg (record : LogicalTurnRecord) (request : LogicalTurnCancelRequest)
    (next : LogicalTurnRecord → Tx α) : Tx α :=
  match requireRevision record request.expectedRevision with
  | .error failure => fail failure
  | .ok _ =>
    let cancelled := cancelledRecord record request.now
    currentProgressPg record fun progress =>
      insertOutboxPg (lifecycleForRecord (cancellingRecord record request.now) progress
          .cancelRequested "operator_cancel_requested" "logical turn cancellation requested"
          request.now) <|
        updateTurnPg cancelled record.revision <|
          insertOutboxPg (lifecycleForRecord cancelled progress .cancelled request.reasonCode
              request.summary request.now) <|
            deleteTicketPg cancelled.logicalTurnId (next cancelled)

/-- From `SELECT … FOR UPDATE` on, when no receipt was found. -/
def cancelLockedTurn (request : LogicalTurnCancelRequest) : Tx LogicalTurnCancellationReceipt :=
  .lock (.turn request.logicalTurnId) fun shown =>
    match shown.loadTurn request.logicalTurnId with
    | none => fail logicalTurnNotFound
    | some record =>
      if record.phase.isTerminal then saveCancelReceiptPg request ⟨record, false, true⟩
      else
        cancelActiveTurnPg record request fun cancelled =>
          saveCancelReceiptPg request ⟨cancelled, false, false⟩

def cancelLogicalTurn (request : LogicalTurnCancelRequest) : Tx LogicalTurnCancellationReceipt :=
  .query fun shown =>
    match shown.cancelReceipts.find? (request.logicalTurnId, request.idempotencyKey) with
    | some row => .finish false (.ok { row.receipt with replayed := true })
    | none => cancelLockedTurn request

/-- Two clients that cancel, over a store that no one else changes. -/
abbrev Clients := Database Bool Store Row (CoreResult LogicalTurnCancellationReceipt)

def Clients.start (s : Store) (requests : Bool → LogicalTurnCancelRequest) : Clients :=
  ⟨s, fun client => .start (cancelLogicalTurn (requests client))⟩

end RustyCrew.Persistence.Postgres

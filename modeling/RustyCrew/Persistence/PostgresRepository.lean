import RustyCrew.Library.Statements
import RustyCrew.Persistence.Postgres
import RustyCrew.Persistence.Repository

namespace RustyCrew.Persistence.Postgres

open Library RustyCrew.Library.Statement Protocol

abbrev PgM := Statement Store Row CoreError

variable {α : Type}

/-! ## Statements

Text is ordered byte by byte, as under the collation `C`. -/

def integrityViolation (context sqlstate detail table constraint : String) : CoreError :=
  ⟨.persistenceFailure, "[postgres_integrity_constraint_violation] " ++ context ++
    ": PostgreSQL SQLSTATE " ++ sqlstate ++ ": " ++ detail ++ " (table=" ++ table ++
    ", constraint=" ++ constraint ++ ")"⟩

def duplicateKey (context table constraint : String) : CoreError :=
  integrityViolation context "23505"
    ("duplicate key value violates unique constraint \"" ++ constraint ++ "\"") table constraint

def missingReference (context table constraint : String) : CoreError :=
  integrityViolation context "23503"
    ("insert or update on table \"" ++ table ++ "\" violates foreign key constraint \"" ++
      constraint ++ "\"") table constraint

def insertContent (content : LogicalTurnContentWrite) : PgM α Unit := do
  match ← select fun s : Store => s.blobs.find? content.contentRef with
  | some existing =>
    if (existing.fingerprint, existing.contentKind, existing.content) ≠
        (content.fingerprint, content.contentKind, content.content) then
      Statement.fail ⟨.actionRejected, "logical turn content ref collides with different bytes"⟩
    else pure ()
  | none =>
    execute (.blob content.contentRef) (fun s => (s.blobs.find? content.contentRef).map fun _ =>
        duplicateKey "insert PostgreSQL logical turn content" "logical_brain_turn_blobs"
          "logical_brain_turn_blobs_pkey")
      fun s => { s with blobs := s.blobs.put content }

variable (record : LogicalTurnRecord)

def insertTurn : PgM α Unit :=
  execute (.turn record.logicalTurnId) (fun s => (s.loadTurn record.logicalTurnId).map fun _ =>
      ⟨.alreadyExists, "logical turn " ++ record.logicalTurnId.raw ++ " already exists"⟩)
    fun s => { s with turns := s.turns.put record }

def insertCheckpoint (checkpoint : LogicalTurnCheckpoint) : PgM α Unit :=
  let violates := duplicateKey "insert PostgreSQL logical turn checkpoint"
    "logical_brain_turn_checkpoints"
  execute (.checkpoint checkpoint.continuationId) (fun s =>
      if (s.loadCheckpoint checkpoint.continuationId).isSome then
        some (violates "logical_brain_turn_checkpoints_pkey")
      else if s.checkpoints.rows.any fun row =>
          row.logicalTurnId = checkpoint.logicalTurnId ∧ row.sequence = checkpoint.sequence then
        some (violates "logical_brain_turn_checkpoints_logical_turn_id_sequence_key")
      else none)
    fun s => { s with checkpoints := s.checkpoints.put checkpoint }

/-- `UPDATE … SET checkpoint_json = $1 WHERE continuation_id = $2`, on a checkpoint that the
transaction has loaded. -/
def updateCheckpoint (checkpoint : LogicalTurnCheckpoint) : PgM α Unit :=
  execute (.checkpoint checkpoint.continuationId) (fun _ => none) fun s =>
    { s with checkpoints := s.checkpoints.put checkpoint }

def insertOutbox (event : LogicalTurnLifecycleEvent) : PgM α Unit := fun next =>
  insertOutboxPg event (next ())

def updateTurn (expectedRevision : Nat) : PgM α Unit := fun next =>
  updateTurnPg record expectedRevision (next ())

def deleteTicket (id : LogicalTurnId) : PgM α Unit := fun next => deleteTicketPg id (next ())

def currentProgress : PgM α LogicalTurnProgress :=
  currentProgressPg record

def upsertTicket (ticket : LogicalTurnContinuationTicket) : PgM α Unit :=
  execute (.ticket ticket.logicalTurnId) (fun _ => none) fun s =>
    { s with tickets := s.tickets.put ticket }

def loadTurnForUpdate (id : LogicalTurnId) : PgM α (Option LogicalTurnRecord) :=
  selectForUpdate (.turn id) fun s => s.loadTurn id

def loadCheckpoint (id : ContinuationId) : PgM α (Option LogicalTurnCheckpoint) :=
  select fun s => s.loadCheckpoint id

def loadOperation (id : BrainOperationId) : PgM α (Option LogicalTurnOperationRecord) :=
  selectForUpdate (.operation id) fun s => s.loadOperation id

variable (operation : LogicalTurnOperationRecord)

def operationViolation (s : Store) : Option CoreError :=
  let violates := duplicateKey "insert PostgreSQL logical turn operation"
    "logical_brain_turn_operations"
  if (s.loadOperation operation.operationId).isSome then
    some (violates "logical_brain_turn_operations_pkey")
  else if s.operations.rows.any fun row =>
      row.logicalTurnId = operation.logicalTurnId ∧
        row.idempotencyKey = operation.idempotencyKey then
    some (violates "logical_brain_turn_operations_logical_turn_id_idempotency_k_key")
  else none

def insertOperation : PgM α Unit :=
  execute (.operation operation.operationId) (operationViolation operation) fun s =>
    { s with operations := s.operations.put (.ofRecord operation) }

def insertOperationChecked : PgM α Unit :=
  execute (.operation operation.operationId) (fun s =>
      operationViolation operation s <|>
        if (s.loadTurn operation.logicalTurnId).isNone then
          some (missingReference "insert PostgreSQL logical turn operation"
            "logical_brain_turn_operations" "logical_brain_turn_operations_logical_turn_id_fkey")
        else none)
    fun s => { s with operations := s.operations.put (.ofRecord operation) }

def updateOperation (expectedRevision : Nat) : PgM α Unit :=
  execute (.operation operation.operationId) (fun s =>
      if (s.loadOperation operation.operationId).map LogicalTurnOperationRecord.revision =
          some expectedRevision then none
      else some ⟨.actionRejected, "logical turn operation revision mismatch or missing"⟩)
    fun s =>
      let operations := s.operations.update operation.operationId
        (fun row => row.record.revision = expectedRevision)
        fun row => { row with record := operation }
      { s with operations }

/-- `WHERE logical_turn_id=$1 AND kind='host_tool_execution' AND phase=…
ORDER BY operation_id FOR UPDATE` -/
def hostToolsForUpdate (id : LogicalTurnId)
    (phase : LogicalTurnOperationPhase) : PgM α (List LogicalTurnOperationRecord) :=
  selectAllForUpdate (fun s : Store =>
      ((s.operations.select fun row => row.logicalTurnId = id ∧ row.kind = .hostToolExecution ∧
          row.record.phase = phase).insertionSort fun a b =>
        a.operationId.raw ≤ b.operationId.raw).map OperationRow.record)
    fun operation => .operation operation.operationId

def markLeasedHostToolsOutcomeUnknown (id : LogicalTurnId)
    (now : IsoTimestamp) : PgM α (List LogicalTurnOperationRecord) := do
  let operations ← hostToolsForUpdate id .leased
  operations.forM fun operation =>
    updateOperation (Store.outcomeUnknownOperation now operation) operation.revision
  pure (operations.map (Store.outcomeUnknownOperation now))

def reconcileUnknownHostToolOperation
    (request : LogicalTurnAttentionResolutionRequest) : PgM α Unit := do
  if isToolConfirmation request.action then
    match ← hostToolsForUpdate record.logicalTurnId .outcomeUnknown with
    | [operation] =>
      updateOperation (Store.confirmedOperation request.action request.now operation)
        operation.revision
    | _ =>
      Statement.fail ⟨.actionRejected,
        "tool outcome confirmation requires exactly one outcome-unknown host operation"⟩
  else pure ()

/-! ## Transitions -/

def insertLogicalTurnAdmission (write : LogicalTurnAdmissionWrite) :
    PgM α LogicalTurnAdmission := do
  ofExcept (validateAdmission write)
  write.frozenContent.forM insertContent
  let record := write.admission.record
  insertTurn record
  insertCheckpoint write.admission.initialCheckpoint
  insertOutbox write.admission.lifecycleEvent
  upsertTicket (continuationTicket record .initialAdmission record.admittedAt)
  pure write.admission

def claimLogicalTurn (request : LogicalTurnClaimRequest) :
    PgM LogicalTurnContinuationClaim LogicalTurnContinuationClaim := do
  let record ← (loadTurnForUpdate request.logicalTurnId).required logicalTurnNotFound
  let checkpoint ← (loadCheckpoint request.continuationId).required
    ⟨.notFound, "logical turn checkpoint not found"⟩
  if record.phase = .running ∧ record.activeEpochId = some request.executionEpochId ∧
      record.claimHolder = some request.claimHolder then
    exit ⟨record, checkpoint, record.claimGeneration.getD 0, true⟩
  else
    ofExcept (requireRevision record request.expectedRevision)
    ofExcept (rejectIf
      (¬record.phase.isRunnable ∨ record.currentContinuationId ≠ request.continuationId ∨
        checkpoint.logicalTurnId ≠ record.logicalTurnId)
      ⟨.actionRejected, "logical turn is not claimable at the requested continuation"⟩)
    let claimed := claimedRecord record request
    updateTurn claimed record.revision
    deleteTicket claimed.logicalTurnId
    insertOutbox (lifecycleForRecord claimed checkpoint.progress .continuationClaimed
      "continuation_claimed" "logical turn continuation claimed for an execution epoch"
      request.now)
    pure ⟨claimed, checkpoint, record.claimGeneration.getD 0 + 1, false⟩

def yieldLogicalTurn (request : LogicalTurnYieldRequest) :
    PgM LogicalTurnYieldReceipt LogicalTurnYieldReceipt := do
  let record ← (loadTurnForUpdate request.logicalTurnId).required logicalTurnNotFound
  match ← loadCheckpoint request.checkpoint.continuationId with
  | some existing =>
    if existing = request.checkpoint ∧ record.currentContinuationId = existing.continuationId then
      exit ⟨record, existing, true⟩
    else
      Statement.fail ⟨.actionRejected,
        "logical turn continuation id already has different checkpoint content"⟩
  | none =>
    ofExcept (requireRunningFence record request.expectedRevision request.expectedEpochId
      request.expectedClaimGeneration request.expectedCancellationGeneration)
    ofExcept (validateYield record request)
    let yielded := yieldedRecord record request
    updateTurn yielded record.revision
    insertCheckpoint request.checkpoint
    insertOutbox request.lifecycleEvent
    upsertTicket (continuationTicket yielded request.checkpoint.yieldReason request.now)
    pure ⟨yielded, request.checkpoint, false⟩

def requireLogicalTurnAttention (request : LogicalTurnAttentionRequest) :
    PgM LogicalTurnAttentionReceipt LogicalTurnAttentionReceipt := do
  let record ← (loadTurnForUpdate request.logicalTurnId).required logicalTurnNotFound
  match ← loadCheckpoint request.checkpoint.continuationId with
  | some existing =>
    if existing = request.checkpoint ∧ record.currentContinuationId = existing.continuationId ∧
        record.phase = .attentionRequired ∧ record.attention = some request.attention then
      exit ⟨record, existing, true⟩
    else
      Statement.fail ⟨.actionRejected,
        "logical turn attention continuation id already has different content"⟩
  | none =>
    ofExcept (requireRunningFence record request.expectedRevision request.expectedEpochId
      request.expectedClaimGeneration request.expectedCancellationGeneration)
    ofExcept (validateAttention record request)
    let attending := attentionRecord record request
    updateTurn attending record.revision
    insertCheckpoint request.checkpoint
    insertOutbox request.lifecycleEvent
    deleteTicket attending.logicalTurnId
    pure ⟨attending, request.checkpoint, false⟩

def resolveLogicalTurnAttention (request : LogicalTurnAttentionResolutionRequest) :
    PgM α LogicalTurnAttentionResolutionReceipt := do
  let record ← (loadTurnForUpdate request.logicalTurnId).required logicalTurnNotFound
  ofExcept (validateAttentionResolution record request)
  let checkpoint ← (loadCheckpoint record.currentContinuationId).required
    ⟨.persistenceFailure, "attention-required logical turn has no current checkpoint"⟩
  reconcileUnknownHostToolOperation record request
  let resolved := resolvedRecord record request.now
  updateTurn resolved record.revision
  insertOutbox request.lifecycleEvent
  upsertTicket (continuationTicket resolved .operatorRequested request.now)
  pure ⟨resolved, checkpoint, request.action, false⟩

def completeLogicalTurn (request : LogicalTurnCompletionRequest) :
    PgM LogicalTurnRecord LogicalTurnRecord := do
  let record ← (loadTurnForUpdate request.logicalTurnId).required logicalTurnNotFound
  if record.phase.isTerminal then exit record
  else
    ofExcept (requireRunningFence record request.expectedRevision request.expectedEpochId
      request.expectedClaimGeneration request.expectedCancellationGeneration)
    let event := request.lifecycleEvent
    ofExcept (rejectIf ((event.kind ≠ .completed ∧ event.kind ≠ .failed) ∨
        (event.phase ≠ .completed ∧ event.phase ≠ .failed))
      ⟨.invalidInput, "logical turn completion requires completed or failed lifecycle event"⟩)
    ofExcept (validateLifecycleIdentity record event)
    ofExcept (rejectIf (event.continuationId ≠ record.currentContinuationId ∨
        event.executionEpochId ≠ some request.expectedEpochId ∨
        event.logicalTurnRevision ≠ record.revision + 1)
      ⟨.invalidInput,
        "logical turn completion lifecycle does not describe the active execution fence"⟩)
    let checkpoint ← (loadCheckpoint record.currentContinuationId).required
      ⟨.internalError, "logical turn completion checkpoint is missing"⟩
    updateCheckpoint { checkpoint with progress := event.progress }
    let completed := completedRecord record request
    updateTurn completed record.revision
    insertOutbox event
    deleteTicket completed.logicalTurnId
    pure completed

def leaseLogicalTurnOperation (request : LogicalTurnOperationLeaseRequest) :
    PgM LogicalTurnOperationRecord LogicalTurnOperationRecord := do
  let operation := request.operation
  let turn ← (loadTurnForUpdate operation.logicalTurnId).required logicalTurnNotFound
  ofExcept (requireRunningFence turn request.expectedTurnRevision operation.executionEpochId
    request.expectedClaimGeneration request.expectedCancellationGeneration)
  ofExcept (rejectIf
    (operation.phase ≠ .leased ∨ operation.revision ≠ 1 ∨ operation.resultRef.isSome ∨
      operation.resultPayload.isSome)
    ⟨.invalidInput,
      "logical turn operation lease must start at leased revision 1 without a result"⟩)
  match ← loadOperation operation.operationId with
  | some existing =>
    if existing = operation then exit existing
    else
      Statement.fail
        ⟨.alreadyExists, "logical turn operation id already exists with different content"⟩
  | none =>
    insertOperation operation
    pure operation

def completeLogicalTurnOperation (request : LogicalTurnOperationCompletionRequest) :
    PgM α LogicalTurnOperationRecord := do
  let turn ← (loadTurnForUpdate request.operation.logicalTurnId).required logicalTurnNotFound
  let completed ← ofExcept (Store.completedOperation turn request)
  ofExcept (rejectIf
    (completed.revision ≠ request.expectedOperationRevision + 1 ∨ completed.resultRef.isNone ∨
      completed.resultPayload.isNone)
    ⟨.invalidInput,
      "logical turn operation completion requires the next revision and durable result"⟩)
  let existing ← (loadOperation completed.operationId).required
    ⟨.notFound, "logical turn operation not found"⟩
  ofExcept (rejectIf (existing.revision ≠ request.expectedOperationRevision ∨
      existing.logicalTurnId ≠ completed.logicalTurnId ∨
      existing.continuationId ≠ completed.continuationId ∨
      existing.executionEpochId ≠ completed.executionEpochId ∨
      existing.requestFingerprint ≠ completed.requestFingerprint)
    ⟨.actionRejected, "logical turn operation changed before completion"⟩)
  updateOperation completed request.expectedOperationRevision
  pure completed

def markLogicalTurnOutboxDelivered (projectionId : TurnProjectionId)
    (deliveredAt : IsoTimestamp) : PgM α Unit :=
  execute (.projection projectionId) (fun _ => none) fun s =>
    let outbox := s.outbox.update projectionId (fun row => row.deliveredAt.isNone)
      fun row => { row with deliveredAt := some deliveredAt }
    { s with outbox }

/-! ## Hydration -/

def finalizeCancellation (now : IsoTimestamp) : PgM α Unit := do
  let cancelled := finalizedRecord record now
  updateTurn cancelled record.revision
  deleteTicket cancelled.logicalTurnId
  let progress ← currentProgress cancelled
  insertOutbox (lifecycleForRecord cancelled progress .cancelled
    "cancelled_during_restart_hydration"
    "logical turn cancellation was finalized during restart hydration" now)

def interruptTurn (unknownHostTools : Nat) (now : IsoTimestamp) : PgM α Unit := do
  let interrupted := interruptedRecord record unknownHostTools now
  updateTurn interrupted record.revision
  let progress ← currentProgress interrupted
  insertOutbox (lifecycleForRecord interrupted progress .attentionRequired
    "host_tool_outcome_unknown_after_restart"
    "logical turn requires operator resolution before it can continue" now)

def recoverTurn (now : IsoTimestamp) : PgM α Unit := do
  let recovered := recoveredRecord record now
  updateTurn recovered record.revision
  let progress ← currentProgress recovered
  insertOutbox (lifecycleForRecord recovered progress .continuationResumed
    "restart_recovery" "logical turn continuation recovered after service restart" now)
  upsertTicket (continuationTicket recovered .restartRecovery now)

def restoreTurn (now : IsoTimestamp) (report : LogicalTurnHydrationReport)
    (record : LogicalTurnRecord) (unknownHostTools : List LogicalTurnOperationRecord) :
    PgM α LogicalTurnHydrationReport := do
  if unknownHostTools ≠ [] then
    interruptTurn record unknownHostTools.length now
    pure { report with attentionRequired := report.attentionRequired + 1 }
  else if record.phase = .runnable then
    upsertTicket (continuationTicket record .restartRecovery now)
    pure { report with alreadyRunnable := report.alreadyRunnable + 1 }
  else
    recoverTurn record now
    pure { report with madeRunnable := report.madeRunnable + 1 }

def hydrateTurn (now : IsoTimestamp) (report : LogicalTurnHydrationReport)
    (record : LogicalTurnRecord) : PgM α LogicalTurnHydrationReport := do
  if record.phase.isTerminal then
    pure { report with terminalSkipped := report.terminalSkipped + 1 }
  else if record.phase = .attentionRequired then
    pure { report with attentionRequired := report.attentionRequired + 1 }
  else if record.phase = .cancelRequested then
    finalizeCancellation record now
    pure report
  else if record.phase = .running then
    let unknownHostTools ← markLeasedHostToolsOutcomeUnknown record.logicalTurnId now
    restoreTurn now report record unknownHostTools
  else restoreTurn now report record []

def loadAllTurnsForUpdate : PgM α (List LogicalTurnRecord) :=
  selectAllForUpdate (fun s : Store => s.turns.rows.insertionSort fun a b =>
      a.updatedAt < b.updatedAt ∨
        a.updatedAt = b.updatedAt ∧ a.logicalTurnId.raw ≤ b.logicalTurnId.raw)
    fun record => .turn record.logicalTurnId

def hydrateLogicalTurns (now : IsoTimestamp) :
    PgM α LogicalTurnHydrationReport := do
  let records ← loadAllTurnsForUpdate
  records.foldlM (hydrateTurn now) ⟨records.length, 0, 0, 0, 0, now⟩

/-! ## Queries -/

def listLogicalTurns (query : LogicalTurnDiagnosticQuery) :
    PgM α (List LogicalTurnRecord) :=
  select fun s => ((s.turns.select query.selects).insertionSort fun a b =>
    b.updatedAt < a.updatedAt ∨
      b.updatedAt = a.updatedAt ∧ b.logicalTurnId.raw ≤ a.logicalTurnId.raw).take query.rowLimit

def listLogicalTurnOperations (id : LogicalTurnId) :
    PgM α (List LogicalTurnOperationRecord) :=
  select fun s => ((s.operations.select fun row => row.logicalTurnId = id).insertionSort
    fun a b => a.operationId.raw ≤ b.operationId.raw).map OperationRow.record

def listLogicalTurnTickets : PgM α (List LogicalTurnContinuationTicket) :=
  select fun s => s.tickets.rows.insertionSort fun a b =>
    a.createdAt < b.createdAt ∨
      a.createdAt = b.createdAt ∧ a.logicalTurnId.raw ≤ b.logicalTurnId.raw

def listPendingLogicalTurnOutbox : PgM α (List LogicalTurnOutboxRecord) :=
  select fun s => (s.outbox.select fun row => row.deliveredAt.isNone).insertionSort fun a b =>
    a.event.occurredAt < b.event.occurredAt ∨
      a.event.occurredAt = b.event.occurredAt ∧ a.projectionId.raw ≤ b.projectionId.raw

/-! ## Every method -/

def answering {β : Type} (method : PgM β β) (answer : β → α) : Tx α :=
  (commit method).map (Except.map answer)

def apply : Op → Tx Response
  | .admitTurn write => answering (insertLogicalTurnAdmission write) .admitted
  | .claim request => answering (claimLogicalTurn request) .claimed
  | .yield request => answering (yieldLogicalTurn request) .yielded
  | .requireAttention request => answering (requireLogicalTurnAttention request) .attentionRequired
  | .resolveAttention request => answering (resolveLogicalTurnAttention request) .attentionResolved
  | .complete request => answering (completeLogicalTurn request) .completed
  | .cancel request => (cancelLogicalTurn request).map (Except.map .cancelled)
  | .leaseOperation request => answering (leaseLogicalTurnOperation request) .operationLeased
  | .completeOperation request =>
    answering (completeLogicalTurnOperation request) .operationCompleted
  | .markOutboxDelivered projectionId deliveredAt =>
    answering (markLogicalTurnOutboxDelivered projectionId deliveredAt) fun _ => .outboxDelivered
  | .hydrate now => answering (hydrateLogicalTurns now) .hydrated

def call : RepositoryCall → Tx RepositoryAnswer
  | .transition op => (apply op).map (Except.map .response)
  | .insertOperation operation =>
    answering (insertOperationChecked operation) fun _ => .operation operation
  | .updateOperation operation expectedRevision =>
    answering (updateOperation operation expectedRevision) fun _ => .operation operation
  | .getTurn id => answering (select fun s => s.loadTurn id) .turn
  | .listTurns query => answering (listLogicalTurns query) .turns
  | .getCheckpoint id => answering (loadCheckpoint id) .checkpoint
  | .loadContent contentRef =>
    answering (select fun s => s.loadLogicalTurnContent contentRef) .content
  | .listOperations id => answering (listLogicalTurnOperations id) .operations
  | .listTickets => answering (listLogicalTurnTickets) .tickets
  | .listPendingOutbox => answering (listPendingLogicalTurnOutbox) .outbox

/-- What a call answers and leaves when no other one runs. -/
def serve (s : Store) (method : RepositoryCall) :
    CoreResult RepositoryAnswer × Store :=
  (call method).alone s []

end RustyCrew.Persistence.Postgres

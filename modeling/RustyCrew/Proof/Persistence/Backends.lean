import RustyCrew.Persistence.PostgresRepository

namespace RustyCrew.Proof.Persistence.Backends

open Library RustyCrew.Library.Statement Protocol RustyCrew.Persistence Postgres
open RustyCrew.Persistence.Postgres (PgM Row Tx)

variable {α : Type} {record : LogicalTurnRecord} {id : LogicalTurnId} {now : IsoTimestamp}

def backends : Comparison Store Store CoreError where
  states := Eq
  errors failure raised := failure.kind = raised.kind

/-! ## Statements -/

theorem reads_check {β : Type} {result : CoreResult β} :
    Reads backends (ofExcept result : PgM α β) (fun _ => result) Eq :=
  reads_ofExcept (fun _ => rfl) result

theorem reads_turn :
    Reads backends ((loadTurnForUpdate id).required logicalTurnNotFound : PgM α _)
      (fun t => orFail (t.loadTurn id) logicalTurnNotFound) Eq := by
  apply reads_required (fun _ => rfl)
  apply reads_selectForUpdate
  rintro t s rfl
  rfl

theorem reads_loadCheckpoint {id : ContinuationId} :
    Reads backends (loadCheckpoint id : PgM α (Option LogicalTurnCheckpoint))
      (fun t => .ok (t.loadCheckpoint id)) Eq := by
  apply reads_select
  rintro t s rfl
  rfl

theorem reads_checkpoint {id : ContinuationId} {failure : CoreError} :
    Reads backends ((loadCheckpoint id).required failure : PgM α _)
      (fun t => orFail (t.loadCheckpoint id) failure) Eq :=
  reads_required (fun _ => rfl) failure reads_loadCheckpoint

theorem reads_loadOperation {id : BrainOperationId} :
    Reads backends (loadOperation id : PgM α (Option LogicalTurnOperationRecord))
      (fun t => .ok (t.loadOperation id)) Eq := by
  apply reads_selectForUpdate
  rintro t s rfl
  rfl

theorem reads_currentProgress :
    Reads backends (currentProgress record : PgM α LogicalTurnProgress)
      (fun t => t.currentProgress record) Eq := by
  refine ⟨fun {δ Q next start edits t g} states rest => ?_⟩
  cases states
  simp only [currentProgress, currentProgressPg, Transaction.alone]
  cases looked : (replay edits start).currentProgress record with
  | ok progress => exact rest _ _ looked rfl
  | error failure => exact .error rfl

theorem reads_operation {id : BrainOperationId} {failure : CoreError} :
    Reads backends ((loadOperation id).required failure : PgM α _)
      (fun t => orFail (t.loadOperation id) failure) Eq :=
  reads_required (fun _ => rfl) failure reads_loadOperation

theorem writes_execute_same {row : Row} {refusal : Store → Option CoreError} {edit : Store → Store}
    {f : Store → CoreResult Store}
    (same : ∀ s, match refusal s with
      | none => f s = .ok (edit s)
      | some raised => ∃ failure, f s = .error failure ∧ failure.kind = raised.kind) :
    Writes backends (execute row refusal edit : PgM α Unit) f := by
  intro t
  have here := same t
  cases refused : refusal t with
  | none =>
    rw [refused] at here
    rw [here]
    apply simulates_execute
    rintro s rfl
    exact ⟨refused, rfl⟩
  | some raised =>
    rw [refused] at here
    obtain ⟨failure, rejected, kind⟩ := here
    rw [rejected]
    apply simulates_refused
    rintro s rfl
    exact ⟨raised, refused, kind⟩

theorem writes_insertTurn :
    Writes backends (insertTurn record : PgM α Unit) fun t => t.insertTurn record := by
  apply writes_execute_same
  intro s
  cases stored : s.loadTurn record.logicalTurnId with
  | none | some => simp [Store.insertTurn, stored]

theorem writes_insertCheckpoint :
    Writes backends (insertCheckpoint checkpoint : PgM α Unit) fun t =>
      t.insertCheckpoint checkpoint := by
  apply writes_execute_same
  intro s
  unfold Store.insertCheckpoint
  by_cases present : (s.loadCheckpoint checkpoint.continuationId).isSome
  · simp only [present, if_true]
    exact ⟨_, rfl, rfl⟩
  · by_cases taken : s.checkpoints.rows.any fun row =>
        row.logicalTurnId = checkpoint.logicalTurnId ∧ row.sequence = checkpoint.sequence
    · simp only [present, taken]
      exact ⟨_, rfl, rfl⟩
    · simp only [present, taken]
      rfl

theorem writes_updateCheckpoint :
    Writes backends (updateCheckpoint checkpoint : PgM α Unit) fun t =>
      .ok (t.updateCheckpoint checkpoint) :=
  writes_execute_same fun _ => rfl

theorem writes_upsertTicket {ticket : LogicalTurnContinuationTicket} :
    Writes backends (upsertTicket ticket : PgM α Unit) fun t => .ok (t.upsertTicket ticket) :=
  writes_execute_same fun _ => rfl

theorem writes_deleteTicket :
    Writes backends (deleteTicket id : PgM α Unit) fun t => .ok (t.deleteTicket id) := by
  have written : (deleteTicket id : PgM α Unit) =
      execute (.ticket id) (fun _ => none) fun s => s.deleteTicket id := rfl
  rw [written]
  exact writes_execute_same fun _ => rfl

theorem writes_updateTurn :
    Writes backends (updateTurn record revision : PgM α Unit) fun t =>
      t.updateTurn record revision := by
  intro t
  refine ⟨fun {δ Q next start edits g} states rest => ?_⟩
  cases states
  beta_reduce at rest ⊢
  unfold Store.updateTurn at rest ⊢
  split
  · next stored =>
    simp only [updateTurn, updateTurnPg, Transaction.alone, stored, if_true]
    refine rest _ _ _ (by rw [if_pos stored]) ?_
    simp [backends]
  · next stale =>
    simp only [updateTurn, updateTurnPg, Transaction.alone, stale, if_false]
    exact .error rfl

theorem writes_insertOutbox :
    Writes backends (insertOutbox event : PgM α Unit) fun t => t.insertOutbox event := by
  intro t
  refine ⟨fun {δ Q next start edits g} states rest => ?_⟩
  cases states
  beta_reduce at rest ⊢
  unfold Store.insertOutbox at rest ⊢
  simp only [insertOutbox, insertOutboxPg, Transaction.alone]
  cases stored : (replay edits start).outbox.find? event.projectionId with
  | some existing =>
    simp only [stored] at rest ⊢
    split
    · exact .error rfl
    · next same => exact rest _ _ _ (by rw [if_neg same]) rfl
  | none =>
    simp only [Postgres.insertRow, Transaction.alone, stored, Option.isSome_none,
      Bool.false_eq_true, if_false] at rest ⊢
    refine rest _ _ _ rfl ?_
    simp [backends]

theorem writes_insertContent :
    Writes backends (insertContent content : PgM α Unit) fun t => t.insertContentBlob content := by
  intro t
  have look : Reads backends (select fun s : Store => s.blobs.find? content.contentRef : PgM α _)
      (fun t => .ok (t.blobs.find? content.contentRef)) Eq := by
    apply reads_select
    rintro t s rfl
    rfl
  refine simulates_see look ?_
  beta_reduce
  unfold Store.insertContentBlob
  cases stored : t.blobs.find? content.contentRef with
  | some existing =>
    simp only
    split
    · exact simulates_fail rfl
    · exact simulates_pure fun _ => id
  | none =>
    apply simulates_execute
    rintro s rfl
    exact ⟨by simp [stored], rfl⟩

theorem writes_insertOperation :
    Writes backends (insertOperation operation : PgM α Unit) fun t =>
      t.insertOperation operation := by
  apply writes_execute_same
  intro s
  unfold operationViolation Store.insertOperation
  by_cases present : (s.loadOperation operation.operationId).isSome
  · simp only [present, if_true]
    exact ⟨_, rfl, rfl⟩
  · by_cases taken : s.operations.rows.any fun row =>
        row.logicalTurnId = operation.logicalTurnId ∧ row.idempotencyKey = operation.idempotencyKey
    · simp only [present, taken]
      exact ⟨_, rfl, rfl⟩
    · simp only [present, taken]
      rfl

theorem writes_insertOperationChecked :
    Writes backends (insertOperationChecked operation : PgM α Unit) fun t =>
      t.insertLogicalTurnOperation operation := by
  apply writes_execute_same
  intro s
  unfold operationViolation Store.insertLogicalTurnOperation Store.insertOperation
  by_cases present : (s.loadOperation operation.operationId).isSome
  · simp only [present, if_true]
    exact ⟨_, rfl, rfl⟩
  · by_cases taken : s.operations.rows.any fun row =>
        row.logicalTurnId = operation.logicalTurnId ∧ row.idempotencyKey = operation.idempotencyKey
    · simp only [present, taken]
      exact ⟨_, rfl, rfl⟩
    · by_cases missing : (s.loadTurn operation.logicalTurnId).isNone
      · simp only [present, taken, missing, rejectIf, if_true]
        exact ⟨_, rfl, rfl⟩
      · simp only [present, taken, missing, rejectIf]
        rfl

theorem writes_updateOperation :
    Writes backends (updateOperation operation revision : PgM α Unit) fun t =>
      t.updateOperation operation revision := by
  apply writes_execute_same
  intro s
  cases found : s.operations.find? operation.operationId with
  | none => simp [Store.updateOperation, Store.loadOperation, found]
  | some row =>
    by_cases current : row.record.revision = revision
    · simp [Store.updateOperation, Store.loadOperation, Table.update, found, current]
    · simp [Store.updateOperation, Store.loadOperation, found, current]

theorem writes_markLogicalTurnOutboxDelivered (projectionId deliveredAt) :
    Writes backends (markLogicalTurnOutboxDelivered projectionId deliveredAt : PgM α Unit)
      fun t => .ok (t.markLogicalTurnOutboxDelivered projectionId deliveredAt) := by
  apply writes_execute_same
  intro s
  cases found : s.outbox.find? projectionId with
  | none => simp [Store.markLogicalTurnOutboxDelivered, Table.update, found]
  | some row =>
    obtain ⟨event, delivered⟩ := row
    cases delivered <;> simp [Store.markLogicalTurnOutboxDelivered, Table.update, found]

/-! ## Parts of transitions -/

theorem reads_hostToolsForUpdate :
    Reads backends (hostToolsForUpdate id phase : PgM α _)
      (fun t => .ok (t.operationsIn id .hostToolExecution phase)) Eq := by
  apply reads_selectAllForUpdate
  rintro t s rfl
  rfl

theorem performs_markLeased :
    Performs backends (markLeasedHostToolsOutcomeUnknown id now : PgM α _)
      (fun t => t.markLeasedHostToolsOutcomeUnknown id now) Eq := by
  intro t
  refine simulates_see reads_hostToolsForUpdate ?_
  refine simulates_write (writes_forM (fun _ => writes_updateOperation) _) ?_
  intro t
  exact simulates_return

theorem writes_reconcile :
    Writes backends (reconcileUnknownHostToolOperation record request : PgM α Unit)
      fun t => t.reconcileUnknownHostToolOperation record request := by
  intro t
  beta_reduce
  unfold reconcileUnknownHostToolOperation Store.reconcileUnknownHostToolOperation
  split
  · refine simulates_see reads_hostToolsForUpdate ?_
    generalize t.operationsIn record.logicalTurnId .hostToolExecution .outcomeUnknown = operations
    match operations with
    | [operation] => exact writes_updateOperation t
    | [] => exact simulates_fail rfl
    | _ :: _ :: _ => exact simulates_fail rfl
  · exact simulates_pure fun _ => id

/-! ## Transitions -/

section
variable (t : Store)

theorem answers_admission (write) : Answers backends t (insertLogicalTurnAdmission write)
      (t.insertLogicalTurnAdmission write) Eq := by
  apply answers_simulates
  refine simulates_look reads_check fun _ => ?_
  refine simulates_write (writes_forM (fun _ => writes_insertContent) _) fun t => ?_
  refine simulates_write writes_insertTurn fun t => ?_
  refine simulates_write writes_insertCheckpoint fun t => ?_
  refine simulates_write writes_insertOutbox fun t => ?_
  refine simulates_set writes_upsertTicket ?_
  exact simulates_return

theorem answers_claim (request) :
    Answers backends t (claimLogicalTurn request) (t.claimLogicalTurn request) Eq := by
  refine answers_look reads_turn fun record => ?_
  refine answers_look reads_checkpoint fun checkpoint => ?_
  split
  · exact answers_exit rfl
  · apply answers_simulates
    refine simulates_look reads_check fun _ => ?_
    refine simulates_look reads_check fun _ => ?_
    refine simulates_write writes_updateTurn fun t => ?_
    refine simulates_set writes_deleteTicket ?_
    refine simulates_write writes_insertOutbox fun t => ?_
    exact simulates_return

theorem answers_yield (request) :
    Answers backends t (yieldLogicalTurn request) (t.yieldLogicalTurn request) Eq := by
  refine answers_look reads_turn fun record => ?_
  refine answers_see reads_loadCheckpoint ?_
  cases t.loadCheckpoint request.checkpoint.continuationId with
  | some existing =>
    simp only
    split
    · exact answers_exit rfl
    · exact answers_fail rfl
  | none =>
    apply answers_simulates
    refine simulates_look reads_check fun _ => ?_
    refine simulates_look reads_check fun _ => ?_
    refine simulates_write writes_updateTurn fun t => ?_
    refine simulates_write writes_insertCheckpoint fun t => ?_
    refine simulates_write writes_insertOutbox fun t => ?_
    refine simulates_set writes_upsertTicket ?_
    exact simulates_return

theorem answers_requireAttention (request) :
    Answers backends t (requireLogicalTurnAttention request)
      (t.requireLogicalTurnAttention request) Eq := by
  refine answers_look reads_turn fun record => ?_
  refine answers_see reads_loadCheckpoint ?_
  cases t.loadCheckpoint request.checkpoint.continuationId with
  | some existing =>
    simp only
    split
    · exact answers_exit rfl
    · exact answers_fail rfl
  | none =>
    apply answers_simulates
    refine simulates_look reads_check fun _ => ?_
    refine simulates_look reads_check fun _ => ?_
    refine simulates_write writes_updateTurn fun t => ?_
    refine simulates_write writes_insertCheckpoint fun t => ?_
    refine simulates_write writes_insertOutbox fun t => ?_
    refine simulates_set writes_deleteTicket ?_
    exact simulates_return

theorem answers_resolveAttention (request) :
    Answers backends t (resolveLogicalTurnAttention request)
      (t.resolveLogicalTurnAttention request) Eq := by
  apply answers_simulates
  refine simulates_look reads_turn fun record => ?_
  refine simulates_look reads_check fun _ => ?_
  refine simulates_look reads_checkpoint fun checkpoint => ?_
  refine simulates_write writes_reconcile fun t => ?_
  refine simulates_write writes_updateTurn fun t => ?_
  refine simulates_write writes_insertOutbox fun t => ?_
  refine simulates_set writes_upsertTicket ?_
  exact simulates_return

theorem answers_leaseOperation (request) : Answers backends t (leaseLogicalTurnOperation request)
      (t.leaseLogicalTurnOperation request) Eq := by
  refine answers_look reads_turn fun turn => ?_
  refine answers_look reads_check fun _ => ?_
  refine answers_look reads_check fun _ => ?_
  refine answers_see reads_loadOperation ?_
  cases t.loadOperation request.operation.operationId with
  | some existing =>
    simp only
    split
    · exact answers_exit rfl
    · exact answers_fail rfl
  | none =>
    apply answers_simulates
    refine simulates_write writes_insertOperation fun t => ?_
    exact simulates_return

theorem answers_complete (request) :
    Answers backends t (completeLogicalTurn request) (t.completeLogicalTurn request) Eq := by
  refine answers_look reads_turn fun record => ?_
  split
  · exact answers_exit rfl
  · apply answers_simulates
    simp only [validateCompletion, bind_assoc]
    refine simulates_look reads_check fun _ => ?_
    refine simulates_look reads_check fun _ => ?_
    refine simulates_look reads_check fun _ => ?_
    refine simulates_look reads_check fun _ => ?_
    refine simulates_look reads_checkpoint fun checkpoint => ?_
    refine simulates_set writes_updateCheckpoint ?_
    refine simulates_write writes_updateTurn fun t => ?_
    refine simulates_write writes_insertOutbox fun t => ?_
    refine simulates_set writes_deleteTicket ?_
    exact simulates_return

theorem answers_completeOperation (request) :
    Answers backends t (completeLogicalTurnOperation request)
      (t.completeLogicalTurnOperation request) Eq := by
  apply answers_simulates
  refine simulates_look reads_turn fun turn => ?_
  refine simulates_look reads_check fun completed => ?_
  refine simulates_look reads_check fun _ => ?_
  refine simulates_look reads_operation fun existing => ?_
  refine simulates_look reads_check fun _ => ?_
  refine simulates_write writes_updateOperation fun t => ?_
  exact simulates_return

end

/-! ## Hydration -/

theorem writes_finalizeCancellation :
    Writes backends (finalizeCancellation record now : PgM α Unit) fun t =>
      t.finalizeCancellation record now := by
  intro t
  refine simulates_write writes_updateTurn fun t => ?_
  refine simulates_set writes_deleteTicket ?_
  refine simulates_look reads_currentProgress fun progress => ?_
  exact writes_insertOutbox _

theorem writes_interruptTurn :
    Writes backends (interruptTurn record unknown now : PgM α Unit) fun t =>
      t.interruptTurn record unknown now := by
  intro t
  refine simulates_write writes_updateTurn fun t => ?_
  refine simulates_look reads_currentProgress fun progress => ?_
  exact writes_insertOutbox _

theorem writes_recoverTurn :
    Writes backends (recoverTurn record now : PgM α Unit) fun t => t.recoverTurn record now := by
  intro t
  refine simulates_write writes_updateTurn fun t => ?_
  refine simulates_look reads_currentProgress fun progress => ?_
  refine simulates_write writes_insertOutbox fun t => ?_
  exact writes_upsertTicket _

theorem performs_restoreTurn (now report record) (unknown : List LogicalTurnOperationRecord) :
    Performs backends (restoreTurn now report record unknown : PgM α _) (fun t =>
        if unknown ≠ [] then do
          let t ← t.interruptTurn record unknown.length now
          .ok (t, { report with attentionRequired := report.attentionRequired + 1 })
        else if record.phase = .runnable then
          .ok (t.upsertTicket (continuationTicket record .restartRecovery now),
            { report with alreadyRunnable := report.alreadyRunnable + 1 })
        else do
          let t ← t.recoverTurn record now
          .ok (t, { report with madeRunnable := report.madeRunnable + 1 })) Eq := by
  intro t
  beta_reduce
  unfold restoreTurn
  split
  · refine simulates_write writes_interruptTurn fun t => ?_
    exact simulates_return
  split
  · refine simulates_set writes_upsertTicket ?_
    exact simulates_return
  · refine simulates_write writes_recoverTurn fun t => ?_
    exact simulates_return

theorem performs_hydrateTurn (now report record) :
    Performs backends (hydrateTurn now report record : PgM α _)
      (fun t => Store.hydrateTurn now (t, report) record) Eq := by
  intro t
  unfold hydrateTurn
  simp only [Store.hydrateTurn]
  split
  · exact simulates_return
  split
  · exact simulates_return
  split
  · refine simulates_write writes_finalizeCancellation fun t => ?_
    exact simulates_return
  split
  · refine simulates_bind performs_markLeased ?_
    rintro t unknown _ rfl
    exact performs_restoreTurn now report record unknown t
  · exact performs_restoreTurn now report record [] t

theorem answers_hydrate (t : Store) (now) :
    Answers backends t (hydrateLogicalTurns now) (t.hydrateLogicalTurns now) Eq := by
  apply answers_simulates
  have look : Reads backends (loadAllTurnsForUpdate : PgM LogicalTurnHydrationReport _)
      (fun t => .ok t.loadAllTurns) Eq := by
    apply reads_selectAllForUpdate
    rintro t s rfl
    rfl
  refine simulates_see look ?_
  exact performs_foldlM (performs_hydrateTurn now) _ _ t

/-! ## Cancellation -/

def cancelActiveStatements (record : LogicalTurnRecord) (request : LogicalTurnCancelRequest) :
    PgM α LogicalTurnRecord := do
  ofExcept (requireRevision record request.expectedRevision)
  let progress ← currentProgress record
  insertOutbox (lifecycleForRecord (cancellingRecord record request.now) progress
    .cancelRequested "operator_cancel_requested" "logical turn cancellation requested" request.now)
  updateTurn (cancelledRecord record request.now) record.revision
  insertOutbox (lifecycleForRecord (cancelledRecord record request.now) progress
    .cancelled request.reasonCode request.summary request.now)
  deleteTicket (cancelledRecord record request.now).logicalTurnId
  pure (cancelledRecord record request.now)

theorem cancelActiveTurnPg_eq (record request) :
    (cancelActiveTurnPg record request : PgM α LogicalTurnRecord) =
      cancelActiveStatements record request := by
  funext next
  unfold cancelActiveTurnPg cancelActiveStatements
  cases requireRevision record request.expectedRevision <;> rfl

theorem performs_cancelActiveTurn (record request) :
    Performs backends (cancelActiveTurnPg record request : PgM α LogicalTurnRecord)
      (fun t => t.cancelActiveTurn record request) Eq := by
  rw [cancelActiveTurnPg_eq]
  intro t
  refine simulates_look reads_check fun _ => ?_
  refine simulates_look reads_currentProgress fun progress => ?_
  refine simulates_write writes_insertOutbox fun t => ?_
  refine simulates_write writes_updateTurn fun t => ?_
  refine simulates_write writes_insertOutbox fun t => ?_
  refine simulates_set writes_deleteTicket ?_
  exact simulates_return

theorem agrees_saveCancelReceipt (request receipt) {edits : List (Store → Store)}
    (states : backends.states t (replay edits start)) :
    Agrees backends start Eq ((saveCancelReceiptPg request receipt).alone start edits)
      (t.insertCancelReceipt request receipt >>= fun t => .ok (t, receipt)) := by
  cases states
  simp only [saveCancelReceiptPg, Postgres.insertRow, Transaction.alone, Store.insertCancelReceipt]
  split
  · exact .error rfl
  · refine .ok ?_ rfl
    simp [backends]

theorem agrees_cancel (s : Store) (request) :
    Agrees backends s Eq ((cancelLogicalTurn request).alone s [])
      (s.cancelLogicalTurn request) := by
  simp only [cancelLogicalTurn, Store.cancelLogicalTurn, Transaction.alone, replay_nil]
  cases s.cancelReceipts.find? (request.logicalTurnId, request.idempotencyKey) with
  | some row => exact .ok rfl rfl
  | none =>
    simp only [cancelLockedTurn, Transaction.alone, replay_nil]
    cases s.loadTurn request.logicalTurnId with
    | none => exact .error rfl
    | some record =>
      simp only [orFail, ok_bind]
      split
      · next terminal =>
        rw [terminal]
        exact agrees_saveCancelReceipt request _ rfl
      · next active =>
        rw [Bool.not_eq_true] at active
        rw [active]
        refine (performs_cancelActiveTurn record request s).leads rfl ?_
        rintro edits' ⟨t, cancelled⟩ _ - ⟨states, rfl⟩
        exact agrees_saveCancelReceipt request _ states

/-! ## Every method -/

theorem agrees_map {β γ δ : Type} {P : γ → α → Prop} {Q : δ → β → Prop} {f : α → β} {g : γ → δ}
    {start : Store} {transaction : Tx α} {result : CoreResult (Store × γ)}
    (agrees : Agrees backends start P (transaction.alone start []) result)
    (answers : ∀ c a, P c a → Q (g c) (f a)) :
    Agrees backends start Q ((transaction.map (Except.map f)).alone start [])
      (result >>= fun r => .ok (r.1, g r.2)) := by
  rw [Transaction.alone_map]
  generalize transaction.alone start [] = outcome at agrees ⊢
  cases agrees with
  | ok states same => exact .ok states (answers _ _ same)
  | error errors => exact .error errors

theorem agrees_answering {β : Type} {t : Store} {method : PgM β β} {result : CoreResult (Store × β)}
    (answer : β → α) (answers : Answers backends t method result Eq) :
    Agrees backends t Eq ((Postgres.answering method answer).alone t [])
      (result >>= fun r => .ok (r.1, answer r.2)) := by
  refine agrees_map (answers t rfl) ?_
  rintro c _ rfl
  rfl

theorem agrees_writing {t : Store} {write : PgM Unit Unit} {f : Store → CoreResult Store}
    {answer : α} (writes : Writes backends write f) :
    Agrees backends t Eq ((Postgres.answering write fun _ => answer).alone t [])
      (f t >>= fun s => .ok (s, answer)) := by
  have agrees := agrees_answering (fun _ => answer) (answers_writes (t := t) writes)
  rw [bind_assoc] at agrees
  exact agrees

theorem agrees_apply (t : Store) (op : Op) :
    Agrees backends t Eq ((Postgres.apply op).alone t []) (t.apply op) := by
  cases op with
  | admitTurn write => exact agrees_answering _ (answers_admission t write)
  | claim request => exact agrees_answering _ (answers_claim t request)
  | yield request => exact agrees_answering _ (answers_yield t request)
  | requireAttention request => exact agrees_answering _ (answers_requireAttention t request)
  | resolveAttention request => exact agrees_answering _ (answers_resolveAttention t request)
  | complete request => exact agrees_answering _ (answers_complete t request)
  | cancel request =>
    refine agrees_map (agrees_cancel t request) ?_
    rintro receipt _ rfl
    rfl
  | leaseOperation request => exact agrees_answering _ (answers_leaseOperation t request)
  | completeOperation request => exact agrees_answering _ (answers_completeOperation t request)
  | markOutboxDelivered projectionId deliveredAt =>
    exact agrees_answering _ (answers_writes
      (writes_markLogicalTurnOutboxDelivered projectionId deliveredAt))
  | hydrate now => exact agrees_answering _ (answers_hydrate t now)

theorem agrees_call (t : Store) (call) :
    Agrees backends t Eq ((Postgres.call call).alone t []) (t.call call) := by
  cases call with
  | transition op =>
    refine agrees_map (agrees_apply t op) ?_
    rintro response _ rfl
    rfl
  | insertOperation operation => exact agrees_writing writes_insertOperationChecked
  | updateOperation operation revision => exact agrees_writing writes_updateOperation
  | getTurn id => exact .ok rfl rfl
  | listTurns query => exact .ok rfl rfl
  | getCheckpoint id => exact .ok rfl rfl
  | loadContent contentRef => exact .ok rfl rfl
  | listOperations id => exact .ok rfl rfl
  | listTickets => exact .ok rfl rfl
  | listPendingOutbox => exact .ok rfl rfl

/-! ## Whole runs -/

def SameOutcome : CoreResult RepositoryAnswer → CoreResult RepositoryAnswer → Prop
  | .ok answer, .ok answer' => answer = answer'
  | .error failure, .error failure' => failure.kind = failure'.kind
  | _, _ => False

theorem serve_agrees (s : Store) (call) : SameOutcome (s.serve call).1 (Postgres.serve s call).1 ∧
      (s.serve call).2 = (Postgres.serve s call).2 := by
  have agrees := agrees_call s call
  unfold Store.serve Postgres.serve
  generalize (Postgres.call call).alone s [] = outcome at agrees ⊢
  cases result : s.call call with
  | ok r =>
    rw [result] at agrees
    cases agrees with
    | ok states answers => exact ⟨answers, states⟩
  | error failure =>
    rw [result] at agrees
    cases agrees with
    | error errors => exact ⟨errors, rfl⟩

/-- Whatever the calls, the two repositories answer alike and hold the same tables after each of
them. -/
theorem backends_agree (calls : List RepositoryCall) :
    List.Forall₂ (fun sqlite postgres => SameOutcome sqlite.1 postgres.1 ∧ sqlite.2 = postgres.2)
      (outcomes Store.serve Store.empty calls) (outcomes Postgres.serve Store.empty calls) := by
  generalize Store.empty = s
  induction calls generalizing s with
  | nil => exact .nil
  | cons call calls ih =>
    obtain ⟨answers, states⟩ := serve_agrees s call
    refine .cons ⟨answers, states⟩ ?_
    rw [← states]
    exact ih _

end RustyCrew.Proof.Persistence.Backends

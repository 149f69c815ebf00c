import RustyCrew.Proof.Lifecycle.Consistency
import RustyCrew.Proof.Lifecycle.Advance

namespace RustyCrew.Proof.Lifecycle

open Library Protocol RustyCrew.Persistence RustyCrew.Lifecycle Table OperationRow List
open RustyCrew.Proof.Persistence

/-! ## The life of one durable operation -/

inductive RowStep (op : Op) (row : OperationRow) : OperationRow → Prop where
  | kept : RowStep op row row
  | completed {request : LogicalTurnOperationCompletionRequest}
      {turn : LogicalTurnRecord} {operation : LogicalTurnOperationRecord}
      (called : op = .completeOperation request)
      (target : row.operationId = request.operation.operationId)
      (revision : row.record.revision = request.expectedOperationRevision)
      (accepted : Store.completedOperation turn request = .ok operation)
      (continuation : row.record.continuationId = operation.continuationId)
      (fingerprint : row.record.requestFingerprint = operation.requestFingerprint) :
      RowStep op row { row with record := operation }
  | interrupted {now : IsoTimestamp} (called : op = .hydrate now)
      (leased : isHostTool row .leased = true) :
      RowStep op row { row with record := Store.outcomeUnknownOperation now row.record }
  | confirmed {request : LogicalTurnAttentionResolutionRequest}
      (called : op = .resolveAttention request)
      (unknown : isHostTool row .outcomeUnknown = true) :
      RowStep op row
        { row with record := Store.confirmedOperation request.action request.now row.record }

structure LeasesRow (op : Op) (v v' : TurnView) : Prop where
  lease : ∃ request record, op = .leaseOperation request ∧ v.record = some record ∧
    requireRunningFence record request.expectedTurnRevision request.operation.executionEpochId
      request.expectedClaimGeneration request.expectedCancellationGeneration = .ok () ∧
    request.operation.phase = .leased ∧
    v'.operations = v.operations ++ [.ofRecord request.operation]

def EditsRows (op : Op) (before after : List OperationRow) : Prop :=
  ∃ edit : OperationRow → OperationRow, after = before.map edit ∧
    ∀ row ∈ before, RowStep op row (edit row)

theorem editsRows_refl (op : Op) (rows) : EditsRows op rows rows :=
  ⟨id, (map_id rows).symm, fun _ _ => .kept⟩

private theorem reconciles_rows {request : LogicalTurnAttentionResolutionRequest} {v : TurnView}
    {record : LogicalTurnRecord} {after : List OperationRow} (grounded : Grounded v)
    (stored : v.record = some record)
    (unique : (v.operations.map operationId).Nodup)
    (reconciles : Reconciles request v.operations after) :
    EditsRows (.resolveAttention request) v.operations after := by
  unfold Reconciles at reconciles
  split at reconciles
  · obtain ⟨unknown, only, rfl⟩ := reconciles
    have chosen : unknown ∈ hostTools .outcomeUnknown v.operations := by
      rw [only]
      exact mem_singleton_self unknown
    obtain ⟨member, isUnknown⟩ := mem_filter.mp chosen
    have named := ((grounded.turn stored).owned unknown member).1
    refine ⟨_, rfl, fun row rowMember => ?_⟩
    rw [(confirmedOperation_identity _ _ _).1, named]
    split
    · next same =>
      cases inj_on_of_nodup_map unique rowMember member same
      exact .confirmed rfl isUnknown
    · exact .kept
  · rw [reconciles]
    exact editsRows_refl _ _

theorem step_operations (step : TurnStep op v v')
    (grounded : Grounded v) (unique : (v.operations.map operationId).Nodup) :
    EditsRows op v.operations v'.operations ∨ LeasesRow op v v' := by
  cases step with
  | admitTurn => exact .inl (editsRows_refl _ _)
  | resolveAttention stored target valid reconciles =>
    exact .inl (reconciles_rows grounded stored unique reconciles)
  | leaseOperation stored target fence leased => exact .inr ⟨_, _, rfl, stored, fence, leased, rfl⟩
  | completeOperation stored target accepted next member same revision continuation epoch
      fingerprint =>
      refine .inl ⟨_, rfl, fun row rowMember => ?_⟩
      split
      · next target =>
        cases inj_on_of_nodup_map unique rowMember member (target.trans same.symm)
        have named := congrArg LogicalTurnOperationRecord.operationId
          (completedOperation_ok accepted).1
        exact .completed rfl (target.trans named) revision accepted continuation fingerprint
      · exact .kept
  | interrupt =>
    refine .inl ⟨_, rfl, fun row _ => ?_⟩
    split
    · next leased => exact .interrupted rfl leased
    · exact .kept
  | claim | yield | requireAttention | complete | cancel | finalize | refresh | recover =>
    exact .inl (editsRows_refl _ _)

theorem RowStep.operationId (step : RowStep op row row') : row'.operationId = row.operationId := by
  cases step <;> rfl

theorem operationsOf_unique (s : Store) (id : LogicalTurnId) :
    ((operationsOf s id).map operationId).Nodup :=
  s.operations.unique.sublist (filter_sublist.map _)

theorem step_row (grounded : GroundedStore s) (op : Op) {row : OperationRow}
    (stored : s.operations.find? row.operationId = some row) :
    ∃ row', (s.step op).operations.find? row.operationId = some row' ∧ RowStep op row row' := by
  have member : row ∈ operationsOf s row.logicalTurnId :=
    mem_select.mpr ⟨mem_of_find? stored, by simp⟩
  have found : ∀ row' ∈ operationsOf (s.step op) row.logicalTurnId, RowStep op row row' →
      ∃ row', (s.step op).operations.find? row.operationId = some row' ∧ RowStep op row row' := by
    intro row' member' life
    refine ⟨row', ?_, life⟩
    rw [← life.operationId]
    exact find?_of_mem (mem_select.mp member').1
  rcases step_follows grounded op row.logicalTurnId with same | step
  · refine found row ?_ .kept
    rw [show operationsOf (s.step op) row.logicalTurnId = operationsOf s row.logicalTurnId from
      congrArg TurnView.operations same]
    exact member
  · rcases step_operations step (grounded _) (operationsOf_unique s _) with rows | ⟨lease⟩
    · obtain ⟨edit, edited, life⟩ := rows
      refine found (edit row) ?_ (life row member)
      rw [show operationsOf (s.step op) row.logicalTurnId = _ from edited]
      exact mem_map_of_mem member
    · obtain ⟨request, record, -, -, -, -, appended⟩ := lease
      refine found row ?_ .kept
      rw [show operationsOf (s.step op) row.logicalTurnId = _ from appended]
      exact mem_append_left _ member

theorem row_before (grounded : GroundedStore s) (op : Op)
    (stored : row' ∈ (s.step op).operations.rows) :
    (∃ row ∈ s.operations.rows, RowStep op row row') ∨
      ∃ request, op = .leaseOperation request ∧ row' = .ofRecord request.operation ∧
        ∀ row ∈ s.operations.rows, row.logicalTurnId = row'.logicalTurnId →
          row.operationId ≠ row'.operationId := by
  have member : row' ∈ operationsOf (s.step op) row'.logicalTurnId :=
    mem_select.mpr ⟨stored, by simp⟩
  rcases step_follows grounded op row'.logicalTurnId with same | step
  · rw [show operationsOf (s.step op) row'.logicalTurnId = operationsOf s row'.logicalTurnId from
      congrArg TurnView.operations same] at member
    exact .inl ⟨row', (mem_select.mp member).1, .kept⟩
  rcases step_operations step (grounded _) (operationsOf_unique s _) with rows | ⟨lease⟩
  · obtain ⟨edit, edited, life⟩ := rows
    rw [show operationsOf (s.step op) row'.logicalTurnId = _ from edited] at member
    obtain ⟨row, rowMember, isEdited⟩ := mem_map.mp member
    exact .inl ⟨row, (mem_select.mp rowMember).1, isEdited ▸ life row rowMember⟩
  · obtain ⟨request, record, called, -, -, -, appended⟩ := lease
    have listed : operationsOf (s.step op) row'.logicalTurnId =
      operationsOf s row'.logicalTurnId ++ [.ofRecord request.operation] := appended
    have unique := operationsOf_unique (s.step op) row'.logicalTurnId
    rw [listed] at member unique
    rcases mem_append.mp member with old | new
    · exact .inl ⟨row', (mem_select.mp old).1, .kept⟩
    · refine .inr ⟨request, called, mem_singleton.mp new, fun row rowStored owner same => ?_⟩
      rw [← mem_singleton.mp new, map_append, nodup_append] at unique
      have old : row ∈ operationsOf s row'.logicalTurnId :=
        mem_select.mpr ⟨rowStored, by simpa using owner⟩
      exact unique.2.2 _ (mem_map_of_mem old) _ (mem_map_of_mem (by simp)) same

/-! ## Operations that have ended -/

/-- A completion does not name the revision an ended operation has now. -/
def CompletesOpenOperation (s : Store) : Op → Prop
  | .completeOperation request => ∀ operation ∈ s.loadOperation request.operation.operationId,
      operation.phase.isTerminal = true → operation.revision ≠ request.expectedOperationRevision
  | _ => True

instance (s : Store) : (op : Op) → Decidable (CompletesOpenOperation s op)
  | .completeOperation _ => by
    dsimp only [CompletesOpenOperation]
    infer_instance
  | .admitTurn _ | .claim _ | .yield _ | .requireAttention _ | .resolveAttention _ | .complete _
  | .cancel _ | .leaseOperation _ | .markOutboxDelivered .. | .hydrate _ =>
    inferInstanceAs (Decidable True)

def sampleOperation (turn name : String) (kind : LogicalTurnOperationKind)
    (generation : Nat) : LogicalTurnOperationRecord where
  operationId := ⟨name⟩
  logicalTurnId := sampleTurn turn
  continuationId := sampleContinuation turn 0
  executionEpochId := sampleEpoch generation
  kind := kind
  phase := .leased
  requestFingerprint := "request"
  idempotencyKey := name
  leaseHolder := some "worker"
  leaseGeneration := some generation
  leaseExpiresAt := some "10:00"
  resultRef := none
  resultPayload := none
  reasonCode := none
  revision := 1
  createdAt := "09:00"
  updatedAt := "09:00"

def sampleLease (operation : LogicalTurnOperationRecord) (turnRevision generation : Nat) : Op :=
  .leaseOperation ⟨operation, turnRevision, generation, 0⟩

def sampleCompleteOperation (operation : LogicalTurnOperationRecord)
    (operationRevision turnRevision generation : Nat) (result : String) : Op :=
  .completeOperation ⟨{ operation with
        phase := .completed
        resultRef := some result
        resultPayload := some (.string result)
        revision := operationRevision + 1 },
      operationRevision, turnRevision, generation, 0⟩

def sampleProvider : LogicalTurnOperationRecord := sampleOperation "a" "call" .providerRequest 1

def overwritingRun : List Op :=
  [sampleAdmit "a", sampleClaim "a" 1 0 1, sampleLease sampleProvider 2 1,
    sampleCompleteOperation sampleProvider 1 2 1 "first",
    sampleCompleteOperation sampleProvider 2 2 1 "second"]

theorem completed_operation_overwritten :
    ((storeAt overwritingRun 4).loadOperation ⟨"call"⟩).map (fun operation =>
        (operation.phase, operation.resultPayload)) = some (.completed, some (.string "first")) ∧
      ((storeAt overwritingRun 5).loadOperation ⟨"call"⟩).map (fun operation =>
        (operation.phase, operation.resultPayload)) =
          some (.completed, some (.string "second")) := by
  decide +kernel

theorem step_ended {s : Store} (grounded : GroundedStore s) {op : Op}
    (allowed : CompletesOpenOperation s op) {id : BrainOperationId}
    {operation : LogicalTurnOperationRecord} (stored : s.loadOperation id = some operation)
    (ended : operation.phase.isTerminal = true) :
    (s.step op).loadOperation id = some operation := by
  obtain ⟨row, found, rfl⟩ := Option.map_eq_some_iff.mp stored
  have named : row.operationId = id := key_of_find? found
  subst named
  obtain ⟨row', found', life⟩ := step_row grounded op found
  rw [Store.loadOperation, found', Option.map_some]
  cases life with
  | kept => rfl
  | completed called target revision =>
    subst called
    exact absurd revision (allowed row.record (target ▸ stored) ended)
  | interrupted _ leased =>
    have phase : row.record.phase = .leased := (of_decide_eq_true leased).2
    rw [phase] at ended
    cases ended
  | confirmed _ unknown =>
    have phase : row.record.phase = .outcomeUnknown := (of_decide_eq_true unknown).2
    rw [phase] at ended
    cases ended

theorem ended_operations_kept (ops : List Op)
    (allowed : Along Store.step CompletesOpenOperation Store.empty ops) :
    ∀ n m id operation, n ≤ m → (storeAt ops n).loadOperation id = some operation →
      operation.phase.isTerminal = true → (storeAt ops m).loadOperation id = some operation := by
  intro n m id operation order stored ended
  induction order with
  | refl => exact stored
  | @step m _ ih =>
    cases position : ops[m]? with
    | none =>
      rw [storeAt, stateAt_succ_of_end position]
      exact ih
    | some op =>
      rw [storeAt_succ position]
      exact step_ended (storeAt_grounded ops m) (along_at allowed position) ih ended

theorem ended_operations_kept_sample :
    (storeAt (overwritingRun.take 4 ++ [sampleCompleteOperation sampleProvider 1 2 1 "second",
      sampleCancel "a" 2, .hydrate "09:30"]) 7).loadOperation ⟨"call"⟩ = some { sampleProvider with
          phase := .completed
          resultRef := some "first"
          resultPayload := some (.string "first")
          revision := 2 } :=
  ended_operations_kept _ (by decide +kernel) 4 7 _ _ (by decide) (by decide +kernel) rfl

end RustyCrew.Proof.Lifecycle

import RustyCrew.Library.Runs
import RustyCrew.Persistence.Hydration

namespace RustyCrew.Persistence

open Library Protocol

inductive Op where
  | admitTurn (write : LogicalTurnAdmissionWrite)
  | claim (request : LogicalTurnClaimRequest)
  | yield (request : LogicalTurnYieldRequest)
  | requireAttention (request : LogicalTurnAttentionRequest)
  | resolveAttention (request : LogicalTurnAttentionResolutionRequest)
  | complete (request : LogicalTurnCompletionRequest)
  | cancel (request : LogicalTurnCancelRequest)
  | leaseOperation (request : LogicalTurnOperationLeaseRequest)
  | completeOperation (request : LogicalTurnOperationCompletionRequest)
  | markOutboxDelivered (projectionId : TurnProjectionId) (deliveredAt : IsoTimestamp)
  | hydrate (now : IsoTimestamp)
  deriving DecidableEq

inductive Response where
  | admitted (admission : LogicalTurnAdmission)
  | claimed (claim : LogicalTurnContinuationClaim)
  | yielded (receipt : LogicalTurnYieldReceipt)
  | attentionRequired (receipt : LogicalTurnAttentionReceipt)
  | attentionResolved (receipt : LogicalTurnAttentionResolutionReceipt)
  | completed (record : LogicalTurnRecord)
  | cancelled (receipt : LogicalTurnCancellationReceipt)
  | operationLeased (operation : LogicalTurnOperationRecord)
  | operationCompleted (operation : LogicalTurnOperationRecord)
  | outboxDelivered
  | hydrated (report : LogicalTurnHydrationReport)
  deriving DecidableEq

namespace Store

def apply (s : Store) : Op → CoreResult (Store × Response)
  | .admitTurn write => do
    let (s, admission) ← s.insertLogicalTurnAdmission write
    .ok (s, .admitted admission)
  | .claim request => do
    let (s, claim) ← s.claimLogicalTurn request
    .ok (s, .claimed claim)
  | .yield request => do
    let (s, receipt) ← s.yieldLogicalTurn request
    .ok (s, .yielded receipt)
  | .requireAttention request => do
    let (s, receipt) ← s.requireLogicalTurnAttention request
    .ok (s, .attentionRequired receipt)
  | .resolveAttention request => do
    let (s, receipt) ← s.resolveLogicalTurnAttention request
    .ok (s, .attentionResolved receipt)
  | .complete request => do
    let (s, record) ← s.completeLogicalTurn request
    .ok (s, .completed record)
  | .cancel request => do
    let (s, receipt) ← s.cancelLogicalTurn request
    .ok (s, .cancelled receipt)
  | .leaseOperation request => do
    let (s, operation) ← s.leaseLogicalTurnOperation request
    .ok (s, .operationLeased operation)
  | .completeOperation request => do
    let (s, operation) ← s.completeLogicalTurnOperation request
    .ok (s, .operationCompleted operation)
  | .markOutboxDelivered projectionId deliveredAt =>
    .ok (s.markLogicalTurnOutboxDelivered projectionId deliveredAt, .outboxDelivered)
  | .hydrate now => do
    let (s, report) ← s.hydrateLogicalTurns now
    .ok (s, .hydrated report)

def step (s : Store) (op : Op) : Store :=
  match s.apply op with
  | .ok (s', _) => s'
  | .error _ => s

end Store

/-- An admission of a turn that has not run yet, as the engine builds it. The store checks the
admitted phase and the first checkpoint, but leaves these fields to its caller. -/
def LogicalTurnAdmissionWrite.Fresh (write : LogicalTurnAdmissionWrite) : Prop :=
  let record := write.admission.record
  record.continuationSequence = 0 ∧ record.attention = none ∧ record.activeEpochId = none ∧
    record.claimHolder = none ∧ record.terminalAt = none

instance (write : LogicalTurnAdmissionWrite) : Decidable write.Fresh := by
  unfold LogicalTurnAdmissionWrite.Fresh
  infer_instance

def Op.FreshAdmission : Op → Prop
  | .admitTurn write => write.Fresh
  | _ => True

instance (op : Op) : Decidable op.FreshAdmission := by
  cases op <;> unfold Op.FreshAdmission <;> infer_instance

end RustyCrew.Persistence

import RustyCrew.Lifecycle.Machine
import RustyCrew.Proof.Persistence.Validation

namespace RustyCrew.Proof.Lifecycle

open Library Protocol RustyCrew.Persistence RustyCrew.Lifecycle
open RustyCrew.Proof.Persistence

variable {v : TurnView} {rows : List OperationRow}

/-- The part of a turn's invariant that the store needs to look its own rows up: it holds whatever
its callers hand in. -/
structure GroundedTurn (v : TurnView) (record : LogicalTurnRecord) : Prop where
  current : ∃ checkpoint ∈ v.checkpoints, checkpoint.continuationId = record.currentContinuationId
  logged : ∀ event ∈ v.log, event.logicalTurnRevision ≤ record.revision
  owned : ∀ row ∈ v.operations,
    row.record.operationId = row.operationId ∧ row.record.logicalTurnId = record.logicalTurnId

def Grounded (v : TurnView) : Prop :=
  match v.record with
  | none => v = .absent
  | some record => GroundedTurn v record

theorem Grounded.turn (grounded : Grounded v)
    (stored : v.record = some record) : GroundedTurn v record := by
  simpa [Grounded, stored] using grounded

theorem Grounded.eq_absent (grounded : Grounded v) (missing : v.record = none) : v = .absent := by
  simpa [Grounded, missing] using grounded

theorem grounded_absent : Grounded .absent := rfl

theorem not_logged {event : LogicalTurnLifecycleEvent}
    (grounded : Grounded v) (stored : v.record = some record)
    (newer : record.revision < event.logicalTurnRevision) : event ∉ v.log := by
  intro member
  have := (grounded.turn stored).logged event member
  omega

private theorem logged_append {events : List LogicalTurnLifecycleEvent}
    (logged : ∀ event ∈ log, event.logicalTurnRevision ≤ revision)
    (news : events.Forall fun event => event.logicalTurnRevision ≤ revision + 1) :
    ∀ event ∈ log ++ events, event.logicalTurnRevision ≤ revision + 1 := by
  intro event member
  rcases List.mem_append.mp member with old | new
  · exact (logged event old).trans (Nat.le_succ _)
  · exact List.forall_iff_forall_mem.mp news event new

def Owned (turn : LogicalTurnId) (rows : List OperationRow) : Prop :=
  ∀ row ∈ rows, row.record.operationId = row.operationId ∧ row.record.logicalTurnId = turn

theorem mem_rewriteOperation (member : row ∈ rewriteOperation operation rows) :
    ∃ old ∈ rows, (old.operationId = operation.operationId ∧
        row = { old with record := operation }) ∨
      (old.operationId ≠ operation.operationId ∧ row = old) := by
  obtain ⟨old, oldMember, rfl⟩ := List.mem_map.mp member
  refine ⟨old, oldMember, ?_⟩
  split
  · next same => exact .inl ⟨same, rfl⟩
  · next other => exact .inr ⟨other, rfl⟩

section

private theorem owned_rewriteOperation {operation : LogicalTurnOperationRecord}
    (owned : Owned turn rows) (same : operation.logicalTurnId = turn) :
    Owned turn (rewriteOperation operation rows) := by
  intro row member
  obtain ⟨old, oldMember, ⟨target, rfl⟩ | ⟨-, rfl⟩⟩ := mem_rewriteOperation member
  · exact ⟨target.symm, same⟩
  · exact owned _ oldMember

theorem confirmedOperation_identity (action now operation) :
    (Store.confirmedOperation action now operation).operationId = operation.operationId ∧
      (Store.confirmedOperation action now operation).logicalTurnId = operation.logicalTurnId := by
  unfold Store.confirmedOperation
  split <;> exact ⟨rfl, rfl⟩

private theorem owned_reconciles (reconciles : Reconciles request before after)
    (owned : Owned turn before) : Owned turn after := by
  unfold Reconciles at reconciles
  split at reconciles
  · obtain ⟨row, unknown, rfl⟩ := reconciles
    have member : row ∈ before := by
      apply List.mem_of_mem_filter (p := fun row => OperationRow.isHostTool row .outcomeUnknown)
      rw [← hostTools, unknown]
      exact List.mem_singleton_self row
    apply owned_rewriteOperation owned
    rw [(confirmedOperation_identity _ _ _).2]
    exact (owned row member).2
  · rw [reconciles]
    exact owned

private theorem owned_interruptTools (owned : Owned turn rows) :
    Owned turn (interruptTools now rows) := by
  intro row member
  obtain ⟨old, oldMember, rfl⟩ := List.mem_map.mp member
  split
  · exact owned old oldMember
  · exact owned old oldMember

end

theorem step_grounded (step : TurnStep op v v') (grounded : Grounded v) : Grounded v' := by
  cases step with
  | admitTurn valid =>
    obtain ⟨-, -, continuation, -, -, -, revision, -⟩ := validateAdmission_ok valid
    exact ⟨⟨_, List.mem_singleton_self _, continuation⟩, by simp [revision], by simp⟩
  | claim stored | finalize stored | recover stored =>
    have turn := grounded.turn stored
    exact ⟨turn.current, logged_append turn.logged le_rfl, turn.owned⟩
  | yield stored target fence valid =>
    have turn := grounded.turn stored
    have revision := (validateYield_ok valid).revision
    exact ⟨⟨_, List.mem_append_right _ (List.mem_singleton_self _), rfl⟩,
      logged_append turn.logged revision.le, turn.owned⟩
  | requireAttention stored target fence valid =>
    have turn := grounded.turn stored
    have revision := (validateAttention_ok valid).revision
    exact ⟨⟨_, List.mem_append_right _ (List.mem_singleton_self _), rfl⟩,
      logged_append turn.logged revision.le, turn.owned⟩
  | resolveAttention stored target valid reconciles =>
    have turn := grounded.turn stored
    obtain ⟨-, -, -, -, -, -, -, revision, -⟩ := validateAttentionResolution_ok.mp valid
    exact ⟨turn.current, logged_append turn.logged revision.le,
      owned_reconciles reconciles turn.owned⟩
  | complete stored target fence valid member current =>
    have turn := grounded.turn stored
    obtain ⟨-, -, revision⟩ := validateCompletion_ok valid
    exact ⟨⟨_, List.mem_map.mpr ⟨_, member, if_pos rfl⟩, current⟩,
      logged_append turn.logged revision.le, turn.owned⟩
  | cancel stored =>
    have turn := grounded.turn stored
    exact ⟨turn.current, logged_append turn.logged ⟨le_rfl, le_rfl⟩, turn.owned⟩
  | leaseOperation stored target =>
    have turn := grounded.turn stored
    simp only [Grounded, stored]
    refine ⟨turn.current, turn.logged, ?_⟩
    intro row member
    rcases List.mem_append.mp member with old | new
    · exact turn.owned row old
    · rw [List.mem_singleton.mp new]
      exact ⟨rfl, target.symm⟩
  | completeOperation stored target accepted =>
    have turn := grounded.turn stored
    obtain ⟨identity, -⟩ := completedOperation_ok accepted
    simp only [Grounded, stored]
    refine ⟨turn.current, turn.logged, owned_rewriteOperation turn.owned ?_⟩
    rw [identity]
    exact target.symm
  | interrupt stored =>
    have turn := grounded.turn stored
    exact ⟨turn.current, logged_append turn.logged le_rfl, owned_interruptTools turn.owned⟩
  | refresh stored =>
    have turn := grounded.turn stored
    simp only [Grounded, stored]
    exact ⟨turn.current, turn.logged, turn.owned⟩

end RustyCrew.Proof.Lifecycle

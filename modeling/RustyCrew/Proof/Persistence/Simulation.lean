import RustyCrew.Proof.Persistence.HostTools
import RustyCrew.Proof.Persistence.Inversion

namespace RustyCrew.Proof.Persistence

open Library Protocol RustyCrew.Persistence RustyCrew.Lifecycle Table
open RustyCrew.Proof.Lifecycle

/-! ## The store runs the turn machine -/

/-- What the call `op` did to each turn is nothing or one step of the machine. -/
def Follows (op : Op) (s s' : Store) : Prop :=
  ∀ id, view s' id = view s id ∨ TurnStep op (view s id) (view s' id)

def GroundedStore (s : Store) : Prop := ∀ id, Grounded (view s id)

variable {s s' : Store}

theorem Edits.follows {edit : TurnView → TurnView}
    (edits : Edits s s' turn edit) (step : TurnStep op (view s turn) (edit (view s turn))) :
    Follows op s s' := by
  intro id
  by_cases target : turn = id
  · subst target
    rw [edits.target]
    exact .inr step
  · exact .inl (edits.other target)

theorem follows_of_same (same : ∀ id, view s' id = view s id) : Follows op s s' :=
  fun id => .inl (same id)

theorem follows_grounded (follows : Follows op s s') (grounded : GroundedStore s) :
    GroundedStore s' := by
  intro id
  rcases follows id with same | step
  · rw [same]
    exact grounded id
  · exact step_grounded step (grounded id)

theorem record_id {id : LogicalTurnId} {record : LogicalTurnRecord}
    (stored : (view s id).record = some record) : record.logicalTurnId = id :=
  key_of_find? stored

private theorem edits_blobs (blobs : Table LogicalTurnContentWrite.contentRef) (turn) :
    Edits s { s with blobs := blobs } turn fun v => v := by
  intro id
  split <;> rfl

section
variable (grounded : GroundedStore s)
include grounded

theorem admit_follows (accepted : s.insertLogicalTurnAdmission write = .ok (s', admission)) :
    Follows (.admitTurn write) s s' := by
  obtain ⟨valid, -, blobs, s₁, s₂, s₃, turn, checkpoint, event, rfl⟩ :=
    insertLogicalTurnAdmission_ok accepted
  obtain ⟨-, checkpointTurn, -, -, -, eventTurn, -, -⟩ := validateAdmission_ok valid
  obtain ⟨missing, rfl⟩ := insertTurn_ok turn
  have absent : view s write.admission.record.logicalTurnId = .absent :=
    (grounded _).eq_absent missing
  have edits₁ := (edits_blobs (s := s) blobs _).trans (edits_putTurn write.admission.record rfl)
  have edits₂ := edits₁.trans (edits_insertCheckpoint checkpoint checkpointTurn)
  have edits₃ := edits₂.insertOutbox event eventTurn rfl (by
    rw [absent]
    exact List.not_mem_nil)
  refine (edits₃.trans (edits_upsertTicket _ rfl)).follows ?_
  rw [absent]
  exact .admitTurn valid

theorem claim_follows {request : LogicalTurnClaimRequest} {claim : LogicalTurnContinuationClaim}
    (accepted : s.claimLogicalTurn request = .ok (s', claim)) : Follows (.claim request) s s' := by
  obtain ⟨record, checkpoint, stored, -, replay | fresh⟩ := claimLogicalTurn_ok accepted
  · obtain ⟨-, -, -, rfl, -⟩ := replay
    exact follows_of_same fun _ => rfl
  obtain ⟨revision, runnable, current, -, -, recorded⟩ := fresh
  have target : record.logicalTurnId = request.logicalTurnId := record_id stored
  rw [← target] at stored
  have edits := (edits_putTurn (s := s) (claimedRecord record request) rfl).trans
    (edits_deleteTicket record.logicalTurnId)
  exact (edits.insertOutbox recorded rfl rfl
    (not_logged (grounded _) stored (Nat.lt_succ_self _))).follows
    (.claim stored target revision runnable current)

theorem yield_follows {request : LogicalTurnYieldRequest} {receipt : LogicalTurnYieldReceipt}
    (accepted : s.yieldLogicalTurn request = .ok (s', receipt)) :
    Follows (.yield request) s s' := by
  obtain ⟨record, stored, replay | fresh⟩ := yieldLogicalTurn_ok accepted
  · obtain ⟨-, -, rfl, -⟩ := replay
    exact follows_of_same fun _ => rfl
  obtain ⟨fence, valid, -, s₁, s₂, checkpoint, event, rfl⟩ := fresh
  obtain ⟨checkpointTurn, -, -, eventTurn, revision, -⟩ := validateYield_ok valid
  have target : record.logicalTurnId = request.logicalTurnId := record_id stored
  rw [← target] at stored
  have edits := (edits_putTurn (s := s) (yieldedRecord record request) rfl).trans
    (edits_insertCheckpoint checkpoint checkpointTurn)
  have recorded := edits.insertOutbox event eventTurn rfl
    (not_logged (grounded _) stored (by omega))
  exact (recorded.trans (edits_upsertTicket _ rfl)).follows (.yield stored target fence valid)

theorem requireAttention_follows {request : LogicalTurnAttentionRequest}
    {receipt : LogicalTurnAttentionReceipt}
    (accepted : s.requireLogicalTurnAttention request = .ok (s', receipt)) :
    Follows (.requireAttention request) s s' := by
  obtain ⟨record, stored, replay | fresh⟩ := requireLogicalTurnAttention_ok accepted
  · obtain ⟨-, rfl, -⟩ := replay
    exact follows_of_same fun _ => rfl
  obtain ⟨fence, valid, -, s₁, s₂, checkpoint, event, rfl⟩ := fresh
  obtain ⟨checkpointTurn, -, -, eventTurn, revision, -⟩ := validateAttention_ok valid
  have target : record.logicalTurnId = request.logicalTurnId := record_id stored
  rw [← target] at stored
  have edits := (edits_putTurn (s := s) (attentionRecord record request) rfl).trans
    (edits_insertCheckpoint checkpoint checkpointTurn)
  have recorded := edits.insertOutbox event eventTurn rfl
    (not_logged (grounded _) stored (by omega))
  exact (recorded.trans (edits_deleteTicket _)).follows
    (.requireAttention stored target fence valid)

theorem resolveAttention_follows {request : LogicalTurnAttentionResolutionRequest}
    {receipt : LogicalTurnAttentionResolutionReceipt}
    (accepted : s.resolveLogicalTurnAttention request = .ok (s', receipt)) :
    Follows (.resolveAttention request) s s' := by
  obtain ⟨record, s₁, s₂, stored, valid, reconciled, event, rfl⟩ :=
    resolveLogicalTurnAttention_ok accepted
  obtain ⟨-, -, -, -, -, -, -, revision, eventTurn, -⟩ := validateAttentionResolution_ok.mp valid
  have target : record.logicalTurnId = request.logicalTurnId := record_id stored
  rw [← target] at stored
  obtain ⟨edit, reconciles, operations⟩ :=
    edits_reconcile (ownsRecords_of_grounded (grounded _)) reconciled
  have edits := operations.trans (edits_putTurn (resolvedRecord record request.now) rfl)
  have recorded := edits.insertOutbox event eventTurn rfl
    (not_logged (grounded _) stored (by omega))
  exact (recorded.trans (edits_upsertTicket _ rfl)).follows
    (.resolveAttention stored target valid reconciles)

theorem complete_follows {request : LogicalTurnCompletionRequest} {record' : LogicalTurnRecord}
    (accepted : s.completeLogicalTurn request = .ok (s', record')) :
    Follows (.complete request) s s' := by
  obtain ⟨record, stored, replay | fresh⟩ := completeLogicalTurn_ok accepted
  · obtain ⟨-, rfl, -⟩ := replay
    exact follows_of_same fun _ => rfl
  obtain ⟨fence, valid, -, checkpoint, s₁, loaded, event, rfl⟩ := fresh
  obtain ⟨-, eventTurn, revision⟩ := validateCompletion_ok valid
  have target : record.logicalTurnId = request.logicalTurnId := record_id stored
  rw [← target] at stored
  -- the checkpoint the completion loads by its id is the one the grounded view names
  obtain ⟨current, member, isCurrent⟩ := ((grounded _).turn stored).current
  have inTable := mem_select.mp member
  have sameRow : current = checkpoint := by
    have found := find?_of_mem inTable.1
    rw [isCurrent] at found
    exact Option.some.inj (found.symm.trans loaded)
  subst sameRow
  have owner : current.logicalTurnId = record.logicalTurnId := by simpa using inTable.2
  have present : s.loadCheckpoint current.continuationId = some current := by
    rw [isCurrent]
    exact loaded
  have edits := (edits_updateCheckpoint (s := s)
    { current with progress := request.lifecycleEvent.progress } present owner owner).trans
    (edits_putTurn (completedRecord record request) rfl)
  have recorded := edits.insertOutbox event eventTurn rfl
    (not_logged (grounded _) stored (by omega))
  refine (recorded.trans (edits_deleteTicket _)).follows
    (.complete stored target fence valid member isCurrent ?_)
  intro other otherMember same
  exact List.inj_on_of_nodup_map s.checkpoints.unique (mem_select.mp otherMember).1 inTable.1
    (same.trans isCurrent.symm)

theorem cancel_follows {request : LogicalTurnCancelRequest}
    {receipt : LogicalTurnCancellationReceipt}
    (accepted : s.cancelLogicalTurn request = .ok (s', receipt)) :
    Follows (.cancel request) s s' := by
  obtain ⟨row, -, rfl, -⟩ | ⟨record, -, stored, ⟨-, -, inserted⟩ | ⟨active, -, s₁, cancels,
    inserted⟩⟩ := cancelLogicalTurn_ok accepted
  · exact follows_of_same fun _ => rfl
  · obtain ⟨-, rfl⟩ := insertCancelReceipt_ok inserted
    exact follows_of_same fun _ => rfl
  obtain ⟨-, rfl⟩ := insertCancelReceipt_ok inserted
  obtain ⟨revision, -, progress, s₂, s₃, requested, cancelled, rfl⟩ := cancelActiveTurn_ok cancels
  have target : record.logicalTurnId = request.logicalTurnId := record_id stored
  rw [← target] at stored
  have edits₁ : Edits s s₂ record.logicalTurnId _ := edits_insertOutbox requested rfl
    (not_logged (grounded _) stored (Nat.lt_succ_self _))
  have edits₂ := edits₁.trans (edits_putTurn (cancelledRecord record request.now) rfl)
  have new : lifecycleForRecord (cancelledRecord record request.now) progress .cancelled
      request.reasonCode request.summary request.now ∉
        (view { s₂ with turns := s₂.turns.put (cancelledRecord record request.now) }
          record.logicalTurnId).log := by
    rw [edits₂.target]
    intro member
    rcases List.mem_append.mp member with old | pair
    · exact not_logged (grounded _) stored (Nat.lt_succ_self _) old
    · -- the two projections of one cancellation differ in their kind
      have sameKind := congrArg LogicalTurnLifecycleEvent.kind (List.mem_singleton.mp pair)
      cases sameKind
  have edits₃ := edits₂.trans (edits_insertOutbox cancelled rfl new)
  have step := @TurnStep.cancel (view s record.logicalTurnId) record request progress
    stored target active revision
  rw [List.append_cons] at step
  exact (edits₃.trans (edits_deleteTicket _)).follows step

end

theorem leaseOperation_follows {request : LogicalTurnOperationLeaseRequest}
    (accepted : s.leaseLogicalTurnOperation request = .ok (s', operation)) :
    Follows (.leaseOperation request) s s' := by
  obtain ⟨turn, stored, fence, leased, first, ⟨rfl, -⟩ | inserted⟩ :=
    leaseLogicalTurnOperation_ok accepted
  · exact follows_of_same fun _ => rfl
  have target : turn.logicalTurnId = request.operation.logicalTurnId := record_id stored
  have absent := (insertOperation_ok inserted).1
  refine (edits_insertOperation inserted).follows
    (.leaseOperation stored target fence leased first ?_)
  intro row member
  exact find?_eq_none.mp absent row (mem_operationsOf.mp member).1

theorem completeOperation_follows {request : LogicalTurnOperationCompletionRequest}
    (grounded : GroundedStore s)
    (accepted : s.completeLogicalTurnOperation request = .ok (s', operation)) :
    Follows (.completeOperation request) s s' := by
  obtain ⟨turn, existing, stored, completed, next, loaded, revision, owner, continuation,
    epoch, fingerprint, updated⟩ := completeLogicalTurnOperation_ok accepted
  have target : turn.logicalTurnId = request.operation.logicalTurnId := record_id stored
  rw [Store.loadOperation, Option.map_eq_some_iff] at loaded
  obtain ⟨row, present, rfl⟩ := loaded
  have identity := (completedOperation_ok completed).1
  -- the row's turn column is the turn its record names
  have member : row ∈ operationsOf s row.logicalTurnId :=
    mem_operationsOf.mpr ⟨mem_of_find? present, rfl⟩
  have column : row.logicalTurnId = request.operation.logicalTurnId := by
    cases other : (view s row.logicalTurnId).record with
    | none =>
      have absent : operationsOf s row.logicalTurnId = [] :=
        congrArg TurnView.operations ((grounded _).eq_absent other)
      rw [absent] at member
      cases member
    | some record =>
      have named := (((grounded _).turn other).owned row member).2
      rw [record_id other] at named
      rw [← named, owner, identity]
  have edits := edits_updateOperation updated present
  rw [column] at edits member
  exact edits.follows (.completeOperation stored target completed next member
    (key_of_find? present) revision continuation epoch fingerprint)

theorem markOutboxDelivered_follows (projectionId deliveredAt) :
    Follows (.markOutboxDelivered projectionId deliveredAt) s
      (s.markLogicalTurnOutboxDelivered projectionId deliveredAt) := by
  apply follows_of_same
  intro id
  unfold Store.markLogicalTurnOutboxDelivered
  split
  · next event found =>
    have key : LogicalTurnOutboxRecord.projectionId ⟨event, none⟩ = projectionId :=
      key_of_find? found
    rw [← key] at found
    have selected := select_put_of_present (t := s.outbox) (a := ⟨event, some deliveredAt⟩)
      found (fun row => row.event.logicalTurnId = id) rfl
    have log : logOf { s with outbox := s.outbox.put ⟨event, some deliveredAt⟩ } id =
        logOf s id := by
      rw [logOf, selected, List.map_map, logOf]
      apply List.map_congr_left
      intro row member
      simp only [Function.comp_apply]
      split
      · next same =>
        have isRow := find?_of_mem (mem_select.mp member).1
        rw [same] at isRow
        rw [Option.some.inj (isRow.symm.trans found)]
      · rfl
    ext1
    · rfl
    · rfl
    · rfl
    · rfl
    · exact log
  · rfl

end RustyCrew.Proof.Persistence

import RustyCrew.Lifecycle.Machine

namespace RustyCrew.Proof.Persistence

open Library Protocol RustyCrew.Persistence RustyCrew.Lifecycle Table Store

variable {turn : LogicalTurnId} {edit : TurnView → TurnView}

/-! ## What each write of the store shows of a turn -/

variable {s s' : Store}

theorem updateTurn_ok (updated : s.updateTurn record expected = .ok s') :
    s' = { s with turns := s.turns.put record } := by
  unfold Store.updateTurn at updated
  split at updated
  · simpa using updated.symm
  · cases updated

theorem insertTurn_ok (inserted : s.insertTurn record = .ok s') :
    s.loadTurn record.logicalTurnId = none ∧ s' = { s with turns := s.turns.put record } := by
  unfold Store.insertTurn at inserted
  split at inserted
  · cases inserted
  · next absent =>
    refine ⟨by simpa using absent, ?_⟩
    simpa using inserted.symm

theorem insertCheckpoint_ok (inserted : s.insertCheckpoint checkpoint = .ok s') :
    s.loadCheckpoint checkpoint.continuationId = none ∧
      s' = { s with checkpoints := s.checkpoints.put checkpoint } := by
  unfold insertCheckpoint at inserted
  split at inserted
  · cases inserted
  · next absent =>
    split at inserted
    · cases inserted
    · refine ⟨by simpa using absent, ?_⟩
      simpa using inserted.symm

theorem insertOutbox_ok (inserted : s.insertOutbox event = .ok s') :
    (event ∈ logOf s event.logicalTurnId ∧ s' = s) ∨ (s.outbox.find? event.projectionId = none ∧
        s' = { s with outbox := s.outbox.put ⟨event, none⟩ }) := by
  unfold insertOutbox at inserted
  split at inserted
  · next existing found =>
    split at inserted
    · cases inserted
    · next same =>
      have sameEvent : existing.event = event := by simpa using same
      left
      refine ⟨?_, by simpa using inserted.symm⟩
      rw [logOf, List.mem_map]
      refine ⟨existing, mem_select.mpr ⟨mem_of_find? found, ?_⟩, sameEvent⟩
      simp [sameEvent]
  · next absent =>
    right
    exact ⟨absent, by simpa using inserted.symm⟩

theorem updateOperation_ok (updated : s.updateOperation operation expected = .ok s') :
    ∃ row, s.operations.find? operation.operationId = some row ∧
      s' = { s with operations := s.operations.put { row with record := operation } } := by
  unfold updateOperation at updated
  split at updated
  · next row found =>
    split at updated
    · exact ⟨row, found, by simpa using updated.symm⟩
    · cases updated
  · cases updated

theorem insertOperation_ok (inserted : s.insertOperation operation = .ok s') :
    s.operations.find? operation.operationId = none ∧
      s' = { s with operations := s.operations.put (.ofRecord operation) } := by
  unfold insertOperation at inserted
  split at inserted
  · cases inserted
  · next absent =>
    split at inserted
    · cases inserted
    · refine ⟨by simpa [loadOperation] using absent, ?_⟩
      simpa using inserted.symm

theorem insertContentBlob_ok
    (inserted : s.insertContentBlob content = .ok s') :
    ∃ blobs, s' = { s with blobs := blobs } := by
  unfold insertContentBlob at inserted
  split at inserted
  · split at inserted
    · cases inserted
    · exact ⟨s.blobs, by simpa using inserted.symm⟩
  · exact ⟨_, by simpa using inserted.symm⟩

theorem insertContentBlobs_ok {contents : List LogicalTurnContentWrite}
    (inserted : contents.foldlM insertContentBlob s = .ok s') :
    ∃ blobs, s' = { s with blobs := blobs } := by
  refine foldlM_invariant (fun _ current => ∃ blobs, current = { s with blobs := blobs })
    inserted ⟨s.blobs, rfl⟩ ?_
  rintro content rest current next ⟨blobs, rfl⟩ written
  obtain ⟨blobs', rfl⟩ := insertContentBlob_ok written
  exact ⟨blobs', rfl⟩

/-! ## Edits -/

attribute [local simp] view checkpointsOf operationsOf logOf

/-- From `s` to `s'` the view of one turn changed by `edit`, and no other view did. -/
def Edits (s s' : Store) (turn : LogicalTurnId) (edit : TurnView → TurnView) : Prop :=
  ∀ id, view s' id = if turn = id then edit (view s id) else view s id

theorem Edits.trans {f g : TurnView → TurnView} (first : Edits s₁ s₂ turn f)
    (second : Edits s₂ s₃ turn g) : Edits s₁ s₃ turn fun v => g (f v) := by
  intro id
  rw [second id, first id]
  split <;> rfl

theorem Edits.target (edits : Edits s s' turn edit) : view s' turn = edit (view s turn) := by
  rw [edits turn, if_pos rfl]

theorem Edits.other {id : LogicalTurnId} (edits : Edits s s' turn edit) (other : turn ≠ id) :
    view s' id = view s id := by
  rw [edits id, if_neg other]

theorem edits_putTurn (record) (owner : record.logicalTurnId = turn) :
    Edits s { s with turns := s.turns.put record } turn
      fun v => { v with record := some record } := by
  subst owner
  intro id
  split
  · next same => ext1 <;> simp [same]
  · next other => ext1 <;> simp [other]

theorem edits_insertCheckpoint
    (inserted : s.insertCheckpoint checkpoint = .ok s') (owner : checkpoint.logicalTurnId = turn) :
    Edits s s' turn fun v => { v with checkpoints := v.checkpoints ++ [checkpoint] } := by
  obtain ⟨absent, rfl⟩ := insertCheckpoint_ok inserted
  subst owner
  intro id
  have selected := select_put_of_absent absent fun row => row.logicalTurnId = id
  split
  · next same => ext1 <;> simp [selected, same]
  · next other => ext1 <;> simp [selected, other]

theorem edits_updateCheckpoint (checkpoint)
    (present : s.loadCheckpoint checkpoint.continuationId = some old)
    (oldOwner : old.logicalTurnId = turn) (owner : checkpoint.logicalTurnId = turn) :
    Edits s (s.updateCheckpoint checkpoint) turn
      fun v => { v with checkpoints := rewriteCheckpoint checkpoint v.checkpoints } := by
  subst owner
  intro id
  split
  · next same =>
    have selected := select_put_of_present present (fun row => row.logicalTurnId = id)
      (by simp [same, oldOwner])
    ext1 <;> simp [updateCheckpoint, selected, rewriteCheckpoint]
  · next other =>
    have selected : (s.checkpoints.put checkpoint).select (fun row => row.logicalTurnId = id) =
        s.checkpoints.select fun row => row.logicalTurnId = id := by
      apply select_put_of_not_selected
      · simpa using other
      · intro row found
        rw [loadCheckpoint, found, Option.some.injEq] at present
        simpa [present, oldOwner] using other
    ext1 <;> simp [updateCheckpoint, selected]

theorem edits_insertOutbox (inserted : s.insertOutbox event = .ok s')
    (owner : event.logicalTurnId = turn) (new : event ∉ (view s turn).log) :
    Edits s s' turn fun v => { v with log := v.log ++ [event] } := by
  subst owner
  rcases insertOutbox_ok inserted with ⟨logged, -⟩ | ⟨absent, rfl⟩
  · exact absurd logged new
  intro id
  have selected := select_put_of_absent (t := s.outbox) (a := ⟨event, none⟩) absent
    fun row => row.event.logicalTurnId = id
  split
  · next same => ext1 <;> simp [selected, same]
  · next other => ext1 <;> simp [selected, other]

theorem Edits.insertOutbox (edits : Edits s s₁ turn edit)
    (inserted : s₁.insertOutbox event = .ok s') (owner : event.logicalTurnId = turn)
    (kept : (edit (view s turn)).log = (view s turn).log) (new : event ∉ (view s turn).log) :
    Edits s s' turn fun v => { edit v with log := (edit v).log ++ [event] } := by
  refine edits.trans (edits_insertOutbox inserted owner ?_)
  rw [edits.target, kept]
  exact new

theorem edits_upsertTicket (ticket) (owner : ticket.logicalTurnId = turn) :
    Edits s (s.upsertTicket ticket) turn fun v => { v with ticket := some ticket } := by
  subst owner
  intro id
  split
  · next same => ext1 <;> simp [upsertTicket, same]
  · next other => ext1 <;> simp [upsertTicket, other]

theorem edits_deleteTicket (turn) :
    Edits s (s.deleteTicket turn) turn fun v => { v with ticket := none } := by
  intro id
  split
  · next same => ext1 <;> simp [deleteTicket, same]
  · next other => ext1 <;> simp [deleteTicket, other]

theorem edits_insertOperation (inserted : s.insertOperation operation = .ok s') :
    Edits s s' operation.logicalTurnId
      fun v => { v with operations := v.operations ++ [.ofRecord operation] } := by
  obtain ⟨absent, rfl⟩ := insertOperation_ok inserted
  intro id
  have selected := select_put_of_absent (t := s.operations) (a := .ofRecord operation) absent
    fun row => row.logicalTurnId = id
  have turn : (OperationRow.ofRecord operation).logicalTurnId = operation.logicalTurnId := rfl
  split
  · next same => ext1 <;> simp [selected, turn, same]
  · next other => ext1 <;> simp [selected, turn, other]

theorem edits_updateOperation (updated : s.updateOperation operation expected = .ok s')
    (present : s.operations.find? operation.operationId = some old) : Edits s s' old.logicalTurnId
      fun v => { v with operations := rewriteOperation operation v.operations } := by
  obtain ⟨row, found, rfl⟩ := updateOperation_ok updated
  rw [present, Option.some.injEq] at found
  subst found
  intro id
  have key := key_of_find? present
  have found : s.operations.find? { old with record := operation }.operationId = some old := by
    simpa [key] using present
  split
  · next same =>
    have selected := select_put_of_present found (fun row => row.logicalTurnId = id) rfl
    -- the only row with the operation's id is the old one, so both ways to write it agree
    have rewritten : (s.operations.put { old with record := operation }).select
        (fun row => row.logicalTurnId = id) = rewriteOperation operation (operationsOf s id) := by
      rw [selected]
      apply List.map_congr_left
      intro row member
      by_cases target : row.operationId = operation.operationId
      · have isOld : some old = some row := by
          rw [← present, ← target]
          exact find?_of_mem (mem_select.mp member).1
        cases isOld
        simp [key]
      · simp [key, target]
    ext1
    · rfl
    · rfl
    · exact rewritten
    · rfl
    · rfl
  · next other =>
    have selected : (s.operations.put { old with record := operation }).select
        (fun row => row.logicalTurnId = id) =
        s.operations.select fun row => row.logicalTurnId = id := by
      apply select_put_of_not_selected
      · simpa using other
      · intro row present'
        rw [found, Option.some.injEq] at present'
        simpa [← present'] using other
    ext1 <;> simp [selected]

end RustyCrew.Proof.Persistence

import RustyCrew.Persistence.Step

namespace RustyCrew.Proof.Persistence

open Library Protocol RustyCrew.Persistence

variable {record : LogicalTurnRecord} {request : LogicalTurnCompletionRequest}

/-! ## What an accepted check says -/

theorem validateLifecycleIdentity_ok :
    validateLifecycleIdentity record event = .ok u ↔
      event.logicalTurnId = record.logicalTurnId ∧ event.sessionId = record.sessionId ∧
        event.wakeId = record.sourceWakeId := by
  simp [validateLifecycleIdentity]

theorem requireRevision_ok :
    requireRevision record expected = .ok u ↔ record.revision = expected := by
  simp [requireRevision]

theorem requireRunningFence_ok :
    requireRunningFence record revision epoch claimGeneration cancellationGeneration = .ok u ↔
      record.revision = revision ∧ record.phase = .running ∧ record.activeEpochId = some epoch ∧
        record.claimGeneration = some claimGeneration ∧
        record.cancellationGeneration = cancellationGeneration := by
  simp [requireRunningFence, requireRevision]

theorem validateAdmission_ok (valid : validateAdmission write = .ok ()) :
    write.admission.record.phase = .admitted ∧
      write.admission.initialCheckpoint.logicalTurnId = write.admission.record.logicalTurnId ∧
      write.admission.initialCheckpoint.continuationId =
        write.admission.record.currentContinuationId ∧
      write.admission.initialCheckpoint.sequence = 0 ∧
      write.admission.initialCheckpoint.parentContinuationId = none ∧
      write.admission.lifecycleEvent.logicalTurnId = write.admission.record.logicalTurnId ∧
      write.admission.lifecycleEvent.logicalTurnRevision = write.admission.record.revision ∧
      write.admission.lifecycleEvent.phase = .admitted := by
  simp only [validateAdmission, bind_eq_ok, rejectIf_eq_ok, not_or, ne_eq, not_not,
    Option.not_isSome_iff_eq_none] at valid
  obtain ⟨_, ⟨phase, turn, continuation, sequence, parent, -⟩, _, identity, _,
    ⟨-, revision, eventPhase⟩, -⟩ := valid
  have eventTurn := (validateLifecycleIdentity_ok.mp identity).1
  exact ⟨phase, turn.symm, continuation.symm, sequence, parent, eventTurn, revision,
    eventPhase.trans phase⟩

/-- The checkpoint and the event of a request follow on from the turn's record. -/
structure ContinuesTurn (record : LogicalTurnRecord) (checkpoint : LogicalTurnCheckpoint)
    (event : LogicalTurnLifecycleEvent) (phase : LogicalTurnPhase) : Prop where
  turn : checkpoint.logicalTurnId = record.logicalTurnId
  parent : checkpoint.parentContinuationId = some record.currentContinuationId
  sequence : checkpoint.sequence = record.continuationSequence + 1
  eventTurn : event.logicalTurnId = record.logicalTurnId
  revision : event.logicalTurnRevision = record.revision + 1
  phase : event.phase = phase

theorem validateYield_ok {request : LogicalTurnYieldRequest}
    (valid : validateYield record request = .ok ()) :
    ContinuesTurn record request.checkpoint request.lifecycleEvent .yielded := by
  simp only [validateYield, bind_eq_ok, rejectIf_eq_ok, not_or, ne_eq, not_not] at valid
  obtain ⟨_, ⟨turn, parent, -, sequence, -, -, phase, -, -, revision⟩, identity⟩ := valid
  exact ⟨turn, parent, sequence, (validateLifecycleIdentity_ok.mp identity).1, revision, phase⟩

theorem validateAttention_ok {request : LogicalTurnAttentionRequest}
    (valid : validateAttention record request = .ok ()) :
    ContinuesTurn record request.checkpoint request.lifecycleEvent .attentionRequired := by
  simp only [validateAttention, bind_eq_ok, rejectIf_eq_ok, not_or, ne_eq, not_not] at valid
  obtain ⟨_, ⟨turn, parent, -, sequence, -, -, phase, -, -, revision, -⟩, identity⟩ := valid
  exact ⟨turn, parent, sequence, (validateLifecycleIdentity_ok.mp identity).1, revision, phase⟩

theorem validateAttentionResolution_ok {request : LogicalTurnAttentionResolutionRequest} :
    validateAttentionResolution record request = .ok u ↔
      record.revision = request.expectedRevision ∧ record.phase = .attentionRequired ∧
        (∃ attention, record.attention = some attention ∧
          request.action ∈ attention.resolutionActions ∧ resumesTurn request.action = true ∧
          (request.action = .retryUnchanged → attention.retryUnchangedSafe = true) ∧
          (isToolConfirmation request.action = true → attention.reason = .toolOutcomeUnknown)) ∧
        request.lifecycleEvent.kind = .continuationResumed ∧
        request.lifecycleEvent.phase = .runnable ∧
        request.lifecycleEvent.continuationId = record.currentContinuationId ∧
        request.lifecycleEvent.executionEpochId = none ∧
        request.lifecycleEvent.logicalTurnRevision = record.revision + 1 ∧
        request.lifecycleEvent.logicalTurnId = record.logicalTurnId ∧
        request.lifecycleEvent.sessionId = record.sessionId ∧
        request.lifecycleEvent.wakeId = record.sourceWakeId := by
  simp only [validateAttentionResolution, bind_eq_ok, orFail_eq_ok, rejectIf_eq_ok, not_or, ne_eq,
    not_not, requireRevision_ok, validateLifecycleIdentity_ok, not_and,
    Option.not_isSome_iff_eq_none]
  constructor
  · rintro ⟨_, revision, attention, attended, _, ⟨phase, allowed, resumes, safe, kind, eventPhase,
      continuation, epoch, eventRevision⟩, _, confirms, turn, session, wake⟩
    exact ⟨revision, phase, ⟨attention, attended, allowed, resumes, safe, confirms⟩, kind,
      eventPhase, continuation, epoch, eventRevision, turn, session, wake⟩
  · rintro ⟨revision, phase, ⟨attention, attended, allowed, resumes, safe, confirms⟩, kind,
      eventPhase, continuation, epoch, eventRevision, turn, session, wake⟩
    exact ⟨(), revision, attention, attended, (), ⟨phase, allowed, resumes, safe, kind, eventPhase,
      continuation, epoch, eventRevision⟩, (), confirms, turn, session, wake⟩

theorem validateCompletion_ok (valid : validateCompletion record request = .ok ()) :
    (request.lifecycleEvent.phase = .completed ∨ request.lifecycleEvent.phase = .failed) ∧
      request.lifecycleEvent.logicalTurnId = record.logicalTurnId ∧
      request.lifecycleEvent.logicalTurnRevision = record.revision + 1 := by
  simp only [validateCompletion, bind_eq_ok, rejectIf_eq_ok, not_or, ne_eq, not_not, not_and,
    validateLifecycleIdentity_ok] at valid
  obtain ⟨_, ⟨-, phase⟩, _, ⟨turn, -, -⟩, -, -, revision⟩ := valid
  refine ⟨?_, turn, revision⟩
  by_cases completed : request.lifecycleEvent.phase = .completed
  · exact .inl completed
  · exact .inr (phase completed)

theorem terminal_of_validateCompletion (valid : validateCompletion record request = .ok ()) :
    request.lifecycleEvent.phase.isTerminal = true := by
  rcases (validateCompletion_ok valid).1 with completed | failed
  · simp [completed, LogicalTurnPhase.isTerminal]
  · simp [failed, LogicalTurnPhase.isTerminal]

theorem completedOperation_ok {turn : LogicalTurnRecord}
    {request : LogicalTurnOperationCompletionRequest} {completed : LogicalTurnOperationRecord}
    (accepted : Store.completedOperation turn request = .ok completed) :
    completed = { request.operation with phase := completed.phase } ∧
      (completed.phase = .completed ∨ completed.phase = .completedAfterCancel) := by
  unfold Store.completedOperation at accepted
  split at accepted
  · split at accepted
    · cases accepted
    · next phase =>
      cases accepted
      exact ⟨rfl, .inl (by simpa using phase)⟩
  · split at accepted
    · cases accepted
      exact ⟨rfl, .inr rfl⟩
    · cases accepted

end RustyCrew.Proof.Persistence

import RustyCrew.Coordination.Events
import RustyCrew.Library.Runs

namespace RustyCrew.Proof.Coordination

open Library Protocol RustyCrew.Coordination ExternalTables

variable {saved : ExternalTurnCorrelation}

def tablesAt (jsonLength : NormalizedExternalRuntimeEvent → Nat) (calls : List StoreCall)
    (n : Nat) : ExternalTables :=
  stateAt (ExternalTables.serve jsonLength) ExternalTables.empty calls n

section
variable {tables after : ExternalTables}

theorem settled_of {α : Type} {P : ExternalTables → Prop} {r : CoreResult (α × ExternalTables)}
    (same : P tables) (done : ∀ a after, r = .ok (a, after) → P after) : P (tables.settled r) := by
  cases r with
  | error failure => exact same
  | ok answer => exact done answer.1 answer.2 rfl

theorem saveSession_eq (sessionId) :
    ∃ sessions, tables.saveSession sessionId = { tables with sessions := sessions } := by
  rw [saveSession]
  split
  · exact ⟨tables.sessions, rfl⟩
  · exact ⟨_, rfl⟩

theorem putExternalRuntimeRegistration_eq {record saved : ExternalRuntimeRegistration}
    {expected : Option Nat}
    (done : tables.putExternalRuntimeRegistration record expected = .ok (saved, after)) :
    after = { tables with registrations := tables.registrations.put saved } := by
  simp only [putExternalRuntimeRegistration, bind_eq_ok, pure_eq_ok, Prod.mk.injEq] at done
  obtain ⟨-, -, -, -, rfl, rfl⟩ := done
  rfl

theorem acquireExternalControllerLease_eq
    (done : tables.acquireExternalControllerLease candidate now = .ok (lease, after)) :
    lease = grantedLease candidate (tables.controllerLeases.find? candidate.runtimeId) ∧
      after = { tables with controllerLeases := tables.controllerLeases.put lease } := by
  simp only [acquireExternalControllerLease, bind_eq_ok, pure_eq_ok, Prod.mk.injEq] at done
  obtain ⟨-, -, -, -, rfl, rfl⟩ := done
  exact ⟨rfl, rfl⟩

theorem releaseExternalControllerLease_eq
    (done : tables.releaseExternalControllerLease runtimeId holder generation now = .ok (lease,
      after)) : ∃ current, tables.controllerLeases.find? runtimeId = some current ∧
      lease = releasedLease current now ∧
      after = { tables with controllerLeases := tables.controllerLeases.put lease } := by
  simp only [releaseExternalControllerLease, bind_eq_ok, orFail_eq_ok, pure_eq_ok,
    Prod.mk.injEq] at done
  obtain ⟨current, found, -, -, rfl, rfl⟩ := done
  exact ⟨current, found, rfl, rfl⟩

theorem putExternalAgentBinding_eq {record saved : ExternalAgentBinding} {expected : Option Nat}
    (done : tables.putExternalAgentBinding record expected = .ok (saved, after)) :
    after = tables ∨ record.validate = .ok () ∧
      validateExternalAgentBindingTransition (tables.bindings.find? record.bindingId)
        (record.lineage.bind fun lineage => tables.bindings.find? lineage.predecessorBindingId)
        (tables.bindings.rows.any (namesPredecessor record.bindingId)) record = .ok () ∧
      saved = savedBinding record (tables.bindings.find? record.bindingId) ∧
      tables.checkBindingConstraints saved = .ok () ∧
      after = { tables with bindings := tables.bindings.put saved } := by
  simp only [putExternalAgentBinding, bind_eq_ok] at done
  obtain ⟨_, valid, written⟩ := done
  split at written
  · simp only [pure_eq_ok, Prod.mk.injEq] at written
    exact .inl written.2.symm
  · simp only [writeBinding, bind_eq_ok, pure_eq_ok, Prod.mk.injEq] at written
    obtain ⟨_, -, _, transition, _, constraints, rfl, rfl⟩ := written
    exact .inr ⟨valid, transition, rfl, constraints, rfl⟩

theorem insertExternalTurn_eq (done : tables.insertExternalTurn context record = .ok after) :
    tables.turns.find? record.requestId = none ∧
      after = { tables with turns := tables.turns.put record } := by
  simp only [insertExternalTurn, bind_eq_ok, rejectIf_eq_ok, pure_eq_ok, not_not] at done
  obtain ⟨-, absent, -, -, -, -, rfl⟩ := done
  exact ⟨absent, rfl⟩

theorem createExternalTurn_eq (done : tables.createExternalTurn record = .ok (saved, after)) :
    after = tables ∨ tables.turns.find? record.requestId = none ∧
        after = { tables with turns := tables.turns.put record } := by
  rw [createExternalTurn] at done
  split at done
  · simp only [bind_eq_ok, pure_eq_ok, Prod.mk.injEq] at done
    obtain ⟨-, -, -, rfl⟩ := done
    exact .inl rfl
  · simp only [bind_eq_ok, pure_eq_ok, Prod.mk.injEq] at done
    obtain ⟨inserted, inserts, -, rfl⟩ := done
    exact .inr (insertExternalTurn_eq inserts)

theorem promoteQueuedMessageToExternalTurn_eq {messageId : String}
    {saved : Option ExternalTurnCorrelation}
    (done : tables.promoteQueuedMessageToExternalTurn messageId now record = .ok (saved, after)) :
    after = tables ∨
      ∃ queued, tables.claimableMessage record.request.sessionId messageId = some queued ∧
        (after = { tables with
            queue := tables.queue.saveQueuedMessage (unclaimedMessage now queued) } ∨
          tables.turns.find? record.requestId = none ∧ after = { tables with
              turns := tables.turns.put record
              queue := tables.queue.saveQueuedMessage
                (promotedMessage now record.requestId queued) }) := by
  rw [promoteQueuedMessageToExternalTurn] at done
  split at done
  · simp only [bind_eq_ok, pure_eq_ok, Prod.mk.injEq] at done
    obtain ⟨-, -, -, rfl⟩ := done
    exact .inl rfl
  · split at done
    · cases done
      exact .inl rfl
    · next queued claimed =>
      refine .inr ⟨queued, claimed, ?_⟩
      split at done
      · cases done
        exact .inl rfl
      · simp only [bind_eq_ok, pure_eq_ok, Prod.mk.injEq] at done
        obtain ⟨inserted, inserts, -, rfl⟩ := done
        obtain ⟨absent, rfl⟩ := insertExternalTurn_eq inserts
        exact .inr ⟨absent, rfl⟩

theorem updateExternalTurn_eq
    (done : tables.updateExternalTurn next expected = .ok (saved, after)) :
    ∃ current, tables.turns.find? next.requestId = some current ∧
      (current = next ∧ saved = current ∧ after = tables ∨
        current.phase.canTransitionTo next.phase = true ∧ current.phase.isTerminal = false ∧
          (next.phase.isTerminal = true → next.capacityLeaseId = none) ∧
          (current.nativeTurnId.isSome → next.nativeTurnId = current.nativeTurnId) ∧
          saved = { next with revision := current.revision + 1 } ∧
          after = { tables with turns := tables.turns.put saved }) := by
  simp only [updateExternalTurn, bind_eq_ok, orFail_eq_ok] at done
  obtain ⟨current, found, written⟩ := done
  refine ⟨current, found, ?_⟩
  split at written
  · next same =>
    simp only [pure_eq_ok, Prod.mk.injEq] at written
    exact .inl ⟨same, written.1.symm, written.2.symm⟩
  · simp only [validateExternalTurnTransition, bind_eq_ok, rejectIf_eq_ok,
      pure_eq_ok, Prod.mk.injEq, not_and, Bool.not_eq_true, Bool.not_eq_false,
      Option.isSome_eq_false_iff, Option.isNone_iff_eq_none, ne_eq, not_not] at written
    obtain ⟨-, -, -, allowed, -, released, -, bound, -, running, -, -, rfl, rfl⟩ := written
    exact .inr ⟨allowed, running, released, bound, rfl, rfl⟩

theorem applyTransition_eq
    (done : tables.applyTransition transition = .ok ((current, saved), after)) :
    tables.updateExternalTurn (transition.next current) current.revision = .ok (saved, after) := by
  simp only [applyTransition, bind_eq_ok, orFail_eq_ok, pure_eq_ok, Prod.mk.injEq] at done
  obtain ⟨_, -, ⟨_, _⟩, updated, ⟨rfl, rfl⟩, rfl⟩ := done
  exact updated

theorem applyTransition_turns {transition : TurnTransition}
    {turns : ExternalTurnCorrelation × ExternalTurnCorrelation}
    (done : tables.applyTransition transition = .ok (turns, after)) :
    ∃ rows, after = { tables with turns := rows } := by
  obtain ⟨current, saved⟩ := turns
  have updated := applyTransition_eq done
  obtain ⟨-, -, ⟨-, -, rfl⟩ | ⟨-, -, -, -, -, rfl⟩⟩ := updateExternalTurn_eq updated
  · exact ⟨after.turns, rfl⟩
  · exact ⟨_, rfl⟩

theorem appendExternalRuntimeEventAllocated_eq
    (done : tables.appendExternalRuntimeEventAllocated input = .ok (event, after)) :
    tables.events.find? input.eventId = some event ∧ after = tables ∨
      tables.events.find? input.eventId = none ∧
        event = normalizedEventFromInput input (tables.nextSequence input.runtimeId) ∧
        after = { tables with
          cursors := tables.cursors.put ⟨input.runtimeId, tables.nextSequence input.runtimeId + 1⟩
          events := tables.events.put event } := by
  rw [appendExternalRuntimeEventAllocated] at done
  split at done
  · next existing found =>
    simp only [bind_eq_ok, pure_eq_ok, Prod.mk.injEq] at done
    obtain ⟨-, -, rfl, rfl⟩ := done
    exact .inl ⟨found, rfl⟩
  · next absent =>
    simp only [bind_eq_ok, pure_eq_ok, Prod.mk.injEq] at done
    obtain ⟨-, -, -, -, -, -, rfl, rfl⟩ := done
    exact .inr ⟨absent, rfl, rfl⟩

theorem compactTurn_frame (candidates : List ExternalTurnCorrelation) :
    ∃ events checkpoints, (candidates.foldl (compactTurn jsonLength cutoff checkpointedAt)
        (tables, report)).1 = { tables with events := events, checkpoints := checkpoints } := by
  induction candidates generalizing tables report with
  | nil => exact ⟨tables.events, tables.checkpoints, rfl⟩
  | cons turn rest ih =>
    rw [List.foldl_cons, compactTurn]
    split
    · obtain ⟨events, checkpoints, same⟩ := ih
      exact ⟨events, checkpoints, same⟩
    · exact ih

theorem compactTerminalExternalRuntimeEvents_eq
    (done : tables.compactTerminalExternalRuntimeEvents jsonLength cutoff checkpointedAt batchSize =
      .ok (report, after)) :
    after = ((tables.compactionCandidates cutoff batchSize).foldl
      (compactTurn jsonLength cutoff checkpointedAt)
      (tables, startedReport cutoff batchSize
        (tables.compactionCandidates cutoff batchSize).length)).1 := by
  simp only [compactTerminalExternalRuntimeEvents, bind_eq_ok, pure_eq_ok, Prod.mk.injEq] at done
  obtain ⟨-, -, -, rfl⟩ := done
  rfl

end

/-! ## Which tables a call can change -/

def touchesLeases : StoreCall → Bool
  | .acquireController .. | .releaseController .. => true
  | _ => false

def touchesBindings : StoreCall → Bool
  | .putBinding .. => true
  | _ => false

def touchesEvents : StoreCall → Bool
  | .appendEvent .. | .compactEvents .. => true
  | _ => false

structure Framed (call : StoreCall) (tables after : ExternalTables) : Prop where
  leases : touchesLeases call = false → after.controllerLeases = tables.controllerLeases
  bindings : touchesBindings call = false → after.bindings = tables.bindings
  events : touchesEvents call = false → after.events = tables.events
  cursors : touchesEvents call = false → after.cursors = tables.cursors
  checkpoints : touchesEvents call = false → after.checkpoints = tables.checkpoints

theorem serve_frame (tables) (jsonLength : NormalizedExternalRuntimeEvent → Nat) (call) :
    Framed call tables (tables.serve jsonLength call) := by
  have same (call : StoreCall) : Framed call tables tables :=
    ⟨fun _ => rfl, fun _ => rfl, fun _ => rfl, fun _ => rfl, fun _ => rfl⟩
  cases call with
  | saveSession sessionId =>
    obtain ⟨sessions, saved⟩ := @saveSession_eq tables sessionId
    rw [ExternalTables.serve, saved]
    constructor <;> exact fun _ => rfl
  | registerRuntime record expected =>
    apply settled_of (same _)
    intro saved after done
    obtain rfl := putExternalRuntimeRegistration_eq done
    constructor <;> exact fun _ => rfl
  | acquireController candidate now =>
    apply settled_of (same _)
    intro lease after done
    obtain ⟨-, rfl⟩ := acquireExternalControllerLease_eq done
    constructor <;> simp [touchesLeases]
  | releaseController runtimeId holder generation now =>
    apply settled_of (same _)
    intro lease after done
    obtain ⟨-, -, -, rfl⟩ := releaseExternalControllerLease_eq done
    constructor <;> simp [touchesLeases]
  | putBinding record expected =>
    apply settled_of (same _)
    intro saved after done
    obtain rfl | ⟨-, -, -, -, rfl⟩ := putExternalAgentBinding_eq done
    · exact same _
    · constructor <;> simp [touchesBindings]
  | createTurn record =>
    apply settled_of (same _)
    intro saved after done
    obtain rfl | ⟨-, rfl⟩ := createExternalTurn_eq done
    · exact same _
    · constructor <;> exact fun _ => rfl
  | transitionTurn transition =>
    apply settled_of (same _)
    intro turns after done
    obtain ⟨rows, rfl⟩ := applyTransition_turns done
    constructor <;> exact fun _ => rfl
  | appendEvent input =>
    apply settled_of (same _)
    intro event after done
    obtain ⟨-, rfl⟩ | ⟨-, -, rfl⟩ := appendExternalRuntimeEventAllocated_eq done
    · exact same _
    · constructor <;> simp [touchesEvents]
  | compactEvents cutoff checkpointedAt batchSize =>
    apply settled_of (same _)
    intro report after done
    obtain ⟨events, checkpoints, frame⟩ := compactTurn_frame _
    rw [compactTerminalExternalRuntimeEvents_eq done, frame]
    constructor <;> simp [touchesEvents]

end RustyCrew.Proof.Coordination

import RustyCrew.Proof.Coordination.Events
import RustyCrew.Proof.Coordination.Hydration

namespace RustyCrew.Proof.Coordination

open Library Protocol RustyCrew.Coordination CoordinationM Attended Effect Table ExternalTables
open RustyCrew.Engine (Surroundings)
open RustyCrew.Proof.Engine (calm)

/-! ## Transitions that fail -/

/-- The transition ends an active turn, and the store accepts it. -/
def EndsTurn (tables : ExternalTables) (transition : TurnTransition) : Prop :=
  ∃ current saved after, tables.turns.find? transition.requestId = some current ∧
    current.phase.isTerminal = false ∧ transition.nextPhase.isTerminal = true ∧
    tables.updateExternalTurn (transition.next current) current.revision = .ok (saved, after)

theorem upholds_transition (engine) (notEnded : ¬EndsTurn engine.tables transition) :
    Upholds (· = engine) (transitionExternalTurnWithError transition) (fun _ _ => True)
      (· = engine) := by
  apply upholds_bind (upholds_findTurn transition.requestId)
  intro current
  apply upholds_bind (Q := fun _ _ =>
    ¬(current.phase.isTerminal = false ∧ transition.nextPhase.isTerminal = true))
  · refine upholds_inStore (fun e saved tables updated => ?_) fun _ pre => pre.2
    rintro ⟨stored, rfl⟩ ⟨running, ends⟩
    exact notEnded ⟨current, saved, tables, stored, running, ends, updated⟩
  intro saved
  split
  · next ends => exact fun _ _ pre => (pre.2 ends).elim
  · exact upholds_pure fun _ _ => trivial

/-- The turn is looked up and stored: neither call of the store fails. -/
def Commits (answers : Nat → Surroundings) (tables : ExternalTables)
    (transition : TurnTransition) : Prop :=
  EndsTurn tables transition ∧ (answers 0).fault = none ∧ (answers 1).fault = none

section
variable {engine : CoordinationEngine} {answers : Nat → Surroundings} {failure : CoreError}

theorem findTurn_answered (answered : (answers 0).fault = none)
    (stored : engine.tables.turns.find? requestId = some turn) :
    findTurn requestId ⟨engine, answers⟩ =
      (.ok turn, (⟨engine, answers⟩ : Attended CoordinationEngine Surroundings).after engine) := by
  have loaded : load (fun tables => tables.turns.find? requestId) ⟨engine, answers⟩ =
      (.ok (engine.tables.turns.find? requestId), _) :=
    (inStore_answered answered).mpr ⟨engine.tables, rfl, rfl⟩
  rw [findTurn, bind_ok loaded, stored]
  rfl

theorem transition_uncommitted (notCommitted : ¬Commits answers engine.tables transition)
    (failed : (transitionExternalTurnWithError transition ⟨engine, answers⟩).1 = .error failure) :
    (transitionExternalTurnWithError transition ⟨engine, answers⟩).2.state = engine := by
  by_cases ends : EndsTurn engine.tables transition
  · obtain ⟨current, saved, after, stored, -⟩ := id ends
    cases first : (answers 0).fault with
    | some failure =>
      have lost : findTurn transition.requestId ⟨engine, answers⟩ = (.error failure, _) :=
        bind_error (inStore_failed first)
      rw [transitionExternalTurnWithError, bind_error lost]
      rfl
    | none =>
      cases second : (answers 1).fault with
      | some failure =>
        rw [transitionExternalTurnWithError, bind_ok (findTurn_answered first stored),
          bind_error (inStore_failed second)]
        rfl
      | none => exact absurd ⟨ends, first, second⟩ notCommitted
  · have ran := upholds_transition engine ends answers ⟨engine, answers⟩ ⟨⟨0, fun _ => rfl⟩, rfl⟩
    rw [← Prod.eta (transitionExternalTurnWithError transition ⟨engine, answers⟩), failed] at ran
    exact ran.2

theorem followsUp_ended (ended : turn.phase.isTerminal = true) :
    FollowsUp fun e => turn ∈ e.tables.turns.rows where
  aside _ stored := stored
  promoted happens stored := ended_happens ended stored happens

/-- The promotion that follows leaves the ended turn alone, whether it fails or not. -/
theorem transition_committed (commits : Commits answers engine.tables transition) :
    ∃ turn, turn.phase.isTerminal = true ∧
      (transitionExternalTurnWithError transition ⟨engine, answers⟩).2.state.tables.turns.find?
        transition.requestId = some turn := by
  obtain ⟨⟨current, saved, after, stored, running, ends, updated⟩, first, second⟩ := commits
  have target : current.requestId = transition.requestId := key_of_find? stored
  have found : engine.tables.turns.find? current.requestId = some current := by
    rw [target, stored]
  obtain ⟨known, foundAgain, ⟨same, -⟩ | ⟨-, -, -, -, isSaved, isAfter⟩⟩ :=
    updateExternalTurn_eq updated
  · cases foundAgain.symm.trans found
    have samePhase : current.phase = transition.nextPhase := congrArg (·.phase) same
    rw [samePhase, ends] at running
    cases running
  have ended : saved.phase.isTerminal = true := by
    rw [isSaved]
    exact ends
  have stores : inStore (fun tables => tables.updateExternalTurn (transition.next current)
      current.revision) (Attended.after ⟨engine, answers⟩ engine) = (.ok saved, _) :=
    (inStore_answered second).mpr ⟨after, updated, rfl⟩
  rw [transitionExternalTurnWithError, bind_ok (findTurn_answered first stored), bind_ok stores,
    if_pos ⟨running, ends⟩]
  have promotes : Preserves (fun e => saved ∈ e.tables.turns.rows) (followUp saved) :=
    preserves_followUp (followsUp_ended ended)
  have follows := preserves_bind promotes fun _ => preserves_pure (a := saved)
  refine ⟨saved, ended, ?_⟩
  rw [show transition.requestId = saved.requestId from target.symm.trans (by rw [isSaved]; rfl)]
  refine find?_of_mem (follows.preserves ?_).2
  rw [isAfter]
  exact mem_put.mpr (.inl rfl)

end

/-- A transition that fails has changed nothing, exactly when it has not already ended the turn. -/
theorem failed_transition_changes_nothing_iff (engine : CoordinationEngine)
    (answers : Nat → Surroundings) (transition : TurnTransition) (failure : CoreError)
    (failed : (transitionExternalTurnWithError transition ⟨engine, answers⟩).1 = .error failure) :
    let after := (transitionExternalTurnWithError transition ⟨engine, answers⟩).2.state
    (after.tables.turns.find? transition.requestId =
          engine.tables.turns.find? transition.requestId ∧
        after.tables.queue = engine.tables.queue ↔ ¬Commits answers engine.tables transition) ∧
      (¬Commits answers engine.tables transition → after = engine) := by
  refine ⟨⟨fun same commits => ?_, fun notCommitted => ?_⟩, fun notCommitted =>
    transition_uncommitted notCommitted failed⟩
  · obtain ⟨turn, ended, found⟩ := transition_committed commits
    obtain ⟨⟨current, _, _, stored, running, _⟩, -⟩ := commits
    rw [found, stored, Option.some.injEq] at same
    rw [same.1, running] at ended
    cases ended
  · rw [transition_uncommitted notCommitted failed]
    exact ⟨rfl, rfl⟩

/-- The turn that the activation of an agent has created. -/
def activatedCrew : CoordinationEngine :=
  (activateAgentExecution (requestFor "a") (undisturbed (crewEngine ["a"]) fun _ => calm)).2.state

def moveTo (phase : ExternalTurnPhase) : TurnTransition :=
  ⟨⟨"agent-message:m"⟩, phase, some "native", none, none, "2026-01-01T00:00:01Z"⟩

def lockedStore : CoreError := ⟨.persistenceFailure, "load agent delivery: database is locked"⟩

theorem failed_transition_changes_nothing_sample :
    (transitionExternalTurnWithError (moveTo .active) ⟨activatedCrew, fun _ => calm⟩).2.state =
      activatedCrew :=
  (failed_transition_changes_nothing_iff activatedCrew (fun _ => calm) (moveTo .active)
    ⟨.actionRejected, "invalid external turn transition Accepted -> Active"⟩
    (by decide +kernel)).2 (by
      rintro ⟨⟨_, _, _, _, _, ends, _⟩, _⟩
      cases ends)

/-- The turn is stored as failed before the lookups of the promotion can fail, and the transition
that repeats it finds a turn that has ended and promotes nothing. -/
theorem failed_transition_ends_turn :
    let outcome := transitionExternalTurnWithError (moveTo .failed) ⟨activatedCrew, fun n =>
      { calm with fault := if n = 2 then some lockedStore else none }⟩
    outcome.1 = .error lockedStore ∧
      (activatedCrew.tables.turns.find? ⟨"agent-message:m"⟩).map (·.phase) = some .accepted ∧
      (outcome.2.state.tables.turns.find? ⟨"agent-message:m"⟩).map (·.phase) = some .failed := by
  decide +kernel

/-! ## Events that are appended again -/

/-- An appended event that was accepted before is still stored. -/
def NamesRetained (state : Recorded) : StoreCall → Prop
  | .appendEvent input => ∀ event ∈ state.log, event.eventId = input.eventId →
      event ∈ state.tables.events.rows
  | _ => True

section
variable {jsonLength : NormalizedExternalRuntimeEvent → Nat}

theorem ids_serve (state : Recorded) (call) (once : (state.log.map (·.eventId)).Nodup)
    (retained : NamesRetained state call) :
    ((state.serve jsonLength call).log.map (·.eventId)).Nodup := by
  cases call with
  | appendEvent input =>
    rw [Recorded.serve, appendedBy]
    split
    · next event after absent done =>
      obtain ⟨found, -⟩ | ⟨-, rfl, -⟩ := appendExternalRuntimeEventAllocated_eq done
      · cases absent.symm.trans found
      · rw [List.map_append]
        refine List.nodup_append.mpr ⟨once, List.nodup_singleton _, ?_⟩
        intro id known other isNew same
        obtain ⟨old, appended, rfl⟩ := List.mem_map.mp known
        rw [List.map_singleton, List.mem_singleton] at isNew
        have named : old.eventId = input.eventId := same.trans isNew
        exact find?_eq_none.mp absent old (retained old appended named) named
    · simpa using once
  | _ => simpa [Recorded.serve, appendedBy] using once

theorem append_retained {tables : ExternalTables}
    {input : ExternalRuntimeEventInput} (stored : event ∈ tables.events.rows)
    (named : event.eventId = input.eventId) :
    tables.appendExternalRuntimeEventAllocated input = .ok (event, tables) ∨
      tables.appendExternalRuntimeEventAllocated input = .error ⟨.alreadyExists,
        "external runtime event id conflicts with a different payload"⟩ := by
  have found : tables.events.find? input.eventId = some event := named ▸ find?_of_mem stored
  rw [appendExternalRuntimeEventAllocated, found]
  by_cases differs : externalEventMatchesInput event input = false
  · exact .inr (by simp [rejectIf, differs])
  · exact .inl (by simp [rejectIf, differs])

/-- No event id is given two sequence numbers as long as no append names a compacted event. -/
theorem event_ids_sequenced_once (jsonLength : NormalizedExternalRuntimeEvent → Nat)
    (calls : List StoreCall)
    (retained : Along (Recorded.serve jsonLength) NamesRetained ⟨.empty, []⟩ calls) :
    let state := recordedRun jsonLength calls
    (state.log.map (·.eventId)).Nodup ∧ ∀ input, NamesRetained state (.appendEvent input) →
        ∀ event ∈ state.log, event.eventId = input.eventId →
        state.tables.appendExternalRuntimeEventAllocated input = .ok (event, state.tables) ∨
          state.tables.appendExternalRuntimeEventAllocated input = .error ⟨.alreadyExists,
            "external runtime event id conflicts with a different payload"⟩ := by
  refine ⟨run_invariant ids_serve List.nodup_nil retained, ?_⟩
  intro input known event appended named
  exact append_retained (known event appended named) named

end

def planDelta : ExternalRuntimeEventInput :=
  ⟨"event", none, "2026-01-01T00:00:01Z", "plan_delta", ⟨"codex"⟩, none, some "native", none, none,
    .null, none⟩

def endedTurn : List StoreCall :=
  [.registerRuntime codexRuntime none, .saveSession ⟨"a-session"⟩,
    .putBinding (crewBinding "a") none,
    .createTurn (requestedTurn (requestFor "a") ⟨"a-session"⟩ (crewBinding "a") "a-thread"),
    .transitionTurn (moveTo .starting), .transitionTurn (moveTo .failed), .appendEvent planDelta]

/-- The event of the ended turn is compacted, and then another id is appended twice. -/
def compactedTurn : List StoreCall :=
  endedTurn ++ [.compactEvents "2026-01-02T00:00:00Z" "2026-01-02T00:00:00Z" 1,
    .appendEvent { planDelta with eventId := "later" },
    .appendEvent { planDelta with eventId := "later" }]

theorem event_ids_sequenced_once_sample :
    (recordedRun (fun _ => 0) compactedTurn).tables.events.rows.map (·.eventId) = ["later"] ∧
      ((recordedRun (fun _ => 0) compactedTurn).log.map (·.eventId)).Nodup := by
  refine ⟨by decide +kernel, (event_ids_sequenced_once (fun _ => 0) compactedTurn
    ⟨trivial, trivial, trivial, trivial, trivial, trivial, ?_, trivial, ?_, ?_, trivial⟩).1⟩
  all_goals
    unfold NamesRetained
    decide +kernel

/-- Once compaction has deleted an event, its id is new again. -/
theorem compacted_event_sequenced_again :
    (recordedRun (fun _ => 0) (endedTurn ++
        [.compactEvents "2026-01-02T00:00:00Z" "2026-01-02T00:00:00Z" 1,
          .appendEvent planDelta])).log.map (fun event => (event.eventId, event.sequenceId)) =
      [("event", 1), ("event", 2)] := by
  decide +kernel

end RustyCrew.Proof.Coordination

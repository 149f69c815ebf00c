import RustyCrew.Proof.Lifecycle.Chain
import RustyCrew.Proof.Lifecycle.Fencing
import RustyCrew.Proof.Lifecycle.Operations

namespace RustyCrew.Proof.Lifecycle

open Library Protocol RustyCrew.Persistence RustyCrew.Lifecycle OperationRow Store LogicalTurnPhase
open RustyCrew.Proof.Persistence

variable {since : IsoTimestamp} {s : Store} {op : Op}
  {request : LogicalTurnAttentionResolutionRequest}

/-! ## Host tools and the phase of their turn -/

/-- What the turn coordinator and the bridge see to before they call the store: an epoch is given
up only between host tools, and only a leased operation is completed. -/
def ToolDiscipline (s : Store) : Op → Prop
  | .yield request => hostTools .leased (operationsOf s request.logicalTurnId) = []
  | .requireAttention request => hostTools .leased (operationsOf s request.logicalTurnId) = []
  | .completeOperation request => ∀ operation ∈ s.loadOperation request.operation.operationId,
      operation.phase = .leased
  | _ => True

instance (s : Store) : (op : Op) → Decidable (ToolDiscipline s op)
  | .yield _ | .requireAttention _ | .completeOperation _ => by
    dsimp only [ToolDiscipline]
    infer_instance
  | .admitTurn _ | .claim _ | .resolveAttention _ | .complete _ | .cancel _ | .leaseOperation _
  | .markOutboxDelivered .. | .hydrate _ => inferInstanceAs (Decidable True)

structure ToolsTurn (v : TurnView) (record : LogicalTurnRecord) : Prop where
  leased : hostTools .leased v.operations ≠ [] →
    record.phase = .running ∨ record.phase.isTerminal = true
  unknown : hostTools .outcomeUnknown v.operations ≠ [] → record.phase.isTerminal = true ∨
    (record.phase = .attentionRequired ∧ ∃ since, record.attention =
      some (hydrationAttention (hostTools .outcomeUnknown v.operations).length since))

def Tools (v : TurnView) : Prop := ∀ record, v.record = some record → ToolsTurn v record

variable {v : TurnView} {record : LogicalTurnRecord}

theorem toolsTurn_of_idle (leased : hostTools .leased v.operations = [])
    (unknown : hostTools .outcomeUnknown v.operations = []) : ToolsTurn v record :=
  ⟨fun pending => absurd leased pending, fun pending => absurd unknown pending⟩

theorem toolsTurn_of_terminal (terminal : record.phase.isTerminal = true) : ToolsTurn v record :=
  ⟨fun _ => .inr terminal, fun _ => .inl terminal⟩

section
variable (tools : ToolsTurn v record)
include tools

theorem ToolsTurn.idle (active : record.phase.isTerminal = false)
    (stopped : record.phase ≠ .running) : hostTools .leased v.operations = [] := by
  by_contra pending
  rcases tools.leased pending with running | terminal
  · exact stopped running
  · rw [active] at terminal
    cases terminal

theorem ToolsTurn.known (active : record.phase.isTerminal = false)
    (unattended : record.phase ≠ .attentionRequired) :
    hostTools .outcomeUnknown v.operations = [] := by
  by_contra pending
  rcases tools.unknown pending with terminal | ⟨attended, -⟩
  · rw [active] at terminal
    cases terminal
  · exact unattended attended

theorem ToolsTurn.running (running : record.phase = .running) :
    hostTools .outcomeUnknown v.operations = [] :=
  tools.known (active_of_running running) (by simp [running])

end

theorem hostTools_map {edit : OperationRow → OperationRow}
    (each : ∀ row ∈ rows, edit row = row ∨ (isHostTool row phase = false ∧
      isHostTool (edit row) phase = false)) :
    hostTools phase (rows.map edit) = hostTools phase rows := by
  induction rows with
  | nil => rfl
  | cons row rest ih =>
    have tail := ih fun other member => each other (List.mem_cons_of_mem _ member)
    simp only [hostTools, List.map_cons, List.filter_cons] at tail ⊢
    rcases each row List.mem_cons_self with same | ⟨before, after⟩
    · rw [same, tail]
    · rw [before, after, tail]
      rfl

theorem not_isHostTool {row : OperationRow}
    (other : row.record.phase ≠ phase) : isHostTool row phase = false := by
  simp [isHostTool, other]

/-! ## Steps -/

theorem hostTools_leased_interruptTools (now) :
    hostTools .leased (interruptTools now rows) = [] := by
  rw [hostTools, interruptTools, List.filter_eq_nil_iff]
  intro row member
  obtain ⟨old, -, rfl⟩ := List.mem_map.mp member
  split
  · simp [isHostTool, outcomeUnknownOperation]
  · next other => exact other

theorem hostTools_unknown_interruptTools (now) :
    (hostTools .outcomeUnknown (interruptTools now rows)).length =
      (hostTools .leased rows).length + (hostTools .outcomeUnknown rows).length := by
  induction rows with
  | nil => rfl
  | cons row rest ih =>
    simp only [hostTools, interruptTools, List.map_cons, List.filter_cons] at ih ⊢
    by_cases leased : isHostTool row .leased = true
    · have phase := (of_decide_eq_true leased)
      have before : isHostTool row .outcomeUnknown = false :=
        not_isHostTool (by simp [phase.2])
      have after : isHostTool { row with record := outcomeUnknownOperation now row.record }
            .outcomeUnknown = true := by
        simp [isHostTool, outcomeUnknownOperation, phase.1]
      simp only [leased, if_true, after, before, List.length_cons, ih]
      simp only [Bool.false_eq_true, if_false]
      omega
    · simp only [leased, Bool.false_eq_true, if_false]
      split
      · simp only [List.length_cons, ih]
        omega
      · exact ih

theorem hydrationAttention_actions
    (offered : action ∈ (hydrationAttention count since).resolutionActions)
    (resumes : resumesTurn action = true) : isToolConfirmation action = true := by
  unfold hydrationAttention at offered
  split at offered
  · simp only [List.mem_cons, List.not_mem_nil, or_false] at offered
    rcases offered with rfl | rfl | rfl
    · rfl
    · rfl
    · cases resumes
  · simp only [List.mem_singleton] at offered
    subst offered
    cases resumes

theorem confirmedOperation_phase (action now operation) :
    (confirmedOperation action now operation).phase = .completed ∨
      (confirmedOperation action now operation).phase = .superseded := by
  unfold confirmedOperation
  split
  · exact .inl rfl
  · exact .inr rfl

theorem reconciles_idle (grounded : Grounded v) (stored : v.record = some record)
    (tools : ToolsTurn v record) (valid : validateAttentionResolution record request = .ok ())
    (reconciles : Reconciles request v.operations after) :
    hostTools .leased after = [] ∧ hostTools .outcomeUnknown after = [] := by
  obtain ⟨-, attending, ⟨attention, attended, offered, resumes, -, -⟩, -⟩ :=
    validateAttentionResolution_ok.mp valid
  have active : record.phase.isTerminal = false := by simp [attending, isTerminal]
  have idle := tools.idle active (by simp [attending])
  unfold Reconciles at reconciles
  split at reconciles
  · obtain ⟨unknown, only, rfl⟩ := reconciles
    have chosen : unknown ∈ hostTools .outcomeUnknown v.operations := by
      rw [only]
      exact List.mem_singleton_self unknown
    have named := ((grounded.turn stored).owned unknown (mem_hostTools.mp chosen).1).1
    have phase := confirmedOperation_phase request.action request.now unknown.record
    -- a host tool that is open after the rewrite was open before and is not the confirmed one
    have old : ∀ open', ∀ row ∈ hostTools open' (rewriteOperation (confirmedOperation
        request.action request.now unknown.record) v.operations),
        open' ≠ .completed → open' ≠ .superseded →
        row ∈ hostTools open' v.operations ∧ row.operationId ≠ unknown.operationId := by
      intro open' row member notCompleted notSuperseded
      obtain ⟨member, kind, rowPhase⟩ := mem_hostTools.mp member
      obtain ⟨before, beforeMember, ⟨-, rfl⟩ | ⟨other, rfl⟩⟩ := mem_rewriteOperation member
      · rcases phase with completed | superseded
        · exact absurd (rowPhase.symm.trans completed) notCompleted
        · exact absurd (rowPhase.symm.trans superseded) notSuperseded
      · rw [(confirmedOperation_identity _ _ _).1, named] at other
        exact ⟨mem_hostTools.mpr ⟨beforeMember, kind, rowPhase⟩, other⟩
    refine ⟨List.eq_nil_iff_forall_not_mem.mpr ?_, List.eq_nil_iff_forall_not_mem.mpr ?_⟩
    · intro row member
      have before := (old _ row member (by simp) (by simp)).1
      rw [idle] at before
      cases before
    · intro row member
      obtain ⟨before, other⟩ := old _ row member (by simp) (by simp)
      rw [only, List.mem_singleton] at before
      exact other (congrArg operationId before)
  · next retry =>
    rw [reconciles]
    refine ⟨idle, ?_⟩
    by_contra pending
    rcases tools.unknown pending with terminal | ⟨-, since, attention'⟩
    · rw [active] at terminal
      cases terminal
    · rw [attended, Option.some.injEq] at attention'
      subst attention'
      exact retry (hydrationAttention_actions offered resumes)

def ViewDiscipline (v : TurnView) : Op → Prop
  | .yield _ => hostTools .leased v.operations = []
  | .requireAttention _ => hostTools .leased v.operations = []
  | .completeOperation request => ∀ row ∈ v.operations,
      row.operationId = request.operation.operationId → row.record.phase = .leased
  | _ => True

theorem viewDiscipline_of_step {id : LogicalTurnId} (discipline : ToolDiscipline s op)
    (step : TurnStep op (view s id) v') : ViewDiscipline (view s id) op := by
  generalize seen : view s id = v at step
  cases step with
  | yield stored target | requireAttention stored target =>
    have owner : id = _ := (record_id (seen ▸ stored)).symm.trans target
    subst owner seen
    exact discipline
  | completeOperation =>
    subst seen
    intro row member same
    refine discipline row.record ?_
    rw [← same, loadOperation, find?_operationsOf member]
    rfl
  | _ => trivial

theorem step_tools (step : TurnStep op v v') (grounded : Grounded v)
    (discipline : ViewDiscipline v op) (tools : Tools v) : Tools v' := by
  intro record' stored'
  cases step with
  | admitTurn => exact toolsTurn_of_idle rfl rfl
  | @claim _ record request _ stored _ _ runnable =>
    obtain ⟨unattended, stopped, active⟩ := runnable_phase runnable
    exact toolsTurn_of_idle ((tools record stored).idle active stopped)
      ((tools record stored).known active unattended)
  | @yield _ record _ stored _ fence | @requireAttention _ record _ stored _ fence =>
    exact toolsTurn_of_idle discipline ((tools record stored).running (running_of_fence fence))
  | @resolveAttention _ record request after stored _ valid reconciles =>
    obtain ⟨leased, unknown⟩ := reconciles_idle grounded stored (tools record stored) valid
      reconciles
    exact toolsTurn_of_idle leased unknown
  | complete stored _ _ valid =>
    cases stored'
    exact toolsTurn_of_terminal (terminal_of_validateCompletion valid)
  | cancel | finalize =>
    cases stored'
    exact toolsTurn_of_terminal rfl
  | @leaseOperation _ record request stored _ fence leased =>
    have running := running_of_fence fence
    have same : record' = record := Option.some.inj (stored'.symm.trans stored)
    subst same
    refine ⟨fun _ => .inl running, fun pending => absurd ?_ pending⟩
    have known := (tools _ stored).running running
    rw [hostTools] at known ⊢
    rw [List.filter_append, known, List.nil_append]
    simp [isHostTool, OperationRow.ofRecord, leased]
  | @completeOperation _ record request completed row stored _ accepted _ member same =>
    obtain ⟨identity, phase⟩ := completedOperation_ok accepted
    have named := congrArg LogicalTurnOperationRecord.operationId identity
    have before : ∀ phase', phase' ≠ .leased → phase' ≠ completed.phase →
        hostTools phase' (rewriteOperation completed v.operations) =
          hostTools phase' v.operations := by
      intro phase' notLeased notCompleted
      refine hostTools_map fun row member => ?_
      split
      · next target =>
        have leased := discipline row member (target.trans named)
        exact .inr ⟨not_isHostTool (leased ▸ notLeased.symm), not_isHostTool (Ne.symm notCompleted)⟩
      · exact .inl rfl
    have unknown := before .outcomeUnknown (by simp) (by rcases phase with h | h <;> simp [h])
    obtain ⟨leased, attention⟩ := tools record' stored'
    refine ⟨fun pending => leased ?_, by rw [unknown]; exact attention⟩
    intro none
    apply pending
    rw [List.eq_nil_iff_forall_not_mem]
    intro open' openMember
    obtain ⟨openMember, kind, openPhase⟩ := mem_hostTools.mp openMember
    obtain ⟨old, oldMember, ⟨-, rfl⟩ | ⟨-, rfl⟩⟩ := mem_rewriteOperation openMember
    · rcases phase with done | late
      · cases openPhase.symm.trans done
      · cases openPhase.symm.trans late
    · have wasOpen := mem_hostTools.mpr ⟨oldMember, kind, openPhase⟩
      rw [none] at wasOpen
      cases wasOpen
  | @interrupt _ record _ now stored running =>
    cases stored'
    have known := (tools record stored).running running
    refine ⟨fun pending => absurd (hostTools_leased_interruptTools now) pending, fun _ => .inr ?_⟩
    refine ⟨rfl, now, ?_⟩
    rw [hostTools_unknown_interruptTools, known]
    rfl
  | refresh =>
    obtain ⟨leased, unknown⟩ := tools record' stored'
    exact ⟨leased, unknown⟩
  | @recover _ record _ now stored resumable =>
    have tools := tools record stored
    rcases resumable with phase | phase | ⟨phase, idle⟩
    · exact toolsTurn_of_idle (tools.idle (by simp [phase, isTerminal]) (by simp [phase]))
        (tools.known (by simp [phase, isTerminal]) (by simp [phase]))
    · exact toolsTurn_of_idle (tools.idle (by simp [phase, isTerminal]) (by simp [phase]))
        (tools.known (by simp [phase, isTerminal]) (by simp [phase]))
    · exact toolsTurn_of_idle idle (tools.running phase)

def UnknownTools (v : TurnView) : Prop :=
  ∀ row ∈ v.operations, row.record.phase = .outcomeUnknown → row.kind = .hostToolExecution

theorem RowStep.unknown (step : RowStep op row row')
    (before : row.record.phase = .outcomeUnknown → row.kind = .hostToolExecution)
    (after : row'.record.phase = .outcomeUnknown) : row'.kind = .hostToolExecution := by
  cases step with
  | kept => exact before after
  | completed _ _ _ accepted =>
    rcases (completedOperation_ok accepted).2 with done | late
    · cases done.symm.trans after
    · cases late.symm.trans after
  | interrupted _ leased => exact (of_decide_eq_true leased).1
  | confirmed _ unknown => exact (of_decide_eq_true unknown).1

theorem step_unknownTools (step : TurnStep op v v') (grounded : Grounded v)
    (unique : (v.operations.map operationId).Nodup) (unknown : UnknownTools v) :
    UnknownTools v' := by
  intro row member phase
  rcases step_operations step grounded unique with ⟨edit, edited, life⟩ | ⟨lease⟩
  · rw [edited] at member
    obtain ⟨old, oldMember, rfl⟩ := List.mem_map.mp member
    exact (life old oldMember).unknown (unknown old oldMember) phase
  · obtain ⟨request, record, -, -, -, leased, appended⟩ := lease
    rw [appended, List.mem_append, List.mem_singleton] at member
    rcases member with old | rfl
    · exact unknown row old phase
    · cases leased.symm.trans phase

def ToolsStore (s : Store) : Prop :=
  GroundedStore s ∧ ∀ id, Tools (view s id) ∧ UnknownTools (view s id)

theorem step_toolsStore (s : Store) (op : Op) (tools : ToolsStore s)
    (discipline : ToolDiscipline s op) : ToolsStore (s.step op) := by
  obtain ⟨grounded, tools⟩ := tools
  refine ⟨step_groundedStore grounded op, ?_⟩
  intro id
  rcases step_follows grounded op id with same | step
  · rw [same]
    exact tools id
  · exact ⟨step_tools step (grounded id) (viewDiscipline_of_step discipline step) (tools id).1,
      step_unknownTools step (grounded id) (operationsOf_unique s id) (tools id).2⟩

theorem toolsStore_empty : ToolsStore Store.empty := by
  refine ⟨groundedStore_empty, fun id => ⟨?_, ?_⟩⟩
  · intro record stored
    cases stored
  · intro row member
    cases member

theorem run_toolsStore (disciplined : Along Store.step ToolDiscipline Store.empty ops) :
    ToolsStore (run Store.step Store.empty ops) :=
  run_invariant step_toolsStore toolsStore_empty disciplined

/-! ## After a restart -/

theorem hydrated_resting {s' : Store} {now : IsoTimestamp} {report : LogicalTurnHydrationReport}
    (grounded : GroundedStore s) (hydrated : s.hydrateLogicalTurns now = .ok (s', report))
    {id : LogicalTurnId} (stored : s'.loadTurn id = some record) : record.phase ≠ .running := by
  have viewed : (view s' id).record = some record := stored
  cases before : s.loadTurn id with
  | none =>
    -- a pass admits no turn
    have absent : (view s id).record = none := before
    rcases hydrate_follows grounded hydrated id with same | step
    · rw [same, absent] at viewed
      cases viewed
    · generalize view s id = v at step absent
      generalize view s' id = v' at step
      cases step <;> simp_all
  | some old =>
    have named : old.logicalTurnId = id := Table.key_of_find? before
    subst named
    rcases hydrate_rehydrates grounded hydrated before with ⟨same, resting⟩ | step
    · rw [same, show (view s old.logicalTurnId).record = some old from before,
        Option.some.injEq] at viewed
      subst viewed
      rcases resting with terminal | attended
      · exact (terminal_phase terminal).2.1
      · simp [attended]
    · generalize view s old.logicalTurnId = v at step
      generalize view s' old.logicalTurnId = v' at step viewed
      cases step with
      | refresh stored runnable =>
        cases stored.symm.trans viewed
        simp [runnable]
      | finalize | interrupt | recover =>
        cases viewed
        simp [finalizedRecord, interruptedRecord, recoveredRecord]

/-! ## Resolving the attention of a restart -/

structure Resolves (record : LogicalTurnRecord)
    (request : LogicalTurnAttentionResolutionRequest) : Prop where
  turn : request.logicalTurnId = record.logicalTurnId
  revision : request.expectedRevision = record.revision
  kind : request.lifecycleEvent.kind = .continuationResumed
  phase : request.lifecycleEvent.phase = .runnable
  continuation : request.lifecycleEvent.continuationId = record.currentContinuationId
  epoch : request.lifecycleEvent.executionEpochId = none
  next : request.lifecycleEvent.logicalTurnRevision = record.revision + 1
  eventTurn : request.lifecycleEvent.logicalTurnId = record.logicalTurnId
  session : request.lifecycleEvent.sessionId = record.sessionId
  wake : request.lifecycleEvent.wakeId = record.sourceWakeId

section

theorem confirmation_valid (resolves : Resolves record request)
    (attended : record.phase = .attentionRequired)
    (attention : record.attention = some (hydrationAttention 1 since))
    (confirms : isToolConfirmation request.action = true) :
    validateAttentionResolution record request = .ok () := by
  have action : request.action = .confirmToolCompleted ∨
      request.action = .confirmToolNotCompleted := by
    cases chosen : request.action <;> simp_all [isToolConfirmation]
  refine validateAttentionResolution_ok.mpr ⟨resolves.revision.symm, attended,
    ⟨_, attention, ?_, ?_, ?_, fun _ => rfl⟩, resolves.kind, resolves.phase,
    resolves.continuation, resolves.epoch, resolves.next, resolves.eventTurn, resolves.session,
    resolves.wake⟩
  · rcases action with chosen | chosen <;> simp [chosen, hydrationAttention]
  · rcases action with chosen | chosen <;> simp [chosen, resumesTurn]
  · rcases action with chosen | chosen <;> simp [chosen]

theorem reconcile_succeeds (grounded : GroundedStore s)
    (only : hostTools .outcomeUnknown (operationsOf s record.logicalTurnId) = [row])
    (confirms : isToolConfirmation request.action = true) :
    ∃ operations, s.reconcileUnknownHostToolOperation record request =
      .ok { s with operations := operations } := by
  have query : s.operationsIn record.logicalTurnId .hostToolExecution .outcomeUnknown =
      [row.record] := by
    rw [← List.perm_singleton, ← List.map_singleton, ← only]
    exact operationsIn_perm .outcomeUnknown
  have member : row ∈ operationsOf s record.logicalTurnId := by
    have chosen : row ∈ hostTools .outcomeUnknown (operationsOf s record.logicalTurnId) := by
      rw [only]
      exact List.mem_singleton_self row
    exact (mem_hostTools.mp chosen).1
  have present : s.operations.find?
      (confirmedOperation request.action request.now row.record).operationId = some row := by
    rw [(confirmedOperation_identity _ _ _).1,
      ownsRecords_of_grounded (grounded record.logicalTurnId) row member]
    exact find?_operationsOf member
  rw [reconcileUnknownHostToolOperation, if_pos confirms, query]
  simp only [updateOperation, present, if_true]
  exact ⟨_, rfl⟩

theorem confirmation_succeeds (grounded : GroundedStore s)
    (stored : s.loadTurn record.logicalTurnId = some record) (resolves : Resolves record request)
    (attended : record.phase = .attentionRequired)
    (attention : record.attention = some (hydrationAttention 1 since))
    (only : hostTools .outcomeUnknown (operationsOf s record.logicalTurnId) = [row])
    (confirms : isToolConfirmation request.action = true)
    (unused : s.outbox.find? request.lifecycleEvent.projectionId = none) :
    ∃ result, s.resolveLogicalTurnAttention request = .ok result := by
  obtain ⟨checkpoint, member, current⟩ := ((grounded _).turn stored).current
  have loaded : s.loadCheckpoint record.currentContinuationId = some checkpoint := by
    rw [← current]
    exact loadCheckpoint_of_mem member
  obtain ⟨operations, reconciled⟩ := reconcile_succeeds grounded only confirms
  have updated : (({ s with operations := operations } : Store).loadTurn
      (resolvedRecord record request.now).logicalTurnId).map LogicalTurnRecord.revision =
        some record.revision := congrArg (Option.map LogicalTurnRecord.revision) stored
  simp only [resolveLogicalTurnAttention, resolves.turn, stored, orFail, ok_bind,
    confirmation_valid resolves attended attention confirms, loaded, reconciled, Store.updateTurn,
    updated, if_true, insertOutbox, unused]
  exact ⟨_, rfl⟩

end

/-! ## Interrupted tools, from the crash to the operator -/

structure ToolsSettled (s : Store) (record : LogicalTurnRecord) : Prop where
  leased : record.phase.isTerminal = false →
    hostTools .leased (operationsOf s record.logicalTurnId) = []
  unknown : record.phase.isTerminal = false →
    hostTools .outcomeUnknown (operationsOf s record.logicalTurnId) ≠ [] →
      record.phase = .attentionRequired ∧ ∃ since, record.attention = some (hydrationAttention
        (hostTools .outcomeUnknown (operationsOf s record.logicalTurnId)).length since)
  confirmable : ∀ attention, record.phase.isTerminal = false → record.attention = some attention →
    (hostTools .outcomeUnknown (operationsOf s record.logicalTurnId)).length = 1 →
      attention.reason = .toolOutcomeUnknown ∧ attention.resolutionActions =
        [.confirmToolCompleted, .confirmToolNotCompleted, .cancel]
  repairable : ∀ attention, record.phase.isTerminal = false → record.attention = some attention →
    1 < (hostTools .outcomeUnknown (operationsOf s record.logicalTurnId)).length →
      attention.reason = .invariantRepairRequired ∧ attention.resolutionActions = [.cancel]

def sampleTool (name : String) : LogicalTurnOperationRecord :=
  sampleOperation "a" name .hostToolExecution 1

def twoToolsRun : List Op :=
  [sampleAdmit "a", sampleClaim "a" 1 0 1, sampleLease (sampleTool "x") 2 1,
    sampleLease (sampleTool "y") 2 1, .hydrate "09:30"]

/-- The turn then waits for a repair, which no confirmation of a tool is. -/
theorem two_interrupted_tools_need_repair :
    Along Store.step ToolDiscipline Store.empty twoToolsRun ∧
      (storeAt twoToolsRun 5).turns.rows.map (fun record =>
        (record.phase, record.attention.map LogicalTurnAttention.reason)) =
          [(.attentionRequired, some .invariantRepairRequired)] ∧
      (hostTools .outcomeUnknown (operationsOf (storeAt twoToolsRun 5) (sampleTurn "a"))).length =
        2 := by
  decide +kernel

theorem toolsSettled_of_hydrated {s' : Store} {now : IsoTimestamp}
    {report : LogicalTurnHydrationReport} (tools : ToolsStore s)
    (hydrated : s.hydrateLogicalTurns now = .ok (s', report))
    (stored : s'.loadTurn record.logicalTurnId = some record) : ToolsSettled s' record := by
  have stepped : s.step (.hydrate now) = s' :=
    @step_of_ok s s' (.hydrate now) (.hydrated report) (by simp [Store.apply, hydrated])
  have turn := ((stepped ▸ step_toolsStore s (.hydrate now) tools trivial).2
    record.logicalTurnId).1 record stored
  have unknown : record.phase.isTerminal = false →
      hostTools .outcomeUnknown (operationsOf s' record.logicalTurnId) ≠ [] →
      record.phase = .attentionRequired ∧ ∃ since, record.attention = some (hydrationAttention
        (hostTools .outcomeUnknown (operationsOf s' record.logicalTurnId)).length since) := by
    intro active pending
    rcases turn.unknown pending with terminal | attended
    · rw [active] at terminal
      cases terminal
    · exact attended
  refine ⟨fun active => turn.idle active (hydrated_resting tools.1 hydrated stored), unknown,
    fun attention active attended one => ?_, fun attention active attended several => ?_⟩
  · obtain ⟨-, since, raised⟩ := unknown active (List.ne_nil_of_length_eq_add_one one)
    rw [raised, one, Option.some.injEq] at attended
    exact attended ▸ ⟨rfl, rfl⟩
  · obtain ⟨-, since, raised⟩ := unknown active (List.ne_nil_of_length_pos (by omega))
    rw [raised, hydrationAttention, if_neg several.ne', Option.some.injEq] at attended
    exact attended ▸ ⟨rfl, rfl⟩

theorem confirmation_settles (tools : ToolsStore s)
    (stored : s.loadTurn record.logicalTurnId = some record)
    (active : record.phase.isTerminal = false)
    (pending : hostTools .outcomeUnknown (operationsOf s record.logicalTurnId) ≠ [])
    (attended : record.attention = some attention) (reason : attention.reason = .toolOutcomeUnknown)
    (resolves : Resolves record request) (confirms : isToolConfirmation request.action = true)
    (unused : s.outbox.find? request.lifecycleEvent.projectionId = none) :
    ∃ s' receipt, s.resolveLogicalTurnAttention request = .ok (s', receipt) ∧
      (s'.tickets.find? record.logicalTurnId).isSome ∧
      ∀ row ∈ operationsOf s' record.logicalTurnId, row.record.phase ≠ .outcomeUnknown := by
  have turn := (tools.2 record.logicalTurnId).1 record stored
  obtain ⟨phase, since, raised⟩ := (turn.unknown pending).resolve_left (by simp [active])
  change record.attention = some (hydrationAttention
    (hostTools .outcomeUnknown (operationsOf s record.logicalTurnId)).length since) at raised
  -- only the attention for a single tool offers its confirmation
  have one : (hostTools .outcomeUnknown (operationsOf s record.logicalTurnId)).length = 1 := by
    rw [raised, Option.some.injEq] at attended
    by_contra several
    rw [← attended, hydrationAttention, if_neg several] at reason
    cases reason
  obtain ⟨row, only⟩ := List.length_eq_one_iff.mp one
  rw [one] at raised
  obtain ⟨⟨s', receipt⟩, accepted⟩ :=
    confirmation_succeeds tools.1 stored resolves phase raised only confirms unused
  refine ⟨s', receipt, accepted, ?_, ?_⟩
  · obtain ⟨record', s₁, s₂, stored', -, -, -, rfl⟩ := resolveLogicalTurnAttention_ok accepted
    rw [resolves.turn, stored, Option.some.injEq] at stored'
    subst stored'
    simp [upsertTicket, continuationTicket, resolvedRecord]
  · obtain ⟨record', s₁, s₂, stored', -, -, event, settled⟩ :=
      resolveLogicalTurnAttention_ok accepted
    rw [resolves.turn, stored, Option.some.injEq] at stored'
    subst stored'
    have stepped : s.step (.resolveAttention request) = s' :=
      @step_of_ok s s' (.resolveAttention request) (.attentionResolved receipt)
        (by simp [Store.apply, accepted])
    have after := (stepped ▸ step_toolsStore s (.resolveAttention request) tools trivial).2
      record.logicalTurnId
    have resolved : s'.loadTurn record.logicalTurnId = some (resolvedRecord record
        request.now) := by
      rw [settled]
      exact loadTurn_put (s := s₁) (insertOutbox_turns event) rfl
    have known := (after.1 _ resolved).known rfl (by simp [resolvedRecord])
    intro row member unknown
    have listed := mem_hostTools.mpr ⟨member, after.2 row member unknown, unknown⟩
    rw [show operationsOf s' record.logicalTurnId = (view s' record.logicalTurnId).operations
      from rfl, known] at listed
    cases listed

theorem interrupted_tools_settled (ops : List Op)
    (disciplined : Along Store.step ToolDiscipline Store.empty ops) :
    (∀ now s' report, (run Store.step Store.empty ops).hydrateLogicalTurns now = .ok (s', report) →
        ∀ record ∈ s'.turns.rows, ToolsSettled s' record) ∧
      ∀ record ∈ (run Store.step Store.empty ops).turns.rows, ∀ attention request,
        record.phase.isTerminal = false →
        hostTools .outcomeUnknown
          (operationsOf (run Store.step Store.empty ops) record.logicalTurnId) ≠ [] →
        record.attention = some attention → attention.reason = .toolOutcomeUnknown →
        Resolves record request → isToolConfirmation request.action = true →
        (run Store.step Store.empty ops).outbox.find? request.lifecycleEvent.projectionId = none →
        ∃ s' receipt, (run Store.step Store.empty ops).resolveLogicalTurnAttention request =
            .ok (s', receipt) ∧
          (s'.tickets.find? record.logicalTurnId).isSome ∧
          ∀ row ∈ operationsOf s' record.logicalTurnId, row.record.phase ≠ .outcomeUnknown := by
  have tools := run_toolsStore disciplined
  refine ⟨?_, ?_⟩
  · intro now s' report hydrated record member
    exact toolsSettled_of_hydrated tools hydrated (Table.find?_of_mem member)
  · intro record member attention request active pending attended reason resolves confirms unused
    exact confirmation_settles tools (Table.find?_of_mem member) active pending attended reason
      resolves confirms unused

def oneToolRun : List Op :=
  [sampleAdmit "a", sampleClaim "a" 1 0 1, sampleLease (sampleTool "x") 2 1, .hydrate "09:30"]

def interruptedTurn : LogicalTurnRecord :=
  { sampleRecord "a" with
    phase := .attentionRequired
    claimGeneration := some 1
    attention := some (hydrationAttention 1 "09:30")
    updatedAt := "09:30"
    revision := 3 }

def sampleConfirmation : LogicalTurnAttentionResolutionRequest :=
  ⟨sampleTurn "a", 3, .confirmToolNotCompleted,
    sampleEvent "a" 4 0 none .continuationResumed .runnable, "09:40"⟩

theorem interrupted_tools_settled_sample :
    ∃ s' receipt, (run Store.step Store.empty oneToolRun).resolveLogicalTurnAttention
        sampleConfirmation = .ok (s', receipt) ∧
      (s'.tickets.find? (sampleTurn "a")).isSome ∧
      ∀ row ∈ operationsOf s' (sampleTurn "a"), row.record.phase ≠ .outcomeUnknown :=
  (interrupted_tools_settled oneToolRun (by decide +kernel)).2 interruptedTurn
    (by decide +kernel) _ sampleConfirmation rfl (by decide +kernel) rfl rfl
    ⟨rfl, rfl, rfl, rfl, rfl, rfl, rfl, rfl, rfl, rfl⟩ rfl (by decide +kernel)

end RustyCrew.Proof.Lifecycle

import RustyCrew.Proof.Engine.Absorption

namespace RustyCrew.Proof.Engine

open Library Protocol RustyCrew.Persistence RustyCrew.Engine CrewM Attended Table
open RustyCrew.Proof.Persistence

/-! ## Limits that a delegation passes on -/

def limitsOf (e : CrewEngine) (id : SessionId) : Option ResourceLimits :=
  (sessionOf e id).map SessionState.resourceLimits

def requestedLimits (request : DelegationRequest) : ResourceLimits :=
  request.resourceLimits.getD ⟨none, some 0⟩

/-- A limit that is not set does not bind. -/
structure Narrows (parent child : ResourceLimits) : Prop where
  depth : ∀ n, parent.maxDelegationDepth = some n → ∃ m, child.maxDelegationDepth = some m ∧ m < n
  duration : ∀ n, parent.maxDurationMs = some n → ∃ m, child.maxDurationMs = some m ∧ m ≤ n

def Bounded (e : CrewEngine) : Prop :=
  ∀ child ∈ e.registry.sessions.rows, ∀ lineage, child.delegation = some lineage →
    ∃ limits, limitsOf e lineage.parentSessionId = some limits ∧ Narrows limits child.resourceLimits

/-- The session that is `d` levels of delegation above another one. -/
def ancestorAt (e : CrewEngine) : Nat → SessionState → Option SessionState
  | 0, session => some session
  | d + 1, session => do
    let lineage ← session.delegation
    let parent ← sessionOf e lineage.parentSessionId
    ancestorAt e d parent

section
variable {e : CrewEngine} {d n : Nat} {parent session state : SessionState} {calendar : Calendar}
  {run : Option WorkerRunRecord}

theorem Bounded.narrows (bounded : Bounded e)
    (isRow : session ∈ e.registry.sessions.rows) (isChild : session.delegation = some lineage)
    (isParent : sessionOf e lineage.parentSessionId = some parent) :
    Narrows parent.resourceLimits session.resourceLimits := by
  obtain ⟨limits, isLimits, narrows⟩ := bounded session isRow lineage isChild
  simp only [limitsOf, isParent, Option.map_some, Option.some.injEq] at isLimits
  exact isLimits ▸ narrows

theorem Bounded.depth (bounded : Bounded e) (isRow : session ∈ e.registry.sessions.rows)
    (above : ancestorAt e d session = some parent)
    (limited : parent.resourceLimits.maxDelegationDepth = some n) :
    ∃ m, session.resourceLimits.maxDelegationDepth = some m ∧ m + d ≤ n := by
  induction d generalizing session with
  | zero =>
    cases above
    exact ⟨n, limited, le_rfl⟩
  | succ d ih =>
    simp only [ancestorAt, Option.bind_eq_bind, Option.bind_eq_some_iff] at above
    obtain ⟨lineage, isChild, next, isNext, above⟩ := above
    obtain ⟨m, isLimit, deep⟩ := ih (mem_of_find? isNext) above
    obtain ⟨k, childLimit, less⟩ := (bounded.narrows isRow isChild isNext).depth m isLimit
    exact ⟨k, childLimit, by omega⟩

/-- Besides, the session that delegates is registered with the limits it was found with. -/
structure Hosts (parent : SessionState) (e : CrewEngine) : Prop where
  bounded : Bounded e
  limits : limitsOf e parent.sessionId = some parent.resourceLimits

theorem Hosts.put (hosts : Hosts parent e) {registry : SessionRegistry}
    (sessions : registry.sessions = e.registry.sessions.put state)
    (same : ∀ old, sessionOf e state.sessionId = some old →
      old.resourceLimits = state.resourceLimits)
    (own : ∀ lineage, state.delegation = some lineage → ∃ limits,
      limitsOf e lineage.parentSessionId = some limits ∧ Narrows limits state.resourceLimits) :
    Hosts parent { e with registry } := by
  have kept : ∀ id limits, limitsOf e id = some limits →
      limitsOf { e with registry } id = some limits := by
    intro id limits isLimits
    obtain ⟨old, found, rfl⟩ := Option.map_eq_some_iff.mp isLimits
    rw [limitsOf, sessionOf, sessions, find?_put]
    split
    · next isNew => simp [same old (isNew ▸ found)]
    · exact isLimits
  refine ⟨?_, kept _ _ hosts.limits⟩
  have narrowed : ∀ child ∈ (e.registry.sessions.put state).rows, ∀ lineage,
      child.delegation = some lineage → ∃ limits, limitsOf e lineage.parentSessionId = some limits ∧
        Narrows limits child.resourceLimits := forall_put hosts.bounded own
  intro child isRow lineage isChild
  obtain ⟨limits, isLimits, narrows⟩ := narrowed child (sessions ▸ isRow) lineage isChild
  exact ⟨limits, kept _ _ isLimits, narrows⟩

/-! ## Calls that keep the limits -/

@[grind ←] theorem hosts_inStore {α : Type}
    {statement : SessionTables → CoreResult (α × SessionTables)} :
    Preserves (Hosts parent) (inStore statement) :=
  upholds_inStore (fun _ _ _ _ hosts => ⟨hosts.bounded, hosts.limits⟩) fun _ => id

@[grind ←] theorem hosts_save {write : SessionTables → SessionTables} :
    Preserves (Hosts parent) (save write) := hosts_inStore

@[grind ←] theorem hosts_publish : Preserves (Hosts parent) (publish event) :=
  upholds_publish (fun _ _ hosts => ⟨hosts.bounded, hosts.limits⟩) fun _ => id

theorem hosts_archive :
    Preserves (Hosts parent) (inRegistry fun registry =>
      registry.archiveSession sessionId time) := by
  refine upholds_inRegistry (fun e state registry archived hosts => ?_) fun _ => id
  obtain ⟨old, found, rfl, rfl⟩ := archiveSession_ok archived
  refine hosts.put rfl (fun other isOther => ?_) (hosts.bounded old (mem_of_find? found))
  have isOld : old.sessionId = sessionId := key_of_find? found
  cases (isOld ▸ isOther : sessionOf e sessionId = some other).symm.trans found
  rfl

theorem hosts_createSession {config : SessionConfig}
    (isChild : config.delegation.map DelegationLineage.parentSessionId = some parent.sessionId)
    (narrows : Narrows parent.resourceLimits config.resourceLimits) :
    Preserves (Hosts parent) (inRegistry fun registry => registry.createSession config time) := by
  refine upholds_inRegistry (fun e state registry created hosts => ?_) fun _ => id
  have absent := (apart_createSession created).2.1
  simp only [SessionRegistry.createSession, bind_eq_ok, pure_eq_ok, Prod.mk.injEq] at created
  obtain ⟨normal, normalized, _, _, _, _, rfl, rfl⟩ := created
  obtain ⟨_, rfl⟩ := normalizeSessionConfigWorkspace_ok normalized
  refine hosts.put rfl (fun old isOld => ?_) fun lineage isLineage => ?_
  · cases absent.symm.trans isOld
  · rw [show config.delegation = some lineage from isLineage] at isChild
    exact ⟨_, Option.some.inj isChild ▸ hosts.limits, narrows⟩

@[grind ←] theorem hosts_publishDelegationLifecycle :
    Preserves (Hosts parent) (publishDelegationLifecycle session wakeId index phase detail) := by
  grind [publishDelegationLifecycle]

@[grind ←] theorem hosts_advanceRun : Preserves (Hosts parent) (advanceRun sessionId status) :=
  preserves_bind preserves_now fun _ => hosts_save

@[grind ←] theorem hosts_archiveIfNonterminal :
    Preserves (Hosts parent) (archiveDelegatedSessionIfNonterminal session status) := by
  have settles : ∀ run, Preserves (Hosts parent) (settleRun run status) := by
    intro run
    cases run <;> grind [settleRun, updateDelegatedWorkerRunStatus]
  have archives : ∀ run, Preserves (Hosts parent)
      (archiveWithRun session.sessionId run status) := by
    intro run
    refine preserves_bind (preserves_bind preserves_now fun _ => hosts_archive) fun _ => ?_
    repeat refine preserves_bind (by grind [saveEngineSession]) fun _ => ?_
    exact preserves_pure
  grind [archiveDelegatedSessionIfNonterminal]

@[grind ←] theorem hosts_archiveSession : Preserves (Hosts parent) (archiveSession sessionId) := by
  have ends : ∀ state, Preserves (Hosts parent) (endDelegations state sessionId) := by
    grind [endDelegations, cancelRunUnlessEnded, cancelDelegatedChildrenForParent,
      updateDelegatedWorkerRunStatusBySession]
  unfold archiveSession
  iterate 3 refine preserves_bind (by grind) fun _ => ?_
  refine preserves_bind hosts_archive fun state => ?_
  repeat refine preserves_bind (by grind [saveEngineSession, publishSessionExecution]) fun _ => ?_
  exact preserves_pure

@[grind ←] theorem hosts_cancelSibling :
    Preserves (Hosts parent) (cancelSibling runId sibling) := by
  grind [cancelSibling]

@[grind ←] theorem hosts_completeRunLease :
    Preserves (Hosts parent) (completeRunLease packet run) := by
  unfold completeRunLease
  split
  · split <;> grind [inPool]
  · exact preserves_pure

/-- What follows the execution of the accepted actions only archives sessions. -/
theorem hosts_completions {receipt : ActionBatchReceipt} : Preserves (Hosts parent) (do
    forCompletions updateLifecycleForCompletion batch
    forCompletions applyFailurePolicy batch
    forCompletions wakeParent batch
    forCompletions archiveCompleted batch
    pure receipt) := by
  refine preserves_bind (preserves_forCompletions fun packet => ?_) fun _ => ?_
  · unfold updateLifecycleForCompletion
    repeat refine preserves_bind (by grind) fun _ => ?_
    grind
  refine preserves_bind (preserves_forCompletions fun packet => ?_) fun _ => ?_
  · unfold applyFailurePolicy
    split
    · exact preserves_pure
    · refine preserves_bind (by grind) fun run => ?_
      split <;> grind [failFast]
  refine preserves_bind (preserves_forCompletions fun packet => ?_) fun _ => ?_
  · refine preserves_bind (by grind) fun run => ?_
    grind
  refine preserves_bind (preserves_forCompletions fun packet => by grind [archiveCompleted])
    fun _ => ?_
  exact preserves_pure

/-! ## Calls that delegate -/

theorem hosts_startDelegated {config : SessionConfig}
    (isChild : config.delegation.map DelegationLineage.parentSessionId = some parent.sessionId)
    (narrows : Narrows parent.resourceLimits config.resourceLimits) :
    Preserves (Hosts parent) (startDelegated order parent config claim) := by
  refine preserves_bind preserves_now fun time => ?_
  refine preserves_bind (hosts_createSession isChild narrows) fun state => ?_
  repeat refine preserves_bind (by grind [saveEngineSessionWithConfig]) fun _ => ?_
  grind

theorem hosts_spawnDelegatedWorker
    (narrows : Narrows parent.resourceLimits (requestedLimits order.request)) :
    Preserves (Hosts parent) (spawnDelegatedWorker calendar parent order) := by
  have claims : ClaimsCapacity (Hosts parent) fun _ => Hosts parent :=
    ⟨fun _ => id, fun _ _ _ _ _ hosts => ⟨hosts.bounded, hosts.limits⟩, fun _ _ _ _ _ hosts =>
      ⟨⟨hosts.bounded, hosts.limits⟩, fun _ _ => ⟨hosts.bounded, hosts.limits⟩⟩⟩
  refine preserves_bind preserves_load fun existing => ?_
  split
  · exact preserves_pure
  refine preserves_bind ((upholds_claimFor claims).returning fun _ _ => And.left) fun claim => ?_
  apply upholds_bind (Q := fun config e =>
    (∃ workspace profile, config = order.config parent workspace profile) ∧ Hosts parent e)
  · apply upholds_then (by grind [delegatedWorkspace])
    intro workspace
    apply upholds_bind preserves_toolProfile
    exact fun profile => upholds_pure fun _ hosts => ⟨⟨workspace, profile, rfl⟩, hosts⟩
  intro config
  apply upholds_assume
  rintro ⟨workspace, profile, rfl⟩
  exact hosts_startDelegated rfl narrows

theorem hosts_executeAcceptedActions (narrows : ∀ request,
    .requestDelegation request ∈ batch.actions →
      Narrows parent.resourceLimits (requestedLimits request)) :
    Preserves (Hosts parent) (executeAcceptedActions calendar parent batch) := by
  refine preserves_bind (upholds_forEach fun entry isEntry => ?_) fun _ => ?_
  · unfold spawnForAction
    split
    · next request isRequest =>
      have isAction := List.fst_mem_of_mem_zipIdx isEntry
      exact hosts_spawnDelegatedWorker (narrows request (isRequest ▸ isAction))
    · exact preserves_pure
  have executes : ∀ sender action, Preserves (Hosts parent) (executeAction sender action) := by
    intro sender action
    cases action <;> grind [executeAction, publishMessage, publishCompletion]
  exact preserves_bind (by grind [execute]) fun receipt => hosts_completions

/-- The limits asked for by the session of the batch are narrower than its own, unless the engine
refuses its requests for the depth anyway. -/
def Narrowing (e : CrewEngine) (call : BrainActionBatch × (Nat → Surroundings)) : Prop :=
  ∀ parent request, sessionOf e call.1.sessionId = some parent →
    .requestDelegation request ∈ call.1.actions →
    parent.resourceLimits.maxDelegationDepth ≠ some 0 →
    Narrows parent.resourceLimits (requestedLimits request)

def actionsStep (calendar : Calendar) (e : CrewEngine)
    (call : BrainActionBatch × (Nat → Surroundings)) : CrewEngine :=
  (executeBrainActions calendar call.1 ⟨e, call.2⟩).2.state

theorem bounded_executeBrainActions {answers : Nat → Surroundings} (bounded : Bounded e)
    (narrowing : Narrowing e (batch, answers)) :
    Upholds (· = e) (executeBrainActions calendar batch) (fun _ => Bounded) Bounded := by
  have same : ∀ s, s = e → Bounded s := by
    rintro s rfl
    exact bounded
  apply upholds_bind (Q := fun parent s => sessionOf e batch.sessionId = some parent ∧ s = e)
  · apply upholds_bind (upholds_lookUp ?_ same)
    · exact fun parent => upholds_bind (preserves_lift.failing fun _ holds => same _ holds.2)
        fun _ => upholds_pure fun _ => id
    · rintro s parent looked rfl
      exact ⟨by simpa [SessionRegistry.getSession, sessionOf] using looked, rfl⟩
  intro parent
  apply upholds_assume
  intro found
  split
  · exact upholds_pure same
  apply upholds_bind (upholds_validateDelegationInvariants.failing same)
  intro rejections
  apply upholds_assume
  intro checked
  split
  · exact upholds_pure same
  next passed =>
  split
  · exact upholds_pure same
  have isParent : parent.sessionId = batch.sessionId := key_of_find? found
  have hosts : ∀ s, s = e → Hosts parent s := by
    rintro s rfl
    exact ⟨bounded, by simp [limitsOf, isParent, found]⟩
  have accepted : Preserves (Hosts parent) (executeAcceptedActions calendar parent batch) :=
    hosts_executeAcceptedActions fun request isRequest =>
      narrowing parent request found isRequest (checked (not_not.mp passed) _ isRequest)
  exact upholds_weaken accepted hosts (fun _ _ => Hosts.bounded) fun _ => Hosts.bounded

/-- In every engine that delegation requests lead to, a session delegated through `d` levels below
one with a depth limit is within the limit, and no delegated session may run longer than its parent,
provided that each request narrows the limits of the session that makes it. -/
theorem delegations_within_limits {start : CrewEngine}
    (roots : ∀ session ∈ start.registry.sessions.rows, session.delegation = none)
    {calls : List (BrainActionBatch × (Nat → Surroundings))}
    (narrowing : Along (actionsStep calendar) Narrowing start calls) :
    let reached := Library.run (actionsStep calendar) start calls
    ∀ session ∈ reached.registry.sessions.rows,
      (∀ ancestor d n, ancestorAt reached d session = some ancestor →
        ancestor.resourceLimits.maxDelegationDepth = some n → d ≤ n) ∧
      ∀ parent n, ancestorAt reached 1 session = some parent →
        parent.resourceLimits.maxDurationMs = some n →
          ∃ m, session.resourceLimits.maxDurationMs = some m ∧ m ≤ n := by
  have fresh : Bounded start := by
    intro session isRow lineage isChild
    cases (roots session isRow).symm.trans isChild
  have bounded : Bounded (Library.run (actionsStep calendar) start calls) := by
    refine run_invariant (fun e call bounded narrows => ?_) fresh narrowing
    have ran : Upholds (· = e) (executeBrainActions calendar call.1) (fun _ => Bounded) Bounded :=
      bounded_executeBrainActions bounded narrows
    exact (ran.preserves rfl).2
  refine fun session isRow => ⟨fun ancestor d n above limited => ?_,
    fun parent n above limited => ?_⟩
  · obtain ⟨m, -, deep⟩ := bounded.depth isRow above limited
    omega
  · simp only [ancestorAt, Option.bind_eq_bind, Option.bind_eq_some_iff, Option.some.injEq,
      exists_eq_right] at above
    obtain ⟨lineage, isChild, isParent⟩ := above
    exact (bounded.narrows isRow isChild isParent).duration n limited

end

/-! ## A session that is delegated too deep -/

def pooledRequest : DelegationRequest where
  profileId := ⟨"profile"⟩
  taskId := none
  prompt := "work"
  expectedOutput := none
  resourceLimits := none
  workspaceConstraint := none
  timeoutMs := none
  priority := none
  fanOutGroupId := none
  fanOutMaxConcurrency := none
  fanOutFailurePolicy := none
  correlationId := none
  parentConsumption := none
  capacityRequest := some ⟨"member", none, .rejectOnNoCapacity⟩

def pooledCrew : CrewEngine :=
  let e := crewOf [crewSession 1 "r" none] []
  { e with
    profileToolProfiles := Table.empty.put ⟨⟨"profile"⟩, ⟨[]⟩⟩
    tables := { e.tables with workerPool := registered (Table.empty.put poolMember) } }

def limitedCrew : CrewEngine :=
  let root := { crewSession 1 "r" none with resourceLimits := ⟨some 1000, some 1⟩ }
  { pooledCrew with registry := SessionRegistry.fromStates [root] }

def delegates (session wake : String) (limits : ResourceLimits) :
    BrainActionBatch × (Nat → Surroundings) :=
  (⟨wake, ⟨session⟩, [.requestDelegation
    { pooledRequest with resourceLimits := some limits, capacityRequest := none }]⟩, fun _ => calm)

theorem delegations_within_limits_narrowed :
    let reached := Library.run (actionsStep crewCalendar) limitedCrew
      [delegates "r" "wake" ⟨some 500, some 0⟩]
    limitsOf reached ⟨"r:delegated:wake:0"⟩ = some ⟨some 500, some 0⟩ ∧
      ∀ session ∈ reached.registry.sessions.rows, ∀ ancestor d n,
        ancestorAt reached d session = some ancestor →
          ancestor.resourceLimits.maxDelegationDepth = some n → d ≤ n := by
  have roots : ∀ session ∈ limitedCrew.registry.sessions.rows, session.delegation = none := by
    decide +kernel
  have narrows : Narrowing limitedCrew (delegates "r" "wake" ⟨some 500, some 0⟩) := by
    intro parent request found isRequest _
    have known : limitsOf limitedCrew ⟨"r"⟩ = some ⟨some 1000, some 1⟩ := by decide +kernel
    rw [limitsOf, show sessionOf limitedCrew ⟨"r"⟩ = some parent from found] at known
    rw [Option.some.inj known]
    cases List.mem_singleton.mp isRequest
    constructor <;> rintro n ⟨⟩
    · exact ⟨0, rfl, by decide⟩
    · exact ⟨500, rfl, by decide⟩
  have narrowing : Along (actionsStep crewCalendar) Narrowing limitedCrew [_] := ⟨narrows, trivial⟩
  refine ⟨by decide +kernel, fun session isRow => ?_⟩
  exact (delegations_within_limits roots narrowing session isRow).1

/-- The child is given more than its parent has, and delegates in turn. -/
theorem delegated_beyond_limits :
    let reached := Library.run (actionsStep crewCalendar) limitedCrew
      [delegates "r" "wake" ⟨none, some 1⟩, delegates "r:delegated:wake:0" "again" ⟨none, none⟩]
    let deepest := sessionOf reached ⟨"r:delegated:wake:0:delegated:again:0"⟩
    ((deepest.bind (ancestorAt reached 2)).map SessionState.resourceLimits =
        some ⟨some 1000, some 1⟩) ∧
      limitsOf reached ⟨"r:delegated:wake:0"⟩ = some ⟨none, some 1⟩ := by
  decide +kernel

end RustyCrew.Proof.Engine

import RustyCrew.Proof.Engine.Writers

namespace RustyCrew.Proof.Engine

open Library Protocol RustyCrew.Persistence RustyCrew.Engine CrewM Attended

variable {id : SessionId} {batch : BrainActionBatch} {packet : CompletionPacket}
  {P : CrewEngine → Prop} {Granted : Option WorkerPoolClaimRecord → CrewEngine → Prop}

/-! ## Capacity for a delegated run -/

def withPool (e : CrewEngine) (workerPool : WorkerPoolTables) : CrewEngine :=
  { e with tables := { e.tables with workerPool } }

/-- What survives the work of a delegation on the worker pool, and what is known of a claim. -/
structure ClaimsCapacity (P : CrewEngine → Prop)
    (Granted : Option WorkerPoolClaimRecord → CrewEngine → Prop) : Prop where
  ungranted : ∀ e, P e → Granted none e
  items : ∀ e input now pool,
    e.tables.workerPool.createWorkerPoolWorkItem (delegationWorkItem input now) = .ok pool →
      P e → P (withPool e pool)
  claims : ∀ e request answer pool,
    e.tables.workerPool.claimNextWorkerPoolWorkItem request = .ok (answer, pool) → P e →
      P (withPool e pool) ∧ ∀ claim, answer = .ok claim → Granted (some claim) (withPool e pool)

def Unstored (runId : RunId) (e : CrewEngine) : Prop := e.tables.loadWorkerRun runId = none

theorem local_unstored (runId) : Local (Unstored runId) := by
  intro e e' apart unstored
  rw [Unstored, SessionTables.loadWorkerRun, apart.workerRuns]
  exact unstored

section

theorem ClaimsCapacity.and_unstored (claims : ClaimsCapacity P Granted) (runId) :
    ClaimsCapacity (fun e => P e ∧ Unstored runId e) Granted where
  ungranted e holds := claims.ungranted e holds.1
  items e input now pool created holds := ⟨claims.items e input now pool created holds.1, holds.2⟩
  claims e request answer pool claimed holds :=
    ⟨⟨(claims.claims e request answer pool claimed holds.1).1, holds.2⟩,
      (claims.claims e request answer pool claimed holds.1).2⟩

theorem upholds_inPool {α : Type} {E : CrewEngine → Prop} {Q : α → CrewEngine → Prop}
    {statement : WorkerPoolTables → CoreResult (α × WorkerPoolTables)}
    (post : ∀ e a pool, statement e.tables.workerPool = .ok (a, pool) → P e → Q a (withPool e pool))
    (fails : ∀ e, P e → E e) : Upholds P (inPool statement) Q E := by
  refine upholds_inStore (fun e a tables ran holds => ?_) fails
  simp only [bind_eq_ok, pure_eq_ok, Prod.exists, Prod.mk.injEq] at ran
  obtain ⟨answer, pool, stated, rfl, rfl⟩ := ran
  exact post e answer pool stated holds

variable (claims : ClaimsCapacity P Granted)
include claims

omit claims in
theorem noCapacity_unclaimed
    (claimed : workerPoolNoCapacityPlan request reason = .claimed claim) : False := by
  unfold workerPoolNoCapacityPlan at claimed
  split at claimed <;> cases claimed

theorem upholds_claimDelegationCapacity {input : WorkerPoolDelegationInput}
    {request : WorkerPoolCapacityRequest} {member : WorkerPoolMemberRecord} {now : IsoTimestamp} :
    Upholds P (claimDelegationCapacity calendar input request member now)
      (fun plan e => P e ∧ ∀ claim, plan = .claimed claim → Granted (some claim) e) P := by
  refine upholds_bind preserves_lift fun claimDeadlineAt => ?_
  refine upholds_then (upholds_inPool ?_ fun _ => id) fun _ => ?_
  · intro e _ pool created holds
    simp only [bind_eq_ok, pure_eq_ok, Prod.mk.injEq] at created
    obtain ⟨pool, ran, -, rfl⟩ := created
    exact claims.items e input now pool ran holds
  refine upholds_bind
    (Q := fun answer e => P e ∧ ∀ claim, answer = .ok claim → Granted (some claim) e)
    (upholds_inPool (fun e answer pool => claims.claims e _ answer pool) fun _ => id)
    fun answer => ?_
  cases answer with
  | ok claim =>
    refine upholds_pure fun e holds => ⟨holds.1, fun other same => ?_⟩
    cases same
    exact holds.2 claim rfl
  | error reason =>
    exact upholds_pure fun e holds => ⟨holds.1, fun _ same => (noCapacity_unclaimed same).elim⟩

theorem upholds_prepareWorkerPoolClaim :
    Upholds P (prepareWorkerPoolClaim calendar input)
      (fun plan e => P e ∧ ∀ claim, plan = .claimed claim → Granted (some claim) e) P := by
  have refused : ∀ {request reason},
      Upholds P (pure (workerPoolNoCapacityPlan request reason) : CrewM WorkerPoolDelegationPlan)
        (fun plan e => P e ∧ ∀ claim, plan = .claimed claim → Granted (some claim) e) P := by
    intro request reason
    exact upholds_pure fun e holds => ⟨holds, fun _ same => (noCapacity_unclaimed same).elim⟩
  unfold prepareWorkerPoolClaim
  split
  · exact upholds_pure fun e holds => ⟨holds, fun claim same => by cases same⟩
  · split
    · exact upholds_pure fun e holds => ⟨holds, fun claim same => by cases same⟩
    refine upholds_bind preserves_now fun time => ?_
    refine upholds_bind preserves_load fun found => ?_
    split
    · exact refused
    · split
      · exact refused
      · exact upholds_claimDelegationCapacity claims

theorem upholds_claimFor :
    Upholds P (claimFor calendar order) (fun claim e => P e ∧ Granted claim e) P := by
  refine upholds_bind (upholds_prepareWorkerPoolClaim claims) fun plan => ?_
  cases plan with
  | direct => exact upholds_pure fun e holds => ⟨holds.1, claims.ungranted e holds.1⟩
  | claimed claim => exact upholds_pure fun e holds => ⟨holds.1, holds.2 claim rfl⟩
  | rejected reason => exact upholds_reject fun e holds => holds.1

end

/-! ## Starting a delegated run -/

/-- What survives the start of a run, and what is then known of the run of its session. -/
structure Spawns (P : CrewEngine → Prop)
    (Granted : Option WorkerPoolClaimRecord → CrewEngine → Prop)
    (Live : SessionId → CrewEngine → Prop) : Prop extends ClaimsCapacity P Granted where
  isLocal : Local P
  grantedLocal : ∀ claim, Local (Granted claim)
  liveLocal : ∀ id, Local (Live id)
  requests : ∀ before e (run : WorkerRunRecord) (claim : Option WorkerPoolClaimRecord)
    (id : SessionId), P before → Apart before e → sessionOf before id = none →
    Unstored run.runId e → run.delegatedSessionId = some id → (sessionOf e id).isSome = true →
    run.status = .requested →
    run.workerPoolLeaseId = claim.map (fun claim => claim.lease.leaseId) →
    run.workerPoolClaimToken = claim.map (fun claim => claim.lease.claimToken) →
    Granted claim e → P e → P { e with tables := e.tables.saveWorkerRunRequested run } ∧
        Live id { e with tables := e.tables.saveWorkerRunRequested run }
  advances : ∀ e id status time, status.isTerminal = false → P e → Live id e →
    P { e with tables := e.tables.updateWorkerRunStatusByDelegatedSession id status time } ∧
      Live id { e with tables := e.tables.updateWorkerRunStatusByDelegatedSession id status time }

def Unended (id : SessionId) (e : CrewEngine) : Prop :=
  ∀ run, runOf e id = some run → run.status.isTerminal = false

theorem local_unended (id : SessionId) : Local (Unended id) := by
  intro e e' apart unended run isRun
  exact unended run (apart.runOf_eq ▸ isRun)

theorem runOf_updateBySession :
    runOf { e with tables := e.tables.updateWorkerRunStatusByDelegatedSession id status time } id =
      (runOf e id).map fun run => { run with status, lastUpdatedAt := time } := by
  refine loadRun_updateStatusWhere.trans ?_
  cases isRun : runOf e id with
  | none => rw [show e.tables.loadWorkerRunByDelegatedSession id = none from isRun]; rfl
  | some run =>
    rw [show e.tables.loadWorkerRunByDelegatedSession id = some run from isRun]
    simp [(runOf_eq_some isRun).2]

theorem runOf_saveRequested {run : WorkerRunRecord}
    (unstored : Unstored run.runId e) (forSession : run.delegatedSessionId = some id)
    (noRun : runOf e id = none) :
    runOf { e with tables := e.tables.saveWorkerRunRequested run } id = some run := by
  have rows : (e.tables.workerRuns.put run).rows = e.tables.workerRuns.rows ++ [run] :=
    Table.rows_put_of_absent unstored
  show (e.tables.workerRuns.put run).rows.find? _ = _
  rw [rows, List.find?_append,
    show e.tables.workerRuns.rows.find? (fun run => run.delegatedSessionId = some id) = none
      from noRun]
  simp [forSession]

theorem Spawns.of_attached
    (claims : ClaimsCapacity P Granted) (isLocal : Local P) (attached : ∀ e, P e → Attached e)
    (grantedLocal : ∀ claim, Local (Granted claim))
    (requests : ∀ e (run : WorkerRunRecord) (claim : Option WorkerPoolClaimRecord) (id : SessionId),
      Unstored run.runId e → run.delegatedSessionId = some id → runOf e id = none →
      (sessionOf e id).isSome = true → run.status = .requested →
      run.workerPoolLeaseId = claim.map (fun claim => claim.lease.leaseId) →
      run.workerPoolClaimToken = claim.map (fun claim => claim.lease.claimToken) →
      Granted claim e → P e → P { e with tables := e.tables.saveWorkerRunRequested run })
    (advances : ∀ e run status time, run ∈ e.tables.workerRuns.rows →
      run.status.isTerminal = false → status.isTerminal = false → P e →
        P { e with tables := e.tables.updateWorkerRunStatus run.runId status time }) :
    Spawns P Granted Unended where
  toClaimsCapacity := claims
  isLocal := isLocal
  grantedLocal := grantedLocal
  liveLocal := local_unended
  requests before e run claim id holdsBefore apart absent unstored forSession known requested
      isLease isToken granted holds := by
    have noRun : runOf e id = none := by
      rw [apart.runOf_eq]
      -- A run for the new session would have had to be attached to it.
      cases isRun : runOf before id with
      | none => rfl
      | some run =>
        obtain ⟨isRow, forRow⟩ := runOf_eq_some isRun
        have wasKnown := (attached before holdsBefore).known run isRow _ forRow
        rw [absent] at wasKnown
        cases wasKnown
    refine ⟨requests e run claim id unstored forSession noRun known requested
      isLease isToken granted
      holds, fun found isFound => ?_⟩
    cases (runOf_saveRequested unstored forSession noRun).symm.trans isFound
    rw [requested]
    rfl
  advances e id status time running holds unended := by
    constructor
    · refine (attached e holds).writeBySession holds fun run isRun => ?_
      exact advances e run status time (runOf_eq_some isRun).1 (unended run isRun) running holds
    · intro run isRun
      rw [runOf_updateBySession] at isRun
      obtain ⟨earlier, _, rfl⟩ := Option.map_eq_some_iff.mp isRun
      exact running

@[grind ←] theorem preserves_toolProfile : Preserves P (toolProfileForProfile profileId) := by
  refine upholds_transact (fun e profile e' ran holds => ?_) fun _ => id
  simp only [bind_eq_ok, pure_eq_ok, Prod.mk.injEq] at ran
  obtain ⟨_, _, _, rfl⟩ := ran
  exact holds

theorem preserves_delegatedConfig : Preserves P (delegatedConfig order parent) := by
  grind [delegatedConfig, delegatedWorkspace]

section
variable {state : SessionState} (spawns : Spawns P Granted Live)
include spawns

theorem upholds_advanceRun {status : WorkerRunStatus} (running : status.isTerminal = false) :
    Upholds (fun e => P e ∧ Live id e) (advanceRun id status) (fun _ e => P e ∧ Live id e) P := by
  refine upholds_bind upholds_now fun time =>
    upholds_save (fun e holds => ?_) fun _ holds => holds.1
  exact spawns.advances e id status time running holds.1 holds.2

theorem upholds_announceDelegated :
    Upholds (fun e => P e ∧ Live state.sessionId e) (announceDelegated order parent state)
      (fun _ => P) P := by
  have tracked := spawns.isLocal.and (spawns.liveLocal state.sessionId)
  have drop : ∀ e, P e ∧ Live state.sessionId e → P e := fun _ holds => holds.1
  have keeps {α : Type} {x : CrewM α}
      (preserves : Preserves (fun e => P e ∧ Live state.sessionId e) x) :
      Upholds (fun e => P e ∧ Live state.sessionId e) x
        (fun _ e => P e ∧ Live state.sessionId e) P :=
    preserves.failing drop
  refine upholds_bind (keeps (preserves_publish tracked)) fun _ => ?_
  refine upholds_bind (keeps (preserves_publishDelegationLifecycle tracked)) fun _ => ?_
  refine upholds_bind (keeps (preserves_publish tracked)) fun _ => ?_
  split
  · refine upholds_bind (keeps (preserves_publish tracked)) fun _ => ?_
    refine upholds_bind (upholds_advanceRun spawns rfl) fun _ => ?_
    exact (preserves_publishDelegationLifecycle spawns.isLocal).starting drop
  · exact upholds_pure drop

theorem upholds_startDelegated :
    Upholds (fun e => (P e ∧ Unstored order.runId e) ∧ Granted claim e)
      (startDelegated order parent config claim) (fun _ => P) P := by
  have tracked := (spawns.isLocal.and (local_unstored order.runId)).and (spawns.grantedLocal claim)
  refine upholds_bind upholds_now fun time => ?_
  refine upholds_bind (Q := fun state e => ((P e ∧ Unstored order.runId e) ∧ Granted claim e) ∧
      (∃ before, P before ∧ Apart before e ∧ sessionOf before state.sessionId = none) ∧
        (sessionOf e state.sessionId).isSome = true)
    (upholds_inRegistry ?_ fun _ holds => holds.1.1) fun state => ?_
  · intro e state registry created holds
    obtain ⟨apart, absent, -, present⟩ := apart_createSession created
    exact ⟨tracked e _ apart holds, ⟨e, holds.1.1, apart, absent⟩, present⟩
  refine upholds_bind (Q := fun _ e => P e ∧ Live state.sessionId e)
    (upholds_save ?_ fun _ holds => holds.1.1.1) fun _ => ?_
  · intro e ⟨⟨⟨holds, unstored⟩, granted⟩, ⟨before, holdsBefore, apart, absent⟩, present⟩
    exact spawns.requests before e (order.run parent state claim) claim state.sessionId holdsBefore
      apart absent unstored rfl present rfl rfl rfl granted holds
  have bothLocal := spawns.isLocal.and (spawns.liveLocal state.sessionId)
  refine upholds_bind ((preserves_saveSessionWithConfig bothLocal).failing fun _ holds => holds.1)
    fun _ => ?_
  refine upholds_bind (upholds_advanceRun spawns rfl) fun _ => ?_
  exact upholds_announceDelegated spawns

theorem preserves_spawnDelegatedWorker : Preserves P
    (spawnDelegatedWorker calendar parent order) := by
  refine upholds_bind (Q := fun existing e => P e ∧ existing = e.tables.loadWorkerRun order.runId)
    (upholds_load (fun _ holds => ⟨holds, rfl⟩) fun _ => id) fun existing => ?_
  split
  · exact upholds_pure fun _ holds => holds.1
  · next unstored =>
    refine upholds_bind (upholds_weaken
      (upholds_claimFor (spawns.toClaimsCapacity.and_unstored order.runId))
      (fun e holds => ⟨holds.1, ?_⟩) (fun _ _ => id) fun _ holds => holds.1) fun claim => ?_
    · rw [holds.2] at unstored
      exact Option.not_isSome_iff_eq_none.mp unstored
    refine upholds_then (preserves_delegatedConfig.failing fun _ holds => holds.1.1) fun config =>
      upholds_startDelegated spawns

theorem preserves_spawnDelegatedWorkers :
    Preserves P (spawnDelegatedWorkers calendar parent batch) := by
  grind [spawnDelegatedWorkers, spawnForAction, preserves_spawnDelegatedWorker]

end

/-! ## Publishing -/

@[grind ←] theorem preserves_openSession : Preserves P (openSession id) := by
  grind [openSession]

section
variable (isLocal : Local P)
include isLocal

@[grind ←] theorem preserves_executeAction : Preserves P (executeAction session action) := by
  cases action <;> grind [executeAction, publishMessage, publishCompletion]

theorem preserves_execute : Preserves P (execute batch) := by
  grind [execute]

theorem preserves_wakeParent : Preserves P (wakeParent packet) := by
  unfold wakeParent
  refine preserves_bind (by grind) fun run => ?_
  grind

end

/-! ## What follows a completion -/

section
variable (admits : Ends P)
include admits

@[grind ←] theorem preserves_cancelSibling : Preserves P (cancelSibling runId sibling) := by
  grind [cancelSibling]

theorem preserves_applyFailurePolicy : Preserves P (applyFailurePolicy packet) := by
  unfold applyFailurePolicy
  split
  · grind
  · refine preserves_bind (by grind) fun run => ?_
    split <;> grind [failFast]

theorem preserves_archiveCompleted : Preserves P (archiveCompleted packet) := by
  grind [archiveCompleted, preserves_archiveSession]

end

theorem preserves_forCompletions {f : CompletionPacket → CrewM Unit}
    (keeps : ∀ packet, Preserves P (f packet)) : Preserves P (forCompletions f batch) := by
  grind [forCompletions]

/-! ## Whole batches -/

theorem sessionId_of_validate (valid : validate batch = [])
    (isPacket : .deliverCompletion packet ∈ batch.actions) :
    packet.sessionId = batch.sessionId := by
  obtain ⟨index, bound, isAction⟩ := List.getElem_of_mem isPacket
  have passed := List.filterMap_eq_nil_iff.mp valid (batch.actions[index], index)
    (List.mk_mem_zipIdx_iff_getElem?.mpr (by simp [bound]))
  rw [isAction] at passed
  unfold rejectionOf at passed
  split at passed
  · next accepted =>
    simp only [validateAction, validateCompletionPacket, bind_eq_ok, rejectIf_eq_ok,
      not_not] at accepted
    exact accepted.choose_spec.1
  · cases passed

section
variable {e : CrewEngine} {session : SessionState}

theorem upholds_validateDelegationProfile :
    Upholds (· = e) (validateDelegationProfile session request index) (fun found s =>
      (found = none → session.resourceLimits.maxDelegationDepth ≠ some 0) ∧ s = e) (· = e) := by
  unfold validateDelegationProfile
  split
  · exact upholds_pure fun _ same => ⟨nofun, same⟩
  next allowed =>
  refine upholds_then (upholds_attempt (preserves_toolProfile.failing fun _ same _ => same))
    fun profile => ?_
  split
  · exact upholds_pure fun _ same => ⟨fun _ => allowed, same⟩
  · exact upholds_pure fun _ same => ⟨fun _ => allowed, same⟩

theorem upholds_validateCompletionRun :
    Upholds (· = e) (validateCompletionRun packet index)
      (fun found s => (found = none → Unended packet.sessionId e) ∧ s = e) (· = e) := by
  refine upholds_bind (Q := fun loaded s =>
      (∀ run, loaded = .ok run → run = runOf e packet.sessionId) ∧ s = e)
    (upholds_attempt (upholds_load (fun s same => ⟨fun run loaded => ?_, same⟩)
      fun _ same _ => ⟨fun _ impossible => (by cases impossible), same⟩))
    fun loaded => upholds_assume fun isRun => ?_
  · cases loaded
    rw [same]
    rfl
  split
  · next run =>
    have isOwn : runOf e packet.sessionId = some run := (isRun _ rfl).symm
    split
    · exact upholds_pure fun _ same => ⟨fun none => (by cases none), same⟩
    · next running =>
      refine upholds_pure fun _ same => ⟨fun _ found isFound => ?_, same⟩
      cases isOwn.symm.trans isFound
      simpa using running
  · have noRun : runOf e packet.sessionId = none := (isRun _ rfl).symm
    refine upholds_pure fun _ same => ⟨fun _ found isFound => ?_, same⟩
    cases noRun.symm.trans isFound
  · exact upholds_pure fun _ same => ⟨fun none => (by cases none), same⟩

def Checked (session : SessionState) (e : CrewEngine) : BrainAction → Prop
  | .requestDelegation _ => session.resourceLimits.maxDelegationDepth ≠ some 0
  | .deliverCompletion packet => Unended packet.sessionId e
  | .sendMessage _ => True

theorem upholds_validateDelegationInvariants :
    Upholds (· = e) (validateDelegationInvariants session batch)
      (fun rejections s => (rejections = [] → ∀ action ∈ batch.actions, Checked session e action) ∧
        s = e) (· = e) := by
  have round : ∀ entry ∈ batch.actions.zipIdx,
      Upholds (· = e) (validateDelegationInvariant session entry)
        (fun found s => (found = none → Checked session e entry.1) ∧ s = e) (· = e) := by
    intro entry _
    unfold validateDelegationInvariant
    split
    · next isRequest =>
      rw [isRequest]
      exact upholds_validateDelegationProfile
    · next isCompletion =>
      rw [isCompletion]
      exact upholds_validateCompletionRun
    · next isMessage =>
      rw [isMessage]
      exact upholds_pure fun _ same => ⟨fun _ => trivial, same⟩
  refine (upholds_gather_none round).returning (fun rejections s holds => ?_)
  refine ⟨fun none action isAction => ?_, holds.2⟩
  obtain ⟨index, bound, rfl⟩ := List.getElem_of_mem isAction
  refine holds.1 none (batch.actions[index], index) ?_
  exact List.mk_mem_zipIdx_iff_getElem?.mpr (by simp [bound])

theorem upholds_executeBrainActions {R E : CrewEngine → Prop}
    {Live : SessionId → CrewEngine → Prop} (spawns : Spawns P Granted Live) (admits : Ends R)
    (unspawned : ∀ s, P s → E s)
    (ended : ∀ s, R s → E s) (unchanged : R e)
    (accepted : (∀ packet, .deliverCompletion packet ∈ batch.actions →
      packet.sessionId = batch.sessionId ∧ Unended packet.sessionId e) →
        P e ∧ Upholds P (forCompletions updateLifecycleForCompletion batch) (fun _ => R) E) :
    Upholds (· = e) (executeBrainActions calendar batch) (fun _ => R) E := by
  have same {s : CrewEngine} (isEngine : s = e) : R s := isEngine ▸ unchanged
  refine upholds_then (preserves_openSession.failing fun _ isEngine => ended _ (same isEngine))
    fun session => ?_
  split
  · exact upholds_pure fun _ => same
  next valid =>
  refine upholds_bind (upholds_validateDelegationInvariants.failing fun _ isEngine =>
    ended _ (same isEngine)) fun rejections => upholds_assume fun passed => ?_
  split
  · exact upholds_pure fun _ => same
  next noRejections =>
  split
  · exact upholds_pure fun _ => same
  obtain ⟨start, completes⟩ := accepted fun packet isPacket =>
    ⟨sessionId_of_validate (not_not.mp valid) isPacket, passed (not_not.mp noRejections) _ isPacket⟩
  have keeps {α : Type} {x : CrewM α} (preserves : Preserves R x) : Upholds R x (fun _ => R) E :=
    preserves.failing ended
  refine upholds_bind (Q := fun _ => P) (upholds_weaken (preserves_spawnDelegatedWorkers spawns)
    (fun _ isEngine => isEngine ▸ start) (fun _ _ => id) unspawned) fun _ => ?_
  refine upholds_bind ((preserves_execute spawns.isLocal).failing unspawned) fun receipt => ?_
  refine upholds_bind completes fun _ => ?_
  refine upholds_bind (keeps (preserves_forCompletions fun _ =>
    preserves_applyFailurePolicy admits))
    fun _ => ?_
  refine upholds_bind (keeps (preserves_forCompletions fun _ =>
    preserves_wakeParent admits.isLocal))
    fun _ => ?_
  refine upholds_bind (keeps (preserves_forCompletions fun _ => preserves_archiveCompleted admits))
    fun _ => ?_
  exact upholds_pure fun _ => id

end

end RustyCrew.Proof.Engine

import RustyCrew.Proof.Engine.Agreement

namespace RustyCrew.Proof.Engine

open Library Protocol RustyCrew.Persistence RustyCrew.Engine CrewM Attended SessionTables

variable {registry : SessionRegistry} {state : SessionState}

/-! ## Runs and the sessions they were started for -/

structure Attached (e : CrewEngine) : Prop where
  known : ∀ run ∈ e.tables.workerRuns.rows, ∀ id, run.delegatedSessionId = some id →
    (sessionOf e id).isSome = true
  alone : ∀ run ∈ e.tables.workerRuns.rows, ∀ other ∈ e.tables.workerRuns.rows, ∀ id,
    run.delegatedSessionId = some id → other.delegatedSessionId = some id → other = run

/-- Neither the runs nor the worker pool have been touched, and no event and no session has been
forgotten. -/
structure Apart (e e' : CrewEngine) : Prop where
  workerRuns : e'.tables.workerRuns = e.tables.workerRuns
  statusWrites : e'.tables.statusWrites = e.tables.statusWrites
  workerPool : e'.tables.workerPool = e.tables.workerPool
  published : e.published <+: e'.published
  known : ∀ id, (sessionOf e id).isSome = true → (sessionOf e' id).isSome = true

/-- What is only about the runs, the worker pool and what has been published and is known. -/
def Local (P : CrewEngine → Prop) : Prop := ∀ e e', Apart e e' → P e → P e'

section
variable {e : CrewEngine} {id : SessionId} {time : IsoTimestamp}

theorem Local.and {P R : CrewEngine → Prop} (first : Local P) (second : Local R) :
    Local fun e => P e ∧ R e :=
  fun e e' apart holds => ⟨first e e' apart holds.1, second e e' apart holds.2⟩

theorem Apart.runOf_eq (apart : Apart e e') : runOf e' id = runOf e id := by
  rw [runOf, loadWorkerRunByDelegatedSession, apart.workerRuns]
  rfl

theorem local_attached : Local Attached := by
  intro e e' apart attached
  constructor
  · rw [apart.workerRuns]
    exact fun run isRun id forSession => apart.known id (attached.known run isRun id forSession)
  · rw [apart.workerRuns]
    exact attached.alone

theorem apart_tables {tables : SessionTables} (runs : tables.workerRuns = e.tables.workerRuns)
    (writes : tables.statusWrites = e.tables.statusWrites)
    (pool : tables.workerPool = e.tables.workerPool) : Apart e { e with tables } :=
  ⟨runs, writes, pool, List.prefix_rfl, fun _ => id⟩

theorem apart_published (event) : Apart e { e with published := e.published ++ [event] } :=
  ⟨rfl, rfl, rfl, List.prefix_append _ _, fun _ => id⟩

theorem apart_restoreState (sessions : registry.sessions = e.registry.sessions.put state) :
    Apart e { e with registry } := by
  refine ⟨rfl, rfl, rfl, List.prefix_rfl, fun id known => ?_⟩
  rw [sessionOf, sessions, Table.find?_put]
  split
  · rfl
  · exact known

theorem runOf_eq_some {run : WorkerRunRecord} (isRun : runOf e id = some run) :
    run ∈ e.tables.workerRuns.rows ∧ run.delegatedSessionId = some id :=
  session_of_loadRun isRun

theorem updateStatusWhere_congr {tables : SessionTables} {test test' : WorkerRunRecord → Bool}
    (same : ∀ run ∈ tables.workerRuns.rows, test run = test' run) :
    tables.updateStatusWhere test status time = tables.updateStatusWhere test' status time := by
  have table : ∀ (edit : WorkerRunRecord → WorkerRunRecord) keeps,
      tables.workerRuns.revise test edit keeps = tables.workerRuns.revise test' edit keeps := by
    intro edit keeps
    ext1
    apply List.map_congr_left
    intro run isRun
    rw [same run isRun]
  have selected : tables.workerRuns.select test = tables.workerRuns.select test' :=
    List.filter_congr same
  rw [updateStatusWhere, updateStatusWhere, table, selected]

theorem Attached.updateBySession (attached : Attached e) {run : WorkerRunRecord}
    (isRun : runOf e id = some run) :
    e.tables.updateWorkerRunStatusByDelegatedSession id status time =
      e.tables.updateWorkerRunStatus run.runId status time := by
  obtain ⟨isRow, forSession⟩ := runOf_eq_some isRun
  apply updateStatusWhere_congr
  intro other isOther
  rw [decide_eq_decide]
  constructor
  · intro forOther
    rw [attached.alone run isRow other isOther id forSession forOther]
  · intro sameId
    rw [List.inj_on_of_nodup_map e.tables.workerRuns.unique isOther isRow sameId]
    exact forSession

theorem updateBySession_of_none (noRun : runOf e id = none) :
    e.tables.updateWorkerRunStatusByDelegatedSession id status time = e.tables := by
  have none : ∀ run ∈ e.tables.workerRuns.rows,
      decide (run.delegatedSessionId = some id) = false := by
    intro run isRun
    simpa using List.find?_eq_none.mp noRun run isRun
  refine (updateStatusWhere_congr none).trans ?_
  simp [updateStatusWhere, Table.revise, Table.select]

theorem Attached.writeBySession {P : CrewEngine → Prop} (attached : Attached e) (holds : P e)
    (write : ∀ run, runOf e id = some run →
      P { e with tables := e.tables.updateWorkerRunStatus run.runId status time }) :
    P { e with tables := e.tables.updateWorkerRunStatusByDelegatedSession id status time } := by
  cases isRun : runOf e id with
  | none =>
    rw [updateBySession_of_none isRun]
    exact holds
  | some run =>
    rw [attached.updateBySession isRun]
    exact write run isRun

/-! ## The registry forgets no session -/

@[grind →] theorem apart_createSession
    (created : e.registry.createSession config time = .ok (state, registry)) :
    Apart e { e with registry } ∧ sessionOf e state.sessionId = none ∧
      state.sessionId = config.sessionId ∧
        (registry.sessions.find? state.sessionId).isSome = true := by
  simp only [SessionRegistry.createSession, bind_eq_ok, rejectIf_eq_ok, pure_eq_ok,
    Prod.mk.injEq, Option.not_isSome_iff_eq_none] at created
  obtain ⟨normal, normalized, _, _, _, absent, rfl, rfl⟩ := created
  obtain ⟨_, rfl⟩ := normalizeSessionConfigWorkspace_ok normalized
  exact ⟨apart_restoreState rfl, absent, rfl, by simp [SessionRegistry.restoreState]⟩

@[grind →] theorem apart_applyConfig
    (applied : e.registry.applyConfig config = .ok (state, registry)) :
    Apart e { e with registry } := by
  obtain ⟨_, _, _, _, rfl⟩ := applyConfig_ok applied
  exact apart_restoreState rfl

@[grind →] theorem apart_archiveSession
    (archived : e.registry.archiveSession id time = .ok (state, registry)) :
    Apart e { e with registry } := by
  obtain ⟨_, _, _, rfl⟩ := archiveSession_ok archived
  exact apart_restoreState rfl

@[grind →] theorem apart_reactivateSession
    (reactivated : e.registry.reactivateSession id time = .ok (state, registry)) :
    Apart e { e with registry } := by
  have looked := reactivated
  simp only [SessionRegistry.reactivateSession, SessionRegistry.getSession, bind_eq_ok,
    orFail_eq_ok] at looked
  obtain ⟨session, found, -⟩ := looked
  have sessions := (reactivateSession_ok found reactivated).2.2
  refine ⟨rfl, rfl, rfl, List.prefix_rfl, fun other known => ?_⟩
  rw [sessionOf, sessions]
  split
  · rfl
  · exact known

@[grind →] theorem apart_updateWorkspace
    (updated : e.registry.updateWorkspace update = .ok (answer, registry)) :
    Apart e { e with registry } := by
  have looked := updated
  simp only [SessionRegistry.updateWorkspace, SessionRegistry.getSession, bind_eq_ok,
    orFail_eq_ok] at looked
  obtain ⟨session, found, -⟩ := looked
  rcases (updateWorkspace_ok found updated).2 with ⟨_, rfl⟩ | ⟨_, _, _, rfl⟩
  · exact ⟨rfl, rfl, rfl, List.prefix_rfl, fun _ => id⟩
  · exact apart_restoreState rfl

end

/-! ## Calls that leave the runs alone -/

section
variable {P : CrewEngine → Prop} {id : SessionId}
variable (isLocal : Local P)
include isLocal

@[grind ←] theorem preserves_publish : Preserves P (publish event) :=
  upholds_publish (fun _ e => isLocal e _ (apart_published event)) fun _ => id

@[grind ←] theorem preserves_inRegistry {α : Type}
    {f : SessionRegistry → CoreResult (α × SessionRegistry)}
    (apart : ∀ e a registry, f e.registry = .ok (a, registry) → Apart e { e with registry }) :
    Preserves P (inRegistry f) :=
  upholds_inRegistry (fun e a registry ran => isLocal e _ (apart e a registry ran)) fun _ => id

@[grind ←] theorem preserves_saveSession : Preserves P (saveEngineSession state) :=
  upholds_save (fun e => isLocal e _ (apart_tables rfl rfl rfl)) fun _ => id

@[grind ←] theorem preserves_saveSessionWithConfig :
    Preserves P (saveEngineSessionWithConfig state config) :=
  upholds_save (fun e => isLocal e _ (apart_tables rfl rfl rfl)) fun _ => id

@[grind ←] theorem preserves_publishDelegationLifecycle :
    Preserves P (publishDelegationLifecycle session wakeId index phase detail) := by
  grind [publishDelegationLifecycle]

@[grind ←] theorem preserves_publishSessionExecution :
    Preserves P (publishSessionExecution id) := by
  grind [publishSessionExecution]

@[grind ←] theorem preserves_archiveInRegistry : Preserves P (archiveInRegistry id) := by
  grind [archiveInRegistry]

@[grind ←] theorem preserves_createSession : Preserves P (createSession config) := by
  grind [createSession]

@[grind ←] theorem preserves_reactivate : Preserves P (reactivateConfiguredSession config) := by
  unfold reactivateConfiguredSession
  repeat refine preserves_bind (by grind) fun _ => ?_
  grind

theorem preserves_ensure : Preserves P (ensureConfiguredSession config) := by
  unfold ensureConfiguredSession
  refine preserves_bind (by grind) fun found => ?_
  split
  · grind
  · refine preserves_bind (by grind) fun _ => ?_
    split
    · split <;> grind
    · grind

@[grind ←] theorem preserves_saveUpdatedWorkspace :
    Preserves P (saveUpdatedWorkspace session state config) := by
  intro stream attended holds
  have ran : Preserves P (saveEngineSessionWithConfig state config) :=
    preserves_saveSessionWithConfig isLocal
  have saved := ran stream attended holds
  unfold saveUpdatedWorkspace
  cases outcome : saveEngineSessionWithConfig state config attended with
  | mk result next =>
    rw [outcome] at saved
    cases result with
    | ok done => exact saved
    | error failure => exact ⟨saved.1, isLocal _ _ (apart_restoreState rfl) saved.2⟩

theorem preserves_updateWorkspace : Preserves P (updateSessionWorkspace update) := by
  unfold updateSessionWorkspace
  split
  · exact preserves_reject
  refine preserves_bind (by grind) fun session => ?_
  refine preserves_bind (by grind [projectSessionExecution]) fun projected => ?_
  split
  · exact preserves_reject
  repeat refine preserves_bind (by grind [loadEngineSessionConfigs]) fun _ => ?_
  split <;> grind

end

/-! ## Calls that cancel and expire runs -/

def StillRunning (run : Option WorkerRunRecord) (e : CrewEngine) : Prop :=
  ∀ found, run = some found → found ∈ e.tables.workerRuns.rows ∧ found.status.isTerminal = false

theorem local_stillRunning (run) : Local (StillRunning run) := by
  intro e e' apart running found isFound
  rw [apart.workerRuns]
  exact running found isFound

theorem stillRunning_runOf {e : CrewEngine} {id : SessionId}
    (running : ¬isEnded (runOf e id) = true) : StillRunning (runOf e id) e := by
  intro found isFound
  refine ⟨(runOf_eq_some isFound).1, ?_⟩
  rw [isFound] at running
  simpa [isEnded] using running

/-- What also survives the end of a run that is not terminal. -/
structure Ends (P : CrewEngine → Prop) : Prop where
  isLocal : Local P
  ends : ∀ e run status time, run ∈ e.tables.workerRuns.rows → run.status.isTerminal = false →
    status = .cancelled ∨ status = .expired → P e →
      P { e with tables := e.tables.updateWorkerRunStatus run.runId status time }
  endsBySession : ∀ e id time, StillRunning (runOf e id) e → P e →
    P { e with tables := e.tables.updateWorkerRunStatusByDelegatedSession id .cancelled time }

theorem Ends.of_attached {P : CrewEngine → Prop} (isLocal : Local P)
    (attached : ∀ e, P e → Attached e)
    (ends : ∀ e run status time, run ∈ e.tables.workerRuns.rows → run.status.isTerminal = false →
      status = .cancelled ∨ status = .expired → P e →
        P { e with tables := e.tables.updateWorkerRunStatus run.runId status time }) : Ends P where
  isLocal := isLocal
  ends := ends
  endsBySession e id time running holds := by
    refine (attached e holds).writeBySession holds fun run isRun => ?_
    obtain ⟨isRow, unended⟩ := running run isRun
    exact ends e run .cancelled time isRow unended (.inl rfl) holds

section
variable {P : CrewEngine → Prop} (admits : Ends P) {id : SessionId}
include admits

theorem upholds_archiveWithRun {run : Option WorkerRunRecord}
    (ending : status = .cancelled ∨ status = .expired) :
    Upholds (fun e => P e ∧ StillRunning run e) (archiveWithRun id run status) (fun _ => P) P := by
  have tracked := admits.isLocal.and (local_stillRunning run)
  have drop : ∀ e, P e ∧ StillRunning run e → P e := fun _ holds => holds.1
  refine upholds_bind ((preserves_archiveInRegistry tracked).failing drop) fun archived => ?_
  refine upholds_bind ((preserves_saveSession tracked).failing drop) fun _ => ?_
  refine upholds_bind (Q := fun _ => P) ?_ fun _ => ?_
  · cases run with
    | none => exact upholds_pure drop
    | some run =>
      refine upholds_bind upholds_now fun time => upholds_save (fun e holds => ?_) drop
      obtain ⟨isRun, running⟩ := holds.2 run rfl
      exact admits.ends e run status time isRun running ending holds.1
  refine upholds_bind (preserves_publish admits.isLocal) fun _ => ?_
  refine upholds_bind (preserves_publishDelegationLifecycle admits.isLocal) fun _ => ?_
  exact preserves_pure

@[grind ←] theorem preserves_archiveIfNonterminal
    (ending : status = .cancelled ∨ status = .expired) :
    Preserves P (archiveDelegatedSessionIfNonterminal session status) := by
  unfold archiveDelegatedSessionIfNonterminal
  split
  · exact preserves_pure
  refine upholds_bind (Q := fun run e => P e ∧ run = runOf e session.sessionId)
    (upholds_load (fun e holds => ⟨holds, rfl⟩) fun _ => id) fun run => ?_
  split
  · exact upholds_pure fun _ holds => holds.1
  · next running =>
    refine upholds_bind (upholds_weaken (upholds_archiveWithRun admits ending) ?_
      (fun _ _ => id) fun _ => id) fun _ => preserves_pure
    intro e holds
    refine ⟨holds.1, ?_⟩
    rw [holds.2] at running ⊢
    exact stillRunning_runOf running

@[grind ←] theorem preserves_cancelChildren :
    Preserves P (cancelDelegatedChildrenForParent id) := by
  refine preserves_bind (by grind) fun children => upholds_forEach fun child _ => ?_
  grind

@[grind ←] theorem preserves_cancelRunUnlessEnded : Preserves P (cancelRunUnlessEnded id) := by
  refine upholds_bind (Q := fun run e => P e ∧ run = runOf e id)
    (upholds_load (fun e holds => ⟨holds, rfl⟩) fun _ holds => holds) fun run => ?_
  split
  · exact upholds_pure fun _ holds => holds.1
  · next running =>
    refine upholds_bind upholds_now fun time => upholds_save (fun e holds => ?_)
      fun _ holds => holds.1
    rw [holds.2] at running
    exact admits.endsBySession e id time (stillRunning_runOf running) holds.1

theorem preserves_archiveSession : Preserves P (archiveSession id) := by
  have isLocal := admits.isLocal
  unfold archiveSession
  repeat refine preserves_bind (by grind [endDelegations]) fun _ => ?_
  grind

theorem preserves_cancelDelegatedSession : Preserves P (cancelDelegatedSession id) := by
  grind [cancelDelegatedSession]

@[grind ←] theorem preserves_archiveListed (ending : status = .cancelled ∨ status = .expired) :
    Preserves P (archiveListed session status) := by
  grind [archiveListed]

theorem preserves_drain : Preserves P (drainDelegatedSessions parent) := by
  refine preserves_bind (by grind) fun sessions => upholds_gather fun session _ => ?_
  grind [drainDelegatedSession]

@[grind ←] theorem preserves_archiveTerminal : Preserves P archiveTerminalDelegatedSessions := by
  have isLocal := admits.isLocal
  refine preserves_bind (by grind) fun sessions => upholds_gather fun session _ => ?_
  unfold archiveTerminalDelegatedSession
  split
  · refine preserves_bind (by grind) fun run => ?_
    split <;> grind [archiveEnded]
  · grind

@[grind ←] theorem preserves_cleanupOrphaned : Preserves P cleanupOrphanedDelegatedSessions := by
  refine preserves_bind (by grind) fun sessions => upholds_gather fun session _ => ?_
  grind [cleanupOrphanedDelegatedSession]

@[grind ←] theorem preserves_expireAt {now : IsoTimestamp} :
    Preserves P (expireDelegatedSessionsAt calendar now) := by
  refine preserves_bind (by grind) fun time => preserves_bind (by grind) fun sessions =>
    upholds_gather fun session _ => ?_
  grind [expireDelegatedSession]

theorem preserves_expire : Preserves P (expireDelegatedSessions calendar) := by
  grind [expireDelegatedSessions]

theorem preserves_cleanup : Preserves P (cleanupDelegatedResources calendar) := by
  grind [cleanupDelegatedResources]

end

end RustyCrew.Proof.Engine

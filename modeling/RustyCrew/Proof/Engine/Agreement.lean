import RustyCrew.Proof.Engine.Archival

namespace RustyCrew.Proof.Engine

open Library Protocol RustyCrew.Persistence RustyCrew.Engine CrewM Attended Table SessionRegistry

variable {ids : List SessionId} {E : CrewEngine → Prop} {config : SessionConfig}
  {registry : SessionRegistry} {update : SessionWorkspaceUpdate}

/-! ## The operations on sessions -/

inductive SessionOperation where
  | create (config : SessionConfig)
  | ensure (config : SessionConfig)
  | updateWorkspace (update : SessionWorkspaceUpdate)
  | archive (sessionId : SessionId)

def SessionOperation.perform : SessionOperation → CrewM Unit
  | .create config => do
    let _ ← createSession config
  | .ensure config => do
    let _ ← ensureConfiguredSession config
  | .updateWorkspace update => do
    let _ ← updateSessionWorkspace update
  | .archive sessionId => do
    let _ ← archiveSession sessionId

structure SessionCall where
  operation : SessionOperation
  answers : Nat → Surroundings

variable (e : CrewEngine)

def SessionCall.outcome (call : SessionCall) : CoreResult Unit × Attended CrewEngine Surroundings :=
  call.operation.perform ⟨e, call.answers⟩

def sessionStep (call : SessionCall) : CrewEngine := (call.outcome e).2.state

def Agree : Prop := ∀ id, e.tables.sessions.find? id = sessionOf e id

/-- How many calls an operation makes before one whose failure would come after a change of the
registry. The new workspace is taken back when it is not saved. -/
def lastHarmless : SessionOperation → Nat
  | .create _ => 2
  | .ensure config =>
    match sessionOf e config.sessionId with
    | none => 2
    | some existing => if existing.status = .archived then 3 else 1
  | .updateWorkspace _ => 3
  | .archive _ => 3

/-- No call fails once the registry has been changed. -/
def FailsInTime (call : SessionCall) : Prop :=
  ∀ n, lastHarmless e call.operation ≤ n → (call.answers n).fault = none

/-! ## Writing a session -/

section
variable {e : CrewEngine} {session state : SessionState} {id : SessionId}

theorem sessions_saveSession {tables : SessionTables}
    (created : ∀ old, tables.sessions.find? state.sessionId = some old →
      old.createdAt = state.createdAt) :
    (tables.saveSession state).sessions = tables.sessions.put state := by
  unfold SessionTables.saveSession
  cases found : tables.sessions.find? state.sessionId with
  | none => rfl
  | some old => simp [created old found]

theorem Agree.write (agree : Agree e)
    (created : ∀ old, sessionOf e state.sessionId = some old → old.createdAt = state.createdAt)
    (registered : ∀ id, sessionOf e' id =
      if state.sessionId = id then some state else sessionOf e id)
    (saved : e'.tables.sessions = (e.tables.saveSession state).sessions) : Agree e' := by
  intro other
  rw [saved, sessions_saveSession fun old found => created old (agree _ ▸ found), registered,
    find?_put, agree other]

theorem Agree.same (agree : Agree e) (registry : e'.registry.sessions = e.registry.sessions)
    (tables : e'.tables.sessions = e.tables.sessions) : Agree e' := by
  intro other
  rw [tables, sessionOf, registry]
  exact agree other

structure Knows (ids : List SessionId) (e : CrewEngine) : Prop where
  agree : Agree e
  known : ∀ id ∈ ids, ∃ session, sessionOf e id = some session

theorem Knows.same (knows : Knows ids e) (registry : e'.registry.sessions = e.registry.sessions)
    (tables : e'.tables.sessions = e.tables.sessions) : Knows ids e' where
  agree := knows.agree.same registry tables
  known id isId := by
    obtain ⟨session, found⟩ := knows.known id isId
    exact ⟨session, by rw [sessionOf, registry]; exact found⟩

theorem Knows.fewer {fewer : List SessionId} (knows : Knows ids e)
    (fewer_subset : ∀ id ∈ fewer, id ∈ ids) : Knows fewer e :=
  ⟨knows.agree, fun id isId => knows.known id (fewer_subset id isId)⟩

theorem getSession_ok (found : sessionOf e id = some session) :
    e.registry.getSession id = .ok session := by
  rw [SessionRegistry.getSession, show e.registry.sessions.find? id = some session from found]
  rfl

theorem calmly_publishSessionExecution (isKnown : id ∈ ids) :
    Calmly 0 (Knows ids) (publishSessionExecution id) 0 (fun _ => Knows ids) E := by
  refine attends_then (calmly_lookUp ?_ ?_) fun _ => ?_
  · exact fun _ _ _ knows => knows
  · intro s failure refused knows
    obtain ⟨session, found⟩ := knows.known id isKnown
    rw [getSession_ok found] at refused
    cases refused
  refine attends_bind (calmly_elsewhere_of calmly_call) fun _ => ?_
  refine attends_bind (calmly_publish fun _ _ knows => ?_) fun _ =>
    attends_pure fun _ knows => knows
  exact knows.same rfl rfl

/-! ## Creating and configuring sessions -/

theorem agree_createSession (agree : Agree e) :
    Calmly 2 (· = e) (createSession config) 0 (fun _ => Agree) (· = e) := by
  refine attends_bind (calmly_elsewhere_of (calmly_call_early fun _ => id)) fun _ => ?_
  refine attends_bind calmly_now fun time => ?_
  refine attends_bind (Q := fun state s => ∃ registry,
      e.registry.createSession config time = .ok (state, registry) ∧ s = { e with registry })
    (calmly_inRegistry ?_ fun _ _ _ => id) fun state => ?_
  · intro s state registry ran same
    subst same
    exact ⟨registry, ran, rfl⟩
  refine attends_bind (Q := fun _ => Agree) (calmly_save_of calmly_call ?_) fun _ => ?_
  · intro s ⟨registry, ran, same⟩
    subst same
    simp only [SessionRegistry.createSession, bind_eq_ok, rejectIf_eq_ok, pure_eq_ok,
      Prod.mk.injEq] at ran
    obtain ⟨normal, _, _, _, _, absent, rfl, rfl⟩ := ran
    refine agree.write (fun old found => ?_) (fun id => find?_put _ _ id) rfl
    exact absurd (Option.isSome_of_eq_some found) absent
  refine attends_bind (calmly_publish fun _ _ agree => ?_) fun _ => attends_pure fun _ => id
  exact agree.same rfl rfl

theorem normalizeSessionConfigWorkspace_ok
    (normalized : normalizeSessionConfigWorkspace config = .ok normal) :
    ∃ workspace, normal = { config with workspace } := by
  unfold normalizeSessionConfigWorkspace at normalized
  split at normalized
  · cases normalized
    exact ⟨_, rfl⟩
  · simp only [bind_eq_ok, pure_eq_ok] at normalized
    obtain ⟨_, _, _, _, _, _, rfl⟩ := normalized
    exact ⟨_, rfl⟩

theorem applyConfig_ok (applied : e.registry.applyConfig config = .ok (state, registry)) :
    ∃ old, sessionOf e config.sessionId = some old ∧ state.sessionId = config.sessionId ∧
      state.createdAt = old.createdAt ∧ registry = e.registry.restoreState state := by
  simp only [applyConfig, SessionRegistry.getSession, bind_eq_ok, orFail_eq_ok,
    pure_eq_ok, Prod.mk.injEq] at applied
  obtain ⟨normal, normalized, _, _, old, found, rfl, rfl⟩ := applied
  obtain ⟨_, rfl⟩ := normalizeSessionConfigWorkspace_ok normalized
  exact ⟨old, found, show old.sessionId = _ from key_of_find? found, rfl, rfl⟩

theorem agree_applyConfig (agree : Agree e) : Calmly 0 (· = e) (do
        let state ← inRegistry fun registry => registry.applyConfig config
        saveEngineSession state
        pure state) 0 (fun _ => Agree) (· = e) := by
  refine attends_bind (Q := fun state s => ∃ registry,
      e.registry.applyConfig config = .ok (state, registry) ∧ s = { e with registry })
    (calmly_inRegistry ?_ fun _ _ _ => id) fun state => ?_
  · intro s state registry ran same
    subst same
    exact ⟨registry, ran, rfl⟩
  refine attends_bind (Q := fun _ => Agree) (calmly_save_of calmly_call ?_) fun _ =>
    attends_pure fun _ => id
  intro s ⟨registry, applied, same⟩
  obtain ⟨old, found, isId, created, rfl⟩ := applyConfig_ok applied
  subst same
  refine agree.write (fun old' found' => ?_) (fun id => find?_put _ _ id) rfl
  rw [isId] at found'
  cases found'.symm.trans found
  exact created.symm

theorem reactivateSession_ok (found : sessionOf e id = some session)
    (reactivated : e.registry.reactivateSession id time = .ok (state, registry)) :
    state.sessionId = id ∧ state.createdAt = session.createdAt ∧
      ∀ other, registry.sessions.find? other =
        if id = other then some state else sessionOf e other := by
  have isId : session.sessionId = id := key_of_find? found
  simp only [reactivateSession, getSession_ok found, bind_eq_ok, Except.ok.injEq,
    exists_eq_left'] at reactivated
  split at reactivated
  · simp only [pure_eq_ok, Prod.mk.injEq] at reactivated
    obtain ⟨rfl, rfl⟩ := reactivated
    refine ⟨isId, rfl, fun other => ?_⟩
    rw [restoreState, find?_put, isId]
    rfl
  · simp only [pure_eq_ok, Prod.mk.injEq] at reactivated
    obtain ⟨rfl, rfl⟩ := reactivated
    refine ⟨isId, rfl, fun other => ?_⟩
    split
    · next same => exact same ▸ found
    · rfl

theorem agree_reactivate (agree : Agree e) :
    Calmly 2 (· = e) (reactivateConfiguredSession config) 0 (fun _ => Agree) (· = e) := by
  refine attends_bind calmly_now fun time => ?_
  refine attends_bind (calmly_elsewhere_of (calmly_call_early fun _ => id)) fun _ => ?_
  refine attends_bind (Q := fun state s => ∃ registry,
      e.registry.applyConfig config = .ok (state, registry) ∧ s = { e with registry })
    (calmly_inRegistry ?_ fun _ _ _ => id) fun applied => ?_
  · intro s state registry ran same
    subst same
    exact ⟨registry, ran, rfl⟩
  -- The session has just been written, so that it is found.
  have present : ∀ s, (∃ registry, e.registry.applyConfig config = .ok (applied, registry) ∧
      s = { e with registry }) → sessionOf s config.sessionId = some applied ∧
        s.tables = e.tables ∧ (∃ old, sessionOf e config.sessionId = some old ∧
          applied.createdAt = old.createdAt) ∧
        ∀ id, config.sessionId ≠ id → sessionOf s id = sessionOf e id := by
    intro s ⟨registry, ran, same⟩
    obtain ⟨old, found, isId, created, rfl⟩ := applyConfig_ok ran
    subst same
    have written : ∀ id, sessionOf { e with registry := e.registry.restoreState applied } id =
        if applied.sessionId = id then some applied else sessionOf e id :=
      fun id => find?_put _ _ id
    rw [isId] at written
    refine ⟨by rw [written, if_pos rfl], rfl, ⟨old, found, created⟩, fun id differs => ?_⟩
    rw [written, if_neg differs]
  refine attends_bind (Q := fun state s => state.sessionId = config.sessionId ∧
      s.tables = e.tables ∧ (∃ old, sessionOf e config.sessionId = some old ∧
        state.createdAt = old.createdAt) ∧
      ∀ id, sessionOf s id = if state.sessionId = id then some state else sessionOf e id)
    (calmly_inRegistry ?_ ?_) fun state => ?_
  · intro s state registry reactivated isApplied
    obtain ⟨found, tables, ⟨old, isOld, created⟩, others⟩ := present s isApplied
    obtain ⟨isId, sameCreated, sessions⟩ := reactivateSession_ok found reactivated
    refine ⟨isId, tables, ⟨old, isOld, sameCreated.trans created⟩, fun id => ?_⟩
    refine (sessions id).trans ?_
    rw [isId]
    split
    · rfl
    · next differs => exact others id differs
  · intro s failure refused isApplied
    obtain ⟨found, -⟩ := present s isApplied
    simp only [reactivateSession, getSession_ok found] at refused
    revert refused
    show (if applied.status = .archived then _ else _) = _ → _
    split <;> exact fun refused => by cases refused
  refine attends_bind (Q := fun _ => Knows [config.sessionId]) (calmly_save_of calmly_call ?_)
    fun _ => ?_
  · intro s ⟨isId, tables, ⟨old, isOld, created⟩, sessions⟩
    refine ⟨agree.write (fun old' found => ?_) sessions (by rw [tables]), fun id isKnown => ?_⟩
    · rw [isId] at found
      cases found.symm.trans isOld
      exact created.symm
    · refine ⟨state, (sessions id).trans ?_⟩
      rw [List.mem_singleton.mp isKnown, if_pos isId]
  refine attends_bind calmly_now fun _ => ?_
  refine attends_bind (calmly_elsewhere_of calmly_call) fun _ => ?_
  refine attends_bind (calmly_publishSessionExecution (by simp)) fun _ => ?_
  exact attends_pure fun _ knows => knows.agree

theorem agree_ensure (agree : Agree e) :
    Calmly (lastHarmless e (.ensure config)) (· = e) (ensureConfiguredSession config) 0
      (fun _ => Agree) (· = e) := by
  refine attends_bind (Q := fun found s => found = sessionOf e config.sessionId ∧ s = e)
    (calmly_lookUp ?_ ?_) fun found => attends_assume fun isFound => ?_
  · intro s found looked same
    cases looked
    subst same
    exact ⟨rfl, rfl⟩
  · intro s failure refused
    cases refused
  subst isFound
  rw [lastHarmless]
  cases sessionOf e config.sessionId with
  | none => exact agree_createSession agree
  | some existing =>
    by_cases archived : existing.status = .archived
    · simp only [archived, if_true]
      refine attends_bind (calmly_elsewhere_of (calmly_call_early fun _ => id)) fun _ => ?_
      split
      · exact agree_reactivate agree
      · exact calmly_reject fun _ => id
    · simp only [archived, if_false]
      refine attends_bind (calmly_elsewhere_of (calmly_call_early fun _ => id)) fun _ => ?_
      split
      · exact agree_applyConfig agree
      · exact calmly_reject fun _ => id

/-! ## Archiving sessions -/

theorem known_archive (knows : Knows ids e)
    (archived : e.registry.archiveSession id time = .ok (state, registry)) :
    Knows (id :: ids) { e with registry, tables := e.tables.saveSession state } := by
  obtain ⟨session, found, rfl, rfl⟩ := archiveSession_ok archived
  have isId : (archivedAt session time).sessionId = id :=
    show session.sessionId = id from key_of_find? found
  have written : ∀ other, (e.registry.sessions.put (archivedAt session time)).find? other =
      if id = other then some (archivedAt session time) else sessionOf e other := by
    intro other
    rw [find?_put, isId]
    rfl
  refine ⟨knows.agree.write (fun old isOld => ?_) (isId ▸ written) rfl, fun other isOther => ?_⟩
  · rw [isId] at isOld
    cases isOld.symm.trans found
    rfl
  · by_cases same : id = other
    · exact ⟨_, (written other).trans (if_pos same)⟩
    · obtain ⟨there, isThere⟩ := knows.known other (by simpa [Ne.symm same] using isOther)
      exact ⟨there, (written other).trans ((if_neg same).trans isThere)⟩

theorem archiveSession_refused {failure : CoreError} (found : sessionOf e id = some session) :
    e.registry.archiveSession id time ≠ .error failure := by
  rw [SessionRegistry.archiveSession, getSession_ok found]
  exact fun refused => by cases refused

theorem calmly_publishDelegationLifecycle :
    Calmly 0 (Knows ids) (publishDelegationLifecycle session wakeId index phase detail) 0
      (fun _ => Knows ids) E := by
  unfold publishDelegationLifecycle
  split
  · exact attends_pure fun _ => id
  · refine attends_then (calmly_load_of calmly_call fun _ => id) fun _ => ?_
    refine attends_bind (calmly_publish fun _ _ knows => ?_) fun _ => attends_pure fun _ => id
    exact knows.same rfl rfl

theorem calmly_settleRun {run : Option WorkerRunRecord} :
    Calmly 0 (Knows ids) (settleRun run status) 0 (fun _ => Knows ids) E := by
  cases run with
  | none => exact attends_pure fun _ => id
  | some run =>
    refine attends_bind calmly_now fun _ => calmly_save_of calmly_call fun _ knows => ?_
    exact knows.same rfl rfl

theorem calmly_archiveWithRun {run : Option WorkerRunRecord} (isKnown : id ∈ ids) :
    Calmly 0 (Knows ids) (archiveWithRun id run status) 0 (fun _ => Knows ids) E := by
  refine attends_bind (Q := fun state s => Knows ids
    { s with tables := s.tables.saveSession state })
    (attends_bind calmly_now fun time => calmly_inRegistry ?_ ?_) fun state => ?_
  · intro s state registry archived knows
    exact (known_archive knows archived).fewer fun _ => List.mem_cons_of_mem id
  · intro s failure refused knows
    obtain ⟨session, found⟩ := knows.known id isKnown
    exact absurd refused (archiveSession_refused found)
  refine attends_bind (Q := fun _ => Knows ids) (calmly_save_of calmly_call fun _ knows => knows)
    fun _ => ?_
  refine attends_bind calmly_settleRun fun _ => ?_
  refine attends_then (calmly_publish fun _ _ knows => knows.same rfl rfl) fun _ => ?_
  refine attends_bind calmly_publishDelegationLifecycle fun _ => ?_
  exact attends_pure fun _ knows => knows

theorem calmly_archiveIfNonterminal (isKnown : session.sessionId ∈ ids) :
    Calmly 0 (Knows ids) (archiveDelegatedSessionIfNonterminal session status) 0
      (fun _ => Knows ids) E := by
  unfold archiveDelegatedSessionIfNonterminal
  split
  · exact attends_pure fun _ => id
  · refine attends_then (calmly_load_of calmly_call fun _ => id) fun run => ?_
    split
    · exact attends_pure fun _ => id
    · refine attends_bind (calmly_archiveWithRun isKnown) fun _ => ?_
      exact attends_pure fun _ => id

theorem calmly_endDelegations :
    Calmly 0 (Knows []) (endDelegations state id) 0 (fun _ => Agree) E := by
  unfold endDelegations
  split
  · refine attends_then (calmly_load_of calmly_call fun _ knows => knows) fun run => ?_
    split
    · exact attends_pure fun _ knows => knows.agree
    · refine attends_bind calmly_now fun _ => calmly_save_of calmly_call fun _ knows => ?_
      exact knows.agree.same rfl rfl
  · refine attends_bind
      (Q := fun children => Knows (children.map SessionState.sessionId)) (calmly_lookUp ?_ ?_)
      fun children => ?_
    · intro s children looked knows
      cases looked
      refine ⟨knows.agree, fun id isId => ?_⟩
      obtain ⟨child, isChild, rfl⟩ := List.mem_map.mp isId
      exact ⟨child, find?_of_mem (mem_delegatedSessionsForParent.mp isChild).1⟩
    · intro s failure refused
      cases refused
    refine attends_weaken (attends_forEach fun child isChild => ?_) (fun _ knows => knows)
      (fun _ _ knows => Knows.agree knows) fun _ fails => fails
    refine attends_bind (calmly_archiveIfNonterminal (List.mem_map_of_mem isChild)) fun _ => ?_
    exact attends_pure fun _ knows => knows

theorem agree_archiveSession (agree : Agree e) :
    Calmly 3 (· = e) (archiveSession id) 0 (fun _ => Agree) (· = e) := by
  refine attends_bind calmly_now fun time => ?_
  refine attends_bind (calmly_elsewhere_of (calmly_call_early fun _ same => same)) fun _ => ?_
  refine attends_bind (calmly_elsewhere_of (calmly_call_early fun _ same => same)) fun _ => ?_
  refine attends_bind (Q := fun state s => Knows [id]
    { s with tables := s.tables.saveSession state })
    (calmly_inRegistry ?_ fun _ _ _ same => same) fun state => ?_
  · intro s state registry archived same
    subst same
    exact known_archive (e := s) ⟨agree, by simp⟩ archived
  refine attends_bind (Q := fun _ => Knows [id]) (calmly_save_of calmly_call fun _ knows => knows)
    fun _ => ?_
  refine attends_then (calmly_publish fun _ _ knows => knows.same rfl rfl) fun _ => ?_
  refine attends_bind (calmly_publishSessionExecution (by simp)) fun _ => ?_
  refine attends_bind (attends_weaken calmly_endDelegations
    (fun _ knows => Knows.fewer knows (by simp)) (fun _ _ agree => agree) fun _ fails => fails)
    fun _ => ?_
  exact attends_pure fun _ agree => agree

/-! ## Switching workspaces -/

theorem agree_saveUpdatedWorkspace (agree : Agree e)
    (found : sessionOf e session.sessionId = some session)
    (isId : state.sessionId = session.sessionId) (created : state.createdAt = session.createdAt) :
    Calmly 1 (· = { e with registry := e.registry.restoreState state })
      (saveUpdatedWorkspace session state config) 0 (fun _ => Agree) (· = e) := by
  have saves : Calmly 1 (· = { e with registry := e.registry.restoreState state })
      (saveEngineSessionWithConfig state config) 0 (fun _ => Agree)
      (· = { e with registry := e.registry.restoreState state }) := by
    refine calmly_save_of (calmly_call_early fun _ => id) fun s same => ?_
    subst same
    refine agree.write (fun old isOld => ?_) (fun id => find?_put _ _ id) rfl
    rw [isId] at isOld
    cases isOld.symm.trans found
    exact created.symm
  intro attended pre
  have ran := saves attended pre
  unfold saveUpdatedWorkspace
  cases outcome : saveEngineSessionWithConfig state config attended with
  | mk result next =>
    rw [outcome] at ran
    cases result with
    | ok done => exact ran
    | error failure =>
      have undone : (e.registry.restoreState state).restoreState session = e.registry := by
        rw [restoreState, restoreState, put_put_of_find? found isId]
      simp only at ran ⊢
      rw [ran]
      simp only [undone]

theorem updateWorkspace_ok (found : sessionOf e update.sessionId = some session)
    (updated : e.registry.updateWorkspace update = .ok ((previous, state), registry)) :
    session.status ≠ .archived ∧ ((state.workspace = some previous ∧ registry = e.registry) ∨
      ((∃ current, state.workspace = some current ∧ current ≠ previous) ∧
        state.sessionId = session.sessionId ∧ state.createdAt = session.createdAt ∧
        registry = e.registry.restoreState state)) := by
  simp only [updateWorkspace, getSession_ok found, bind_eq_ok, Except.ok.injEq,
    exists_eq_left', rejectIf_eq_ok, orFail_eq_ok] at updated
  obtain ⟨_, live, _, _, before, workspace, _, _, cwd, _, ran⟩ := updated
  refine ⟨live, ?_⟩
  split at ran
  · simp only [pure_eq_ok, Prod.mk.injEq] at ran
    obtain ⟨⟨rfl, rfl⟩, rfl⟩ := ran
    exact .inl ⟨workspace, rfl⟩
  · next moved =>
    simp only [pure_eq_ok, Prod.mk.injEq] at ran
    obtain ⟨⟨rfl, rfl⟩, rfl⟩ := ran
    refine .inr ⟨⟨_, rfl, fun same => moved ?_⟩, rfl, rfl, rfl⟩
    rw [← same]

theorem agree_switchWorkspace (agree : Agree e)
    (found : sessionOf e update.sessionId = some session) :
    Calmly 1 (· = e) (switchWorkspace session config update) 1 (fun _ => Agree) (· = e) := by
  have isId : update.sessionId = session.sessionId := (key_of_find? found).symm
  refine attends_bind (Q := fun answer s => ∃ registry,
      e.registry.updateWorkspace update = .ok (answer, registry) ∧ s = { e with registry })
    (calmly_inRegistry ?_ fun _ _ _ => id) fun (previous, state) =>
      attends_exists fun registry => attends_assume fun updated => ?_
  · intro s answer registry ran same
    subst same
    exact ⟨registry, ran, rfl⟩
  rcases (updateWorkspace_ok found updated).2 with ⟨workspace, rfl⟩ |
    ⟨⟨current, workspace, moved⟩, sameId, created, rfl⟩
  · refine attends_bind (Q := fun current s => current = previous ∧ s = e) (attends_lift ?_ ?_)
      fun current => attends_assume fun same => ?_
    · intro current s present isEngine
      rw [workspace] at present
      cases present
      exact ⟨rfl, isEngine⟩
    · intro failure s missing
      rw [workspace] at missing
      cases missing
    rw [if_pos same]
    refine attends_pure fun s isEngine => ?_
    rw [isEngine]
    exact agree
  · refine attends_bind (Q := fun answer s => answer = current ∧
        s = { e with registry := e.registry.restoreState state }) (attends_lift ?_ ?_)
      fun answer => attends_assume fun same => ?_
    · intro answer s present isEngine
      rw [workspace] at present
      cases present
      exact ⟨rfl, isEngine⟩
    · intro failure s missing
      rw [workspace] at missing
      cases missing
    subst same
    rw [if_neg moved]
    refine attends_later (attends_bind
      (agree_saveUpdatedWorkspace agree (isId ▸ found) sameId created) fun _ => ?_) (Nat.zero_le 1)
    refine attends_bind (calmly_publish fun _ _ agree => ?_) fun _ => attends_pure fun _ => id
    exact agree.same rfl rfl

theorem agree_updateWorkspace (agree : Agree e) :
    Calmly 3 (· = e) (updateSessionWorkspace update) 1 (fun _ => Agree) (· = e) := by
  unfold updateSessionWorkspace
  split
  · exact calmly_reject fun _ => id
  refine attends_bind (Q := fun session s => sessionOf e update.sessionId = some session ∧ s = e)
    (calmly_lookUp ?_ fun _ _ _ => id) fun session => attends_assume fun found => ?_
  · intro s session looked same
    subst same
    simp only [SessionRegistry.getSession, orFail_eq_ok] at looked
    exact ⟨looked, rfl⟩
  by_cases archived : session.status = .archived
  · -- The registry refuses to move an archived session, whatever has been loaded.
    rw [show projectSessionExecution session = pure session from if_pos archived]
    refine attends_then (attends_pure fun _ => id) fun _ => ?_
    simp only [archived, ne_eq, not_true_eq_false, false_and, if_false]
    refine attends_then
      (calmly_load_of (calmly_call_early fun _ => id) fun _ => id) fun configs => ?_
    refine attends_then (attends_lift (fun _ _ _ => id) fun _ _ _ => id) fun config => ?_
    refine attends_bind (Q := fun _ _ => False) (calmly_inRegistry ?_ fun _ _ _ => id)
      fun _ => attends_false fun _ => id
    intro s answer registry updated same
    subst same
    exact (updateWorkspace_ok found updated).1 archived
  · rw [show projectSessionExecution session = _ from if_neg archived]
    refine attends_then (attends_bind (calmly_call_early fun _ => id)
      fun _ => attends_pure fun _ => id) fun projected => ?_
    split
    · exact calmly_reject fun _ => id
    refine attends_then
      (calmly_load_of (calmly_call_early fun _ => id) fun _ => id) fun configs => ?_
    refine attends_then (attends_lift (fun _ _ _ => id) fun _ _ _ => id) fun config => ?_
    exact agree_switchWorkspace agree found

/-! ## Every sequence of operations -/

theorem perform_agrees {call : SessionCall} (agree : Agree e) (inTime : FailsInTime e call) :
    Agree (sessionStep e call) ∧ ((call.outcome e).1.isOk = false → sessionStep e call = e) := by
  have meets : ∃ k', Calmly (lastHarmless e call.operation) (· = e) call.operation.perform k'
      (fun _ => Agree) (· = e) := by
    cases call.operation with
    | create config =>
      exact ⟨0, attends_bind (agree_createSession agree) fun _ => attends_pure fun _ => id⟩
    | ensure config =>
      exact ⟨0, attends_bind (agree_ensure agree) fun _ => attends_pure fun _ => id⟩
    | updateWorkspace update =>
      exact ⟨1, attends_bind (agree_updateWorkspace agree) fun _ => attends_pure fun _ => id⟩
    | archive id =>
      exact ⟨0, attends_bind (agree_archiveSession agree) fun _ =>
        attends_pure fun _ agree => agree⟩
  obtain ⟨k', meets⟩ := meets
  have ran := meets ⟨e, call.answers⟩ ⟨inTime, rfl⟩
  unfold sessionStep SessionCall.outcome
  cases outcome : call.operation.perform ⟨e, call.answers⟩ with
  | mk result next =>
    rw [outcome] at ran
    cases result with
    | ok done => exact ⟨ran.2, fun failed => by cases failed⟩
    | error failure => exact ⟨ran.symm ▸ agree, fun _ => ran⟩

end

/-- In every sequence of operations on sessions in which no call fails once an operation has changed
the registry, an operation that returns an error leaves the engine as it was, and the registry and
the store agree after every operation. -/
theorem failed_operation_keeps_registry {start : CrewEngine} {calls : List SessionCall}
    (agree : Agree start) (inTime : Along sessionStep FailsInTime start calls) :
    ∀ n call, calls[n]? = some call →
      ((call.outcome (stateAt sessionStep start calls n)).1.isOk = false →
        (stateAt sessionStep start calls (n + 1)).registry =
          (stateAt sessionStep start calls n).registry) ∧
      Agree (stateAt sessionStep start calls (n + 1)) := by
  intro n call position
  have before : Agree (stateAt sessionStep start calls n) := by
    have keeps : ∀ e call, Agree e → FailsInTime e call → Agree (sessionStep e call) :=
      fun _ _ agree inTime => (perform_agrees agree inTime).1
    apply run_invariant keeps agree
    exact (along_append.mp (List.take_append_drop n calls ▸ inTime)).1
  obtain ⟨after, kept⟩ := perform_agrees before (along_at inTime position)
  rw [stateAt_succ position]
  exact ⟨fun failed => by rw [kept failed], after⟩

def crewConfig (id : String) : SessionConfig where
  sessionId := ⟨id⟩
  agentId := ⟨id⟩
  profileId := ⟨"profile"⟩
  kind := .full
  delegation := none
  workspace := some ⟨"/home", 1, "2026-01-01T00:00:00Z"⟩
  resourceLimits := ⟨none, none⟩
  toolProfile := ⟨[]⟩
  historyWindow := none

def failingAt (failing : Nat) : Nat → Surroundings := fun n =>
  if n = failing then { calm with fault := some ⟨.persistenceFailure, "disk full"⟩ } else calm

def unsavedWorkspace : List SessionCall :=
  [⟨.create (crewConfig "s"), fun _ => calm⟩,
    ⟨.updateWorkspace ⟨⟨"s"⟩, "/work", 1, "2026-01-02T00:00:00Z"⟩, failingAt 2⟩,
    ⟨.archive ⟨"s"⟩, fun _ => calm⟩]

theorem failed_operation_keeps_registry_unsaved_workspace :
    (unsavedWorkspace[1].outcome (stateAt sessionStep (crewOf [] []) unsavedWorkspace 1)).1.isOk =
        false ∧
      (stateAt sessionStep (crewOf [] []) unsavedWorkspace 2).registry =
        (stateAt sessionStep (crewOf [] []) unsavedWorkspace 1).registry := by
  have failed : (unsavedWorkspace[1].outcome
      (stateAt sessionStep (crewOf [] []) unsavedWorkspace 1)).1.isOk = false := by decide +kernel
  have inTime : Along sessionStep FailsInTime (crewOf [] []) unsavedWorkspace := by
    refine ⟨fun n _ => rfl, fun n late => ?_, fun n _ => rfl, trivial⟩
    have other : n ≠ 2 := by
      have := (show 3 ≤ n from late)
      omega
    exact congrArg Surroundings.fault (if_neg other)
  exact ⟨failed, (failed_operation_keeps_registry (fun _ => rfl) inTime 1 _ rfl).1 failed⟩

theorem unsaved_session_stays_registered :
    let call : SessionCall := ⟨.create (crewConfig "s"), failingAt 2⟩
    (call.outcome (crewOf [] [])).1.isOk = false ∧ (sessionOf (crewOf [] []) ⟨"s"⟩).isSome = false ∧
      (sessionOf (sessionStep (crewOf [] []) call) ⟨"s"⟩).isSome = true ∧
      ((sessionStep (crewOf [] []) call).tables.sessions.find? ⟨"s"⟩).isSome = false := by
  decide +kernel

end RustyCrew.Proof.Engine

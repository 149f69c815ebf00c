import RustyCrew.Proof.Engine.Crew

namespace RustyCrew.Proof.Engine

open Library Protocol RustyCrew.Persistence RustyCrew.Engine CrewM Table SessionTables List

variable {run : WorkerRunRecord} {registry : SessionRegistry} {session state : SessionState}
  {time : IsoTimestamp} {u : Unit} {status : WorkerRunStatus}

/-! ## What archiving changes -/

variable (e : CrewEngine)

def sessionOf (id : SessionId) : Option SessionState :=
  e.registry.sessions.find? id

def runOf (id : SessionId) : Option WorkerRunRecord :=
  e.tables.loadWorkerRunByDelegatedSession id

def IsArchived (id : SessionId) : Prop :=
  ∃ session, sessionOf e id = some session ∧ session.status = .archived

def RunEnded (id : SessionId) : Prop :=
  ∀ run, runOf e id = some run → run.status.isTerminal = true

def archivedAt (session : SessionState) (time : IsoTimestamp) : SessionState :=
  { session with status := .archived, lastActiveAt := time }

/-- The sessions that `Gone` tells are archived with their runs ended; the others are as before. -/
structure Archives (e e' : CrewEngine) (Gone : SessionId → Prop) : Prop where
  listing : e'.registry.allSessions.map SessionState.sessionId =
    e.registry.allSessions.map SessionState.sessionId
  others : ∀ id, ¬Gone id → sessionOf e' id = sessionOf e id ∧ runOf e' id = runOf e id
  gone : ∀ id, Gone id →
    (∃ session time, sessionOf e id = some session ∧
      sessionOf e' id = some (archivedAt session time)) ∧
      RunEnded e' id

section
variable {e : CrewEngine} {id : SessionId}

theorem Archives.refl (e : CrewEngine) : Archives e e fun _ => False :=
  ⟨rfl, fun _ _ => ⟨rfl, rfl⟩, fun _ => False.elim⟩

theorem Archives.congr (archives : Archives e e' Gone) (same : ∀ id, Gone id ↔ More id) :
    Archives e e' More := by
  have equal : Gone = More := funext fun id => propext (same id)
  exact equal ▸ archives

theorem archives_pure {α : Type} {a b : α} (returned : Returns (pure a) e b e')
    (none : ∀ id, ¬Gone id) : Archives e e' Gone := by
  obtain ⟨-, rfl⟩ := returns_pure returned
  exact (Archives.refl _).congr fun id => by simp [none]

theorem Archives.trans (first : Archives e e' Gone) (second : Archives e' e'' More) :
    Archives e e'' fun id => Gone id ∨ More id where
  listing := second.listing.trans first.listing
  others id neither := by
    obtain ⟨notGone, notMore⟩ := not_or.mp neither
    have one := first.others id notGone
    have two := second.others id notMore
    exact ⟨two.1.trans one.1, two.2.trans one.2⟩
  gone id either := by
    by_cases more : More id
    · obtain ⟨⟨session, time, found, archived⟩, ended⟩ := second.gone id more
      by_cases gone : Gone id
      · obtain ⟨⟨earlier, before, foundFirst, archivedFirst⟩, -⟩ := first.gone id gone
        cases archivedFirst.symm.trans found
        exact ⟨⟨earlier, time, foundFirst, archived⟩, ended⟩
      · exact ⟨⟨session, time, (first.others id gone).1 ▸ found, archived⟩, ended⟩
    · have gone := either.resolve_right more
      obtain ⟨⟨session, time, found, archived⟩, ended⟩ := first.gone id gone
      have kept := second.others id more
      refine ⟨⟨session, time, found, kept.1.trans archived⟩, ?_⟩
      intro run isRun
      exact ended run (kept.2 ▸ isRun)

theorem Archives.isArchived_iff (archives : Archives e e' Gone) :
    IsArchived e' id ↔ IsArchived e id ∨ Gone id := by
  by_cases gone : Gone id
  · obtain ⟨⟨session, time, found, archived⟩, -⟩ := archives.gone id gone
    simp only [gone, or_true, iff_true]
    exact ⟨_, archived, rfl⟩
  · simp only [IsArchived, (archives.others id gone).1, gone, or_false]

theorem Archives.runEnded_iff (archives : Archives e e' Gone) :
    RunEnded e' id ↔ RunEnded e id ∨ Gone id := by
  by_cases gone : Gone id
  · simp [(archives.gone id gone).2, gone]
  · simp only [RunEnded, (archives.others id gone).2, gone, or_false]

end

/-! ## The tables -/

section
variable {tables : SessionTables} {id : SessionId}

theorem loadRun_updateStatusWhere :
    (tables.updateStatusWhere test status time).loadWorkerRunByDelegatedSession id =
      (tables.loadWorkerRunByDelegatedSession id).map fun run =>
        if test run then { run with status, lastUpdatedAt := time } else run := by
  simp only [loadWorkerRunByDelegatedSession, updateStatusWhere, Table.revise, find?_map]
  congr 2
  funext run
  simp only [Function.comp_apply]
  split <;> rfl

section
variable (loaded : tables.loadWorkerRunByDelegatedSession id = some run)
include loaded

theorem session_of_loadRun : run ∈ tables.workerRuns.rows ∧ run.delegatedSessionId = some id :=
  ⟨mem_of_find?_eq_some loaded, by simpa using find?_some loaded⟩

theorem ended_of_updateStatus (terminal : status.isTerminal = true)
    (reloaded : (tables.updateWorkerRunStatus run.runId status
      time).loadWorkerRunByDelegatedSession id = some later) : later.status.isTerminal = true := by
  rw [updateWorkerRunStatus, loadRun_updateStatusWhere, loaded] at reloaded
  simp only [Option.map_some, decide_true, if_true, Option.some.injEq] at reloaded
  rw [← reloaded]
  exact terminal

theorem loadRun_updateStatus_other (differs : other ≠ id) :
    (tables.updateWorkerRunStatus run.runId status time).loadWorkerRunByDelegatedSession other =
      tables.loadWorkerRunByDelegatedSession other := by
  obtain ⟨isRun, forSession⟩ := session_of_loadRun loaded
  rw [updateWorkerRunStatus, loadRun_updateStatusWhere]
  cases found : tables.loadWorkerRunByDelegatedSession other with
  | none => rfl
  | some second =>
    obtain ⟨isSecond, forOther⟩ := session_of_loadRun found
    have distinct : second.runId ≠ run.runId := by
      intro same
      have equal := inj_on_of_nodup_map tables.workerRuns.unique isSecond isRun same
      rw [equal, forSession, Option.some.injEq] at forOther
      exact differs forOther.symm
    simp [distinct]

end

end

/-! ## The registry -/

theorem listing_restoreState {later : SessionState}
    (found : registry.sessions.find? later.sessionId = some session)
    (sameHandle : later.handle = session.handle) :
    (registry.restoreState later).allSessions.map SessionState.sessionId =
      registry.allSessions.map SessionState.sessionId := by
  have isSession := mem_of_find? found
  have sameId := key_of_find? found
  have handles : ∀ row ∈ registry.sessions.rows,
      (if row.sessionId = later.sessionId then later else row).handle = row.handle := by
    intro row isRow
    split
    · next same =>
      have equal := inj_on_of_nodup_map registry.sessions.unique isRow isSession
        (same.trans sameId.symm)
      rw [sameHandle, equal]
    · rfl
  rw [SessionRegistry.allSessions, SessionRegistry.restoreState, rows_put_of_present found,
    ← map_insertionSort (fun a b : SessionState => a.handle ≤ b.handle) _ _ _
      (fun a isA b isB => by rw [handles a isA, handles b isB]),
    map_map]
  apply map_congr_left
  intro row _
  simp only [Function.comp_apply]
  split
  · next same => exact same.symm
  · rfl

/-! ## Archiving one session -/

section
variable {e e' : CrewEngine} {id : SessionId}

theorem archiveSession_ok (archived : e.registry.archiveSession id time = .ok (state, registry)) :
    ∃ session, sessionOf e id = some session ∧ state = archivedAt session time ∧
      registry = e.registry.restoreState (archivedAt session time) := by
  simp only [SessionRegistry.archiveSession, SessionRegistry.getSession, bind_eq_ok, orFail_eq_ok,
    pure_eq_ok, Prod.mk.injEq] at archived
  obtain ⟨session, found, rfl, rfl⟩ := archived
  exact ⟨session, found, rfl, rfl⟩

theorem returns_archiveInRegistry (returned : Returns (archiveInRegistry id) e archived e') :
    ∃ session time, sessionOf e id = some session ∧ archived = archivedAt session time ∧
      e' = { e with registry := e.registry.restoreState (archivedAt session time) } := by
  obtain ⟨time, _, rfl, later⟩ := returns_then returns_now returned
  obtain ⟨registry, ran, rfl⟩ := returns_inRegistry later
  obtain ⟨session, found, rfl, rfl⟩ := archiveSession_ok ran
  exact ⟨session, time, found, rfl, rfl⟩

theorem returns_publishDelegationLifecycle
    (returned : Returns (publishDelegationLifecycle session wakeId index phase detail) e u e') :
    ∃ events, e' = { e with published := e.published ++ events } := by
  unfold publishDelegationLifecycle at returned
  split at returned
  · exact ⟨[], by simp [(returns_pure returned).2]⟩
  · obtain ⟨run, _, ⟨-, rfl⟩, later⟩ := returns_then returns_load returned
    obtain ⟨sequence, _, rfl, ending⟩ := returns_then returns_publish later
    exact ⟨_, (returns_pure ending).2⟩

theorem returns_settleRun {run : Option WorkerRunRecord}
    (returned : Returns (settleRun run status) e u e') :
    (run = none ∧ e' = e) ∨ ∃ found time, run = some found ∧
      e' = { e with tables := e.tables.updateWorkerRunStatus found.runId status time } := by
  cases run with
  | none => exact .inl ⟨rfl, (returns_pure returned).2⟩
  | some found =>
    obtain ⟨time, _, rfl, later⟩ := returns_then returns_now returned
    exact .inr ⟨found, time, rfl, returns_save later⟩

theorem archives_one (found : sessionOf e id = some session)
    (registry : e'.registry = e.registry.restoreState (archivedAt session time))
    (others : ∀ other, other ≠ id → runOf e' other = runOf e other) (ended : RunEnded e' id) :
    Archives e e' fun other => other = id := by
  have isId : (archivedAt session time).sessionId = id :=
    show session.sessionId = id from key_of_find? found
  have sessions : ∀ other, sessionOf e' other =
      if id = other then some (archivedAt session time) else sessionOf e other := by
    intro other
    rw [sessionOf, registry, SessionRegistry.restoreState, find?_put, isId]
    rfl
  refine ⟨?_, fun other differs => ⟨?_, others other differs⟩, ?_⟩
  · have present : e.registry.sessions.find? (archivedAt session time).sessionId =
        some session := by
      rw [isId]
      exact found
    rw [registry]
    exact listing_restoreState present rfl
  · rw [sessions, if_neg (Ne.symm differs)]
  · intro other same
    subst same
    exact ⟨⟨session, time, found, by rw [sessions, if_pos rfl]⟩, ended⟩

theorem archives_archiveWithRun {archived : SessionState} (terminal : status.isTerminal = true)
    (returned : Returns (archiveWithRun id (runOf e id) status) e archived e') :
    Archives e e' fun other => other = id := by
  obtain ⟨state, _, ⟨session, time, found, rfl, rfl⟩, later₁⟩ :=
    returns_then returns_archiveInRegistry returned
  obtain ⟨_, _, rfl, later₂⟩ := returns_then returns_save later₁
  obtain ⟨_, e₃, settled, later₃⟩ := returns_bind later₂
  obtain ⟨_, e₄, published, later₄⟩ := returns_bind later₃
  obtain rfl := returns_publish published
  obtain ⟨_, _, ⟨events, rfl⟩, later₅⟩ := returns_then returns_publishDelegationLifecycle later₄
  obtain ⟨-, rfl⟩ := returns_pure later₅
  rcases returns_settleRun settled with ⟨none, rfl⟩ | ⟨run, time', isRun, rfl⟩
  · apply archives_one found rfl
    · exact fun _ _ => rfl
    · intro run isRun
      cases none.symm.trans isRun
  · apply archives_one found rfl
    · exact fun other differs => loadRun_updateStatus_other isRun differs
    · exact fun later₅ reloaded => ended_of_updateStatus isRun terminal reloaded

theorem archives_ifNonterminal {archived : Option SessionState}
    (terminal : status.isTerminal = true)
    (returned : Returns (archiveDelegatedSessionIfNonterminal session status) e archived e') :
    Archives e e' fun other => other = session.sessionId ∧ session.kind = .delegated ∧
      isEnded (runOf e session.sessionId) = false := by
  unfold archiveDelegatedSessionIfNonterminal at returned
  split at returned
  · next other => exact archives_pure returned fun id => by simp [other]
  · next delegated =>
    obtain ⟨run, _, ⟨rfl, rfl⟩, later⟩ := returns_then returns_load returned
    split at later
    · next ended => exact archives_pure later fun id => by simp [runOf, ended]
    · next running =>
      obtain ⟨state, last, archives, ending⟩ := returns_bind later
      obtain ⟨-, rfl⟩ := returns_pure ending
      refine (archives_archiveWithRun terminal archives).congr fun id => ?_
      simp only [not_not] at delegated
      simp [delegated, runOf, running]

end

/-! ## Archiving one session after the other -/

section
variable {e : CrewEngine} {id : SessionId}

theorem archives_visits {Round : CrewEngine → SessionState → CrewEngine → Prop}
    {Fires : CrewEngine → SessionState → Prop} {items : List SessionState}
    (distinct : (items.map SessionState.sessionId).Nodup)
    (round : ∀ e item e', Round e item e' →
      Archives e e' fun id => id = item.sessionId ∧ Fires e item)
    (own : ∀ e e' item, runOf e' item.sessionId = runOf e item.sessionId →
      (Fires e' item ↔ Fires e item))
    (visited : Visits Round e items e') :
    Archives e e' fun id => ∃ item ∈ items, item.sessionId = id ∧ Fires e item := by
  induction visited with
  | none => exact (Archives.refl _).congr fun id => by simp
  | @next e middle e' item rest first _ ih =>
    obtain ⟨absent, distinct⟩ := nodup_cons.mp distinct
    have one := round e item middle first
    refine (one.trans (ih distinct)).congr fun id => ?_
    have others : ∀ other ∈ rest, Fires middle other ↔ Fires e other := by
      intro other isOther
      apply own
      refine (one.others _ fun gone => absent ?_).2
      exact gone.1 ▸ mem_map_of_mem isOther
    simp only [mem_cons, exists_eq_or_imp, eq_comm (a := id)]
    refine or_congr Iff.rfl (exists_congr fun other => and_congr_right fun isOther => ?_)
    rw [others other isOther]

theorem mem_delegatedSessionsForParent : session ∈ registry.delegatedSessionsForParent id ↔
      session ∈ registry.sessions.rows ∧ SessionRegistry.isChildOf id session = true := by
  rw [SessionRegistry.delegatedSessionsForParent, mem_insertionSort, mem_select]

theorem nodup_delegatedSessionsForParent (registry : SessionRegistry) (id : SessionId) :
    ((registry.delegatedSessionsForParent id).map SessionState.sessionId).Nodup := by
  have sorted := (perm_insertionSort (fun a b : SessionState =>
      (a.delegation.map DelegationLineage.sourceActionIndex).getD (2 ^ 32 - 1) ≤
        (b.delegation.map DelegationLineage.sourceActionIndex).getD (2 ^ 32 - 1))
    (registry.sessions.select (SessionRegistry.isChildOf id))).map SessionState.sessionId
  exact sorted.nodup_iff.mpr (nodup_select _ _)

def IsDelegatedTo (e : CrewEngine) (parent child : SessionId) : Prop :=
  ∃ session, sessionOf e child = some session ∧ session.kind = .delegated ∧
    SessionRegistry.isChildOf parent session = true

theorem archives_cancelChild (returned : Returns (do
        let _ ← archiveDelegatedSessionIfNonterminal child .cancelled) e u e') :
    Archives e e' fun id => id = child.sessionId ∧ child.kind = .delegated ∧
      isEnded (runOf e child.sessionId) = false := by
  obtain ⟨archived, middle, archives, ending⟩ := returns_bind returned
  obtain ⟨-, rfl⟩ := returns_pure ending
  exact archives_ifNonterminal rfl archives

theorem archives_cancelChildren (returned : Returns (cancelDelegatedChildrenForParent id) e u e') :
    Archives e e' fun child => IsDelegatedTo e id child ∧ isEnded (runOf e child) = false := by
  obtain ⟨children, _, ⟨listed, rfl⟩, later⟩ := returns_then returns_lookUp returned
  cases listed
  have archives := archives_visits (nodup_delegatedSessionsForParent _ _)
    (fun _ _ _ => archives_cancelChild) (fun _ _ _ same => by rw [same]) (returns_forEach later)
  refine archives.congr fun child => ?_
  simp only [mem_delegatedSessionsForParent]
  constructor
  · rintro ⟨session, ⟨isSession, isChild⟩, rfl, delegated, running⟩
    exact ⟨⟨session, find?_of_mem isSession, delegated, isChild⟩, running⟩
  · rintro ⟨⟨session, found, delegated, isChild⟩, running⟩
    obtain ⟨isSession, rfl⟩ := find?_eq_some.mp found
    exact ⟨session, ⟨isSession, isChild⟩, rfl, delegated, running⟩

/-! ## Archiving a session -/

theorem returns_publishSessionExecution (returned : Returns (publishSessionExecution id) e u e') :
    ∃ events, e' = { e with published := e.published ++ events } := by
  obtain ⟨session, _, ⟨-, rfl⟩, later₁⟩ := returns_then returns_lookUp returned
  obtain ⟨_, _, rfl, later₂⟩ := returns_then returns_elsewhere later₁
  obtain ⟨_, _, rfl, later₃⟩ := returns_then returns_publish later₂
  exact ⟨_, (returns_pure later₃).2⟩

theorem returns_archiveSession (returned : Returns (archiveSession id) e state e') :
    ∃ session time middle, sessionOf e id = some session ∧ state = archivedAt session time ∧
      middle.registry = e.registry.restoreState (archivedAt session time) ∧
      middle.tables.workerRuns = e.tables.workerRuns ∧
      Returns (endDelegations (archivedAt session time) id) middle () e' := by
  obtain ⟨time, _, rfl, later₁⟩ := returns_then returns_now returned
  obtain ⟨_, _, rfl, later₂⟩ := returns_then returns_elsewhere later₁
  obtain ⟨_, _, rfl, later₃⟩ := returns_then returns_elsewhere later₂
  obtain ⟨archived, _, ⟨registry, ran, rfl⟩, later₄⟩ := returns_then returns_inRegistry later₃
  obtain ⟨session, found, rfl, rfl⟩ := archiveSession_ok ran
  obtain ⟨_, _, rfl, later₅⟩ := returns_then returns_save later₄
  obtain ⟨_, _, rfl, later₆⟩ := returns_then returns_publish later₅
  obtain ⟨_, _, ⟨events, rfl⟩, later₇⟩ := returns_then returns_publishSessionExecution later₆
  obtain ⟨_, e₈, ended, later₈⟩ := returns_bind later₇
  obtain ⟨rfl, rfl⟩ := returns_pure later₈
  refine ⟨session, time, _, found, rfl, ?_, ?_, ended⟩ <;> rfl

end

/-! ## Descendants -/

inductive Descends (e : CrewEngine) (root : SessionId) : SessionId → Prop
  | child {id : SessionId} : IsDelegatedTo e root id → Descends e root id
  | deeper {parent id : SessionId} : Descends e root parent → IsDelegatedTo e parent id →
      Descends e root id

def Concluded (id : SessionId) : Prop := IsArchived e id ∧ RunEnded e id

section
variable {e : CrewEngine} {id : SessionId}

theorem Descends.delegated (descends : Descends e root id) :
    ∃ session, sessionOf e id = some session ∧ session.kind = .delegated := by
  cases descends with
  | child isChild | deeper _ isChild =>
    obtain ⟨session, found, delegated, -⟩ := isChild
    exact ⟨session, found, delegated⟩

theorem Archives.concluded_iff {Gone : SessionId → Prop} (archives : Archives e e' Gone) :
    Concluded e' id ↔ Concluded e id ∨ Gone id := by
  rw [Concluded, archives.isArchived_iff, archives.runEnded_iff, Concluded]
  tauto

theorem archives_archiveDelegated {middle : CrewEngine} (found : sessionOf e id = some session)
    (registry : middle.registry = e.registry.restoreState (archivedAt session time))
    (runs : middle.tables.workerRuns = e.tables.workerRuns)
    (returned : Returns (cancelRunUnlessEnded id) middle u e') :
    Archives e e' fun other => other = id := by
  have sameRun : ∀ other, runOf middle other = runOf e other := by
    intro other
    rw [runOf, loadWorkerRunByDelegatedSession, runs]
    rfl
  obtain ⟨run, _, ⟨rfl, rfl⟩, later⟩ := returns_then returns_load returned
  split at later
  · next ended =>
    obtain ⟨-, rfl⟩ := returns_pure later
    apply archives_one found registry
    · exact fun other _ => sameRun other
    · intro run isRun
      unfold runOf at isRun
      rw [isRun] at ended
      simpa [isEnded] using ended
  · obtain ⟨time', e₂, clock, updates⟩ := returns_bind later
    obtain rfl := returns_now clock
    obtain rfl := returns_save updates
    refine archives_one found (show _ = e.registry.restoreState _ from registry) ?_ ?_
    · intro other differs
      refine Eq.trans ?_ (sameRun other)
      refine loadRun_updateStatusWhere.trans ?_
      cases loadedOther : e₂.tables.loadWorkerRunByDelegatedSession other with
      | none => simp [runOf, loadedOther]
      | some run =>
        have forOther := (session_of_loadRun loadedOther).2
        simp [runOf, loadedOther, forOther, differs]
    · intro run isRun
      have reloaded := loadRun_updateStatusWhere.symm.trans isRun
      obtain ⟨earlier, isEarlier, rfl⟩ := Option.map_eq_some_iff.mp reloaded
      simp [(session_of_loadRun isEarlier).2, WorkerRunStatus.isTerminal]

theorem concluded_after_archive (returned : Returns (archiveSession root) e state e')
    (found : sessionOf e id = some session) (delegated : session.kind = .delegated) :
    Concluded e' id ↔ id = root ∨ Concluded e id ∨
      ((sessionOf e root).map SessionState.kind ≠ some .delegated ∧ IsDelegatedTo e root id ∧
        isEnded (runOf e id) = false) := by
  obtain ⟨archived, time, middle, foundRoot, rfl, registry, runs, ended⟩ :=
    returns_archiveSession returned
  have rootKind : (sessionOf e root).map SessionState.kind = some archived.kind :=
    congrArg (Option.map SessionState.kind) foundRoot
  unfold endDelegations at ended
  split at ended
  · next isDelegated =>
    rw [(archives_archiveDelegated foundRoot registry runs ended).concluded_iff]
    have kind : archived.kind = .delegated := isDelegated
    simp only [rootKind, kind, ne_eq, not_true_eq_false, false_and, or_false]
    tauto
  · next notDelegated =>
    have isRoot : (archivedAt archived time).sessionId = root :=
      show archived.sessionId = root from key_of_find? foundRoot
    -- The root is not delegated, so it is another session.
    have differs : root ≠ id := by
      intro same
      subst same
      cases foundRoot.symm.trans found
      exact notDelegated delegated
    have sameSession : sessionOf middle id = sessionOf e id := by
      rw [sessionOf, registry, SessionRegistry.restoreState, find?_put, isRoot, if_neg differs]
      rfl
    have sameRun : runOf middle id = runOf e id := by
      rw [runOf, loadWorkerRunByDelegatedSession, runs]
      rfl
    have sameSettled : Concluded middle id ↔ Concluded e id := by
      simp only [Concluded, IsArchived, RunEnded, sameSession, sameRun]
    have sameChild : IsDelegatedTo middle root id ↔ IsDelegatedTo e root id := by
      simp only [IsDelegatedTo, sameSession]
    rw [(archives_cancelChildren ended).concluded_iff, sameSettled, sameChild, sameRun]
    have kind : ¬archived.kind = .delegated := notDelegated
    simp only [rootKind, Ne.symm differs, false_or, ne_eq, Option.some.injEq, kind,
      not_false_eq_true, true_and]

end

/-- Archiving a session concludes the delegated sessions below it exactly when each of them is
concluded already or was asked for by that session, which is not delegated itself, and has a run
that is not terminal. -/
theorem archive_concludes_descendants {root : SessionId} {state : SessionState}
    {attended : Attended CrewEngine Surroundings}
    (returned : (archiveSession root attended).1 = .ok state) :
    (∀ id, Descends attended.state root id → Concluded (archiveSession root attended).2.state id) ↔
      ∀ id, Descends attended.state root id → id ≠ root → Concluded attended.state id ∨
        ((sessionOf attended.state root).map SessionState.kind ≠ some .delegated ∧
          IsDelegatedTo attended.state root id ∧ isEnded (runOf attended.state id) = false) := by
  have after : ∀ id, Descends attended.state root id →
      (Concluded (archiveSession root attended).2.state id ↔ id = root ∨
        Concluded attended.state id ∨
        ((sessionOf attended.state root).map SessionState.kind ≠ some .delegated ∧
          IsDelegatedTo attended.state root id ∧ isEnded (runOf attended.state id) = false)) := by
    intro id descends
    obtain ⟨session, found, delegated⟩ := descends.delegated
    exact concluded_after_archive (returns_of_ok returned) found delegated
  constructor
  · intro settled id descends differs
    exact ((after id descends).mp (settled id descends)).resolve_left differs
  · intro covered id descends
    apply (after id descends).mpr
    by_cases isRoot : id = root
    · exact .inl isRoot
    · exact .inr (covered id descends isRoot)

instance (e : CrewEngine) (id : SessionId) : Decidable (IsArchived e id) :=
  decidable_of_iff ((sessionOf e id).any fun session => session.status = .archived) (by
    simp [IsArchived, Option.any_eq_true])

instance (e : CrewEngine) (id : SessionId) : Decidable (RunEnded e id) :=
  decidable_of_iff ((runOf e id).all fun run => run.status.isTerminal) (by
    cases found : runOf e id <;> simp [RunEnded, found])

def oneChild : Attended CrewEngine Surroundings :=
  attendedBy (crewOf [crewSession 1 "r" none, crewSession 2 "c" (some "r")]
    [crewRun "run" "c" .running])

theorem descends_oneChild {id : SessionId} (descends : Descends oneChild.state ⟨"r"⟩ id) :
    id = ⟨"c"⟩ := by
  have only : ∀ parent child, IsDelegatedTo oneChild.state parent child → child = ⟨"c"⟩ := by
    intro parent child ⟨session, found, delegated, _⟩
    have isRow := mem_of_find? found
    have isId := key_of_find? found
    have rows : oneChild.state.registry.sessions.rows =
        [crewSession 1 "r" none, crewSession 2 "c" (some "r")] := by decide +kernel
    rw [rows] at isRow
    simp only [mem_cons, not_mem_nil, or_false] at isRow
    rcases isRow with rfl | rfl
    · cases delegated
    · exact isId.symm
  cases descends with
  | child isChild => exact only _ _ isChild
  | deeper _ isChild => exact only _ _ isChild

theorem archive_concludes_one_child :
    Concluded (archiveSession ⟨"r"⟩ oneChild).2.state ⟨"c"⟩ := by
  have returned : (archiveSession ⟨"r"⟩ oneChild).1 =
      .ok (archivedAt (crewSession 1 "r" none) calm.now) := by decide +kernel
  have child : IsDelegatedTo oneChild.state ⟨"r"⟩ ⟨"c"⟩ :=
    ⟨crewSession 2 "c" (some "r"), by decide +kernel⟩
  refine (archive_concludes_descendants returned).mpr ?_ ⟨"c"⟩ (.child child)
  intro id descends _
  obtain rfl := descends_oneChild descends
  exact .inr ⟨by decide, child, by decide +kernel⟩

theorem archive_leaves_grandchild :
    let attended := attendedBy (crewOf
      [crewSession 1 "r" none, crewSession 2 "c" (some "r"), crewSession 3 "g" (some "c")]
      [crewRun "run" "c" .running, crewRun "sub" "g" .running])
    Descends attended.state ⟨"r"⟩ ⟨"g"⟩ ∧ (archiveSession ⟨"r"⟩ attended).1.isOk = true ∧
      ¬IsArchived (archiveSession ⟨"r"⟩ attended).2.state ⟨"g"⟩ ∧
      ¬RunEnded (archiveSession ⟨"r"⟩ attended).2.state ⟨"g"⟩ := by
  intro attended
  have child : IsDelegatedTo attended.state ⟨"r"⟩ ⟨"c"⟩ :=
    ⟨crewSession 2 "c" (some "r"), by decide +kernel⟩
  have grandchild : IsDelegatedTo attended.state ⟨"c"⟩ ⟨"g"⟩ :=
    ⟨crewSession 3 "g" (some "c"), by decide +kernel⟩
  exact ⟨.deeper (.child child) grandchild, by decide +kernel⟩

end RustyCrew.Proof.Engine

import RustyCrew.Proof.Engine.Batches
import RustyCrew.Proof.Persistence.WorkerPool

namespace RustyCrew.Proof.Engine

open Library Protocol RustyCrew.Persistence RustyCrew.Engine CrewM Attended Table SessionTables List
open RustyCrew.Proof.Persistence

/-! ## The calls of the engine that end in the tables of runs -/

inductive CrewCall where
  | session (operation : SessionOperation)
  | cancelDelegated (sessionId : SessionId)
  | drainDelegated (parentSessionId : Option SessionId)
  | expireDelegated
  | cleanup
  | brainActions (batch : BrainActionBatch)
  | brainEvent (envelope : BrainEventEnvelope)
  | requestCheckpoint (parentSessionId sessionId : SessionId)
  | workerPool (call : WorkerPoolCall)

def CrewCall.perform (calendar : Calendar) : CrewCall → CrewM Unit
  | .session operation => operation.perform
  | .cancelDelegated sessionId => do
    let _ ← cancelDelegatedSession sessionId
  | .drainDelegated parentSessionId => do
    let _ ← drainDelegatedSessions parentSessionId
  | .expireDelegated => do
    let _ ← expireDelegatedSessions calendar
  | .cleanup => do
    let _ ← cleanupDelegatedResources calendar
  | .brainActions batch => do
    let _ ← executeBrainActions calendar batch
  | .brainEvent envelope => do
    let _ ← submitBrainEvent envelope
  | .requestCheckpoint parentSessionId sessionId => do
    let _ ← requestDelegatedCheckpoint parentSessionId sessionId
  | .workerPool call =>
    save fun tables => { tables with workerPool := workerPoolStep tables.workerPool call }

structure AnsweredCall where
  call : CrewCall
  answers : Nat → Surroundings

def AnsweredCall.outcome (calendar : Calendar) (e : CrewEngine) (answered : AnsweredCall) :
    CoreResult Unit × Attended CrewEngine Surroundings :=
  answered.call.perform calendar ⟨e, answered.answers⟩

def crewStep (calendar : Calendar) (e : CrewEngine) (answered : AnsweredCall) : CrewEngine :=
  (answered.outcome calendar e).2.state

section

theorem upholds_submitBrainEvent {envelope : BrainEventEnvelope} (isLocal : Local R)
    (fails : ∀ s, R s → E s) (start : R e)
    (advances : envelope.event = .started →
      Upholds (· = e) (advanceRun envelope.sessionId .running) (fun _ => R) E) :
    Upholds (· = e) (submitBrainEvent envelope) (fun _ => R) E := by
  refine upholds_bind (Q := fun _ => R) ?_ fun _ => ?_
  · unfold noteStarted
    split
    · next started => exact advances started
    · exact upholds_pure fun s same => same ▸ start
  · exact upholds_bind ((preserves_publish isLocal).failing fails) fun _ => upholds_pure fun _ => id

theorem upholds_requestCheckpoint {parent id : SessionId} (before : Local P) (after : Local R)
    (unasked : ∀ s, P s → E s) (fails : ∀ s, R s → E s)
    (advances : Upholds P (advanceRun id .checkpointWaiting) (fun _ => R) E) :
    Upholds P (requestDelegatedCheckpoint parent id) (fun _ => R) E := by
  have keeps {α : Type} {x : CrewM α} (preserves : Preserves P x) : Upholds P x (fun _ => P) E :=
    preserves.failing unasked
  refine upholds_bind (keeps preserves_lookUp) fun _ => ?_
  refine upholds_bind (Q := fun delegated s => delegated.sessionId = id ∧ P s)
    (upholds_lookUp ?_ unasked) fun delegated => upholds_assume fun isId => ?_
  · intro s delegated looked holds
    simp only [SessionRegistry.getSession, orFail_eq_ok] at looked
    exact ⟨key_of_find? looked, holds⟩
  subst isId
  refine upholds_bind (keeps preserves_lift) fun _ => ?_
  refine upholds_bind (keeps preserves_lift) fun lineage => ?_
  refine upholds_bind (keeps preserves_lift) fun _ => ?_
  refine upholds_bind (keeps ?_) fun receipt => ?_
  · refine upholds_bind (upholds_call fun _ => id) fun outside => ?_
    refine upholds_transact (fun s _ s' ran holds => ?_) fun _ => id
    cases ran
    exact before s _ ⟨rfl, rfl, rfl, prefix_append _ _, fun _ => id⟩ holds
  refine upholds_bind advances fun _ => ?_
  refine upholds_bind ((preserves_publishDelegationLifecycle after).failing fails) fun _ => ?_
  exact upholds_pure fun _ => id

theorem upholds_perform {calendar : Calendar} {call : CrewCall} (admits : Ends R) (start : R e)
    (fails : ∀ s, R s → E s)
    (batches : ∀ batch, call = .brainActions batch →
      Upholds (· = e) (executeBrainActions calendar batch) (fun _ => R) E)
    (events : ∀ envelope, call = .brainEvent envelope →
      Upholds (· = e) (submitBrainEvent envelope) (fun _ => R) E)
    (checkpoints : ∀ parent id, call = .requestCheckpoint parent id →
      Upholds (· = e) (requestDelegatedCheckpoint parent id) (fun _ => R) E)
    (pools : ∀ s call, R s → R (withPool s (workerPoolStep s.tables.workerPool call))) :
    Upholds (· = e) (call.perform calendar) (fun _ => R) E := by
  have keeps {α : Type} {x : CrewM α} (preserves : Preserves R x) :
      Upholds (· = e) x (fun _ => R) E :=
    upholds_weaken preserves (fun _ same => same ▸ start) (fun _ _ => id) fails
  have done {α : Type} {x : CrewM α} (upholds : Upholds (· = e) x (fun _ => R) E) :
      Upholds (· = e) (do let _ ← x) (fun _ => R) E :=
    upholds_bind upholds fun _ => upholds_pure fun _ => id
  cases call with
  | session operation =>
    cases operation with
    | create config => exact done (keeps (preserves_createSession admits.isLocal))
    | ensure config => exact done (keeps (preserves_ensure admits.isLocal))
    | updateWorkspace update => exact done (keeps (preserves_updateWorkspace admits.isLocal))
    | archive id => exact done (keeps (preserves_archiveSession admits))
  | cancelDelegated id => exact done (keeps (preserves_cancelDelegatedSession admits))
  | drainDelegated parent => exact done (keeps (preserves_drain admits))
  | expireDelegated => exact done (keeps (preserves_expire admits))
  | cleanup => exact done (keeps (preserves_cleanup admits))
  | brainActions batch => exact done (batches batch rfl)
  | brainEvent envelope => exact done (events envelope rfl)
  | requestCheckpoint parent id => exact done (checkpoints parent id rfl)
  | workerPool call => exact keeps (upholds_save (fun s => pools s call) fun _ => id)

end

/-! ## Statuses that stay -/

def Absorbing (writes : List StatusWrite) : Prop :=
  writes.Pairwise fun first later => first.runId = later.runId → first.status.isTerminal = true →
    later.status = first.status

def UpToDate (tables : SessionTables) : Prop :=
  ∀ write ∈ tables.statusWrites, write.status.isTerminal = true →
    ∃ run, tables.loadWorkerRun write.runId = some run ∧ run.status = write.status

structure Absorbed (e : CrewEngine) : Prop where
  attached : Attached e
  absorbing : Absorbing e.tables.statusWrites
  upToDate : UpToDate e.tables

section
variable {e : CrewEngine} {id : SessionId} {run : WorkerRunRecord}

theorem local_absorbed : Local Absorbed := by
  intro e e' apart absorbed
  refine ⟨local_attached e e' apart absorbed.attached, ?_, ?_⟩
  · rw [apart.statusWrites]
    exact absorbed.absorbing
  · intro write isWrite
    rw [apart.statusWrites] at isWrite
    rw [loadWorkerRun, apart.workerRuns]
    exact absorbed.upToDate write isWrite

theorem attached_updateStatus (attached : Attached e) :
    Attached { e with tables := e.tables.updateWorkerRunStatus run.runId status time } := by
  have rows : ∀ row ∈ (e.tables.updateWorkerRunStatus run.runId status time).workerRuns.rows,
      ∃ earlier ∈ e.tables.workerRuns.rows, row = if decide (earlier.runId = run.runId) then
          { earlier with status, lastUpdatedAt := time } else earlier := by
    intro row isRow
    obtain ⟨earlier, isEarlier, same⟩ := mem_map.mp isRow
    exact ⟨earlier, isEarlier, same.symm⟩
  have session : ∀ earlier : WorkerRunRecord, (if decide (earlier.runId = run.runId) then
        { earlier with status, lastUpdatedAt := time } else earlier).delegatedSessionId =
          earlier.delegatedSessionId := by
    intro earlier
    split <;> rfl
  constructor
  · intro row isRow id forSession
    obtain ⟨earlier, isEarlier, rfl⟩ := rows row isRow
    rw [session] at forSession
    exact attached.known earlier isEarlier id forSession
  · intro row isRow other isOther id forRow forOther
    obtain ⟨first, isFirst, rfl⟩ := rows row isRow
    obtain ⟨second, isSecond, rfl⟩ := rows other isOther
    rw [session] at forRow forOther
    rw [attached.alone first isFirst second isSecond id forRow forOther]

theorem loadWorkerRun_updateStatus :
    (e.tables.updateWorkerRunStatus run.runId status time).loadWorkerRun runId =
      (e.tables.loadWorkerRun runId).map fun row =>
        if row.runId = run.runId then { row with status, lastUpdatedAt := time } else row := by
  simp [loadWorkerRun, updateWorkerRunStatus, updateStatusWhere]

theorem Absorbed.write (absorbed : Absorbed e) (isRun : run ∈ e.tables.workerRuns.rows)
    (same : run.status.isTerminal = true → status = run.status) :
    Absorbed { e with tables := e.tables.updateWorkerRunStatus run.runId status time } := by
  have stored : e.tables.loadWorkerRun run.runId = some run := find?_of_mem isRun
  have earlier : ∀ write ∈ e.tables.statusWrites, write.runId = run.runId →
      write.status.isTerminal = true → status = write.status := by
    intro write isWrite forRun terminal
    obtain ⟨found, isFound, current⟩ := absorbed.upToDate write isWrite terminal
    rw [forRun, stored] at isFound
    cases isFound
    rw [← current] at terminal ⊢
    exact same terminal
  have news : ∀ write ∈ (e.tables.workerRuns.select fun row => row.runId = run.runId).map
      (e.tables.statusWrite status), write.runId = run.runId ∧ write.status = status := by
    intro write isWrite
    obtain ⟨row, isRow, rfl⟩ := mem_map.mp isWrite
    exact ⟨show row.runId = _ by simpa using (mem_select.mp isRow).2, rfl⟩
  refine ⟨attached_updateStatus absorbed.attached, ?_, ?_⟩
  · refine pairwise_append.mpr ⟨absorbed.absorbing, ?_, fun first isFirst later isLater => ?_⟩
    · refine pairwise_of_forall_mem_list fun first isFirst later isLater _ _ => ?_
      rw [(news first isFirst).2, (news later isLater).2]
    · intro forRun terminal
      obtain ⟨isRunId, isStatus⟩ := news later isLater
      rw [isStatus]
      exact earlier first isFirst (forRun.trans isRunId) terminal
  · intro write isWrite terminal
    rw [loadWorkerRun_updateStatus]
    rcases mem_append.mp isWrite with isOld | isNew
    · obtain ⟨found, isFound, current⟩ := absorbed.upToDate write isOld terminal
      rw [isFound]
      by_cases forRun : found.runId = run.runId
      · have isId : write.runId = run.runId := (key_of_find? isFound).symm.trans forRun
        exact ⟨_, rfl, by simp [forRun, earlier write isOld isId terminal]⟩
      · exact ⟨_, rfl, by simp [forRun, current]⟩
    · obtain ⟨isRunId, isStatus⟩ := news write isNew
      rw [isRunId, stored]
      exact ⟨_, rfl, by simp [isStatus]⟩

theorem Attached.request (attached : Attached e) (unstored : Unstored run.runId e)
    (forSession : run.delegatedSessionId = some id) (noRun : runOf e id = none)
    (known : (sessionOf e id).isSome = true) :
    Attached { e with tables := e.tables.saveWorkerRunRequested run } := by
  have rows : (e.tables.workerRuns.put run).rows = e.tables.workerRuns.rows ++ [run] :=
    rows_put_of_absent unstored
  have others : ∀ other ∈ e.tables.workerRuns.rows, other.delegatedSessionId ≠ some id := by
    intro other isOther
    have differs := find?_eq_none.mp noRun other isOther
    simpa using differs
  constructor
  · intro row isRow other forOther
    rcases mem_append.mp (rows ▸ isRow) with isOld | isNew
    · exact attached.known row isOld other forOther
    · cases mem_singleton.mp isNew
      cases forSession.symm.trans forOther
      exact known
  · intro row isRow other isOther session forRow forOther
    rcases mem_append.mp (rows ▸ isRow) with isOld | isNew
    · rcases mem_append.mp (rows ▸ isOther) with isOldToo | isNewToo
      · exact attached.alone row isOld other isOldToo session forRow forOther
      · cases mem_singleton.mp isNewToo
        cases forSession.symm.trans forOther
        exact absurd forRow (others row isOld)
    · cases mem_singleton.mp isNew
      cases forSession.symm.trans forRow
      rcases mem_append.mp (rows ▸ isOther) with isOldToo | isNewToo
      · exact absurd forOther (others other isOldToo)
      · exact mem_singleton.mp isNewToo

theorem Absorbed.request (absorbed : Absorbed e) (unstored : Unstored run.runId e)
    (forSession : run.delegatedSessionId = some id) (noRun : runOf e id = none)
    (known : (sessionOf e id).isSome = true) (requested : run.status = .requested) :
    Absorbed { e with tables := e.tables.saveWorkerRunRequested run } := by
  refine ⟨absorbed.attached.request unstored forSession noRun known, ?_, ?_⟩
  · refine pairwise_append.mpr ⟨absorbed.absorbing, by simp, fun first isFirst later isLater => ?_⟩
    cases mem_singleton.mp isLater
    intro forRun terminal
    obtain ⟨found, isFound, -⟩ := absorbed.upToDate first isFirst terminal
    rw [forRun] at isFound
    cases unstored.symm.trans isFound
  · intro write isWrite terminal
    rcases mem_append.mp isWrite with isOld | isNew
    · obtain ⟨found, isFound, current⟩ := absorbed.upToDate write isOld terminal
      have differs : run.runId ≠ write.runId := by
        intro same
        rw [← same] at isFound
        cases unstored.symm.trans isFound
      refine ⟨found, ?_, current⟩
      exact (find?_put _ _ _).trans ((if_neg differs).trans isFound)
    · cases mem_singleton.mp isNew
      simp [statusWrite, requested, WorkerRunStatus.isTerminal] at terminal

theorem Absorbed.withPool (absorbed : Absorbed e) (workerPool) : Absorbed (withPool e workerPool) :=
  ⟨⟨absorbed.attached.known, absorbed.attached.alone⟩, absorbed.absorbing, absorbed.upToDate⟩

end

theorem ends_absorbed : Ends Absorbed := by
  refine Ends.of_attached local_absorbed (fun _ absorbed => absorbed.attached) ?_
  intro e run status time isRun running _ absorbed
  exact absorbed.write isRun fun terminal => by simp [running] at terminal

def Completable (id : SessionId) (status : WorkerRunStatus) (e : CrewEngine) : Prop :=
  ∀ run, runOf e id = some run → run.status.isTerminal = true → run.status = status

section
variable {e : CrewEngine} {id : SessionId} {status : WorkerRunStatus}

theorem local_completable (id : SessionId) (status) : Local (Completable id status) := by
  intro e e' apart completable run isRun
  exact completable run (apart.runOf_eq ▸ isRun)

theorem Completable.advance {next : WorkerRunStatus}
    (completable : Completable id status e) (running : next.isTerminal = false) :
    Completable id status { e with tables := e.tables.updateWorkerRunStatus runId next time } := by
  intro run isRun terminal
  have updated := loadRun_updateStatusWhere.symm.trans isRun
  obtain ⟨earlier, isEarlier, rfl⟩ := Option.map_eq_some_iff.mp updated
  split at terminal
  · rw [running] at terminal
    cases terminal
  · next other =>
    rw [if_neg other]
    exact completable earlier isEarlier terminal

theorem Completable.request {run : WorkerRunRecord} (completable : Completable id status e)
    (unstored : Unstored run.runId e) (requested : run.status = .requested) :
    Completable id status { e with tables := e.tables.saveWorkerRunRequested run } := by
  intro found isFound terminal
  have rows : (e.tables.workerRuns.put run).rows = e.tables.workerRuns.rows ++ [run] :=
    rows_put_of_absent unstored
  have appended : ((e.tables.workerRuns.rows ++ [run]).find? fun run =>
      run.delegatedSessionId = some id) = some found := rows ▸ isFound
  rw [find?_append, Option.or_eq_some_iff] at appended
  rcases appended with isOld | ⟨_, isNew⟩
  · exact completable found isOld terminal
  · have same := mem_singleton.mp (mem_of_find?_eq_some isNew)
    rw [same, requested] at terminal
    cases terminal

theorem spawns_absorbed (id : SessionId) (status) :
    Spawns (fun e => Absorbed e ∧ Completable id status e) (fun _ _ => True) Unended := by
  refine Spawns.of_attached ⟨fun _ _ => trivial, fun e _ _ pool _ holds => ?_,
    fun e _ _ pool _ holds => ⟨?_, fun _ _ => trivial⟩⟩
    (local_absorbed.and (local_completable id status)) (fun _ holds => holds.1.attached)
    (fun _ _ _ _ granted => granted) ?_ ?_
  · exact ⟨holds.1.withPool pool, holds.2⟩
  · exact ⟨holds.1.withPool pool, holds.2⟩
  · intro e run _ session unstored forSession noRun known requested _ _ _ holds
    exact ⟨holds.1.request unstored forSession noRun known requested,
      holds.2.request unstored requested⟩
  · intro e run next time isRun running stays holds
    refine ⟨holds.1.write isRun fun terminal => ?_, holds.2.advance stays⟩
    simp [running] at terminal

theorem absorbed_lifecycle {packet : CompletionPacket} (isId : packet.sessionId = id)
    (isStatus : workerRunStatusFor packet.status = status) :
    Upholds (fun e => Absorbed e ∧ Completable id status e) (updateLifecycleForCompletion packet)
      (fun _ e => Absorbed e ∧ Completable id status e) Absorbed := by
  have isLocal := local_absorbed.and (local_completable id status)
  have drop : ∀ e, Absorbed e ∧ Completable id status e → Absorbed e := fun _ holds => holds.1
  subst isId isStatus
  refine upholds_then ?_ fun _ => ?_
  · refine upholds_bind upholds_now fun time => upholds_save (fun e holds => ⟨?_, ?_⟩) drop
    · refine holds.1.attached.writeBySession holds.1 fun run isRun => ?_
      exact holds.1.write (runOf_eq_some isRun).1 fun terminal => (holds.2 run isRun terminal).symm
    · intro run isRun _
      rw [runOf_updateBySession] at isRun
      obtain ⟨earlier, _, rfl⟩ := Option.map_eq_some_iff.mp isRun
      rfl
  refine upholds_then (upholds_load (fun _ => id) drop) fun run => ?_
  refine upholds_then ?_ fun _ => ?_
  · unfold completeRunLease
    split
    · split
      · refine upholds_bind upholds_now fun time => ?_
        refine upholds_then
          (upholds_inPool (fun e _ pool _ holds => ?_) drop) fun _ => upholds_pure fun _ => id
        exact ⟨holds.1.withPool pool, holds.2⟩
      · exact upholds_pure fun _ => id
    · exact upholds_pure fun _ => id
  refine upholds_then (upholds_lookUp (fun _ _ _ => id) drop) fun session => ?_
  split
  · exact (preserves_publishDelegationLifecycle isLocal).failing drop
  · exact upholds_pure fun _ => id

def CompletionsAgree (batch : BrainActionBatch) : Prop :=
  ∀ first second, .deliverCompletion first ∈ batch.actions →
    .deliverCompletion second ∈ batch.actions → first.status = second.status

theorem CompletionsAgree.completable (agree : CompletionsAgree batch) (e : CrewEngine) :
    ∃ final, (∀ packet, .deliverCompletion packet ∈ batch.actions →
        workerRunStatusFor packet.status = final) ∧
      ((∀ packet, .deliverCompletion packet ∈ batch.actions →
        packet.sessionId = batch.sessionId ∧ Unended packet.sessionId e) →
          Completable batch.sessionId final e) := by
  by_cases delivered : ∃ packet, .deliverCompletion packet ∈ batch.actions
  · obtain ⟨first, isFirst⟩ := delivered
    refine ⟨workerRunStatusFor first.status, fun packet isPacket => ?_,
      fun own run isRun terminal => ?_⟩
    · rw [agree packet first isPacket isFirst]
    · have unended := (own first isFirst).2
      rw [(own first isFirst).1] at unended
      rw [unended run isRun] at terminal
      cases terminal
  · refine ⟨((runOf e batch.sessionId).map WorkerRunRecord.status).getD .completed,
      fun packet isPacket => absurd ⟨packet, isPacket⟩ delivered, fun _ run isRun _ => ?_⟩
    rw [isRun]
    rfl

theorem absorbed_brainActions (absorbed : Absorbed e) (agree : CompletionsAgree batch) :
    Upholds (· = e) (executeBrainActions calendar batch) (fun _ => Absorbed) Absorbed := by
  obtain ⟨final, isFinal, completable⟩ := agree.completable e
  refine upholds_executeBrainActions (spawns_absorbed batch.sessionId final) ends_absorbed
    (fun _ holds => holds.1) (fun _ => id) absorbed fun own => ⟨⟨absorbed, completable own⟩, ?_⟩
  refine (upholds_forEach fun action isAction => ?_).returning (fun _ _ holds => And.left holds)
  split
  · exact absorbed_lifecycle (own _ isAction).1 (isFinal _ isAction)
  · exact upholds_pure fun _ => id

theorem absorbed_advanceRun :
    Upholds (fun e => Absorbed e ∧ Unended id e) (advanceRun id status) (fun _ => Absorbed)
      Absorbed := by
  refine upholds_bind upholds_now fun time =>
    upholds_save (fun e holds => ?_) fun _ holds => holds.1
  refine holds.1.attached.writeBySession holds.1 fun run isRun => ?_
  refine holds.1.write (runOf_eq_some isRun).1 fun terminal => ?_
  rw [holds.2 run isRun] at terminal
  cases terminal

end

/-! ## Every run of the engine -/

/-- A started event and a checkpoint request come before the run of the session is over, and a batch
does not complete a run in two ways. -/
def Timely (e : CrewEngine) (answered : AnsweredCall) : Prop :=
  match answered.call with
  | .brainActions batch => CompletionsAgree batch
  | .brainEvent envelope => envelope.event = .started → Unended envelope.sessionId e
  | .requestCheckpoint _ sessionId => Unended sessionId e
  | _ => True

theorem absorbed_perform {calendar : Calendar} {e : CrewEngine} {answered : AnsweredCall}
    (absorbed : Absorbed e) (timely : Timely e answered) :
    Upholds (· = e) (answered.call.perform calendar) (fun _ => Absorbed) Absorbed := by
  have advances {id : SessionId} {status : WorkerRunStatus} (unended : Unended id e) :
      Upholds (· = e) (advanceRun id status) (fun _ => Absorbed) Absorbed :=
    absorbed_advanceRun.starting (fun _ same => same ▸ ⟨absorbed, unended⟩)
  unfold Timely at timely
  refine upholds_perform ends_absorbed absorbed (fun _ => id) (fun batch isCall => ?_)
    (fun envelope isCall => ?_) (fun parent id isCall => ?_) fun s _ holds => holds.withPool _
  · rw [isCall] at timely
    exact absorbed_brainActions absorbed timely
  · rw [isCall] at timely
    exact upholds_submitBrainEvent local_absorbed (fun _ => id) absorbed fun started =>
      advances (timely started)
  · rw [isCall] at timely
    refine (upholds_requestCheckpoint (local_absorbed.and (local_unended id))
      local_absorbed (fun _ holds => holds.1) (fun _ holds => holds) absorbed_advanceRun).starting
        (fun _ same => same ▸ ⟨absorbed, timely⟩)

theorem absorbed_start (attached : Attached start)
    (recorded : start.tables.statusWrites = start.tables.workerRuns.rows.map fun run =>
      start.tables.statusWrite run.status run) : Absorbed start := by
  refine ⟨attached, ?_, ?_⟩
  · rw [Absorbing, recorded, pairwise_map]
    refine (pairwise_map.mp start.tables.workerRuns.unique).imp fun differs same => ?_
    exact absurd same differs
  · intro write isWrite _
    rw [recorded] at isWrite
    obtain ⟨run, isRun, rfl⟩ := mem_map.mp isWrite
    exact ⟨run, find?_of_mem isRun, rfl⟩

/-- In every run of the engine in which no started event and no checkpoint request comes for a run
that is over, and no batch completes a run in two ways, what is written for a run after a terminal
status is that status, and it is the status of the run from then on. -/
theorem terminal_status_absorbing {calendar : Calendar} {start : CrewEngine}
    {calls : List AnsweredCall} (attached : Attached start)
    (recorded : start.tables.statusWrites = start.tables.workerRuns.rows.map fun run =>
      start.tables.statusWrite run.status run)
    (timely : Along (crewStep calendar) Timely start calls) :
    Absorbing (run (crewStep calendar) start calls).tables.statusWrites ∧
      UpToDate (run (crewStep calendar) start calls).tables := by
  have keeps : ∀ e answered, Absorbed e → Timely e answered →
      Absorbed (crewStep calendar e answered) := by
    intro e answered absorbed timely
    exact ((absorbed_perform absorbed timely).preserves rfl).2
  have absorbed := run_invariant keeps (absorbed_start attached recorded) timely
  exact ⟨absorbed.absorbing, absorbed.upToDate⟩

/-! ## A run that is completed and started again -/

def completing (status : CompletionStatus) : BrainActionBatch :=
  ⟨"wake", ⟨"c"⟩, [.deliverCompletion ⟨⟨"c"⟩, status, "done"⟩]⟩

def startedEvent : AnsweredCall := ⟨.brainEvent ⟨"wake", ⟨"c"⟩, .started⟩, fun _ => calm⟩

def runningChild : CrewEngine :=
  let e := crewOf [crewSession 1 "r" none, crewSession 2 "c" (some "r")]
    [crewRun "run" "c" .wakeRequested]
  { e with tables := { e.tables with statusWrites := [⟨⟨"run"⟩, .wakeRequested, false⟩] } }

theorem attached_runningChild : Attached runningChild := by
  have rows : runningChild.tables.workerRuns.rows = [crewRun "run" "c" .wakeRequested] := by
    decide +kernel
  constructor
  · rw [rows]
    intro run isRun id forSession
    cases mem_singleton.mp isRun
    cases forSession
    decide +kernel
  · rw [rows]
    intro run isRun other isOther id _ _
    rw [mem_singleton.mp isRun, mem_singleton.mp isOther]

theorem terminal_status_absorbing_child :
    Absorbing (run (crewStep crewCalendar) runningChild
      [startedEvent, ⟨.brainActions (completing .failed), fun _ => calm⟩,
        ⟨.session (.archive ⟨"r"⟩), fun _ => calm⟩]).tables.statusWrites := by
  refine (terminal_status_absorbing attached_runningChild (by decide +kernel) ?_).1
  refine ⟨fun _ found isFound => ?_, fun first second isFirst isSecond => ?_, trivial, trivial⟩
  · have isRun : runOf runningChild ⟨"c"⟩ = some (crewRun "run" "c" .wakeRequested) := by
      decide +kernel
    cases isRun.symm.trans isFound
    rfl
  · simp only [completing, mem_singleton, BrainAction.deliverCompletion.injEq] at isFirst isSecond
    rw [isFirst, isSecond]

theorem late_start_revives_run :
    let completed := crewStep crewCalendar runningChild
      ⟨.brainActions (completing .completed), fun _ => calm⟩
    let started := crewStep crewCalendar completed startedEvent
    (completed.tables.loadWorkerRun ⟨"run"⟩).map WorkerRunRecord.status = some .completed ∧
      (started.tables.loadWorkerRun ⟨"run"⟩).map WorkerRunRecord.status = some .running := by
  decide +kernel

end RustyCrew.Proof.Engine

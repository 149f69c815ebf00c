import RustyCrew.Engine.Scheduler
import RustyCrew.Proof.Engine.QueueTimes

namespace RustyCrew.Proof.Engine

open Library Protocol RustyCrew.Persistence RustyCrew.Engine

/-! ## The rows of runs -/

section
variable {tables : SchedulerTables} {run : ScheduledRunRecord}

theorem runs_unique (isRow : run ∈ tables.runs.rows) (isOther : other ∈ tables.runs.rows)
    (same : run.runId = other.runId) : run = other :=
  List.inj_on_of_nodup_map tables.runs.unique isRow isOther same

theorem rows_claim (claimed : tables.claimScheduledRun run nextDueAt = .ok next) :
    tables.runs.find? run.runId = none ∧ next.runs.rows = tables.runs.rows ++ [run] := by
  simp only [SchedulerTables.claimScheduledRun, bind_eq_ok, rejectIf_eq_ok,
    Option.not_isSome_iff_eq_none] at claimed
  obtain ⟨-, fresh, -, -, claimed⟩ := claimed
  refine ⟨fresh, ?_⟩
  split at claimed
  all_goals
    cases claimed
    exact Table.rows_put_of_absent fresh

theorem rows_complete (tables : SchedulerTables) (runId : RunId) (status : ScheduledRunStatus)
    (completedAt : IsoTimestamp) (outputJson : Json) (error : Option String) :
    (tables.completeScheduledRun runId status completedAt outputJson error).runs.rows =
      tables.runs.rows.map fun row =>
        if row.runId = runId then endedRun row status completedAt error outputJson else row := by
  rw [SchedulerTables.completeScheduledRun, Table.rows_update]
  · simp only [and_true]
    rfl
  · exact fun _ => rfl

theorem rows_expire_each (stale : List ScheduledRunRecord) (tables : SchedulerTables)
    (now : IsoTimestamp) :
    (stale.foldl (fun tables run => { tables with
        runs := tables.runs.update run.runId (fun run => run.status = .claimed)
          (SchedulerTables.expiredRun now) }) tables).runs.rows =
      tables.runs.rows.map fun row =>
        if row.runId ∈ stale.map ScheduledRunRecord.runId ∧ row.status = .claimed
        then SchedulerTables.expiredRun now row else row := by
  induction stale generalizing tables with
  | nil => simp
  | cons run rest ih =>
    have updated : (tables.runs.update run.runId (fun run => run.status = .claimed)
        (SchedulerTables.expiredRun now)).rows = _ := Table.rows_update fun _ => rfl
    rw [List.foldl_cons, ih, updated, List.map_map]
    apply List.map_congr_left
    intro row _
    simp only [Function.comp_apply, List.map_cons, List.mem_cons, decide_eq_true_eq]
    by_cases same : row.runId = run.runId ∧ row.status = .claimed
    · have ended : ¬((SchedulerTables.expiredRun now row).runId ∈
          rest.map ScheduledRunRecord.runId ∧
            (SchedulerTables.expiredRun now row).status = .claimed) := by
        intro again
        cases again.2
      rw [if_pos same, if_neg ended, if_pos ⟨.inl same.1, same.2⟩]
    · rw [if_neg same]
      by_cases later : row.runId ∈ rest.map ScheduledRunRecord.runId ∧ row.status = .claimed
      · rw [if_pos later, if_pos ⟨.inr later.1, later.2⟩]
      · rw [if_neg later, if_neg]
        intro both
        exact both.1.elim (fun here => same ⟨here, both.2⟩) fun there => later ⟨there, both.2⟩

def staleRuns (tables : SchedulerTables) (now : IsoTimestamp) : List ScheduledRunRecord :=
  tables.runs.select fun run => run.status = .claimed ∧ run.claimDeadlineAt < now

def runOrder (a b : ScheduledRunRecord) : Prop :=
  a.createdAt < b.createdAt ∨ a.createdAt = b.createdAt ∧ a.runId.raw ≤ b.runId.raw

instance : DecidableRel runOrder := fun a b =>
  inferInstanceAs (Decidable
    (a.createdAt < b.createdAt ∨ a.createdAt = b.createdAt ∧ a.runId.raw ≤ b.runId.raw))

/-- An expiry pass sees at most a hundred stale claims. -/
def expiringRuns (tables : SchedulerTables) (now : IsoTimestamp) : List ScheduledRunRecord :=
  page runOrder 100 (staleRuns tables now)

theorem expired_eq (tables now) :
    (tables.expireStaleScheduledRuns now now).1 = expiringRuns tables now := by
  have same : (fun run => (⟨none, some .claimed, none, none, some now, none⟩ :
      ScheduledRunQuery).admits run) = fun run : ScheduledRunRecord =>
          decide (run.status = .claimed ∧ run.claimDeadlineAt < now) := by
    funext run
    simp [ScheduledRunQuery.admits]
  rw [SchedulerTables.expireStaleScheduledRuns, SchedulerTables.queryScheduledRuns, same]
  rfl

theorem mem_expiringRuns (expires : run ∈ expiringRuns tables now) :
    run ∈ tables.runs.rows ∧ run.status = .claimed ∧ run.claimDeadlineAt < now := by
  simpa [staleRuns, Table.mem_select] using mem_of_mem_page expires

theorem rows_expireRuns (tables : SchedulerTables) (now : IsoTimestamp) :
    (tables.expireStaleScheduledRuns now now).2.runs.rows = tables.runs.rows.map fun row =>
        if row ∈ expiringRuns tables now then SchedulerTables.expiredRun now row else row := by
  have expired := expired_eq tables now
  simp only [SchedulerTables.expireStaleScheduledRuns] at expired ⊢
  rw [expired, rows_expire_each]
  apply List.map_congr_left
  intro row isRow
  congr 1
  rw [eq_iff_iff, List.mem_map]
  constructor
  · rintro ⟨⟨run, expires, same⟩, -⟩
    rw [← runs_unique (mem_expiringRuns expires).1 isRow same]
    exact expires
  · intro expires
    exact ⟨⟨row, expires, rfl⟩, (mem_expiringRuns expires).2.1⟩

end

/-! ## Settled runs

What an operation of the scheduler can do to the runs: insert a new one, end the one it names, or
expire claimed ones. -/

def Settled (run : ScheduledRunRecord) : Prop :=
  run.status = .completed ∨ run.status = .failed ∨ run.status = .expired

instance (run : ScheduledRunRecord) : Decidable (Settled run) :=
  inferInstanceAs (Decidable (_ ∨ _ ∨ _))

def CompletesInTime (tables : SchedulerTables) : SchedulerOp → Prop
  | .completeScheduledRun runId .. => ∀ row ∈ tables.runs.rows, row.runId = runId → ¬Settled row
  | _ => True

instance decidableCompletesInTime (tables : SchedulerTables) :
    DecidablePred (CompletesInTime tables) := fun op => by
  cases op with
  | completeScheduledRun runId status completedAt outputJson error =>
    exact inferInstanceAs (Decidable (∀ row ∈ tables.runs.rows, row.runId = runId → ¬Settled row))
  | _ => exact inferInstanceAs (Decidable True)

section
variable {run : ScheduledRunRecord}

theorem inStore_cases {α : Type} (services state)
    (statement : SchedulerTables → CoreResult (α × SchedulerTables)) :
    (∃ failure, SchedulerOp.inStore services state statement = (.error failure, state)) ∨
      ∃ answer tables, statement state.tables = .ok (answer, tables) ∧
        SchedulerOp.inStore services state statement = (.ok answer, { state with tables }) := by
  cases faulty : services.fault with
  | some failure => simp [SchedulerOp.inStore, faulty]
  | none =>
    cases ran : statement state.tables with
    | error failure => simp [SchedulerOp.inStore, faulty, ran]
    | ok outcome =>
      right
      exact ⟨outcome.1, outcome.2, rfl, by simp [SchedulerOp.inStore, faulty, ran]⟩

theorem inStore_tables {α : Type} {statement : SchedulerTables → CoreResult (α × SchedulerTables)}
    {P : SchedulerTables → Prop} (before : P state.tables)
    (kept : ∀ answer tables, statement state.tables = .ok (answer, tables) → P tables) :
    P (SchedulerOp.inStore services state statement).2.tables := by
  rcases inStore_cases services state statement with ⟨failure, failed⟩ | ⟨answer, tables, ran, ok⟩
  · rw [failed]
    exact before
  · rw [ok]
    exact kept answer tables ran

theorem claim_of_statement {tables next : SchedulerTables}
    (ran : (tables.claimScheduledRun run nextDueAt).map (fun next => ((), next)) =
      .ok (answer, next)) : tables.claimScheduledRun run nextDueAt = .ok next := by
  cases claimed : tables.claimScheduledRun run nextDueAt with
  | error failure =>
    rw [claimed] at ran
    cases ran
  | ok claimedTables =>
    rw [claimed] at ran
    cases ran
    rfl

theorem perform_keeps_settled (isRow : run ∈ state.tables.runs.rows)
    (settled : Settled run) (inTime : CompletesInTime state.tables op) :
    run ∈ (SchedulerOp.perform services op state).2.tables.runs.rows := by
  have kept {α : Type} {statement : SchedulerTables → CoreResult (α × SchedulerTables)} :=
    @inStore_tables services state α statement (fun tables => run ∈ tables.runs.rows) isRow
  cases op with
  | claimScheduledRun claimed nextDueAt =>
    apply kept
    intro answer tables ran
    rw [(rows_claim (claim_of_statement ran)).2]
    exact List.mem_append_left _ isRow
  | completeScheduledRun runId status completedAt outputJson error =>
    apply kept
    intro answer tables ran
    cases ran
    rw [rows_complete, List.mem_map]
    exact ⟨run, isRow, if_neg fun same => inTime run isRow same settled⟩
  | expireStaleScheduledRuns staleBefore now =>
    apply kept
    intro answer tables ran
    cases ran
    rw [rows_expire_each, List.mem_map]
    refine ⟨run, isRow, if_neg ?_⟩
    rintro ⟨-, claimed⟩
    rw [Settled, claimed] at settled
    simp at settled
  | now | lockTick | unlockTick | nextScheduledRun | getSession | publish => exact isRow
  | upsertScheduledJob | loadScheduledJob | queryScheduledJobs | queryScheduledRuns
  | pauseScheduledJob | resumeScheduledJob =>
    apply kept
    intro answer tables ran
    cases ran
    exact isRow

end

section
variable {calendar : Calendar}

def InTime (pool : SchedulerPool) (event : SchedulerEvent) : Prop :=
  ∀ performed ∈ pool.performed event, CompletesInTime pool.shared.tables performed.2

instance (pool : SchedulerPool) (event : SchedulerEvent) : Decidable (InTime pool event) :=
  match found : pool.performed event with
  | none => isTrue (by simp [InTime, found])
  | some (services, op) =>
    have := decidableCompletesInTime pool.shared.tables op
    decidable_of_iff (CompletesInTime pool.shared.tables op) (by simp [InTime, found])

def SchedulerPool.empty : SchedulerPool := ⟨SchedulerState.empty, []⟩

def poolAt (calendar : Calendar) (events : List SchedulerEvent) (n : Nat) : SchedulerPool :=
  stateAt (schedulerStep calendar) SchedulerPool.empty events n

def KeepsSettled (pool next : SchedulerPool) : Prop :=
  ∀ run ∈ pool.shared.tables.runs.rows, Settled run → run ∈ next.shared.tables.runs.rows

theorem step_keeps_settled
    (inTime : InTime pool event) : KeepsSettled pool (schedulerStep calendar pool event) := by
  intro run isRow settled
  rcases pool.shared_step (SchedulerCall.program calendar) SchedulerState.reboot event with
    same | rebooted | ⟨services, op, performed, ran⟩
  · rw [schedulerStep, same]
    exact isRow
  · rw [schedulerStep, rebooted]
    exact isRow
  · rw [schedulerStep, ran]
    exact perform_keeps_settled isRow settled (inTime (services, op) performed)

/-- In every run in which completions come in time, a settled run stays as it is. -/
theorem settled_runs_kept {events : List SchedulerEvent}
    (inTime : Along (schedulerStep calendar) InTime SchedulerPool.empty events) {n m : Nat}
    (later : n ≤ m) : KeepsSettled (poolAt calendar events n) (poolAt calendar events m) := by
  refine stateAt_relates (fun pool run isRow _ => isRow) ?_ ?_ later
  · intro a b c first second run isRow settled
    exact second run (first run isRow settled) settled
  · intro k event position
    exact step_keeps_settled (along_at inTime position)

def schedulerServices (now : IsoTimestamp) : SchedulerServices where
  now := now
  getSession sessionId := .ok (activeSession none sessionId)
  publish _ := .ok ()
  fault := none

def sampleCalendar : Calendar where
  parse timestamp :=
    if timestamp = "2026-01-01T10:00:00Z" then .ok (morning 10 0 0 0) else .error "not parsed"
  formatAfter time millis :=
    if time = morning 10 0 0 0 ∧ millis = 30000 then .ok "2026-01-01T10:00:30Z"
    else .error "not formatted"

def callEvents (thread : Nat) (now : IsoTimestamp) (operations : Nat) (call : SchedulerCall) :
    List SchedulerEvent :=
  .start call :: List.replicate operations (.advance thread (schedulerServices now))

def sweepRunId : RunId := ⟨"scheduled:nightly:2026_01_01T10_00_00Z:1"⟩

def sweepClaimed : List SchedulerEvent :=
  callEvents 0 "2026-01-01T10:00:00Z" 2
      (.registerHostJob "nightly" "host.sweep" none "2026-01-01T09:00:00Z" .null) ++
    callEvents 1 "2026-01-01T10:00:00Z" 8 (.claimHostRuns ["host.sweep"] none)

def sweepInTime : List SchedulerEvent :=
  sweepClaimed ++
    callEvents 2 "2026-01-01T10:00:00Z" 2 (.completeHostRun sweepRunId .completed .null none) ++
    callEvents 3 "2026-01-01T11:00:00Z" 5 (.claimHostRuns ["host.sweep"] none)

theorem settled_runs_kept_sample :
    ((poolAt sampleCalendar sweepInTime 15).shared.tables.runs.rows.map fun run =>
        (run.runId, run.status)) = [(sweepRunId, .completed)] ∧
      KeepsSettled (poolAt sampleCalendar sweepInTime 15) (poolAt sampleCalendar sweepInTime 21) :=
  ⟨by decide +kernel, settled_runs_kept (by decide +kernel) (by decide)⟩

def sweepLate : List SchedulerEvent :=
  sweepClaimed ++ callEvents 2 "2026-01-01T11:00:00Z" 5 (.claimHostRuns ["host.sweep"] none) ++
    callEvents 3 "2026-01-01T11:00:00Z" 2 (.completeHostRun sweepRunId .completed .null none)

theorem expired_run_completed :
    ((poolAt sampleCalendar sweepLate 18).shared.tables.runs.rows.map fun run =>
        (run.runId, run.status, run.error)) =
          [(sweepRunId, .expired, some "claim deadline elapsed")] ∧
      ((poolAt sampleCalendar sweepLate 21).shared.tables.runs.rows.map fun run =>
        (run.runId, run.status, run.error)) = [(sweepRunId, .completed, none)] := by
  decide +kernel

end

end RustyCrew.Proof.Engine

import RustyCrew.Proof.Engine.Scheduler

namespace RustyCrew.Proof.Engine

open Library RustyCrew.Library.Program Protocol RustyCrew.Persistence Effect SchedulerTables
open RustyCrew.Engine RustyCrew.Engine.SchedulerM

/-! ## What a round of the tick claims -/

def ClaimedBy (job : ScheduledJobRecord) (run : ScheduledRunRecord) : Prop :=
  run.jobId = job.jobId ∧ run.trigger = .due ∧ run.scheduledFor = job.nextDueAt

def Claims (rows : List ScheduledRunRecord) (jobs : List ScheduledJobRecord)
    (tables : SchedulerTables) : Prop :=
  ∃ claims, tables.runs.rows = rows ++ claims ∧ List.Forall₂ ClaimedBy jobs claims

def ClaimsLast (rows : List ScheduledRunRecord) (jobs : List ScheduledJobRecord)
    (job : ScheduledJobRecord) (runId : RunId) (tables : SchedulerTables) : Prop :=
  ∃ claims last, tables.runs.rows = rows ++ claims ++ [last] ∧
    List.Forall₂ ClaimedBy jobs claims ∧ ClaimedBy job last ∧ last.runId = runId

section
variable {jobs : List ScheduledJobRecord}

theorem ClaimsLast.claims (last : ClaimsLast rows jobs job runId tables) :
    Claims rows (jobs ++ [job]) tables := by
  obtain ⟨claims, run, extended, earlier, claimed, -⟩ := last
  refine ⟨claims ++ [run], by rw [extended, List.append_assoc], ?_⟩
  exact List.rel_append earlier (.cons claimed .nil)

theorem map_last {α κ : Type} [DecidableEq κ] {key : α → κ} {front : List α} {last : α}
    (unique : ((front ++ [last]).map key).Nodup) (edit : α → α) :
    ((front ++ [last]).map fun row => if key row = key last then edit row else row) =
      front ++ [edit last] := by
  rw [List.map_append, List.nodup_append] at unique
  have others : (front.map fun row => if key row = key last then edit row else row) = front := by
    conv_rhs => rw [← List.map_id front]
    apply List.map_congr_left
    intro row member
    have different := unique.2.2 (key row) (List.mem_map_of_mem member) (key last) (by simp)
    rw [if_neg different, id]
  rw [List.map_append, others]
  simp

theorem ClaimsLast.complete (last : ClaimsLast rows jobs job runId tables)
    (status completedAt outputJson) (error : Option String) : ClaimsLast rows jobs job runId
      (tables.completeScheduledRun runId status completedAt outputJson error) := by
  obtain ⟨claims, run, extended, earlier, claimed, rfl⟩ := last
  have unique := tables.runs.unique
  rw [extended] at unique
  refine ⟨claims, endedRun run status completedAt error outputJson, ?_, earlier, claimed, rfl⟩
  rw [rows_complete, extended]
  exact map_last unique _

theorem Claims.claim {run : ScheduledRunRecord} {nextDueAt : Option IsoTimestamp}
    {next : SchedulerTables} (claims : Claims rows jobs tables) (ofJob : ClaimedBy job run)
    (claimed : tables.claimScheduledRun run nextDueAt = .ok next) :
    ClaimsLast rows jobs job run.runId next := by
  obtain ⟨earlier, extended, each⟩ := claims
  refine ⟨earlier, run, ?_, each, ofJob, rfl⟩
  rw [(rows_claim claimed).2, extended]

end

/-! ## The rounds as programs -/

def KeepsTables {α : Type} (P : SchedulerTables → Prop) (x : SchedulerM α) : Prop :=
  Ensures (fun s => P s.tables) x (fun _ s => P s.tables) (fun s => P s.tables)

section
variable {P : SchedulerTables → Prop}

theorem ensures_frame (op : SchedulerOp)
    (frame : ∀ services state, (op.perform services state).2.tables = state.tables) :
    KeepsTables P (SchedulerM.request op) := by
  apply ensures_request
  · intro services state answer _ holds
    exact (frame services state).symm ▸ holds
  · intro services state failure _ holds
    exact (frame services state).symm ▸ holds

theorem ensures_statement (op : SchedulerOp)
    {statement : SchedulerTables → CoreResult (op.Answer × SchedulerTables)}
    {Q : op.Answer → SchedulerTables → Prop}
    (performs : ∀ services state,
      op.perform services state = SchedulerOp.inStore services state statement)
    (post : ∀ tables answer next, statement tables = .ok (answer, next) → P tables →
      Q answer next) :
    Ensures (fun s => P s.tables) (request op) (fun answer s => Q answer s.tables)
      (fun s => P s.tables) := by
  apply ensures_request
  · intro services state answer ok holds
    have ran : (SchedulerOp.inStore services state statement).1 = .ok answer :=
      (performs services state) ▸ ok
    show Q answer (op.perform services state).2.tables
    rw [performs]
    rcases inStore_cases services state statement with
      ⟨failure, failed⟩ | ⟨given, tables, commits, done⟩
    · rw [failed] at ran
      cases ran
    · rw [done] at ran ⊢
      cases ran
      exact post _ _ _ commits holds
  · intro services state failure error holds
    have ran : (SchedulerOp.inStore services state statement).1 = .error failure :=
      (performs services state) ▸ error
    show P (op.perform services state).2.tables
    rw [performs]
    rcases inStore_cases services state statement with ⟨_, failed⟩ | ⟨given, tables, commits, done⟩
    · rw [failed]
      exact holds
    · rw [done] at ran
      cases ran

theorem ensures_claimSchedulerRun {run : ScheduledRunRecord} {nextDueAt : Option IsoTimestamp}
    {Q : SchedulerTables → Prop}
    (post : ∀ tables next, tables.claimScheduledRun run nextDueAt = .ok next → P tables → Q next) :
    Ensures (fun s => P s.tables) (claimSchedulerRun run nextDueAt) (fun _ s => Q s.tables)
      (fun s => P s.tables) := by
  have performs : ∀ services state, (SchedulerOp.claimScheduledRun run nextDueAt).perform services
      state = SchedulerOp.inStore services state fun tables =>
        (tables.claimScheduledRun run nextDueAt).map fun next => ((), next) := fun _ _ => rfl
  apply ensures_statement _ performs
  exact fun tables _ next committed => post tables next (claim_of_statement committed)

theorem ensures_completeSchedulerRun (kept : ∀ tables, P tables →
      P (tables.completeScheduledRun runId status completedAt outputJson error)) :
    KeepsTables P (completeSchedulerRun runId status completedAt outputJson error) := by
  have performs : ∀ services state, (SchedulerOp.completeScheduledRun runId status completedAt
      outputJson error).perform services state = SchedulerOp.inStore services state fun tables =>
        .ok ((), tables.completeScheduledRun runId status completedAt outputJson error) :=
    fun _ _ => rfl
  apply ensures_statement _ performs
  intro tables answer next committed holds
  cases committed
  exact kept tables holds

end

section
variable {calendar : Calendar} {jobs : List ScheduledJobRecord} {run : ScheduledRunRecord}

theorem ensures_claim :
    Ensures (fun s => Claims rows jobs s.tables)
      (claimScheduledRun calendar job .due job.nextDueAt)
      (fun run s => ClaimsLast rows jobs job run.runId s.tables)
      (fun s => Claims rows jobs s.tables) := by
  apply ensures_bind (ensures_frame .now fun _ _ => rfl)
  intro now
  apply ensures_bind (Q := fun _ s => Claims rows jobs s.tables)
  · exact ensures_done (fun _ _ _ => id) fun _ => id
  intro claimDeadlineAt
  apply ensures_bind (ensures_frame .nextScheduledRun fun _ _ => rfl)
  intro sequence
  apply ensures_bind (Q := fun _ s => Claims rows jobs s.tables)
  · exact ensures_done (fun _ _ _ => id) fun _ => id
  intro nextDueAt
  apply ensures_bind
  · apply ensures_claimSchedulerRun
    intro tables next claimed claims
    exact claims.claim ⟨rfl, rfl, rfl⟩ claimed
  intro _
  exact ensures_pure fun _ => id

theorem ensures_endRun {status : ScheduledRunStatus} {now : IsoTimestamp} {error : Option String}
    {outputJson : Json} :
    KeepsTables (ClaimsLast rows jobs job run.runId) (endRun run status now error outputJson) := by
  apply ensures_bind
  · apply ensures_completeSchedulerRun
    intro tables last
    exact last.complete status now outputJson error
  intro _
  exact ensures_pure fun _ => id

theorem ensures_finishWake (session) :
    KeepsTables (ClaimsLast rows jobs job run.runId) (finishWake run session) := by
  apply ensures_bind (ensures_frame .now fun _ _ => rfl)
  intro now
  split
  · exact ensures_endRun
  · apply ensures_bind (ensures_frame (.publish _) fun _ _ => rfl)
    intro _
    exact ensures_endRun

theorem ensures_finish :
    KeepsTables (ClaimsLast rows jobs job run.runId) (finishSchedulerRun run) := by
  unfold finishSchedulerRun
  split
  · apply ensures_bind (ensures_frame .now fun _ _ => rfl)
    intro now
    exact ensures_endRun
  split
  · apply ensures_bind (ensures_frame .now fun _ _ => rfl)
    intro now
    exact ensures_endRun
  · next sessionId _ =>
    apply ensures_bind (ensures_attempt (ensures_frame (.getSession sessionId) fun _ _ => rfl))
    intro found
    split
    · exact ensures_finishWake _
    split
    · apply ensures_bind (ensures_frame .now fun _ _ => rfl)
      intro now
      exact ensures_endRun
    · exact ensures_done (fun _ _ _ => id) fun _ => id

theorem ensures_tickRound (jobs) (report job) :
    Ensures (fun s => Claims rows jobs s.tables) (tickRound calendar report job)
      (fun _ s => Claims rows (jobs ++ [job]) s.tables)
      (fun s => Claims rows jobs s.tables ∨ Claims rows (jobs ++ [job]) s.tables) := by
  apply ensures_bind
  · exact ensures_weaken ensures_claim (fun _ => id) (fun _ _ => id)
      fun _ failed => .inl failed
  intro run
  apply ensures_bind
  · exact ensures_weaken ensures_finish (fun _ => id) (fun _ _ => id)
      fun _ failed => .inr failed.claims
  intro finished
  exact ensures_pure fun _ last => last.claims

end

/-! ## The tick -/

def jobOrder (a b : ScheduledJobRecord) : Prop :=
  a.sortTime < b.sortTime ∨ a.sortTime = b.sortTime ∧ a.jobId ≤ b.jobId

instance : DecidableRel jobOrder := fun a b =>
  inferInstanceAs (Decidable
    (a.sortTime < b.sortTime ∨ a.sortTime = b.sortTime ∧ a.jobId ≤ b.jobId))

def dueJobs (tables : SchedulerTables) (now : IsoTimestamp) : List ScheduledJobRecord :=
  tables.jobs.select fun job =>
    job.status = .active ∧ job.jobKind = scheduledWakeJobKind ∧
      job.nextDueAt.any (fun due => due ≤ now) = true

theorem queried_eq (tables now) :
    tables.queryScheduledJobs (dueWakeJobs now) = page jobOrder 100 (dueJobs tables now) := by
  have same : (fun job => (dueWakeJobs now).admits job) =
      fun job : ScheduledJobRecord => decide (job.status = .active ∧
        job.jobKind = scheduledWakeJobKind ∧
          job.nextDueAt.any (fun due => due ≤ now) = true) := by
    funext job
    simp [ScheduledJobQuery.admits, dueWakeJobs, Bool.and_assoc]
  rw [queryScheduledJobs, same]
  rfl

theorem dueJobs_expire (tables now) :
    dueJobs (tables.expireStaleScheduledRuns now now).2 now = dueJobs tables now := by
  have kept (stale : List ScheduledRunRecord) (tables : SchedulerTables) :
      (stale.foldl (fun tables run => { tables with
        runs := tables.runs.update run.runId (fun run => run.status = .claimed)
          (expiredRun now) }) tables).jobs = tables.jobs := by
    induction stale generalizing tables with
    | nil => rfl
    | cons run rest ih => exact ih _
  simp only [dueJobs, expireStaleScheduledRuns, kept]

abbrev AttendedScheduler := Attended SchedulerState SchedulerServices

variable (attended : AttendedScheduler)

def locked : AttendedScheduler :=
  attended.after { attended.state with tickLocked := true }

def tickTime : IsoTimestamp := (attended.answers 1).now

theorem run_statement {α : Type} (p : SchedulerM α) {f : SchedulerTables → α × SchedulerTables}
    {attended : AttendedScheduler}
    (ran : p.run attended =
      let outcome := SchedulerOp.inStore (attended.answers 0) attended.state (.ok ∘ f)
      (outcome.1, attended.after outcome.2)) :
    (∃ failure, (attended.answers 0).fault = some failure ∧
        p.run attended = (.error failure, attended.after attended.state)) ∨
      p.run attended = (.ok (f attended.state.tables).1,
        attended.after { attended.state with tables := (f attended.state.tables).2 }) := by
  rw [ran]
  cases faulty : (attended.answers 0).fault with
  | some failure =>
    left
    exact ⟨failure, rfl, by simp only [SchedulerOp.inStore, faulty]⟩
  | none =>
    right
    simp only [SchedulerOp.inStore, faulty, Function.comp_apply]

def OpeningFault : Prop :=
  (attended.answers 2).fault ≠ none ∨ (attended.answers 3).fault ≠ none

theorem openTick_cases : (OpeningFault attended ∧
        ∃ failure opened, openTick.run (locked attended) = (.error failure, opened)) ∨
      ∃ report opened, openTick.run (locked attended) =
          (.ok (report, page jobOrder 100 (dueJobs attended.state.tables (tickTime attended))),
            opened) ∧
        opened.state.tables =
          (attended.state.tables.expireStaleScheduledRuns (tickTime attended)
            (tickTime attended)).2 := by
  have clock : now.run (locked attended) =
      (.ok (tickTime attended), (locked attended).after (locked attended).state) := rfl
  rw [openTick, run_bind, bind_ok clock, run_bind]
  rcases run_statement (expireStaleSchedulerRuns (tickTime attended) (tickTime attended))
      (f := (·.expireStaleScheduledRuns (tickTime attended) (tickTime attended))) rfl with
    ⟨failure, faulty, failed⟩ | expired
  · left
    exact ⟨.inl (ne_of_eq_of_ne faulty (Option.some_ne_none failure)), failure, _,
      bind_error failed⟩
  rw [bind_ok expired, run_bind]
  rcases run_statement (querySchedulerJobs (dueWakeJobs (tickTime attended)))
      (f := fun tables => (tables.queryScheduledJobs (dueWakeJobs (tickTime attended)), tables))
      rfl with
    ⟨failure, faulty, failed⟩ | found
  · left
    exact ⟨.inr (ne_of_eq_of_ne faulty (Option.some_ne_none failure)), failure, _,
      bind_error failed⟩
  · right
    simp only [Attended.state_after] at found
    rw [queried_eq, dueJobs_expire] at found
    exact ⟨_, _, bind_ok found, rfl⟩

def tickFailure (calendar : Calendar) (attended : AttendedScheduler) :
    Option ScheduledJobRecord :=
  match openTick.run (locked attended) with
  | (.ok (report, jobs), opened) => stoppedAt (tickRound calendar) report jobs opened
  | (.error _, _) => none

def tickResult (calendar : Calendar) (attended : AttendedScheduler) :
    CoreResult SchedulerTickReport :=
  ((runSchedulerTick calendar).run attended).1

def afterTick (calendar : Calendar) (attended : AttendedScheduler) : SchedulerTables :=
  ((runSchedulerTick calendar).run attended).2.state.tables

section
variable {calendar : Calendar} {attended : AttendedScheduler}

def tickBody (calendar : Calendar) : SchedulerM SchedulerTickReport := do
  let opening ← openTick
  opening.2.foldlM (tickRound calendar) opening.1

theorem tickResult_eq : tickResult calendar attended =
    ((tickBody calendar).run (locked attended)).1 := by
  have body : (runSchedulerTick calendar).run attended =
      ((tickBody calendar).closing SchedulerOp.unlockTick).run (locked attended) := rfl
  rw [tickResult, body, run_closing]

theorem afterTick_eq : afterTick calendar attended =
    ((tickBody calendar).run (locked attended)).2.state.tables := by
  have body : (runSchedulerTick calendar).run attended =
      ((tickBody calendar).closing SchedulerOp.unlockTick).run (locked attended) := rfl
  rw [afterTick, body, run_closing]
  rfl

def expiredRows (attended : AttendedScheduler) : List ScheduledRunRecord :=
  (attended.state.tables.expireStaleScheduledRuns (tickTime attended)
    (tickTime attended)).2.runs.rows

def dueAtTick (attended : AttendedScheduler) : List ScheduledJobRecord :=
  dueJobs attended.state.tables (tickTime attended)

theorem tick_cases (calendar attended) :
    (∃ failure, OpeningFault attended ∧ tickResult calendar attended = .error failure ∧
        tickFailure calendar attended = none) ∨
      (∃ report, tickResult calendar attended = .ok report ∧
        tickFailure calendar attended = none ∧
        Claims (expiredRows attended) (page jobOrder 100 (dueAtTick attended))
          (afterTick calendar attended)) ∨
      ∃ failure failed front back, tickResult calendar attended = .error failure ∧
        tickFailure calendar attended = some failed ∧
        page jobOrder 100 (dueAtTick attended) = front ++ failed :: back ∧
        (Claims (expiredRows attended) front (afterTick calendar attended) ∨
          Claims (expiredRows attended) (front ++ [failed]) (afterTick calendar attended)) := by
  rw [tickResult_eq, afterTick_eq, tickFailure, tickBody, run_bind]
  rcases openTick_cases attended with
    ⟨faulty, failure, opened, failed⟩ | ⟨report, opened, ok, tables⟩
  · left
    rw [bind_error failed, failed]
    exact ⟨failure, faulty, rfl, rfl⟩
  right
  have start : Claims (expiredRows attended) [] opened.state.tables :=
    ⟨[], by rw [tables, List.append_nil, expiredRows], .nil⟩
  rw [bind_ok ok, ok]
  rcases loop_reaches (fun before => @ensures_tickRound calendar (expiredRows attended) before)
      (page jobOrder 100 (dueAtTick attended)) [] report opened start with
    ⟨last, ran, unstopped, claims⟩ | ⟨failure, failed, front, back, ran, stopped, split, claims⟩
  · left
    exact ⟨last, congrArg Prod.fst ran, unstopped, claims⟩
  · right
    exact ⟨failure, failed, front, back, congrArg Prod.fst ran, stopped, split, claims⟩

end

/-! ## Which jobs are claimed and which claims expire -/

def ClaimedIn (before after : SchedulerTables) (job : ScheduledJobRecord) : Prop :=
  ∃ run ∈ after.runs.rows, before.runs.find? run.runId = none ∧ ClaimedBy job run

section
variable {attended : AttendedScheduler} {jobs : List ScheduledJobRecord} {run : ScheduledRunRecord}

theorem exists_related {α β : Type} {R : α → β → Prop} {xs : List α} {ys : List β} {x : α}
    (each : List.Forall₂ R xs ys) (member : x ∈ xs) : ∃ y ∈ ys, R x y := by
  induction each with
  | nil => cases member
  | @cons _ first _ _ related _ ih =>
    rcases List.mem_cons.mp member with rfl | later
    · exact ⟨first, List.mem_cons_self, related⟩
    · obtain ⟨y, isLater, related⟩ := ih later
      exact ⟨y, List.mem_cons_of_mem _ isLater, related⟩

theorem ids_expiredRows (attended) : (expiredRows attended).map ScheduledRunRecord.runId =
      attended.state.tables.runs.rows.map ScheduledRunRecord.runId := by
  rw [expiredRows, rows_expireRuns, List.map_map]
  apply List.map_congr_left
  intro row _
  simp only [Function.comp_apply]
  split <;> rfl

theorem find?_eq_none_iff_expired :
    attended.state.tables.runs.find? runId = none ↔
      runId ∉ (expiredRows attended).map ScheduledRunRecord.runId := by
  rw [Table.find?_eq_none, ids_expiredRows]
  simp

theorem claimedIn_iff (reached : Claims (expiredRows attended) jobs after)
    (areJobs : ∀ other ∈ jobs, other ∈ attended.state.tables.jobs.rows)
    (isJob : job ∈ attended.state.tables.jobs.rows) :
    ClaimedIn attended.state.tables after job ↔ job ∈ jobs := by
  obtain ⟨claims, extended, each⟩ := reached
  constructor
  · intro claimed
    obtain ⟨run, isRow, fresh, ofJob⟩ := claimed
    rw [find?_eq_none_iff_expired] at fresh
    rw [extended, List.mem_append] at isRow
    rcases isRow with old | isClaim
    · exact (fresh (List.mem_map_of_mem old)).elim
    · obtain ⟨other, isOther, ofOther⟩ := exists_related each.flip isClaim
      have same : other.jobId = job.jobId := ofOther.1.symm.trans ofJob.1
      rw [← List.inj_on_of_nodup_map attended.state.tables.jobs.unique (areJobs other isOther)
        isJob same]
      exact isOther
  · intro member
    obtain ⟨run, isClaim, ofJob⟩ := exists_related each member
    have unique := after.runs.unique
    rw [extended, List.map_append, List.nodup_append] at unique
    refine ⟨run, by rw [extended]; exact List.mem_append_right _ isClaim, ?_, ofJob⟩
    rw [find?_eq_none_iff_expired]
    intro old
    exact unique.2.2 _ old _ (List.mem_map_of_mem isClaim) rfl

theorem expiredAfter_iff (reached : Claims (expiredRows attended) jobs after)
    (isStale : run ∈ staleRuns attended.state.tables (tickTime attended)) :
    expiredRun (tickTime attended) run ∈ after.runs.rows ↔
      run ∈ expiringRuns attended.state.tables (tickTime attended) := by
  obtain ⟨claims, extended, -⟩ := reached
  obtain ⟨isRow, stale⟩ := Table.mem_select.mp isStale
  have inRows (row : ScheduledRunRecord) (expired : row ∈ expiredRows attended) :
      row ∈ after.runs.rows := by
    rw [extended]
    exact List.mem_append_left _ expired
  have edited : (if run ∈ expiringRuns attended.state.tables (tickTime attended)
      then expiredRun (tickTime attended) run else run) ∈ after.runs.rows := by
    apply inRows
    rw [expiredRows, rows_expireRuns]
    exact List.mem_map_of_mem isRow
  constructor
  · intro expired
    by_contra unseen
    rw [if_neg unseen] at edited
    have same := congrArg ScheduledRunRecord.status (runs_unique edited expired rfl)
    rw [(of_decide_eq_true stale).1] at same
    cases same
  · intro seen
    rw [if_pos seen] at edited
    exact edited

end

/-! ## Complete ticks -/

section
variable {calendar : Calendar} {attended : AttendedScheduler}

/-- A tick that succeeds claims the jobs that are due and expires the claims that are stale; one
that fails at a job claims the other due jobs. -/
@[mk_iff] structure TickComplete (calendar : Calendar) (attended : AttendedScheduler) : Prop where
  claims : ∀ report, tickResult calendar attended = .ok report → ∀ job ∈ dueAtTick attended,
    ClaimedIn attended.state.tables (afterTick calendar attended) job
  expires : ∀ report, tickResult calendar attended = .ok report →
    ∀ run ∈ staleRuns attended.state.tables (tickTime attended),
      { run with
        status := .expired, completedAt := some (tickTime attended)
        updatedAt := tickTime attended, error := some "claim deadline elapsed" } ∈
          (afterTick calendar attended).runs.rows
  goesOn : ∀ failed, tickFailure calendar attended = some failed → ∀ job ∈ dueAtTick attended,
    job ≠ failed → ClaimedIn attended.state.tables (afterTick calendar attended) job

theorem due_isJob {job : ScheduledJobRecord} (due : job ∈ dueAtTick attended) :
    job ∈ attended.state.tables.jobs.rows :=
  (Table.mem_select.mp due).1

theorem dueAtTick_nodup (attended) : (dueAtTick attended).Nodup :=
  (List.Nodup.of_map _ attended.state.tables.jobs.unique).filter _

theorem staleRuns_nodup (tables now) : (staleRuns tables now).Nodup :=
  (List.Nodup.of_map _ tables.runs.unique).filter _

theorem getLast?_eq_iff {α : Type} {front back : List α} {item : α}
    (unique : (front ++ item :: back).Nodup) :
    (front ++ item :: back).getLast? = some item ↔
      ∀ other ∈ front ++ item :: back, other ≠ item → other ∈ front := by
  rcases List.eq_nil_or_concat back with rfl | ⟨init, last, rfl⟩
  · constructor
    · intro _ other member different
      simpa [different] using member
    · intro _
      simp
  · have lastAgain : front ++ item :: init.concat last = (front ++ item :: init) ++ [last] := by
      simp
    rw [lastAgain] at unique ⊢
    rw [List.nodup_append] at unique
    have isNew : last ∉ front ++ item :: init := fun old => unique.2.2 last old last (by simp) rfl
    have other : last ≠ item := fun same => isNew (by simp [same])
    rw [List.getLast?_append_of_ne_nil _ (by simp)]
    simp only [List.getLast?_singleton, Option.some.injEq, other, false_iff]
    intro all
    exact isNew (List.mem_append_left _ (all last (by simp) other))

theorem claims_all_iff
    (reached : Claims (expiredRows attended) (page jobOrder 100 (dueAtTick attended))
      (afterTick calendar attended)) :
    (∀ job ∈ dueAtTick attended,
        ClaimedIn attended.state.tables (afterTick calendar attended) job) ↔
      (dueAtTick attended).length ≤ 100 := by
  rw [← page_complete_iff (r := jobOrder) (dueAtTick_nodup attended)]
  have areJobs : ∀ job ∈ page jobOrder 100 (dueAtTick attended),
      job ∈ attended.state.tables.jobs.rows := fun job paged => due_isJob (mem_of_mem_page paged)
  apply forall₂_congr
  intro job due
  exact claimedIn_iff reached areJobs (due_isJob due)

theorem expires_all_iff {jobs : List ScheduledJobRecord}
    (reached : Claims (expiredRows attended) jobs (afterTick calendar attended)) :
    (∀ run ∈ staleRuns attended.state.tables (tickTime attended),
        expiredRun (tickTime attended) run ∈
          (afterTick calendar attended).runs.rows) ↔
      (staleRuns attended.state.tables (tickTime attended)).length ≤ 100 := by
  rw [← page_complete_iff (r := runOrder) (staleRuns_nodup _ _)]
  apply forall₂_congr
  intro run stale
  exact expiredAfter_iff reached stale

theorem goesOn_iff {failed : ScheduledJobRecord} {front back : List ScheduledJobRecord}
    (split : page jobOrder 100 (dueAtTick attended) = front ++ failed :: back)
    (reached : Claims (expiredRows attended) front (afterTick calendar attended) ∨
      Claims (expiredRows attended) (front ++ [failed]) (afterTick calendar attended)) :
    (∀ job ∈ dueAtTick attended, job ≠ failed →
        ClaimedIn attended.state.tables (afterTick calendar attended) job) ↔
      ((dueAtTick attended).insertionSort jobOrder).getLast? = some failed := by
  have perm := List.perm_insertionSort jobOrder (dueAtTick attended)
  have whole : (dueAtTick attended).insertionSort jobOrder =
      front ++ failed :: (back ++ ((dueAtTick attended).insertionSort jobOrder).drop 100) := by
    conv_lhs => rw [← List.take_append_drop 100 ((dueAtTick attended).insertionSort jobOrder)]
    rw [page] at split
    rw [split, List.append_assoc, List.cons_append]
  have areJobs : ∀ job ∈ front ++ [failed], job ∈ attended.state.tables.jobs.rows := by
    intro job member
    have paged : job ∈ page jobOrder 100 (dueAtTick attended) := by
      rw [split, List.append_cons]
      exact List.mem_append_left _ member
    exact due_isJob (mem_of_mem_page paged)
  have claimed (job : ScheduledJobRecord) (due : job ∈ dueAtTick attended) (other : job ≠ failed) :
      ClaimedIn attended.state.tables (afterTick calendar attended) job ↔ job ∈ front := by
    rcases reached with before | through
    · exact claimedIn_iff before (fun job member => areJobs job (List.mem_append_left _ member))
        (due_isJob due)
    · rw [claimedIn_iff through areJobs (due_isJob due)]
      simp [other]
  have unique := perm.nodup_iff.mpr (dueAtTick_nodup attended)
  rw [whole] at unique perm ⊢
  rw [getLast?_eq_iff unique]
  constructor
  · intro all job member other
    have due := perm.mem_iff.mp member
    exact (claimed job due other).mp (all job due other)
  · intro all job due other
    exact (claimed job due other).mpr (all job (perm.mem_iff.mpr due) other)

/-- A tick that no other call disturbs is complete exactly when it finds at most a hundred due jobs
and a hundred stale claims if it succeeds, and fails at no job but the last of the due ones. -/
theorem tick_complete_iff (calendar : Calendar) (attended : AttendedScheduler) :
    TickComplete calendar attended ↔
      (∀ report, tickResult calendar attended = .ok report →
        (dueAtTick attended).length ≤ 100 ∧
          (staleRuns attended.state.tables (tickTime attended)).length ≤ 100) ∧
      ∀ failed, tickFailure calendar attended = some failed →
        ((dueAtTick attended).insertionSort jobOrder).getLast? = some failed := by
  rw [tickComplete_iff]
  rcases tick_cases calendar attended with
    ⟨failure, -, error, unstopped⟩ | ⟨report, ok, unstopped, reached⟩ |
    ⟨failure, failed, front, back, error, stopped, split, reached⟩
  · simp [error, unstopped]
  · have expires := expires_all_iff reached
    simp only [expiredRun] at expires
    simp [ok, unstopped, claims_all_iff reached, expires]
  · simp only [error, stopped, reduceCtorEq, Option.some.injEq, forall_eq', false_implies,
      implies_true, true_and]
    exact goesOn_iff split reached

def wakeJob (jobId : String) (intervalMs : Option Nat) : ScheduledJobRecord where
  jobId := jobId
  jobKind := scheduledWakeJobKind
  targetSessionId := some ⟨"session"⟩
  intervalMs := intervalMs
  nextDueAt := some "2026-01-01T09:00:00Z"
  payloadJson := .object []
  status := .active
  createdAt := "2026-01-01T08:00:00Z"
  updatedAt := "2026-01-01T08:00:00Z"
  pausedAt := none

def staleRun (runId : String) : ScheduledRunRecord :=
  ⟨⟨runId⟩, "nightly", "host.sweep", none, .claimed, .due, some "2026-01-01T08:00:00Z",
    "2026-01-01T08:00:00Z", "2026-01-01T08:00:30Z", none, none, .object [],
    "2026-01-01T08:00:00Z", "2026-01-01T08:00:00Z"⟩

def tickAtTen (tables : SchedulerTables) : AttendedScheduler :=
  ⟨⟨tables, 1, false⟩, fun _ => schedulerServices "2026-01-01T10:00:00Z"⟩

def twoJobs : SchedulerTables :=
  ⟨(Table.empty.put (wakeJob "a" none)).put (wakeJob "b" none), Table.empty.put (staleRun "r")⟩

theorem tick_complete_sample :
    tickResult sampleCalendar (tickAtTen twoJobs) = .ok ⟨1, 2, 2, 2, 0, 0⟩ ∧
      TickComplete sampleCalendar (tickAtTen twoJobs) := by
  have unstopped : tickFailure sampleCalendar (tickAtTen twoJobs) = none := by decide +kernel
  refine ⟨by decide +kernel, (tick_complete_iff _ _).mpr ⟨fun _ _ => by decide +kernel, ?_⟩⟩
  intro failed stopped
  rw [unstopped] at stopped
  cases stopped

theorem crowded_tick_incomplete (noFault : ¬OpeningFault attended)
    (crowded : 100 < (dueAtTick attended).length) : ¬TickComplete calendar attended := by
  intro complete
  rcases tick_cases calendar attended with
    ⟨failure, faulty, -⟩ | ⟨report, ok, -, reached⟩ |
    ⟨failure, failed, front, back, -, stopped, split, reached⟩
  · exact noFault faulty
  · have short := (claims_all_iff reached).mp (complete.claims report ok)
    omega
  · -- The last due job is not on the page, so the tick did not fail at it.
    have isLast := (goesOn_iff split reached).mp (complete.goesOn failed stopped)
    have unique : ((dueAtTick attended).insertionSort jobOrder).Nodup :=
      (List.perm_insertionSort _ _).nodup_iff.mpr (dueAtTick_nodup attended)
    rw [← List.take_append_drop 100 ((dueAtTick attended).insertionSort jobOrder)] at isLast unique
    rw [page] at split
    have paged : failed ∈ ((dueAtTick attended).insertionSort jobOrder).take 100 := by
      rw [split]
      simp
    have later : failed ∈ ((dueAtTick attended).insertionSort jobOrder).drop 100 := by
      rw [List.getLast?_append_of_ne_nil] at isLast
      · exact List.mem_of_getLast? isLast
      · intro empty
        rw [List.drop_eq_nil_iff, List.length_insertionSort] at empty
        omega
    exact (List.nodup_append.mp unique).2.2 failed paged failed later rfl

def blockedJobs : SchedulerTables :=
  ⟨(Table.empty.put (wakeJob "a" (some (2 ^ 63)))).put (wakeJob "b" none), Table.empty⟩

def manyJobs : SchedulerTables where
  jobs :=
    { rows := (List.range 101).map fun i => wakeJob (toString i) none
      unique := by
        rw [List.map_map]
        exact List.nodup_range.map fun _ _ same => Text.toString_injective same }
  runs := Table.empty

def manyClaims : SchedulerTables where
  jobs := Table.empty
  runs :=
    { rows := (List.range 101).map fun i => staleRun (toString i)
      unique := by
        rw [List.map_map]
        refine List.nodup_range.map fun _ _ same => Text.toString_injective ?_
        exact congrArg RunId.raw same }

theorem tick_incomplete :
    (tickFailure sampleCalendar (tickAtTen blockedJobs) = some (wakeJob "a" (some (2 ^ 63))) ∧
        wakeJob "b" none ∈ dueAtTick (tickAtTen blockedJobs) ∧
        (afterTick sampleCalendar (tickAtTen blockedJobs)).runs.rows = []) ∧
      ¬TickComplete sampleCalendar (tickAtTen manyJobs) ∧
      ¬TickComplete sampleCalendar (tickAtTen manyClaims) := by
  refine ⟨by decide +kernel, ?_, ?_⟩
  · apply crowded_tick_incomplete
    · simp [OpeningFault, tickAtTen, schedulerServices]
    · have all : dueAtTick (tickAtTen manyJobs) = manyJobs.jobs.rows := by
        apply List.filter_eq_self.mpr
        intro job isJob
        obtain ⟨i, -, rfl⟩ := List.mem_map.mp isJob
        have due : ("2026-01-01T09:00:00Z" : IsoTimestamp) ≤ "2026-01-01T10:00:00Z" := by
          decide +kernel
        exact decide_eq_true ⟨rfl, rfl, decide_eq_true due⟩
      rw [all, manyJobs, List.length_map, List.length_range]
      decide
  · intro complete
    rcases tick_cases sampleCalendar (tickAtTen manyClaims) with
      ⟨failure, faulty, -⟩ | ⟨report, ok, -, reached⟩ |
      ⟨failure, failed, front, back, -, -, split, -⟩
    · simp [OpeningFault, tickAtTen, schedulerServices] at faulty
    · have short := (expires_all_iff reached).mp (complete.expires report ok)
      have all : staleRuns manyClaims "2026-01-01T10:00:00Z" = manyClaims.runs.rows := by
        apply List.filter_eq_self.mpr
        intro run isRun
        obtain ⟨i, -, rfl⟩ := List.mem_map.mp isRun
        have stale : ("2026-01-01T08:00:30Z" : IsoTimestamp) < "2026-01-01T10:00:00Z" := by
          decide +kernel
        exact decide_eq_true ⟨rfl, stale⟩
      have length : (staleRuns manyClaims "2026-01-01T10:00:00Z").length = 101 := by
        rw [all, manyClaims, List.length_map, List.length_range]
      have short : (staleRuns manyClaims "2026-01-01T10:00:00Z").length ≤ 100 := short
      omega
    · have none : page jobOrder 100 (dueAtTick (tickAtTen manyClaims)) = [] := rfl
      rw [none] at split
      simp at split

end

end RustyCrew.Proof.Engine

import RustyCrew.Proof.Engine.SchedulerDiscipline

namespace RustyCrew.Proof.Engine

open Library RustyCrew.Library.Program Protocol RustyCrew.Persistence Table List
open RustyCrew.Engine

variable {nextDueAt : Option IsoTimestamp}

/-! ## Due occurrences -/

def dueOccurrence (run : ScheduledRunRecord) : Option (String × IsoTimestamp) :=
  if run.trigger = .due then run.scheduledFor.map fun due => (run.jobId, due) else none

variable (tables : SchedulerTables)

def dueOccurrences : List (String × IsoTimestamp) :=
  tables.runs.rows.filterMap dueOccurrence

def OncePerOccurrence : Prop := (dueOccurrences tables).Nodup

def Unspent : Prop :=
  ∀ job ∈ tables.jobs.rows, ∀ due ∈ job.nextDueAt, (job.jobId, due) ∉ dueOccurrences tables

def Current (jobId : String) (dueAt : Option IsoTimestamp) : Prop :=
  ∃ row, tables.jobs.find? jobId = some row ∧ row.status = .active ∧ row.nextDueAt = dueAt

section
variable {tables next : SchedulerTables} {run : ScheduledRunRecord}

theorem dueOccurrences_map {edit : ScheduledRunRecord → ScheduledRunRecord}
    (same : ∀ row, dueOccurrence (edit row) = dueOccurrence row)
    (rows : next.runs.rows = tables.runs.rows.map edit) :
    dueOccurrences next = dueOccurrences tables := by
  rw [dueOccurrences, rows, filterMap_map, dueOccurrences]
  congr 1
  funext row
  exact same row

theorem dueOccurrences_complete (tables : SchedulerTables) (runId : RunId)
    (status : ScheduledRunStatus) (completedAt : IsoTimestamp) (outputJson : Json)
    (error : Option String) :
    dueOccurrences (tables.completeScheduledRun runId status completedAt outputJson error) =
      dueOccurrences tables := by
  apply dueOccurrences_map _ (rows_complete ..)
  intro row
  split <;> rfl

theorem dueOccurrences_expire (tables) (staleBefore now : IsoTimestamp) :
    dueOccurrences (tables.expireStaleScheduledRuns staleBefore now).2 = dueOccurrences tables := by
  apply dueOccurrences_map _ (rows_expire_each ..)
  intro row
  split <;> rfl

theorem jobs_expire (tables : SchedulerTables) (staleBefore now : IsoTimestamp) :
    (tables.expireStaleScheduledRuns staleBefore now).2.jobs = tables.jobs := by
  rw [SchedulerTables.expireStaleScheduledRuns]
  generalize tables.queryScheduledRuns _ = stale
  induction stale generalizing tables with
  | nil => rfl
  | cons run rest ih => exact ih _

theorem dueOccurrences_claim (claimed : tables.claimScheduledRun run nextDueAt = .ok next) :
    dueOccurrences next = dueOccurrences tables ++ (dueOccurrence run).toList := by
  rw [dueOccurrences, (rows_claim claimed).2, filterMap_append, dueOccurrences]
  cases occurrence : dueOccurrence run <;> simp [occurrence]

def advancedJob (run : ScheduledRunRecord) (nextDueAt : Option IsoTimestamp)
    (job : ScheduledJobRecord) : ScheduledJobRecord :=
  if job.jobId = run.jobId ∧ job.status = .active then
    { job with nextDueAt, updatedAt := run.updatedAt }
  else job

theorem jobs_claim_manual (manual : run.trigger = .manual)
    (claimed : tables.claimScheduledRun run nextDueAt = .ok next) : next.jobs = tables.jobs := by
  simp only [SchedulerTables.claimScheduledRun, bind_eq_ok] at claimed
  obtain ⟨-, -, -, -, claimed⟩ := claimed
  rw [manual, if_neg (by decide)] at claimed
  cases claimed
  rfl

theorem jobs_claim_due (due : run.trigger = .due)
    (claimed : tables.claimScheduledRun run nextDueAt = .ok next) :
    next.jobs.rows = tables.jobs.rows.map (advancedJob run nextDueAt) := by
  simp only [SchedulerTables.claimScheduledRun, bind_eq_ok] at claimed
  obtain ⟨-, -, -, -, claimed⟩ := claimed
  rw [if_pos due] at claimed
  cases claimed
  rw [rows_update]
  · apply map_congr_left
    intro job _
    simp [advancedJob]
  · exact fun _ => rfl

theorem Current.of_jobs (current : Current tables jobId dueAt) (same : next.jobs = tables.jobs) :
    Current next jobId dueAt := by
  rw [Current, same]
  exact current

theorem Current.kept_by_claim
    (current : Current tables jobId dueAt) (due : run.trigger = .due) (other : jobId ≠ run.jobId)
    (claimed : tables.claimScheduledRun run nextDueAt = .ok next) : Current next jobId dueAt := by
  obtain ⟨row, found, active, dueThen⟩ := current
  obtain ⟨isRow, rfl⟩ := find?_eq_some.mp found
  refine ⟨row, find?_eq_some.mpr ⟨?_, rfl⟩, active, dueThen⟩
  rw [jobs_claim_due due claimed, mem_map]
  exact ⟨row, isRow, if_neg fun same => other same.1⟩

theorem mem_occurrence (member : occurrence ∈ dueOccurrence run) :
    run.trigger = .due ∧ occurrence.1 = run.jobId ∧ run.scheduledFor = some occurrence.2 := by
  simp only [dueOccurrence, Option.mem_def, Option.ite_none_right_eq_some,
    Option.map_eq_some_iff] at member
  obtain ⟨isDue, due, scheduled, rfl⟩ := member
  exact ⟨isDue, rfl, scheduled⟩

theorem once_claim (once : OncePerOccurrence tables) (unspent : Unspent tables)
    (current : run.trigger = .due → Current tables run.jobId run.scheduledFor)
    (claimed : tables.claimScheduledRun run nextDueAt = .ok next) : OncePerOccurrence next := by
  rw [OncePerOccurrence, dueOccurrences_claim claimed]
  cases occurrence : dueOccurrence run with
  | none =>
    rw [Option.toList_none, append_nil]
    exact once
  | some pair =>
    obtain ⟨isDue, sameJob, scheduled⟩ := mem_occurrence occurrence
    obtain ⟨row, found, -, dueThen⟩ := current isDue
    obtain ⟨isRow, sameId⟩ := find?_eq_some.mp found
    have fresh := unspent row isRow pair.2 (dueThen.trans scheduled)
    rw [sameId, ← sameJob] at fresh
    exact nodup_append.mpr ⟨once, by simp, by
      rintro a isOld _ isNew rfl
      rw [Option.toList_some, mem_singleton] at isNew
      exact fresh (isNew ▸ isOld)⟩

section
variable (unspent : Unspent tables)
include unspent

theorem unspent_claim (current : run.trigger = .due → Current tables run.jobId run.scheduledFor)
    (new : ∀ due ∈ nextDueAt, run.scheduledFor ≠ some due ∧ (run.jobId, due) ∉ dueOccurrences
      tables) (claimed : tables.claimScheduledRun run nextDueAt = .ok next) : Unspent next := by
  intro job isJob due isDue spent
  rw [dueOccurrences_claim claimed, mem_append, Option.mem_toList] at spent
  cases trigger : run.trigger with
  | manual =>
    rw [jobs_claim_manual trigger claimed] at isJob
    rcases spent with old | fresh
    · exact unspent job isJob due isDue old
    · simp [dueOccurrence, trigger] at fresh
  | due =>
    rw [jobs_claim_due trigger claimed, mem_map] at isJob
    obtain ⟨row, isRow, rfl⟩ := isJob
    obtain ⟨claimedRow, found, active, -⟩ := current trigger
    by_cases same : row.jobId = run.jobId
    · have isClaimed : row = claimedRow :=
        inj_on_of_nodup_map tables.jobs.unique isRow (mem_of_find? found)
          (same.trans (key_of_find? found).symm)
      rw [advancedJob, if_pos ⟨same, isClaimed ▸ active⟩] at isDue spent
      rcases spent with old | fresh
      · exact (new due isDue).2 (same ▸ old)
      · exact (new due isDue).1 (mem_occurrence fresh).2.2
    · rw [advancedJob, if_neg fun both => same both.1] at isDue spent
      rcases spent with old | fresh
      · exact unspent row isRow due isDue old
      · exact same (mem_occurrence fresh).2.1

theorem unspent_put {job : ScheduledJobRecord}
    (new : ∀ due ∈ job.nextDueAt, (job.jobId, due) ∉ dueOccurrences tables) :
    Unspent (tables.upsertScheduledJob job) :=
  forall_put unspent new

theorem unspent_pause (jobId : String) (now) : Unspent (tables.pauseScheduledJob jobId now) := by
  intro job isJob
  rw [SchedulerTables.pauseScheduledJob, rows_update fun _ => by rfl, mem_map] at isJob
  obtain ⟨row, isRow, rfl⟩ := isJob
  split
  · exact unspent row isRow
  · exact unspent row isRow

theorem unspent_resume {jobId : String} {nextDueAt now : IsoTimestamp}
    (new : (jobId, nextDueAt) ∉ dueOccurrences tables) :
    Unspent (tables.resumeScheduledJob jobId nextDueAt now) := by
  intro job isJob
  rw [SchedulerTables.resumeScheduledJob, rows_update fun _ => by rfl, mem_map] at isJob
  obtain ⟨row, isRow, rfl⟩ := isJob
  split
  · next resumed =>
    intro due isDue
    cases isDue
    rw [resumed.1]
    exact new
  · exact unspent row isRow

end

end

/-! ## Pools of calls -/

/-- No registration, pause or resumption takes effect under the tick lock, and no job is given a
due time for which one of its runs was already claimed. -/
def ClaimOrderlyOp (state : SchedulerState) : SchedulerOp → Prop
  | .upsertScheduledJob record =>
    state.tickLocked = false ∧
      ∀ due ∈ record.nextDueAt, (record.jobId, due) ∉ dueOccurrences state.tables
  | .pauseScheduledJob .. => state.tickLocked = false
  | .resumeScheduledJob jobId nextDueAt _ =>
    state.tickLocked = false ∧ (jobId, nextDueAt) ∉ dueOccurrences state.tables
  | .claimScheduledRun claimed nextDueAt =>
    ∀ due ∈ nextDueAt,
      claimed.scheduledFor ≠ some due ∧ (claimed.jobId, due) ∉ dueOccurrences state.tables
  | _ => True

/-- At most one call holds the tick lock, and the jobs it has listed are still as they were. -/
structure ClaimsInOrder (state : SchedulerState) (ghosts : List ClaimWatch) : Prop where
  once : OncePerOccurrence state.tables
  unspent : Unspent state.tables
  locked : ∀ (i : Nat) k, ghosts[i]? = some k → k.held = true → state.tickLocked = true
  alone : ∀ (i j : Nat) k k', ghosts[i]? = some k → ghosts[j]? = some k' → k.held = true →
    k'.held = true → i = j
  current : ∀ (i : Nat) k, ghosts[i]? = some k → k.held = true → ∀ job ∈ k.listed,
    Current state.tables job.jobId job.nextDueAt

section
variable {state : SchedulerState} {tables : SchedulerTables} {ghosts : List ClaimWatch}
  {thread : Nat} {k : ClaimWatch}

theorem ghost_set (found : (ghosts.set thread k')[i]? = some g) :
    i = thread ∧ g = k' ∨ i ≠ thread ∧ ghosts[i]? = some g := by
  by_cases here : i = thread
  · subst here
    rw [getElem?_set_self'] at found
    cases old : ghosts[i]? with
    | none => simp [old] at found
    | some _ =>
      left
      simpa [old, eq_comm] using found
  · rw [getElem?_set_ne (Ne.symm here)] at found
    exact .inr ⟨here, found⟩

section
variable (inv : ClaimsInOrder state ghosts)
include inv

section
variable (ghost : ghosts[thread]? = some k)
include ghost

theorem ClaimsInOrder.keep {sequence : Nat} (sameHeld : k'.held = k.held)
    (once : OncePerOccurrence tables) (unspent : Unspent tables)
    (here : k.held = true → ∀ job ∈ k'.listed, Current tables job.jobId job.nextDueAt)
    (others : ∀ (i : Nat) g, i ≠ thread → ghosts[i]? = some g → g.held = true → ∀ job ∈ g.listed,
      Current tables job.jobId job.nextDueAt) :
    ClaimsInOrder ⟨tables, sequence, state.tickLocked⟩ (ghosts.set thread k') := by
  have old {i : Nat} {g : ClaimWatch} (found : (ghosts.set thread k')[i]? = some g)
      (held : g.held = true) : ∃ g', ghosts[i]? = some g' ∧ g'.held = true := by
    rcases ghost_set found with ⟨rfl, rfl⟩ | ⟨-, found⟩
    · exact ⟨k, ghost, sameHeld ▸ held⟩
    · exact ⟨g, found, held⟩
  refine ⟨once, unspent, fun i g found held => ?_, fun i j g g' found found' held held' => ?_,
    fun i g found held => ?_⟩
  · obtain ⟨g', wasThere, wasHeld⟩ := old found held
    exact inv.locked i g' wasThere wasHeld
  · obtain ⟨_, wasThere, wasHeld⟩ := old found held
    obtain ⟨_, wasThere', wasHeld'⟩ := old found' held'
    exact inv.alone i j _ _ wasThere wasThere' wasHeld wasHeld'
  · rcases ghost_set found with ⟨rfl, rfl⟩ | ⟨other, found⟩
    · exact here (sameHeld ▸ held)
    · exact others i g other found held

theorem ClaimsInOrder.keep_jobs {sequence : Nat} (sameHeld : k'.held = k.held)
    (fewer : ∀ job ∈ k'.listed, job ∈ k.listed) (sameJobs : tables.jobs = state.tables.jobs)
    (same : dueOccurrences tables = dueOccurrences state.tables) :
    ClaimsInOrder ⟨tables, sequence, state.tickLocked⟩ (ghosts.set thread k') := by
  have stays {jobId : String} {dueAt : Option IsoTimestamp}
      (current : Current state.tables jobId dueAt) : Current tables jobId dueAt :=
    current.of_jobs sameJobs
  apply inv.keep ghost sameHeld
  · rw [OncePerOccurrence, same]
    exact inv.once
  · rw [Unspent, sameJobs, same]
    exact inv.unspent
  · exact fun held job isListed => stays (inv.current thread k ghost held job (fewer job isListed))
  · exact fun i g _ found held job isListed => stays (inv.current i g found held job isListed)

theorem ClaimsInOrder.keep_state (sameHeld : k'.held = k.held)
    (fewer : ∀ job ∈ k'.listed, job ∈ k.listed) : ClaimsInOrder state (ghosts.set thread k') :=
  inv.keep_jobs ghost sameHeld fewer rfl rfl

end

theorem ClaimsInOrder.nobody (free : state.tickLocked = false) {i : Nat} {g : ClaimWatch}
    (found : ghosts[i]? = some g) : g.held ≠ true := by
  intro held
  rw [inv.locked i g found held] at free
  cases free

theorem ClaimsInOrder.lock (free : state.tickLocked = false) (call) :
    ClaimsInOrder { state with tickLocked := true } (ghosts.set thread ⟨call, true, []⟩) := by
  have mine {i : Nat} {g : ClaimWatch} (found : (ghosts.set thread ⟨call, true, []⟩)[i]? = some g)
      (held : g.held = true) : i = thread ∧ g = ⟨call, true, []⟩ := by
    rcases ghost_set found with isMine | ⟨-, found⟩
    · exact isMine
    · exact absurd held (inv.nobody free found)
  refine ⟨inv.once, inv.unspent, fun _ _ _ _ => rfl, fun i j g g' found found' held held' => ?_,
    fun i g found held job isListed => ?_⟩
  · rw [(mine found held).1, (mine found' held').1]
  · rw [(mine found held).2] at isListed
    cases isListed

section
variable (ghost : ghosts[thread]? = some k)
include ghost

theorem ClaimsInOrder.unlock (isHeld : k.held = true) (call) :
    ClaimsInOrder { state with tickLocked := false } (ghosts.set thread ⟨call, false, []⟩) := by
  have nobody {i : Nat} {g : ClaimWatch}
      (found : (ghosts.set thread ⟨call, false, []⟩)[i]? = some g) : g.held ≠ true := by
    intro held
    rcases ghost_set found with ⟨-, rfl⟩ | ⟨other, found⟩
    · cases held
    · exact other (inv.alone i thread g k found ghost held isHeld)
  exact ⟨inv.once, inv.unspent, fun _ _ found held => absurd held (nobody found),
    fun _ _ _ _ found _ held => absurd held (nobody found),
    fun _ _ found held => absurd held (nobody found)⟩

theorem ClaimsInOrder.edit (free : state.tickLocked = false)
    (sameRuns : tables.runs = state.tables.runs) (unspent : Unspent tables) :
    ClaimsInOrder { state with tables } (ghosts.set thread k) := by
  apply inv.keep ghost rfl
  · rw [OncePerOccurrence, dueOccurrences, sameRuns]
    exact inv.once
  · exact unspent
  · exact fun held => absurd held (inv.nobody free ghost)
  · exact fun i g _ found held => absurd held (inv.nobody free found)

theorem ClaimsInOrder.list {jobs : List ScheduledJobRecord}
    (rows : ∀ job ∈ jobs, job ∈ state.tables.jobs.rows) :
    ClaimsInOrder state (ghosts.set thread
      ⟨k.call, k.held, jobs.filter fun job => job.status = .active⟩) := by
  refine inv.keep ghost (by rfl) inv.once inv.unspent ?_ ?_
  · intro _ job isListed
    obtain ⟨isJob, active⟩ := mem_filter.mp isListed
    exact ⟨job, find?_of_mem (rows job isJob), by simpa using active, rfl⟩
  · exact fun i g _ found held job isListed => inv.current i g found held job isListed

theorem ClaimsInOrder.current_of_allowed {run : ScheduledRunRecord}
    (allowed : claimAllowed k (.claimScheduledRun run nextDueAt)) (due : run.trigger = .due) :
    k.held = true ∧ Current state.tables run.jobId run.scheduledFor := by
  rcases allowed with manual | ⟨held, -, job, listed, sameJob, sameDue⟩
  · rw [due] at manual
    cases manual
  · have current := inv.current thread k ghost held job listed
    rw [sameJob, sameDue] at current
    exact ⟨held, current⟩

theorem ClaimsInOrder.claim {run : ScheduledRunRecord}
    (allowed : claimAllowed k (.claimScheduledRun run nextDueAt))
    (orderly : ClaimOrderlyOp state (.claimScheduledRun run nextDueAt))
    (claimed : state.tables.claimScheduledRun run nextDueAt = .ok tables) :
    ClaimsInOrder { state with tables } (ghosts.set thread
      ⟨k.call, k.held, k.listed.filter fun job => job.jobId ≠ run.jobId⟩) := by
  have current := fun due => (inv.current_of_allowed ghost allowed due).2
  have once := once_claim inv.once inv.unspent current claimed
  have unspent := unspent_claim inv.unspent current orderly claimed
  cases trigger : run.trigger with
  | manual =>
    have stays {jobId : String} {dueAt : Option IsoTimestamp}
        (current : Current state.tables jobId dueAt) : Current tables jobId dueAt :=
      current.of_jobs (jobs_claim_manual trigger claimed)
    refine inv.keep ghost (by rfl) once unspent ?_ ?_
    · intro held job isListed
      exact stays (inv.current thread k ghost held job (mem_filter.mp isListed).1)
    · exact fun i g _ found held job isListed => stays (inv.current i g found held job isListed)
  | due =>
    refine inv.keep ghost (by rfl) once unspent ?_ ?_
    · intro held job isListed
      obtain ⟨wasListed, other⟩ := mem_filter.mp isListed
      exact (inv.current thread k ghost held job wasListed).kept_by_claim trigger
        (by simpa using other) claimed
    · intro i g other found held
      have isHeld := (inv.current_of_allowed ghost allowed trigger).1
      exact absurd (inv.alone i thread g k found ghost held isHeld) other

end

end

theorem in_order_inStore {α : Type} {statement : SchedulerTables → CoreResult (α × SchedulerTables)}
    {f : CoreResult α → ClaimWatch}
    (failed : ∀ failure, ClaimsInOrder state (ghosts.set thread (f (.error failure))))
    (ran : ∀ answer tables, statement state.tables = .ok (answer, tables) →
      ClaimsInOrder { state with tables } (ghosts.set thread (f (.ok answer)))) :
    ClaimsInOrder (SchedulerOp.inStore services state statement).2
      (ghosts.set thread (f (SchedulerOp.inStore services state statement).1)) := by
  rcases inStore_cases services state statement with
    ⟨failure, fails⟩ | ⟨answer, tables, ok, commits⟩
  · rw [fails]
    exact failed failure
  · rw [commits]
    exact ran answer tables ok

theorem mem_queryScheduledJobs (answered : job ∈ tables.queryScheduledJobs query) :
    job ∈ tables.jobs.rows ∧ query.admits job = true := by
  have selected := mem_of_mem_drop (mem_of_mem_take answered)
  exact mem_select.mp ((mem_insertionSort _).mp selected)

theorem perform_in_order {op : SchedulerOp} (inv : ClaimsInOrder state ghosts)
    (ghost : ghosts[thread]? = some k) (allowed : claimAllowed k op) (ready : op.ready state = true)
    (orderly : ClaimOrderlyOp state op) :
    ClaimsInOrder (SchedulerOp.perform services op state).2
      (ghosts.set thread (claimAfter k op (SchedulerOp.perform services op state).1)) := by
  have unchanged : ClaimsInOrder state (ghosts.set thread k) :=
    inv.keep_state ghost rfl fun _ => id
  cases op with
  | now | getSession | publish => exact unchanged
  | nextScheduledRun => exact inv.keep_jobs ghost rfl (fun _ => id) rfl rfl
  | lockTick => exact inv.lock (by simpa [SchedulerOp.ready] using ready) k.call
  | unlockTick => exact inv.unlock ghost allowed k.call
  | upsertScheduledJob record =>
    apply in_order_inStore fun _ => unchanged
    intro _ tables ran
    cases ran
    exact inv.edit ghost orderly.1 rfl (unspent_put inv.unspent orderly.2)
  | pauseScheduledJob jobId now =>
    apply in_order_inStore fun _ => unchanged
    intro _ tables ran
    cases ran
    exact inv.edit ghost orderly rfl (unspent_pause inv.unspent jobId now)
  | resumeScheduledJob jobId nextDueAt now =>
    apply in_order_inStore fun _ => unchanged
    intro _ tables ran
    cases ran
    exact inv.edit ghost orderly.1 rfl (unspent_resume inv.unspent orderly.2)
  | loadScheduledJob | queryScheduledRuns =>
    apply in_order_inStore fun _ => unchanged
    intro _ tables ran
    cases ran
    exact unchanged
  | queryScheduledJobs query =>
    apply in_order_inStore (f := claimAfter k (.queryScheduledJobs query)) fun _ => unchanged
    intro jobs tables ran
    cases ran
    exact inv.list ghost fun job answered => (mem_queryScheduledJobs answered).1
  | claimScheduledRun run nextDueAt =>
    apply in_order_inStore (f := claimAfter k (.claimScheduledRun run nextDueAt))
    · intro failure
      exact inv.keep_state ghost rfl fun _ isLeft => (mem_filter.mp isLeft).1
    · exact fun _ tables ran => inv.claim ghost allowed orderly (claim_of_statement ran)
  | completeScheduledRun runId status completedAt outputJson error =>
    apply in_order_inStore fun _ => unchanged
    intro _ tables ran
    cases ran
    exact inv.keep_jobs ghost rfl (fun _ => id) rfl (dueOccurrences_complete ..)
  | expireStaleScheduledRuns staleBefore now =>
    apply in_order_inStore fun _ => unchanged
    intro _ tables ran
    cases ran
    exact inv.keep_jobs ghost rfl (fun _ => id) (jobs_expire ..) (dueOccurrences_expire ..)

theorem manual_keeps_jobs {op : SchedulerOp} (allowed : claimAllowed k op)
    (manual : isManualRun k.call = true) :
    (SchedulerOp.perform services op state).2.tables.jobs = state.tables.jobs := by
  have stored {α : Type} {statement : SchedulerTables → CoreResult (α × SchedulerTables)} :=
    @inStore_tables services state α statement (fun tables => tables.jobs = state.tables.jobs) rfl
  have notManual : ¬isManualRun k.call = false := by simp [manual]
  cases op with
  | now | lockTick | unlockTick | nextScheduledRun | getSession | publish => rfl
  | upsertScheduledJob | pauseScheduledJob | resumeScheduledJob => exact absurd allowed.2 notManual
  | loadScheduledJob | queryScheduledJobs | queryScheduledRuns | completeScheduledRun =>
    apply stored
    intro _ tables ran
    cases ran
    rfl
  | expireStaleScheduledRuns staleBefore now =>
    apply stored
    intro _ tables ran
    cases ran
    exact jobs_expire ..
  | claimScheduledRun run nextDueAt =>
    apply stored
    intro _ tables ran
    rcases allowed with byHand | ⟨-, other, -⟩
    · exact jobs_claim_manual byHand (claim_of_statement ran)
    · exact absurd other notManual

theorem jobsListed_query (tables : SchedulerTables) (query : ScheduledJobQuery) :
    jobsListed query (tables.queryScheduledJobs query) := by
  constructor
  · have sorted := perm_insertionSort (fun a b : ScheduledJobRecord =>
      a.sortTime < b.sortTime ∨ a.sortTime = b.sortTime ∧ a.jobId ≤ b.jobId)
        (tables.jobs.select fun job => query.admits job)
    have distinct := tables.jobs.nodup_select fun job => query.admits job
    have paged : (tables.queryScheduledJobs query).Sublist (List.insertionSort _ _) :=
      (take_sublist _ _).trans (drop_sublist _ _)
    exact (paged.map _).nodup ((sorted.map _).nodup_iff.mpr distinct)
  · intro active job answered
    have admitted := (mem_queryScheduledJobs answered).2
    simp only [ScheduledJobQuery.admits, active, Bool.and_eq_true] at admitted
    simpa using admitted.1.1

theorem perform_answers (services) (op : SchedulerOp) (state) :
    claimAnswers op (SchedulerOp.perform services op state).1 := by
  cases op with
  | queryScheduledJobs query =>
    unfold SchedulerOp.perform SchedulerOp.inStore
    cases services.fault with
    | some failure => trivial
    | none => exact jobsListed_query state.tables query
  | _ => trivial

end

/-! ## Runs of the scheduler -/

section
variable {calendar : Calendar} {events : List SchedulerEvent}

def liveCalls (calls : List SchedulerCall) : SchedulerEvent → List SchedulerCall
  | .start call => calls ++ [call]
  | .advance .. => calls
  | .restart => []

def callsAt (events : List SchedulerEvent) (n : Nat) : List SchedulerCall :=
  stateAt liveCalls [] events n

def ClaimOrderly (pool : SchedulerPool) (event : SchedulerEvent) : Prop :=
  ∀ performed ∈ pool.performed event, ClaimOrderlyOp pool.shared performed.2

instance decidableClaimOrderlyOp (state : SchedulerState) : DecidablePred (ClaimOrderlyOp state)
  | .upsertScheduledJob _ | .pauseScheduledJob .. | .resumeScheduledJob ..
  | .claimScheduledRun .. => by
    dsimp only [ClaimOrderlyOp]
    infer_instance
  | .now | .lockTick | .unlockTick | .nextScheduledRun | .getSession _ | .publish _
  | .loadScheduledJob _ | .queryScheduledJobs _ | .queryScheduledRuns _ | .completeScheduledRun ..
  | .expireStaleScheduledRuns .. => inferInstanceAs (Decidable True)

instance (pool : SchedulerPool) (event : SchedulerEvent) : Decidable (ClaimOrderly pool event) :=
  match found : pool.performed event with
  | none => isTrue (by simp [ClaimOrderly, found])
  | some (services, action) =>
    have := decidableClaimOrderlyOp pool.shared action
    decidable_of_iff (ClaimOrderlyOp pool.shared action) (by simp [ClaimOrderly, found])

theorem call_claimAfter (k : ClaimWatch) (op : SchedulerOp) (answer : CoreResult op.Answer) :
    (claimAfter k op answer).call = k.call := by
  cases op <;> cases answer <;> rfl

theorem calls_watch (pool : SchedulerPool) (ghosts : List ClaimWatch) (event : SchedulerEvent) :
    (pool.watch claiming ClaimWatch.initial ghosts event).map ClaimWatch.call =
      liveCalls (ghosts.map ClaimWatch.call) event := by
  cases event with
  | start call => simp [Pool.watch, liveCalls, ClaimWatch.initial]
  | restart => rfl
  | advance thread services =>
    simp only [Pool.watch, liveCalls]
    split
    · next o next k running ghost =>
      split
      · have same : (claiming.after k o (SchedulerOp.perform services o pool.shared).1).call =
            k.call :=
          call_claimAfter ..
        rw [map_set, same]
        apply ext_getElem?
        intro i
        by_cases here : thread = i
        · subst here
          simp [ghost, getElem?_set_self']
        · rw [getElem?_set_ne here]
      · rfl
    · rfl

theorem ClaimsInOrder.start (inv : ClaimsInOrder state ghosts) (call) :
    ClaimsInOrder state (ghosts ++ [ClaimWatch.initial call]) := by
  have old {i : Nat} {g : ClaimWatch} (found : (ghosts ++ [ClaimWatch.initial call])[i]? = some g)
      (held : g.held = true) : ghosts[i]? = some g := by
    rw [getElem?_append] at found
    split at found
    · exact found
    · rw [mem_singleton.mp (mem_of_getElem? found)] at held
      cases held
  exact ⟨inv.once, inv.unspent, fun i g found held => inv.locked i g (old found held) held,
    fun i j g g' found found' held held' =>
      inv.alone i j g g' (old found held) (old found' held') held held',
    fun i g found held => inv.current i g (old found held) held⟩

theorem claims_in_order_none {state : SchedulerState} (once : OncePerOccurrence state.tables)
    (unspent : Unspent state.tables) : ClaimsInOrder state [] :=
  ⟨once, unspent, by simp, by simp, by simp⟩

theorem step_watched {pool : SchedulerPool} {ghosts : List ClaimWatch} {event : SchedulerEvent}
    {Q : Prop} (watched : pool.Watched claiming ghosts)
    (inOrder : Q → ClaimsInOrder pool.shared ghosts) (orderly : Q → ClaimOrderly pool event) :
    (schedulerStep calendar pool event).Watched claiming
        (pool.watch claiming ClaimWatch.initial ghosts event) ∧
      (Q → ClaimsInOrder (schedulerStep calendar pool event).shared
        (pool.watch claiming ClaimWatch.initial ghosts event)) := by
  refine Pool.watched_step (fun state ghosts => Q → ClaimsInOrder state ghosts)
    (fun pool event => Q → ClaimOrderly pool event) (program_obeys calendar) perform_answers
    (fun state ghosts call inOrder holds => (inOrder holds).start call)
    (fun state ghosts inOrder holds => ?_) ?_ watched inOrder orderly
  · exact claims_in_order_none (inOrder holds).once (inOrder holds).unspent
  · intro pool ghosts thread services op k inOrder orderly performed ghost allowed ready holds
    exact perform_in_order (inOrder holds) ghost allowed ready
      (orderly holds (services, op) performed)

theorem watched_at (calendar events) (n : Nat) :
    ∃ ghosts, (poolAt calendar events n).Watched claiming ghosts ∧
      (Along (schedulerStep calendar) ClaimOrderly SchedulerPool.empty events →
        ClaimsInOrder (poolAt calendar events n).shared ghosts) ∧
      ghosts.map ClaimWatch.call = callsAt events n := by
  induction n with
  | zero =>
    refine ⟨[], ⟨rfl, by simp⟩, fun _ => ?_, by simp [callsAt]⟩
    rw [poolAt, stateAt_zero]
    exact claims_in_order_none nodup_nil fun _ isJob => absurd isJob not_mem_nil
  | succ n ih =>
    obtain ⟨ghosts, watched, inOrder, calls⟩ := ih
    cases position : events[n]? with
    | none =>
      rw [poolAt, callsAt, stateAt_succ_of_end position, stateAt_succ_of_end position]
      exact ⟨ghosts, watched, inOrder, calls⟩
    | some event =>
      rw [poolAt, callsAt, stateAt_succ position, stateAt_succ position]
      obtain ⟨stillWatched, stillInOrder⟩ :=
        step_watched watched inOrder fun orderly => along_at orderly position
      exact ⟨_, stillWatched, stillInOrder, by rw [calls_watch, calls, callsAt]⟩

theorem manual_run_keeps_jobs {n thread : Nat} {services : SchedulerServices} {call : SchedulerCall}
    (position : events[n]? = some (.advance thread services))
    (calls : (callsAt events n)[thread]? = some call) (manual : isManualRun call = true) :
    (poolAt calendar events (n + 1)).shared.tables.jobs =
      (poolAt calendar events n).shared.tables.jobs := by
  obtain ⟨ghosts, watched, -, same⟩ := watched_at calendar events n
  rw [poolAt, stateAt_succ position]
  rcases Pool.shared_step (SchedulerCall.program calendar) SchedulerState.reboot
      (poolAt calendar events n) (.advance thread services) with
    unchanged | rebooted | ⟨answering, op, performed, ran⟩
  · exact congrArg (fun state => state.tables.jobs) unchanged
  · exact congrArg (fun state => state.tables.jobs) rebooted
  · obtain ⟨k, ghost, allowed⟩ := watched.allows performed
    have isCall : k.call = call := by
      rw [← same, getElem?_map, ghost] at calls
      exact Option.some.inj calls
    rw [schedulerStep, show stateAt _ _ _ _ = poolAt calendar events n from rfl, ran]
    exact manual_keeps_jobs allowed (isCall ▸ manual)

/-- In every orderly run, each due occurrence of a job is claimed at most once, a manual run leaves
the jobs as they are, and a due run is claimed only for a job that is active and due then. -/
theorem due_occurrences_claimed_once
    (orderly : Along (schedulerStep calendar) ClaimOrderly SchedulerPool.empty events) (n : Nat) :
    OncePerOccurrence (poolAt calendar events n).shared.tables ∧
      ∀ thread services, events[n]? = some (.advance thread services) →
        (∀ call, (callsAt events n)[thread]? = some call → isManualRun call = true →
          (poolAt calendar events (n + 1)).shared.tables.jobs =
            (poolAt calendar events n).shared.tables.jobs) ∧
        ∀ run nextDueAt,
          (poolAt calendar events n).performed (.advance thread services : SchedulerEvent) =
            some (services, .claimScheduledRun run nextDueAt) → run.trigger = .due →
          Current (poolAt calendar events n).shared.tables run.jobId run.scheduledFor := by
  obtain ⟨ghosts, watched, inOrder, -⟩ := watched_at calendar events n
  refine ⟨(inOrder orderly).once, fun thread services position => ⟨?_, ?_⟩⟩
  · exact fun call calls manual => manual_run_keeps_jobs position calls manual
  · intro run nextDueAt performed due
    obtain ⟨k, ghost, (allowed : claimAllowed k (.claimScheduledRun run nextDueAt))⟩ :=
      watched.allows performed
    exact ((inOrder orderly).current_of_allowed ghost allowed due).2

theorem due_occurrences_claimed_once_sample :
    Along (schedulerStep sampleCalendar) ClaimOrderly SchedulerPool.empty sweepClaimed ∧
      dueOccurrences (poolAt sampleCalendar sweepClaimed 12).shared.tables =
        [("nightly", "2026-01-01T09:00:00Z")] ∧
      OncePerOccurrence (poolAt sampleCalendar sweepClaimed 12).shared.tables :=
  ⟨by decide +kernel, by decide +kernel, (due_occurrences_claimed_once (by decide +kernel) 12).1⟩

def stillCalendar : Calendar where
  parse timestamp :=
    if timestamp = "2026-01-01T10:00:00Z" then .ok (morning 10 0 0 0) else .error "not parsed"
  formatAfter time millis :=
    if time = morning 10 0 0 0 ∧ millis = 30000 then .ok "2026-01-01T10:00:30Z"
    else if time = morning 10 0 0 0 ∧ millis = 0 then .ok "2026-01-01T10:00:00Z"
    else .error "not formatted"

/-- A job with an interval of no time is due again at the time it was claimed for. -/
def sweepTwice : List SchedulerEvent :=
  callEvents 0 "2026-01-01T10:00:00Z" 2
      (.registerHostJob "nightly" "host.sweep" (some 0) "2026-01-01T10:00:00Z" .null) ++
    callEvents 1 "2026-01-01T10:00:00Z" 8 (.claimHostRuns ["host.sweep"] none) ++
    callEvents 2 "2026-01-01T10:00:00Z" 8 (.claimHostRuns ["host.sweep"] none)

/-- A pause takes effect after a host claim has listed the job and before it claims it. -/
def sweepPaused : List SchedulerEvent :=
  callEvents 0 "2026-01-01T10:00:00Z" 2
      (.registerHostJob "nightly" "host.sweep" none "2026-01-01T09:00:00Z" .null) ++
    callEvents 1 "2026-01-01T10:00:00Z" 4 (.claimHostRuns ["host.sweep"] none) ++
    callEvents 2 "2026-01-01T10:00:00Z" 2 (.pauseJob "nightly") ++
    List.replicate 4 (.advance 1 (schedulerServices "2026-01-01T10:00:00Z"))

def jobStatuses (pool : SchedulerPool) : List ScheduledJobStatus :=
  pool.shared.tables.jobs.rows.map ScheduledJobRecord.status

theorem occurrence_claimed_again_and_paused_job_claimed :
    dueOccurrences (poolAt stillCalendar sweepTwice 21).shared.tables =
        [("nightly", "2026-01-01T10:00:00Z"), ("nightly", "2026-01-01T10:00:00Z")] ∧
      jobStatuses (poolAt sampleCalendar sweepPaused 11) = [.paused] ∧
      dueOccurrences (poolAt sampleCalendar sweepPaused 11).shared.tables = [] ∧
      jobStatuses (poolAt sampleCalendar sweepPaused 15) = [.paused] ∧
      dueOccurrences (poolAt sampleCalendar sweepPaused 15).shared.tables =
        [("nightly", "2026-01-01T09:00:00Z")] := by
  decide +kernel

end

end RustyCrew.Proof.Engine

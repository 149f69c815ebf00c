import RustyCrew.Library.Discipline
import RustyCrew.Proof.Engine.Scheduler

namespace RustyCrew.Proof.Engine

open Library RustyCrew.Library.Program Protocol RustyCrew.Persistence
open RustyCrew.Engine RustyCrew.Engine.SchedulerM

variable {op : SchedulerOp} {job : ScheduledJobRecord} {left : List ScheduledJobRecord}

/-! ## What each call of the scheduler does to the jobs -/

def isManualRun : SchedulerCall → Bool
  | .requestJobRun .. | .requestHostJobRun .. => true
  | _ => false

/-- A call as far as it got: whether it holds the tick lock, and the active jobs it has listed and
not claimed yet. -/
structure ClaimWatch where
  call : SchedulerCall
  held : Bool
  listed : List ScheduledJobRecord

def ClaimWatch.initial (call : SchedulerCall) : ClaimWatch := ⟨call, false, []⟩

/-- Jobs are edited without the lock, and never by a manual run. A due run is claimed under the
lock, for a job that was listed. -/
def claimAllowed (k : ClaimWatch) : SchedulerOp → Prop
  | .unlockTick => k.held = true
  | .lockTick => k.held = false
  | .upsertScheduledJob _ | .pauseScheduledJob .. | .resumeScheduledJob .. =>
    k.held = false ∧ isManualRun k.call = false
  | .claimScheduledRun claimed _ =>
    claimed.trigger = .manual ∨ k.held = true ∧ isManualRun k.call = false ∧
      ∃ job ∈ k.listed, job.jobId = claimed.jobId ∧ job.nextDueAt = claimed.scheduledFor
  | _ => True

def jobsListed (query : ScheduledJobQuery) (jobs : List ScheduledJobRecord) : Prop :=
  (jobs.map ScheduledJobRecord.jobId).Nodup ∧
    (query.status = some .active → ∀ job ∈ jobs, job.status = .active)

def claimAnswers : (op : SchedulerOp) → CoreResult op.Answer → Prop
  | .queryScheduledJobs query, .ok jobs => jobsListed query jobs
  | _, _ => True

def claimAfter (k : ClaimWatch) : (op : SchedulerOp) → CoreResult op.Answer → ClaimWatch
  | .lockTick, .ok _ => ⟨k.call, true, []⟩
  | .unlockTick, _ => ⟨k.call, false, []⟩
  | .queryScheduledJobs _, .ok jobs =>
    ⟨k.call, k.held, (jobs : List ScheduledJobRecord).filter fun job => job.status = .active⟩
  | .claimScheduledRun claimed _, _ =>
    ⟨k.call, k.held, k.listed.filter fun job => job.jobId ≠ claimed.jobId⟩
  | _, _ => k

def claiming : Discipline scheduler ClaimWatch where
  allows := claimAllowed
  answers := claimAnswers
  after := claimAfter

section
variable {k : ClaimWatch} {calendar : Calendar}

def Unnoticed (op : SchedulerOp) : Prop :=
  ∀ k, claimAllowed k op ∧ ∀ answer, claimAfter k op answer = k

theorem obeys_unnoticed (unnoticed : Unnoticed op) (holds : P k) :
    Obeys claiming (fun _ => P) P k (SchedulerM.request op) := by
  refine obeys_request (unnoticed k).1 (fun a _ => ?_) fun failure => ?_
  · rw [show claiming.after k op (.ok a) = k from (unnoticed k).2 (.ok a)]
    exact holds
  · rw [show claiming.after k op (.error failure) = k from (unnoticed k).2 (.error failure)]
    exact holds

theorem unnoticed_now : Unnoticed .now := fun _ => ⟨trivial, fun _ => rfl⟩

theorem unnoticed_nextScheduledRun : Unnoticed .nextScheduledRun := fun _ => ⟨trivial, fun _ => rfl⟩

theorem unnoticed_getSession (sessionId) : Unnoticed (.getSession sessionId) :=
  fun _ => ⟨trivial, fun _ => rfl⟩

theorem unnoticed_publish (event) : Unnoticed (.publish event) :=
  fun _ => ⟨trivial, fun _ => rfl⟩

theorem unnoticed_loadScheduledJob (jobId : String) : Unnoticed (.loadScheduledJob jobId) :=
  fun _ => ⟨trivial, fun _ => rfl⟩

theorem unnoticed_complete (runId status completedAt outputJson) (error : Option String) :
    Unnoticed (.completeScheduledRun runId status completedAt outputJson error) :=
  fun _ => ⟨trivial, fun _ => rfl⟩

theorem unnoticed_expire (staleBefore now : IsoTimestamp) :
    Unnoticed (.expireStaleScheduledRuns staleBefore now) :=
  fun _ => ⟨trivial, fun _ => rfl⟩

/-- The program performs only what it may; how it ends does not matter. -/
def Disciplined {α : Type} (k : ClaimWatch) (p : SchedulerM α) : Prop :=
  Obeys claiming (fun _ _ => True) (fun _ => True) k p

def Claimable (k : ClaimWatch) (job : ScheduledJobRecord) (trigger : ScheduledRunTrigger)
    (scheduledFor : Option IsoTimestamp) : Prop :=
  trigger = .manual ∨ k.held = true ∧ isManualRun k.call = false ∧ job ∈ k.listed ∧
    job.nextDueAt = scheduledFor

def ClaimWatch.without (k : ClaimWatch) (job : ScheduledJobRecord) : ClaimWatch :=
  ⟨k.call, k.held, k.listed.filter fun other => other.jobId ≠ job.jobId⟩

theorem obeys_claim
    (claimable : Claimable k job trigger scheduledFor) {E : ClaimWatch → Prop} (fails : E k)
    (failsLate : E (k.without job)) : Obeys claiming (fun _ k' => k' = k.without job) E k
      (claimScheduledRun calendar job trigger scheduledFor) := by
  have kept {α : Type} {p : SchedulerM α} (free : Obeys claiming (fun _ k' => k' = k) (· = k) k p) :
      Obeys claiming (fun _ k' => k' = k) E k p :=
    obeys_weaken free (fun _ _ => id) fun _ same => same ▸ fails
  have checked {α : Type} (result : CoreResult α) :
      Obeys claiming (fun _ k' => k' = k) E k (.done result : SchedulerM α) := by
    cases result with
    | ok a => exact rfl
    | error failure => exact fails
  refine obeys_bind (kept (obeys_unnoticed unnoticed_now rfl)) ?_
  rintro now _ rfl
  refine obeys_bind (checked _) ?_
  rintro deadline _ rfl
  refine obeys_bind (kept (obeys_unnoticed unnoticed_nextScheduledRun rfl)) ?_
  rintro sequence _ rfl
  refine obeys_bind (checked _) ?_
  rintro nextDueAt _ rfl
  refine obeys_bind (obeys_request ?_ (fun _ _ => rfl) fun _ => failsLate) ?_
  · rcases claimable with manual | ⟨held, notManual, listed, due⟩
    · exact .inl manual
    · exact .inr ⟨held, notManual, job, listed, rfl, due⟩
  · rintro _ _ rfl
    exact rfl

theorem obeys_endRun (holds : P k) (run status now) (error : Option String) (outputJson) :
    Obeys claiming (fun _ => P) P k (endRun run status now error outputJson) :=
  obeys_bind (obeys_unnoticed (unnoticed_complete _ _ _ _ _) holds) fun _ _ => id

theorem obeys_finishWake (holds : P k) (run session) :
    Obeys claiming (fun _ => P) P k (finishWake run session) := by
  refine obeys_bind (obeys_unnoticed unnoticed_now holds) fun now k holds => ?_
  split
  · exact obeys_endRun holds _ _ _ _ _
  · refine obeys_bind (obeys_unnoticed (unnoticed_publish _) holds) fun _ k holds => ?_
    exact obeys_endRun holds _ _ _ _ _

theorem obeys_finish (holds : P k) (run) :
    Obeys claiming (fun _ => P) P k (finishSchedulerRun run) := by
  unfold finishSchedulerRun
  split
  · refine obeys_bind (obeys_unnoticed unnoticed_now holds) fun now k holds => ?_
    exact obeys_endRun holds _ _ _ _ _
  · cases run.targetSessionId with
    | none =>
      refine obeys_bind (obeys_unnoticed unnoticed_now holds) fun now k holds => ?_
      exact obeys_endRun holds _ _ _ _ _
    | some sessionId =>
      refine obeys_bind (obeys_attempt (obeys_unnoticed (unnoticed_getSession sessionId) holds)) ?_
      intro session k holds
      cases session with
      | ok session => exact obeys_finishWake holds run session
      | error failure =>
        simp only
        split
        · refine obeys_bind (obeys_unnoticed unnoticed_now holds) fun now k holds => ?_
          exact obeys_endRun holds _ _ _ _ _
        · exact holds

theorem obeys_withTickLock {α : Type} {body : SchedulerM α} (free : k.held = false)
    (whileHeld : Obeys claiming (fun _ k => k.held = true) (fun k => k.held = true)
      ⟨k.call, true, []⟩ body) :
    Disciplined k (withTickLock body) := by
  have locked : Obeys claiming (fun _ k' => k' = ⟨k.call, true, []⟩) (fun _ => True) k
      (SchedulerM.request .lockTick) :=
    obeys_request free (fun _ _ => rfl) fun _ => trivial
  apply obeys_bind locked
  rintro _ _ rfl
  exact obeys_closing whileHeld (fun _ => id) fun _ _ _ => trivial

structure MayClaim (left : List ScheduledJobRecord) (k : ClaimWatch) : Prop where
  held : k.held = true
  notManual : isManualRun k.call = false
  listed : ∀ job ∈ left, job ∈ k.listed
  distinct : (left.map ScheduledJobRecord.jobId).Nodup

section
variable (may : MayClaim (job :: left) k)
include may

theorem MayClaim.next : MayClaim left (k.without job) := by
  have distinct := List.nodup_cons.mp may.distinct
  refine ⟨may.held, may.notManual, fun other isLeft => ?_, distinct.2⟩
  apply List.mem_filter.mpr
  refine ⟨may.listed other (List.mem_cons_of_mem _ isLeft), ?_⟩
  have differs : other.jobId ≠ job.jobId := by
    intro same
    exact distinct.1 (same ▸ List.mem_map_of_mem isLeft)
  simpa using differs

theorem MayClaim.claimable : Claimable k job .due job.nextDueAt :=
  .inr ⟨may.held, may.notManual, may.listed job List.mem_cons_self, rfl⟩

theorem obeys_claim_next :
    Obeys claiming (fun _ => MayClaim left) (fun k => k.held = true) k
      (claimScheduledRun calendar job .due job.nextDueAt) := by
  apply obeys_weaken (obeys_claim may.claimable (E := fun k => k.held = true) may.held may.held)
  · rintro _ _ rfl
    exact may.next
  · exact fun _ => id

end

theorem obeys_may (unnoticed : Unnoticed op) (may : MayClaim left k) :
    Obeys claiming (fun _ => MayClaim left) (fun k => k.held = true) k (SchedulerM.request op) :=
  obeys_weaken (obeys_unnoticed unnoticed may) (fun _ _ => id) fun _ may => may.held

theorem obeys_queryJobs {query : ScheduledJobQuery} (active : query.status = some .active)
    (may : MayClaim [] k) :
    Obeys claiming MayClaim (fun k => k.held = true) k (querySchedulerJobs query) := by
  refine obeys_request trivial (fun jobs answered => ?_) fun _ => may.held
  refine ⟨may.held, may.notManual, fun job isJob => List.mem_filter.mpr ⟨isJob, ?_⟩, answered.1⟩
  simpa using answered.2 active job isJob

theorem obeys_checked {α : Type} (may : MayClaim left k) (result : CoreResult α) :
    Obeys claiming (fun _ => MayClaim left) (fun k => k.held = true) k
      (.done result : SchedulerM α) := by
  cases result with
  | ok a => exact may
  | error failure => exact may.held

theorem obeys_tickRound {report : SchedulerTickReport} (may : MayClaim (job :: left) k) :
    Obeys claiming (fun _ => MayClaim left) (fun k => k.held = true) k
      (tickRound calendar report job) := by
  refine obeys_bind (obeys_claim_next may) fun run k may => ?_
  refine obeys_bind (obeys_weaken (obeys_finish may run) (fun _ _ => id) fun _ may => may.held) ?_
  exact fun _ _ => id

theorem obeys_openTick (may : MayClaim [] k) :
    Obeys claiming (fun opened => MayClaim opened.2) (fun k => k.held = true) k openTick := by
  refine obeys_bind (obeys_may unnoticed_now may) fun now k may => ?_
  refine obeys_bind (obeys_may (unnoticed_expire _ _) may) fun stale k may => ?_
  exact obeys_bind (obeys_queryJobs rfl may) fun jobs k may => may

theorem obeys_tick (free : k.held = false) (notManual : isManualRun k.call = false) :
    Disciplined k (runSchedulerTick calendar) := by
  apply obeys_withTickLock free
  refine obeys_bind (obeys_openTick ⟨rfl, notManual, by simp, by simp⟩) fun opened k may => ?_
  apply obeys_weaken (obeys_foldlM (P := MayClaim) (fun _ _ _ _ may => obeys_tickRound may) may)
  · exact fun _ _ may => may.held
  · exact fun _ => id

theorem obeys_claimHostKind {now : IsoTimestamp} {maxClaims : Nat}
    {claimed : List ScheduledRunRecord} {jobKind : String} (may : MayClaim [] k) :
    Obeys claiming (fun _ => MayClaim []) (fun k => k.held = true) k
      (claimHostKind calendar now maxClaims claimed jobKind) := by
  unfold claimHostKind
  split
  · exact may
  · refine obeys_bind (obeys_queryJobs rfl may) fun jobs k may => ?_
    apply obeys_foldlM _ may
    intro claimed job left k may
    exact obeys_bind (obeys_claim_next may) fun _ _ => id

theorem obeys_claimHost (supportedJobKinds : List String) (limit : Option Nat)
    (free : k.held = false) (notManual : isManualRun k.call = false) :
    Disciplined k (claimScheduledHostRuns calendar supportedJobKinds limit) := by
  apply obeys_withTickLock free
  have may : MayClaim [] ⟨k.call, true, []⟩ := ⟨rfl, notManual, by simp, by simp⟩
  refine obeys_bind (obeys_checked may _) fun kinds k may => ?_
  refine obeys_bind (obeys_may unnoticed_now may) fun now k may => ?_
  refine obeys_bind (obeys_may (unnoticed_expire _ _) may) fun stale k may => ?_
  apply obeys_weaken (obeys_foldlM (P := fun _ => MayClaim [])
    (fun _ _ _ _ may => obeys_claimHostKind may) may)
  · exact fun _ _ may => may.held
  · exact fun _ => id

theorem obeys_manualClaim (job) : Disciplined k (claimScheduledRun calendar job .manual none) :=
  obeys_weaken (obeys_claim (.inl rfl) (E := fun _ => True) trivial trivial)
    (fun _ _ _ => trivial) fun _ _ => trivial

theorem obeys_requestJobRun (jobId : String) :
    Disciplined k (requestScheduledJobRun calendar jobId) := by
  refine obeys_bind (obeys_unnoticed (P := fun _ => True) (unnoticed_loadScheduledJob jobId)
    trivial) fun found k _ => ?_
  cases found with
  | none => exact trivial
  | some job =>
    simp only
    split
    · exact trivial
    · exact obeys_bind (obeys_manualClaim job) fun run _ _ => obeys_finish trivial run

theorem obeys_requestHostJobRun (jobId : String) (supportedJobKinds : List String) :
    Disciplined k (requestScheduledHostJobRun calendar jobId supportedJobKinds) := by
  have checked : Disciplined k
      (.done (normalizedSupportedHostJobKinds supportedJobKinds) : SchedulerM _) := by
    cases normalizedSupportedHostJobKinds supportedJobKinds <;> exact trivial
  refine obeys_bind checked fun kinds k _ => ?_
  refine obeys_bind (obeys_unnoticed (P := fun _ => True) (unnoticed_loadScheduledJob jobId)
    trivial) fun found k _ => ?_
  cases found with
  | none => exact trivial
  | some job =>
    simp only
    split
    · exact trivial
    · split
      · exact trivial
      · exact obeys_bind (obeys_manualClaim job) fun _ _ _ => trivial

theorem obeys_edit
    (allowed : ∀ k : ClaimWatch, k.held = false ∧ isManualRun k.call = false → claimAllowed k op)
    (free : k.held = false ∧ isManualRun k.call = false) :
    Disciplined k (SchedulerM.request op) :=
  obeys_request (allowed k free) (fun _ _ => trivial) fun _ => trivial

theorem obeys_before (unnoticed : Unnoticed op)
    (free : k.held = false ∧ isManualRun k.call = false) :
    Obeys claiming (fun _ k => k.held = false ∧ isManualRun k.call = false) (fun _ => True) k
      (SchedulerM.request op) :=
  obeys_weaken (obeys_unnoticed unnoticed free) (fun _ _ => id) fun _ _ => trivial

theorem program_obeys (calendar call) :
    Disciplined (ClaimWatch.initial call) (SchedulerCall.program calendar call) := by
  have returns {α : Type} {p : SchedulerM α} {k : ClaimWatch} {f : α → SchedulerAnswer}
      (obeys : Disciplined k p) :
      Disciplined k (do pure (f (← p))) :=
    obeys_bind obeys fun _ _ _ => trivial
  cases call with
  | registerWakeJob jobId targetSessionId intervalMs firstDueAt =>
    apply returns
    refine obeys_bind (obeys_before (unnoticed_getSession _) ⟨rfl, rfl⟩) fun _ k free => ?_
    refine obeys_bind (obeys_before unnoticed_now free) fun now k free => ?_
    exact obeys_bind (obeys_edit (fun _ => id) free) fun _ _ _ => trivial
  | registerHostJob jobId jobKind intervalMs firstDueAt payloadJson =>
    apply returns
    unfold registerScheduledHostJob
    split
    · exact trivial
    · refine obeys_bind (obeys_before unnoticed_now ⟨rfl, rfl⟩) fun now k free => ?_
      exact obeys_bind (obeys_edit (fun _ => id) free) fun _ _ _ => trivial
  | listJobs | listRuns =>
    exact returns (obeys_request trivial (fun _ _ => trivial) fun _ => trivial)
  | pauseJob | resumeJob =>
    refine obeys_bind (obeys_before unnoticed_now ⟨rfl, rfl⟩) fun now k free => ?_
    exact obeys_bind (obeys_edit (fun _ => id) free) fun _ _ _ => trivial
  | claimHostRuns supportedJobKinds limit => exact returns (obeys_claimHost _ _ rfl rfl)
  | requestHostJobRun jobId supportedJobKinds => exact returns (obeys_requestHostJobRun _ _)
  | completeHostRun runId status outputJson error =>
    apply returns (f := fun _ => .nothing)
    unfold completeScheduledHostRun
    split
    · refine obeys_bind (obeys_before unnoticed_now ⟨rfl, rfl⟩) fun now k free => ?_
      exact obeys_unnoticed (P := fun _ => True) (unnoticed_complete _ _ _ _ _) trivial
    · exact trivial
  | requestJobRun jobId => exact returns (obeys_requestJobRun jobId)
  | tick => exact returns (obeys_tick rfl rfl)

end

end RustyCrew.Proof.Engine

import RustyCrew.Protocol.Sessions
import RustyCrew.Persistence.Store

namespace RustyCrew.Persistence

open Library Protocol

inductive ScheduledJobStatus where
  | active
  | paused
  | archived
  deriving DecidableEq, Repr

inductive ScheduledRunStatus where
  | claimed
  | completed
  | skipped
  | failed
  | expired
  | cancelled
  deriving DecidableEq, Repr

inductive ScheduledRunTrigger where
  | due
  | manual
  deriving DecidableEq, Repr

structure ScheduledJobRecord where
  (jobId jobKind : String)
  targetSessionId : Option SessionId
  intervalMs : Option Nat
  nextDueAt : Option IsoTimestamp
  payloadJson : Json
  status : ScheduledJobStatus
  (createdAt updatedAt : IsoTimestamp)
  pausedAt : Option IsoTimestamp
  deriving DecidableEq

structure ScheduledRunRecord where
  runId : RunId
  (jobId jobKind : String)
  targetSessionId : Option SessionId
  status : ScheduledRunStatus
  trigger : ScheduledRunTrigger
  scheduledFor : Option IsoTimestamp
  (claimedAt claimDeadlineAt : IsoTimestamp)
  completedAt : Option IsoTimestamp
  error : Option String
  outputJson : Json
  (createdAt updatedAt : IsoTimestamp)
  deriving DecidableEq

structure QueryPage where
  (limit offset : Option Nat)
  deriving DecidableEq, Repr

structure ScheduledJobQuery where
  status : Option ScheduledJobStatus
  jobKind : Option String
  dueAtOrBefore : Option IsoTimestamp
  page : Option QueryPage
  deriving DecidableEq, Repr

structure ScheduledRunQuery where
  jobId : Option String
  status : Option ScheduledRunStatus
  trigger : Option ScheduledRunTrigger
  targetSessionId : Option SessionId
  staleClaimDeadlineBefore : Option IsoTimestamp
  page : Option QueryPage
  deriving DecidableEq, Repr

structure SchedulerTables where
  jobs : Table ScheduledJobRecord.jobId
  runs : Table ScheduledRunRecord.runId
  deriving DecidableEq

def SchedulerTables.empty : SchedulerTables := ⟨Table.empty, Table.empty⟩

def QueryPage.bounded (page : QueryPage) (defaultLimit maxLimit : Nat) : Nat × Nat :=
  (max 1 (min (page.limit.getD defaultLimit) maxLimit), page.offset.getD 0)

def pageOf {α : Type} (page : Option QueryPage) (rows : List α) : List α :=
  let (limit, offset) := (page.getD ⟨none, none⟩).bounded 100 1000
  (rows.drop offset).take limit

def ScheduledJobQuery.admits (query : ScheduledJobQuery) (job : ScheduledJobRecord) : Bool :=
  query.status.all (fun status => job.status = status) &&
    query.jobKind.all (fun kind => job.jobKind = kind) &&
    query.dueAtOrBefore.all (fun time => job.nextDueAt.any fun due => due ≤ time)

def ScheduledRunQuery.admits (query : ScheduledRunQuery) (run : ScheduledRunRecord) : Bool :=
  query.jobId.all (fun jobId => run.jobId = jobId) &&
    query.status.all (fun status => run.status = status) &&
    query.trigger.all (fun trigger => run.trigger = trigger) &&
    query.targetSessionId.all (fun session => run.targetSessionId = some session) &&
    query.staleClaimDeadlineBefore.all (fun time => run.claimDeadlineAt < time)

def ScheduledJobRecord.sortTime (job : ScheduledJobRecord) : IsoTimestamp :=
  job.nextDueAt.getD job.createdAt

namespace SchedulerTables

variable (tables : SchedulerTables)

def upsertScheduledJob (record : ScheduledJobRecord) : SchedulerTables :=
  { tables with jobs := tables.jobs.put record }

def loadScheduledJob (jobId : String) : Option ScheduledJobRecord :=
  tables.jobs.find? jobId

def queryScheduledJobs (query : ScheduledJobQuery) : List ScheduledJobRecord :=
  pageOf query.page ((tables.jobs.select fun job => query.admits job).insertionSort fun a b =>
    a.sortTime < b.sortTime ∨ a.sortTime = b.sortTime ∧ a.jobId ≤ b.jobId)

def queryScheduledRuns (query : ScheduledRunQuery) : List ScheduledRunRecord :=
  pageOf query.page ((tables.runs.select fun run => query.admits run).insertionSort fun a b =>
    a.createdAt < b.createdAt ∨ a.createdAt = b.createdAt ∧ a.runId.raw ≤ b.runId.raw)

def pauseScheduledJob (jobId : String) (now : IsoTimestamp) : SchedulerTables :=
  { tables with
    jobs := tables.jobs.update jobId (fun job => job.status ≠ .archived) fun job =>
      { job with status := .paused, pausedAt := some now, updatedAt := now } }

def resumeScheduledJob (jobId : String) (nextDueAt now : IsoTimestamp) : SchedulerTables :=
  { tables with
    jobs := tables.jobs.update jobId (fun job => job.status ≠ .archived) fun job =>
      { job with
        status := .active, nextDueAt := some nextDueAt, pausedAt := none, updatedAt := now } }

/-- Insert a run. A due run also moves its job on, in the same transaction. -/
def claimScheduledRun (run : ScheduledRunRecord)
    (nextDueAt : Option IsoTimestamp) : CoreResult SchedulerTables := do
  rejectIf (tables.runs.find? run.runId).isSome (persistenceError "save scheduled run"
      "UNIQUE constraint failed: scheduled_job_runs.run_id")
  rejectIf (tables.jobs.find? run.jobId).isNone
    (persistenceError "save scheduled run" "FOREIGN KEY constraint failed")
  let runs := tables.runs.put run
  if run.trigger = .due then
    pure ⟨tables.jobs.update run.jobId (fun job => job.status = .active) fun job =>
      { job with nextDueAt := nextDueAt, updatedAt := run.updatedAt }, runs⟩
  else pure { tables with runs }

def completeScheduledRun (runId : RunId) (status : ScheduledRunStatus)
    (completedAt : IsoTimestamp) (outputJson : Json) (error : Option String) : SchedulerTables :=
  { tables with
    runs := tables.runs.update runId (fun _ => true) fun run =>
      { run with
        status := status
        completedAt := some completedAt
        updatedAt := completedAt
        outputJson := outputJson
        error := error } }

def expiredRun (now : IsoTimestamp) (run : ScheduledRunRecord) : ScheduledRunRecord :=
  { run with
    status := .expired
    completedAt := some now
    updatedAt := now
    error := some "claim deadline elapsed" }

def expireStaleScheduledRuns (staleBefore now : IsoTimestamp) :
    List ScheduledRunRecord × SchedulerTables :=
  let stale := tables.queryScheduledRuns ⟨none, some .claimed, none, none, some staleBefore, none⟩
  (stale, stale.foldl (fun tables run =>
      { tables with
        runs := tables.runs.update run.runId (fun run => run.status = .claimed) (expiredRun now) })
    tables)

end SchedulerTables

end RustyCrew.Persistence

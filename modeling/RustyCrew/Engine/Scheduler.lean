import RustyCrew.Library.Interleaving
import RustyCrew.Library.Text
import RustyCrew.Persistence.Scheduler
import RustyCrew.Engine.FollowUps

namespace RustyCrew.Engine

open Library Protocol RustyCrew.Persistence

/-! ## What the scheduler acts on -/

structure SchedulerState where
  tables : SchedulerTables
  nextScheduledRun : Nat
  tickLocked : Bool
  deriving DecidableEq

def SchedulerState.empty : SchedulerState := ⟨SchedulerTables.empty, 1, false⟩

/-- A new process: the counter and the lock are its own, the tables are on disk. -/
def SchedulerState.reboot (state : SchedulerState) : SchedulerState := ⟨state.tables, 1, false⟩

/-- What is answered from outside of the scheduler at one operation. The store may fail at any of
them. -/
structure SchedulerServices where
  now : IsoTimestamp
  getSession : SessionId → CoreResult SessionState
  publish : CoreEvent → CoreResult Unit
  fault : Option CoreError

inductive SchedulerOp where
  | now
  | lockTick
  | unlockTick
  | nextScheduledRun
  | getSession (sessionId : SessionId)
  | publish (event : CoreEvent)
  | upsertScheduledJob (record : ScheduledJobRecord)
  | loadScheduledJob (jobId : String)
  | queryScheduledJobs (query : ScheduledJobQuery)
  | queryScheduledRuns (query : ScheduledRunQuery)
  | pauseScheduledJob (jobId : String) (now : IsoTimestamp)
  | resumeScheduledJob (jobId : String) (nextDueAt now : IsoTimestamp)
  | claimScheduledRun (run : ScheduledRunRecord) (nextDueAt : Option IsoTimestamp)
  | completeScheduledRun (runId : RunId) (status : ScheduledRunStatus) (completedAt : IsoTimestamp)
      (outputJson : Json) (error : Option String)
  | expireStaleScheduledRuns (staleBefore now : IsoTimestamp)

namespace SchedulerOp

def Answer : SchedulerOp → Type
  | .now => IsoTimestamp
  | .nextScheduledRun => Nat
  | .getSession _ => SessionState
  | .loadScheduledJob _ => Option ScheduledJobRecord
  | .queryScheduledJobs _ => List ScheduledJobRecord
  | .queryScheduledRuns _ => List ScheduledRunRecord
  | .expireStaleScheduledRuns .. => List ScheduledRunRecord
  | _ => Unit

def ready : SchedulerOp → SchedulerState → Bool
  | .lockTick, state => !state.tickLocked
  | _, _ => true

def inStore {α : Type} (services : SchedulerServices) (state : SchedulerState)
    (statement : SchedulerTables → CoreResult (α × SchedulerTables)) :
    CoreResult α × SchedulerState :=
  match services.fault with
  | some failure => (.error failure, state)
  | none =>
    match statement state.tables with
    | .ok (answer, tables) => (.ok answer, { state with tables })
    | .error failure => (.error failure, state)

def perform (services : SchedulerServices) :
    (op : SchedulerOp) → SchedulerState → CoreResult op.Answer × SchedulerState
  | .now, state => (.ok services.now, state)
  | .lockTick, state => (.ok (), { state with tickLocked := true })
  | .unlockTick, state => (.ok (), { state with tickLocked := false })
  | .nextScheduledRun, state =>
    (.ok state.nextScheduledRun,
      { state with nextScheduledRun := (state.nextScheduledRun + 1) % 2 ^ 64 })
  | .getSession sessionId, state => (services.getSession sessionId, state)
  | .publish event, state => (services.publish event, state)
  | .upsertScheduledJob record, state =>
    inStore services state fun tables => .ok ((), tables.upsertScheduledJob record)
  | .loadScheduledJob jobId, state =>
    inStore services state fun tables => .ok (tables.loadScheduledJob jobId, tables)
  | .queryScheduledJobs query, state =>
    inStore services state fun tables => .ok (tables.queryScheduledJobs query, tables)
  | .queryScheduledRuns query, state =>
    inStore services state fun tables => .ok (tables.queryScheduledRuns query, tables)
  | .pauseScheduledJob jobId time, state =>
    inStore services state fun tables => .ok ((), tables.pauseScheduledJob jobId time)
  | .resumeScheduledJob jobId nextDueAt time, state =>
    inStore services state fun tables => .ok ((), tables.resumeScheduledJob jobId nextDueAt time)
  | .claimScheduledRun run nextDueAt, state =>
    inStore services state fun tables =>
      (tables.claimScheduledRun run nextDueAt).map fun tables => ((), tables)
  | .completeScheduledRun runId status completedAt outputJson error, state =>
    inStore services state fun tables =>
      .ok ((), tables.completeScheduledRun runId status completedAt outputJson error)
  | .expireStaleScheduledRuns staleBefore time, state =>
    inStore services state fun tables => .ok (tables.expireStaleScheduledRuns staleBefore time)

end SchedulerOp

abbrev scheduler : Interface SchedulerState CoreError SchedulerServices where
  Op := SchedulerOp
  Answer := SchedulerOp.Answer
  ready := SchedulerOp.ready
  perform := SchedulerOp.perform

abbrev SchedulerM := Program scheduler

namespace SchedulerM

def request (op : SchedulerOp) : SchedulerM op.Answer := @Program.request _ _ _ scheduler op

def now : SchedulerM IsoTimestamp := request .now

def nextScheduledRun : SchedulerM Nat := request .nextScheduledRun

def getSession (sessionId : SessionId) : SchedulerM SessionState := request (.getSession sessionId)

def publish (event : CoreEvent) : SchedulerM Unit := request (.publish event)

def upsertSchedulerJob (record : ScheduledJobRecord) : SchedulerM Unit :=
  request (.upsertScheduledJob record)

def loadSchedulerJob (jobId : String) : SchedulerM (Option ScheduledJobRecord) :=
  request (.loadScheduledJob jobId)

def querySchedulerJobs (query : ScheduledJobQuery) : SchedulerM (List ScheduledJobRecord) :=
  request (.queryScheduledJobs query)

def querySchedulerRuns (query : ScheduledRunQuery) : SchedulerM (List ScheduledRunRecord) :=
  request (.queryScheduledRuns query)

def claimSchedulerRun (run : ScheduledRunRecord) (nextDueAt : Option IsoTimestamp) :
    SchedulerM Unit :=
  request (.claimScheduledRun run nextDueAt)

def completeSchedulerRun (runId : RunId) (status : ScheduledRunStatus) (completedAt : IsoTimestamp)
    (outputJson : Json) (error : Option String) : SchedulerM Unit :=
  request (.completeScheduledRun runId status completedAt outputJson error)

def expireStaleSchedulerRuns (staleBefore now : IsoTimestamp) :
    SchedulerM (List ScheduledRunRecord) :=
  request (.expireStaleScheduledRuns staleBefore now)

def reject {α : Type} (kind : CoreErrorKind) (message : String) : SchedulerM α :=
  .done (.error ⟨kind, message⟩)

def withTickLock {α : Type} (body : SchedulerM α) : SchedulerM α := do
  request .lockTick
  body.closing SchedulerOp.unlockTick

end SchedulerM

open SchedulerM

/-! ## Timestamps -/

structure Calendar where
  parse : IsoTimestamp → Except String OffsetDateTime
  formatAfter : OffsetDateTime → Nat → Except String IsoTimestamp

def addMillisToIso (calendar : Calendar) (timestamp : IsoTimestamp) (millis : Nat) :
    CoreResult IsoTimestamp := do
  let parsed ← orFailWith (calendar.parse timestamp) fun error =>
    ⟨.invalidInput, "invalid scheduler timestamp " ++ timestamp ++ ": " ++ error⟩
  rejectIf (2 ^ 63 ≤ millis)
    ⟨.invalidInput, "scheduler interval " ++ toString millis ++ "ms is too large"⟩
  orFailWith (calendar.formatAfter parsed millis) fun error =>
    ⟨.internalError, "format scheduler timestamp: " ++ error⟩

/-! ## Claiming and finishing runs -/

def scheduledWakeJobKind : String := "runtime.wake.session"

def schedulerClaimTtlMs : Nat := 30000

def scheduledRunId (jobId : String) (now : IsoTimestamp) (sequence : Nat) : RunId :=
  ⟨"scheduled:" ++ jobId ++ ":" ++ sanitizedClockKey now ++ ":" ++ toString sequence⟩

def claimedRun (job : ScheduledJobRecord) (trigger : ScheduledRunTrigger)
    (scheduledFor : Option IsoTimestamp) (now claimDeadlineAt : IsoTimestamp) (sequence : Nat) :
    ScheduledRunRecord where
  runId := scheduledRunId job.jobId now sequence
  jobId := job.jobId
  jobKind := job.jobKind
  targetSessionId := job.targetSessionId
  status := .claimed
  trigger := trigger
  scheduledFor := scheduledFor
  claimedAt := now
  claimDeadlineAt := claimDeadlineAt
  completedAt := none
  error := none
  outputJson := .object []
  createdAt := now
  updatedAt := now

section
variable (calendar : Calendar)

def nextDueAfter (job : ScheduledJobRecord) (trigger : ScheduledRunTrigger) (now : IsoTimestamp) :
    CoreResult (Option IsoTimestamp) :=
  match trigger, job.intervalMs with
  | .due, some intervalMs => (addMillisToIso calendar now intervalMs).map some
  | _, _ => .ok none

def claimScheduledRunInStore (job : ScheduledJobRecord) (trigger : ScheduledRunTrigger)
    (scheduledFor : Option IsoTimestamp) (now : IsoTimestamp) : SchedulerM ScheduledRunRecord := do
  let claimDeadlineAt ← .done (addMillisToIso calendar now schedulerClaimTtlMs)
  let sequence ← nextScheduledRun
  let run := claimedRun job trigger scheduledFor now claimDeadlineAt sequence
  let nextDueAt ← .done (nextDueAfter calendar job trigger now)
  claimSchedulerRun run nextDueAt
  pure run

def claimScheduledRun (job : ScheduledJobRecord) (trigger : ScheduledRunTrigger)
    (scheduledFor : Option IsoTimestamp) : SchedulerM ScheduledRunRecord := do
  claimScheduledRunInStore calendar job trigger scheduledFor (← now)

def endedRun (run : ScheduledRunRecord) (status : ScheduledRunStatus) (now : IsoTimestamp)
    (error : Option String) (outputJson : Json) : ScheduledRunRecord :=
  { run with
    status := status
    completedAt := some now
    updatedAt := now
    error := error
    outputJson := outputJson }

def endRun (run : ScheduledRunRecord) (status : ScheduledRunStatus) (now : IsoTimestamp)
    (error : Option String) (outputJson : Json) : SchedulerM (Option ScheduledRunRecord) := do
  completeSchedulerRun run.runId status now outputJson error
  pure (some (endedRun run status now error outputJson))

def noWake : Json := .object [("wake_requested", .bool false)]

def wakeRequested (sessionId : SessionId) : Json :=
  .object [("wake_requested", .bool true), ("session_id", .string sessionId.raw)]

def finishWake (run : ScheduledRunRecord) (session : SessionState) :
    SchedulerM (Option ScheduledRunRecord) := do
  let now ← now
  if session.status = .archived then
    endRun run .skipped now
      (some ("target session " ++ session.sessionId.raw ++ " is not wakeable")) noWake
  else
    publish (.brainWakeRequested session.sessionId)
    -- The error of a completed run stays what the claim wrote: none.
    endRun run .completed now none (wakeRequested session.sessionId)

def finishSchedulerRun (run : ScheduledRunRecord) : SchedulerM (Option ScheduledRunRecord) :=
  if run.jobKind ≠ scheduledWakeJobKind then do
    endRun run .skipped (← now) (some ("unsupported scheduled job kind " ++ run.jobKind)) noWake
  else
    match run.targetSessionId with
    | none => do
      endRun run .failed (← now) (some "scheduled wake job has no target session") noWake
    | some sessionId => do
      match ← (getSession sessionId).attempt with
      | .ok session => finishWake run session
      | .error error =>
        if error.kind = .notFound then
          endRun run .skipped (← now)
            (some ("target session " ++ sessionId.raw ++ " not found")) noWake
        else .done (.error error)

/-! ## The calls of the engine -/

def registerScheduledWakeJob (jobId : String) (targetSessionId : SessionId)
    (intervalMs : Option Nat) (firstDueAt : IsoTimestamp) : SchedulerM ScheduledJobRecord := do
  let _ ← getSession targetSessionId
  let now ← now
  let record : ScheduledJobRecord :=
    ⟨jobId, scheduledWakeJobKind, some targetSessionId, intervalMs, some firstDueAt, .object [],
      .active, now, now, none⟩
  upsertSchedulerJob record
  pure record

def registerScheduledHostJob (jobId jobKind : String) (intervalMs : Option Nat)
    (firstDueAt : IsoTimestamp) (payloadJson : Json) : SchedulerM ScheduledJobRecord := do
  if Text.isBlank jobKind || jobKind = scheduledWakeJobKind then
    reject .invalidInput "scheduled host job requires a non-wake job kind"
  else
    let now ← now
    let record : ScheduledJobRecord :=
      ⟨jobId, jobKind, none, intervalMs, some firstDueAt, payloadJson, .active, now, now, none⟩
    upsertSchedulerJob record
    pure record

def normalizedSupportedHostJobKinds (jobKinds : List String) : CoreResult (List String) := do
  let normalized ← jobKinds.foldlM (fun normalized jobKind => do
    let jobKind := Text.trim jobKind
    rejectIf (jobKind = "" ∨ jobKind = scheduledWakeJobKind)
      (⟨.invalidInput, "host scheduler claims require non-wake job kinds"⟩ : CoreError)
    pure (if jobKind ∈ normalized then normalized else normalized ++ [jobKind])) []
  rejectIf (normalized = [])
    ⟨.invalidInput, "host scheduler claims require at least one supported job kind"⟩
  pure normalized

def claimHostKind (now : IsoTimestamp) (maxClaims : Nat) (claimed : List ScheduledRunRecord)
    (jobKind : String) : SchedulerM (List ScheduledRunRecord) := do
  if maxClaims ≤ claimed.length then pure claimed
  else
    let dueJobs ← querySchedulerJobs
      ⟨some .active, some jobKind, some now, some ⟨some (maxClaims - claimed.length), none⟩⟩
    dueJobs.foldlM (fun claimed job => do
      let run ← claimScheduledRun calendar job .due job.nextDueAt
      pure (claimed ++ [run])) claimed

def claimScheduledHostRuns (supportedJobKinds : List String) (limit : Option Nat) :
    SchedulerM (List ScheduledRunRecord) :=
  withTickLock do
    let supportedJobKinds ← .done (normalizedSupportedHostJobKinds supportedJobKinds)
    let now ← now
    let _ ← expireStaleSchedulerRuns now now
    let maxClaims := max 1 (min (limit.getD 10) 100)
    supportedJobKinds.foldlM (claimHostKind calendar now maxClaims) []

def requestScheduledHostJobRun (jobId : String) (supportedJobKinds : List String) :
    SchedulerM (Option ScheduledRunRecord) := do
  let supportedJobKinds ← .done (normalizedSupportedHostJobKinds supportedJobKinds)
  match ← loadSchedulerJob jobId with
  | none => pure none
  | some job =>
    if job.status = .archived then pure none
    else if job.jobKind ∉ supportedJobKinds then
      reject .invalidInput ("scheduled job kind " ++ job.jobKind ++ " is not host-supported")
    else
      let run ← claimScheduledRun calendar job .manual none
      pure (some run)

def completeScheduledHostRun (runId : RunId) (status : ScheduledRunStatus) (outputJson : Json)
    (error : Option String) : SchedulerM Unit := do
  if status ∈ [.completed, .skipped, .failed, .cancelled] then
    completeSchedulerRun runId status (← now) outputJson error
  else reject .invalidInput "scheduled host run completion requires a terminal host status"

def requestScheduledJobRun (jobId : String) : SchedulerM (Option ScheduledRunRecord) := do
  match ← loadSchedulerJob jobId with
  | none => pure none
  | some job =>
    if job.status = .archived then pure none
    else
      let run ← claimScheduledRun calendar job .manual none
      finishSchedulerRun run

structure SchedulerTickReport where
  (staleRunsExpired dueRunsClaimed wakesRequested runsCompleted runsSkipped runsFailed : Nat)
  deriving DecidableEq, Repr

def SchedulerTickReport.count (report : SchedulerTickReport) :
    Option ScheduledRunRecord → SchedulerTickReport
  | none => report
  | some run =>
    match run.status with
    | .completed =>
      { report with
        runsCompleted := report.runsCompleted + 1, wakesRequested := report.wakesRequested + 1 }
    | .skipped => { report with runsSkipped := report.runsSkipped + 1 }
    | .failed => { report with runsFailed := report.runsFailed + 1 }
    | _ => report

def tickRound (report : SchedulerTickReport) (job : ScheduledJobRecord) :
    SchedulerM SchedulerTickReport := do
  let run ← claimScheduledRun calendar job .due job.nextDueAt
  let finished ← finishSchedulerRun run
  pure ({ report with dueRunsClaimed := report.dueRunsClaimed + 1 }.count finished)

def dueWakeJobs (now : IsoTimestamp) : ScheduledJobQuery :=
  ⟨some .active, some scheduledWakeJobKind, some now, none⟩

def openTick : SchedulerM (SchedulerTickReport × List ScheduledJobRecord) := do
  let now ← now
  let staleRuns ← expireStaleSchedulerRuns now now
  let dueJobs ← querySchedulerJobs (dueWakeJobs now)
  pure (⟨staleRuns.length, 0, 0, 0, 0, 0⟩, dueJobs)

def runSchedulerTick : SchedulerM SchedulerTickReport :=
  withTickLock do
    let (report, dueJobs) ← openTick
    dueJobs.foldlM (tickRound calendar) report

/-! ## Runs -/

inductive SchedulerCall where
  | registerWakeJob (jobId : String) (targetSessionId : SessionId) (intervalMs : Option Nat)
      (firstDueAt : IsoTimestamp)
  | registerHostJob (jobId jobKind : String) (intervalMs : Option Nat) (firstDueAt : IsoTimestamp)
      (payloadJson : Json)
  | listJobs (status : Option ScheduledJobStatus) (jobKind : Option String)
      (limit offset : Option Nat)
  | listRuns (jobId : Option String) (status : Option ScheduledRunStatus)
      (trigger : Option ScheduledRunTrigger) (targetSessionId : Option SessionId)
      (limit offset : Option Nat)
  | pauseJob (jobId : String)
  | resumeJob (jobId : String) (nextDueAt : IsoTimestamp)
  | claimHostRuns (supportedJobKinds : List String) (limit : Option Nat)
  | requestHostJobRun (jobId : String) (supportedJobKinds : List String)
  | completeHostRun (runId : RunId) (status : ScheduledRunStatus) (outputJson : Json)
      (error : Option String)
  | requestJobRun (jobId : String)
  | tick

inductive SchedulerAnswer where
  | nothing
  | job (record : ScheduledJobRecord)
  | jobs (records : List ScheduledJobRecord)
  | run (record : Option ScheduledRunRecord)
  | runs (records : List ScheduledRunRecord)
  | report (report : SchedulerTickReport)

def SchedulerCall.program : SchedulerCall → SchedulerM SchedulerAnswer
  | .registerWakeJob jobId targetSessionId intervalMs firstDueAt => do
    let record ← registerScheduledWakeJob jobId targetSessionId intervalMs firstDueAt
    pure (.job record)
  | .registerHostJob jobId jobKind intervalMs firstDueAt payloadJson => do
    let record ← registerScheduledHostJob jobId jobKind intervalMs firstDueAt payloadJson
    pure (.job record)
  | .listJobs status jobKind limit offset => do
    let records ← querySchedulerJobs ⟨status, jobKind, none, some ⟨limit, offset⟩⟩
    pure (.jobs records)
  | .listRuns jobId status trigger targetSessionId limit offset => do
    let records ← querySchedulerRuns
      ⟨jobId, status, trigger, targetSessionId, none, some ⟨limit, offset⟩⟩
    pure (.runs records)
  | .pauseJob jobId => do
    request (.pauseScheduledJob jobId (← now))
    pure .nothing
  | .resumeJob jobId nextDueAt => do
    request (.resumeScheduledJob jobId nextDueAt (← now))
    pure .nothing
  | .claimHostRuns supportedJobKinds limit => do
    let records ← claimScheduledHostRuns calendar supportedJobKinds limit
    pure (.runs records)
  | .requestHostJobRun jobId supportedJobKinds => do
    let record ← requestScheduledHostJobRun calendar jobId supportedJobKinds
    pure (.run record)
  | .completeHostRun runId status outputJson error => do
    completeScheduledHostRun runId status outputJson error
    pure .nothing
  | .requestJobRun jobId => do
    let record ← requestScheduledJobRun calendar jobId
    pure (.run record)
  | .tick => do
    let report ← runSchedulerTick calendar
    pure (.report report)

abbrev SchedulerPool := Pool scheduler SchedulerAnswer

abbrev SchedulerEvent := PoolEvent SchedulerCall SchedulerServices

/-- A call arrives, a running call performs its next operation, or the process restarts. -/
def schedulerStep (pool : SchedulerPool) (event : SchedulerEvent) : SchedulerPool :=
  pool.step (SchedulerCall.program calendar) SchedulerState.reboot event

end

end RustyCrew.Engine

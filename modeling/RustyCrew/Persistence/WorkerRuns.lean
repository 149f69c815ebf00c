import RustyCrew.Persistence.WorkerPool

namespace RustyCrew.Persistence

open Library Protocol

inductive WorkerRunStatus where
  | requested
  | sessionCreated
  | wakeRequested
  | running
  | checkpointWaiting
  | completed
  | failed
  | blocked
  | exhausted
  | cancelled
  | expired
  deriving DecidableEq, Repr

def WorkerRunStatus.isTerminal : WorkerRunStatus → Bool
  | .completed | .failed | .blocked | .exhausted | .cancelled | .expired => true
  | _ => false

structure WorkerRunRecord where
  runId : RunId
  parentSessionId : SessionId
  delegatedSessionId : Option SessionId
  parentAgentId : Option AgentId
  profileId : ProfileId
  taskId : Option TaskId
  status : WorkerRunStatus
  (createdAt lastUpdatedAt : IsoTimestamp)
  sourceWakeId : String
  sourceActionIndex : Nat
  delegationCorrelationId : Option String
  parentConsumption : ParentConsumptionPolicy
  fanOutGroupId : Option String
  fanOutMaxConcurrency : Option Nat
  fanOutFailurePolicy : FanOutFailurePolicy
  (workerPoolWorkItemId workerPoolLeaseId workerPoolMemberId workerPoolClaimToken : Option String)
  deriving DecidableEq, Repr

/-- A status that was written for a run, and whether the run held an active lease at that time. -/
structure StatusWrite where
  runId : RunId
  status : WorkerRunStatus
  leased : Bool
  deriving DecidableEq, Repr

/-- The tables of sessions and delegated runs in the coordination store. The status writes are a
history: no function reads them. -/
structure SessionTables where
  sessions : Table SessionState.sessionId
  sessionConfigs : Table SessionConfig.sessionId
  workerRuns : Table WorkerRunRecord.runId
  workerPool : WorkerPoolTables
  statusWrites : List StatusWrite
  deriving DecidableEq

namespace SessionTables

def empty : SessionTables := ⟨Table.empty, Table.empty, Table.empty, WorkerPoolTables.empty, []⟩

/-! ## Sessions -/

variable (tables : SessionTables)

/-- An upsert. It leaves the creation time of a row that is there already. -/
def saveSession (state : SessionState) : SessionTables :=
  { tables with
    sessions := tables.sessions.put (match tables.sessions.find? state.sessionId with
        | some old => { state with createdAt := old.createdAt }
        | none => state) }

def saveSessionWithConfig (state : SessionState) (config : SessionConfig) : SessionTables :=
  let saved := tables.saveSession state
  { saved with sessionConfigs := saved.sessionConfigs.put config }

/-! ## Delegated runs -/

def hasActiveLease (run : WorkerRunRecord) : Bool :=
  run.workerPoolLeaseId.any fun leaseId =>
    (tables.workerPool.leases.find? leaseId).any fun lease => lease.status = .active

def statusWrite (status : WorkerRunStatus) (run : WorkerRunRecord) : StatusWrite :=
  ⟨run.runId, status, tables.hasActiveLease run⟩

def saveWorkerRunRequested (record : WorkerRunRecord) : SessionTables :=
  { tables with
    workerRuns := tables.workerRuns.put record
    statusWrites := tables.statusWrites ++ [tables.statusWrite record.status record] }

def loadWorkerRun (runId : RunId) : Option WorkerRunRecord :=
  tables.workerRuns.find? runId

def loadWorkerRunByDelegatedSession (sessionId : SessionId) : Option WorkerRunRecord :=
  tables.workerRuns.rows.find? fun run => run.delegatedSessionId = some sessionId

def updateStatusWhere (test : WorkerRunRecord → Bool)
    (status : WorkerRunStatus) (now : IsoTimestamp) : SessionTables :=
  { tables with
    workerRuns := tables.workerRuns.revise test
      (fun run => { run with status, lastUpdatedAt := now }) fun _ => rfl
    statusWrites := tables.statusWrites ++
      (tables.workerRuns.select test).map (tables.statusWrite status) }

def updateWorkerRunStatusByDelegatedSession (sessionId : SessionId)
    (status : WorkerRunStatus) (now : IsoTimestamp) : SessionTables :=
  tables.updateStatusWhere (fun run => run.delegatedSessionId = some sessionId) status now

def updateWorkerRunStatus (runId : RunId) (status : WorkerRunStatus)
    (now : IsoTimestamp) : SessionTables :=
  tables.updateStatusWhere (fun run => run.runId = runId) status now

def workerRunsForFanOutGroup (parentSessionId : SessionId)
    (groupId : String) : List WorkerRunRecord :=
  (tables.workerRuns.select fun run =>
      run.parentSessionId = parentSessionId && run.fanOutGroupId = some groupId).insertionSort
    fun a b => a.sourceWakeId < b.sourceWakeId ∨
      a.sourceWakeId = b.sourceWakeId ∧ a.sourceActionIndex ≤ b.sourceActionIndex

end SessionTables

end RustyCrew.Persistence

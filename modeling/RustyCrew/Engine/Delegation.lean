import RustyCrew.Library.Attended
import RustyCrew.Engine.Registry
import RustyCrew.Engine.Scheduler
import RustyCrew.Persistence.WorkerRuns

namespace RustyCrew.Engine

open Library Protocol RustyCrew.Persistence Effect

/-! ## The part of the engine that keeps sessions and delegated runs -/

structure ProfileToolProfile where
  profileId : ProfileId
  toolProfile : ToolProfile
  deriving DecidableEq

/-- The registry and the tool profiles live in memory, the tables in the coordination store. Of the
event bus only the events that were published so far are kept. -/
structure CrewEngine where
  registry : SessionRegistry
  profileToolProfiles : Table ProfileToolProfile.profileId
  tables : SessionTables
  published : List CoreEvent
  deriving DecidableEq

/-- What the engine is answered from outside: the clock, whether a call into the store or another
part of the engine fails, the number the bus gives to an event, whether a session has a turn under
way, and what the delivery of a message comes to. -/
structure Surroundings where
  now : IsoTimestamp
  fault : Option CoreError
  sequence : Nat
  working : Bool
  delivered : List CoreEvent
  accepted : Bool

abbrev CrewM := Effect (Attended CrewEngine Surroundings) CoreError

namespace CrewM

def now : CrewM IsoTimestamp := do
  let outside ← Attended.ask
  pure outside.now

def reject {α : Type} (kind : CoreErrorKind) (message : String) : CrewM α :=
  lift (.error ⟨kind, message⟩)

def call : CrewM Surroundings := do
  let outside ← Attended.ask
  match outside.fault with
  | some failure => lift (.error failure)
  | none => pure outside

def inStore {α : Type} (statement : SessionTables → CoreResult (α × SessionTables)) : CrewM α := do
  let _ ← call
  Attended.transact fun engine => do
    let (answer, tables) ← statement engine.tables
    pure (answer, { engine with tables })

def load {α : Type} (query : SessionTables → α) : CrewM α :=
  inStore fun tables => pure (query tables, tables)

def save (write : SessionTables → SessionTables) : CrewM Unit :=
  inStore fun tables => pure ((), write tables)

def inRegistry {α : Type} (f : SessionRegistry → CoreResult (α × SessionRegistry)) : CrewM α :=
  Attended.transact fun engine => do
    let (answer, registry) ← f engine.registry
    pure (answer, { engine with registry })

def lookUp {α : Type} (query : SessionRegistry → CoreResult α) : CrewM α :=
  inRegistry fun registry => do pure (← query registry, registry)

def getSession (sessionId : SessionId) : CrewM SessionState :=
  lookUp fun registry => registry.getSession sessionId

def publish (event : CoreEvent) : CrewM Nat := do
  let outside ← call
  Attended.transact fun engine =>
    pure (outside.sequence, { engine with published := engine.published ++ [event] })

/-- A call of another part of the engine, which changes only records of its own. -/
def elsewhere : CrewM Unit := do
  let _ ← call
  pure ()

end CrewM

open CrewM

def saveEngineSession (state : SessionState) : CrewM Unit :=
  save fun tables => tables.saveSession state

variable (sessionId : SessionId)

def loadDelegatedWorkerRunBySession : CrewM (Option WorkerRunRecord) :=
  load fun tables => tables.loadWorkerRunByDelegatedSession sessionId

def updateDelegatedWorkerRunStatus (runId : RunId) (status : WorkerRunStatus)
    (now : IsoTimestamp) : CrewM Unit :=
  save fun tables => tables.updateWorkerRunStatus runId status now

def updateDelegatedWorkerRunStatusBySession (status : WorkerRunStatus)
    (now : IsoTimestamp) : CrewM Unit :=
  save fun tables => tables.updateWorkerRunStatusByDelegatedSession sessionId status now

/-! ## Lifecycle events -/

def delegationPhaseForWorkerStatus : WorkerRunStatus → DelegationLifecyclePhase
  | .expired => .timedOut
  | .cancelled => .cancelled
  | .completed => .completed
  | .failed => .failed
  | .blocked => .blocked
  | .exhausted => .exhausted
  | .requested | .sessionCreated | .running | .checkpointWaiting => .created
  | .wakeRequested => .wakeRequested

def delegatedRunId (wakeId : String) (actionIndex : Nat) : RunId :=
  ⟨wakeId ++ ":" ++ toString actionIndex⟩

variable (session : SessionState)

def publishDelegationLifecycle (sourceWakeId : Option String)
    (sourceActionIndex : Nat) (phase : DelegationLifecyclePhase) (detail : Option String) :
    CrewM Unit :=
  match session.delegation with
  | none => pure ()
  | some lineage => do
    let run ← loadDelegatedWorkerRunBySession session.sessionId
    let runId := (run.map WorkerRunRecord.runId).or
      (sourceWakeId.map fun wakeId => delegatedRunId wakeId sourceActionIndex)
    let _ ← publish (.delegationLifecycleObserved
      ⟨lineage.parentSessionId, session.sessionId, runId, phase, detail⟩)

/-! ## Archiving delegated sessions -/

def archiveInRegistry : CrewM SessionState := do
  let time ← now
  inRegistry fun registry => registry.archiveSession sessionId time

def settleRun (run : Option WorkerRunRecord) (status : WorkerRunStatus) : CrewM Unit :=
  match run with
  | some run => do
    let time ← now
    updateDelegatedWorkerRunStatus run.runId status time
  | none => pure ()

def archiveWithRun (run : Option WorkerRunRecord)
    (status : WorkerRunStatus) : CrewM SessionState := do
  let archived ← archiveInRegistry sessionId
  saveEngineSession archived
  settleRun run status
  let _ ← publish (.sessionArchived archived.sessionId)
  publishDelegationLifecycle archived (run.map WorkerRunRecord.sourceWakeId)
    ((run.map WorkerRunRecord.sourceActionIndex).getD 0) (delegationPhaseForWorkerStatus status)
    none
  pure archived

def isEnded (run : Option WorkerRunRecord) : Bool := run.any fun run => run.status.isTerminal

def archiveDelegatedSessionIfNonterminal (status : WorkerRunStatus) : CrewM (Option SessionState) :=
  if session.kind ≠ .delegated then pure none
  else do
    let run ← loadDelegatedWorkerRunBySession session.sessionId
    if isEnded run then pure none
    else do
      let archived ← archiveWithRun session.sessionId run status
      pure (some archived)

def cancelDelegatedChildrenForParent (parentSessionId : SessionId) : CrewM Unit := do
  let children ← lookUp fun registry => pure (registry.delegatedSessionsForParent parentSessionId)
  forEach (fun child => do
      let _ ← archiveDelegatedSessionIfNonterminal child .cancelled)
    children

def cancelDelegatedSession : CrewM SessionState := do
  let delegated ← getSession sessionId
  if delegated.kind ≠ .delegated then
    reject .invalidInput ("session " ++ delegated.sessionId.raw ++ " is not delegated")
  else do
    let archived ← archiveDelegatedSessionIfNonterminal delegated .cancelled
    lift (orFail archived
      ⟨.sessionExpired, "delegated session " ++ delegated.sessionId.raw ++ " is already terminal"⟩)

def isLiveDelegated : Bool :=
  session.kind = .delegated && session.status ≠ .archived

def archiveListed (status : WorkerRunStatus) : CrewM (Option SessionId) := do
  let archived ← archiveDelegatedSessionIfNonterminal session status
  pure (archived.map SessionState.sessionId)

def drainDelegatedSession : CrewM (Option SessionId) :=
  if isLiveDelegated session then archiveListed session .cancelled else pure none

def drainDelegatedSessions (parentSessionId : Option SessionId) : CrewM (List SessionId) := do
  let sessions ← lookUp fun registry => pure (match parentSessionId with
      | some parentSessionId => registry.delegatedSessionsForParent parentSessionId
      | none => registry.allSessions)
  gather drainDelegatedSession sessions

/-! ## Cleanup -/

def cleanupNote : String := "cleanup archived terminal delegated session"

def archiveEnded (run : WorkerRunRecord) : CrewM (Option SessionId) := do
  let archived ← archiveInRegistry sessionId
  saveEngineSession archived
  let _ ← publish (.sessionArchived archived.sessionId)
  publishDelegationLifecycle archived (some run.sourceWakeId) run.sourceActionIndex
    (delegationPhaseForWorkerStatus run.status) (some cleanupNote)
  pure (some archived.sessionId)

def archiveTerminalDelegatedSession : CrewM (Option SessionId) :=
  if isLiveDelegated session then do
    let run ← loadDelegatedWorkerRunBySession session.sessionId
    match run with
    | some run => if run.status.isTerminal then archiveEnded session.sessionId run else pure none
    | none => pure none
  else pure none

def archiveTerminalDelegatedSessions : CrewM (List SessionId) := do
  let sessions ← lookUp fun registry => pure registry.allSessions
  gather archiveTerminalDelegatedSession sessions

/-- The parent is looked up when the turn of the session comes. -/
def cleanupOrphanedDelegatedSession : CrewM (Option SessionId) :=
  if isLiveDelegated session then
    match session.delegation with
    | none => archiveListed session .expired
    | some lineage => do
      let parent ← lookUp fun registry => pure (registry.sessions.find? lineage.parentSessionId)
      match parent with
      | some parent =>
        if parent.status ≠ .archived then pure none else archiveListed session .cancelled
      | none => archiveListed session .expired
  else pure none

def cleanupOrphanedDelegatedSessions : CrewM (List SessionId) := do
  let sessions ← lookUp fun registry => pure registry.allSessions
  gather cleanupOrphanedDelegatedSession sessions

section
variable (calendar : Calendar)

def parseRfc3339 (value : IsoTimestamp) : CoreResult OffsetDateTime :=
  orFailWith (calendar.parse value) fun error =>
    ⟨.invalidInput, "invalid RFC3339 timestamp " ++ value ++ ": " ++ error⟩

def expireDelegatedSession (time : OffsetDateTime) (session : SessionState) :
    CrewM (Option SessionId) :=
  if isLiveDelegated session then
    match session.resourceLimits.maxDurationMs with
    | none => pure none
    | some maxDurationMs => do
      let createdAt ← lift (parseRfc3339 calendar session.createdAt)
      if time.instant - createdAt.instant < maxDurationMs * 10 ^ 6 then pure none
      else archiveListed session .expired
  else pure none

def expireDelegatedSessionsAt (now : IsoTimestamp) : CrewM (List SessionId) := do
  let time ← lift (parseRfc3339 calendar now)
  let sessions ← lookUp fun registry => pure registry.allSessions
  gather (expireDelegatedSession calendar time) sessions

def expireDelegatedSessions : CrewM (List SessionId) := do
  expireDelegatedSessionsAt calendar (← now)

structure DelegatedResourceCleanupReport where
  cleanedAt : IsoTimestamp
  (terminalArchived orphanedArchived expiredArchived : List SessionId)
  resourcesReleased : Nat
  deriving DecidableEq

def cleanupDelegatedResources : CrewM DelegatedResourceCleanupReport := do
  let cleanedAt ← now
  let terminalArchived ← archiveTerminalDelegatedSessions
  let orphanedArchived ← cleanupOrphanedDelegatedSessions
  let expiredArchived ← expireDelegatedSessionsAt calendar cleanedAt
  pure ⟨cleanedAt, terminalArchived, orphanedArchived, expiredArchived, 0⟩

end

end RustyCrew.Engine

import RustyCrew.Engine.Delegation

namespace RustyCrew.Engine

open Library Protocol RustyCrew.Persistence CrewM

structure SessionWorkspaceUpdateRecord where
  (previous current : SessionWorkspace)
  session : SessionState
  deriving DecidableEq

def saveEngineSessionWithConfig (state : SessionState) (config : SessionConfig) : CrewM Unit :=
  save fun tables => tables.saveSessionWithConfig state config

def loadEngineSessionConfigs : CrewM (List SessionConfig) :=
  load fun tables => tables.sessionConfigs.rows

/-- The projection reads the turns and the activities of a session that is not archived. -/
def projectSessionExecution (session : SessionState) : CrewM SessionState :=
  if session.status = .archived then pure session
  else do
    let outside ← call
    pure { session with status := if outside.working then .active else .idle }

def publishSessionExecution (sessionId : SessionId) : CrewM Unit := do
  let _ ← getSession sessionId
  elsewhere
  let _ ← publish (.sessionExecutionObserved sessionId)

def validateAgentIdRouteReservation (_agentId : AgentId) : CrewM Unit := elsewhere

def createSession (config : SessionConfig) : CrewM SessionState := do
  validateAgentIdRouteReservation config.agentId
  let time ← now
  let state ← inRegistry fun registry => registry.createSession config time
  saveEngineSessionWithConfig state config
  let _ ← publish (.sessionCreated state)
  pure state

def sameConfiguredIdentity (existing : SessionState) (config : SessionConfig) : Bool :=
  existing.agentId = config.agentId && existing.profileId = config.profileId &&
    existing.kind = config.kind && existing.delegation = config.delegation

def reactivateConfiguredSession (config : SessionConfig) : CrewM SessionState := do
  let time ← now
  elsewhere
  let _ ← inRegistry fun registry => registry.applyConfig config
  let state ← inRegistry fun registry => registry.reactivateSession config.sessionId time
  saveEngineSession state
  let _ ← now
  elsewhere
  publishSessionExecution config.sessionId
  pure state

def ensureConfiguredSession (config : SessionConfig) : CrewM SessionState := do
  let found ← lookUp fun registry => pure (registry.sessions.find? config.sessionId)
  match found with
  | none => createSession config
  | some existing => do
    validateAgentIdRouteReservation config.agentId
    if sameConfiguredIdentity existing config then
      if existing.status = .archived then reactivateConfiguredSession config
      else do
        let state ← inRegistry fun registry => registry.applyConfig config
        saveEngineSession state
        pure state
    else
      reject .alreadyExists ("session " ++ config.sessionId.raw ++
        " already exists with a different configured identity")

/-- The registry is put back when the new state is not saved. -/
def saveUpdatedWorkspace (original state : SessionState) (config : SessionConfig) :
    CrewM Unit := fun attended =>
  match saveEngineSessionWithConfig state config attended with
  | (.ok (), next) => (.ok (), next)
  | (.error failure, next) =>
    (.error failure, { next with
        state := { next.state with registry := next.state.registry.restoreState original } })

def switchWorkspace (original : SessionState) (config : SessionConfig)
    (update : SessionWorkspaceUpdate) : CrewM SessionWorkspaceUpdateRecord := do
  let (previous, state) ← inRegistry fun registry => registry.updateWorkspace update
  let current ← Effect.lift (orFail state.workspace
    ⟨.internalError, "updated session workspace was not retained"⟩)
  if current = previous then pure ⟨previous, current, state⟩
  else do
    saveUpdatedWorkspace original state { config with workspace := some current }
    let _ ← publish (.sessionWorkspaceChanged update.sessionId previous current)
    pure ⟨previous, current, state⟩

def updateSessionWorkspace (update : SessionWorkspaceUpdate) :
    CrewM SessionWorkspaceUpdateRecord :=
  if Text.isBlank update.requestedAt then
    reject .invalidInput "session_workspace_requested_at_required: requestedAt is required"
  else do
    let original ← getSession update.sessionId
    let projected ← projectSessionExecution original
    if original.status ≠ .archived ∧ projected.status ≠ .idle then
      reject .actionRejected ("session_workspace_busy: finish or cancel the active turn before " ++
        "switching workspace")
    else do
      let configs ← loadEngineSessionConfigs
      let config ← Effect.lift (orFail
        (configs.find? fun config => config.sessionId = update.sessionId)
        ⟨.notFound, "session_workspace_config_missing: persisted session configuration was not " ++
          "found"⟩)
      switchWorkspace original config update

def cancelRunUnlessEnded (sessionId : SessionId) : CrewM Unit := do
  let run ← loadDelegatedWorkerRunBySession sessionId
  if isEnded run then pure ()
  else do
    let time ← now
    updateDelegatedWorkerRunStatusBySession sessionId .cancelled time

def endDelegations (state : SessionState) (sessionId : SessionId) : CrewM Unit :=
  if state.kind = .delegated then cancelRunUnlessEnded sessionId
  else cancelDelegatedChildrenForParent sessionId

def archiveSession (sessionId : SessionId) : CrewM SessionState := do
  let time ← now
  elsewhere
  elsewhere
  let state ← inRegistry fun registry => registry.archiveSession sessionId time
  saveEngineSession state
  let _ ← publish (.sessionArchived sessionId)
  publishSessionExecution sessionId
  endDelegations state sessionId
  pure state

end RustyCrew.Engine

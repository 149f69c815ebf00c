import RustyCrew.Library.Result
import RustyCrew.Library.Table
import RustyCrew.Library.Text
import RustyCrew.Protocol.Sessions

namespace RustyCrew.Engine

open Library Protocol

/-! ## Working directories -/

def isAbsolutePath (path : String) : Bool := path.toList.head? = some '/'

def pushComponent (normalized : List (List Char)) (component : List Char) : List (List Char) :=
  if component = [] ∨ component = ['.'] then normalized
  else if component = ['.', '.'] then normalized.tail
  else component :: normalized

def normalizeAbsolutePath (path : String) : String :=
  let normalized := (path.toList.splitOn '/').foldl pushComponent []
  String.ofList ('/' :: List.intercalate ['/'] normalized.reverse)

def normalizeSessionWorkspaceCwd (cwd : String) : CoreResult String := do
  let trimmed := Text.trim cwd
  rejectIf (trimmed = "") ⟨.invalidInput, "session workspace cwd must not be blank"⟩
  rejectIf (isAbsolutePath trimmed = false)
    ⟨.invalidInput, "session workspace cwd must be an absolute path"⟩
  pure (normalizeAbsolutePath trimmed)

def normalizeSessionConfigWorkspace (config : SessionConfig) : CoreResult SessionConfig :=
  match config.workspace with
  | none => pure config
  | some workspace => do
    let cwd ← normalizeSessionWorkspaceCwd workspace.cwd
    rejectIf (workspace.revision = 0)
      ⟨.invalidInput, "session workspace revision must be greater than zero"⟩
    rejectIf (Text.isBlank workspace.updatedAt)
      ⟨.invalidInput, "session workspace updatedAt must not be blank"⟩
    pure { config with workspace := some { workspace with cwd } }

def validateWorkspaceConstraint (config : SessionConfig) : CoreResult Unit :=
  match config.delegation.bind DelegationLineage.workspaceConstraint with
  | none => pure ()
  | some constraint => do
    rejectIf (config.kind ≠ .delegated)
      ⟨.invalidInput, "delegated workspace constraints are valid only on delegated sessions"⟩
    rejectIf (Text.isBlank constraint.cwd ∨ isAbsolutePath constraint.cwd = false)
      ⟨.invalidInput, "delegated workspace constraint cwd must be a non-empty absolute path"⟩

def validateSessionResourceLimits (config : SessionConfig) : CoreResult Unit := do
  validateWorkspaceConstraint config
  rejectIf (config.resourceLimits.maxDurationMs.any fun value => maxResourceDurationMs < value)
    ⟨.invalidInput, "session resourceLimits.maxDurationMs exceeds " ++
      toString maxResourceDurationMs⟩
  rejectIf
    (config.resourceLimits.maxDelegationDepth.any fun value => maxResourceDelegationDepth < value)
    ⟨.invalidInput, "session resourceLimits.maxDelegationDepth exceeds " ++
      toString maxResourceDelegationDepth⟩

/-! ## The registry -/

structure SessionRegistry where
  nextHandle : Nat
  sessions : Table SessionState.sessionId
  deriving DecidableEq

def sessionNotFound (sessionId : SessionId) : CoreError :=
  ⟨.notFound, "session " ++ sessionId.raw ++ " not found"⟩

def SessionConfig.newState (config : SessionConfig) (handle : Nat) (now : IsoTimestamp) :
    SessionState where
  handle := handle
  sessionId := config.sessionId
  agentId := config.agentId
  profileId := config.profileId
  kind := config.kind
  delegation := config.delegation
  workspace := config.workspace
  resourceLimits := config.resourceLimits
  toolProfile := config.toolProfile
  historyWindow := config.historyWindow
  inferenceOverrides := ⟨none⟩
  status := .idle
  brainTurnCount := 0
  createdAt := now
  lastActiveAt := now

namespace SessionRegistry

def empty : SessionRegistry := ⟨1, Table.empty⟩

def fromStates (states : List SessionState) : SessionRegistry where
  nextHandle := (states.map SessionState.handle).foldl max 0 + 1
  sessions := states.foldl Table.put Table.empty

variable (registry : SessionRegistry)

def getSession (sessionId : SessionId) : CoreResult SessionState :=
  orFail (registry.sessions.find? sessionId) (sessionNotFound sessionId)

def restoreState (state : SessionState) : SessionRegistry :=
  { registry with sessions := registry.sessions.put state }

def createSession (config : SessionConfig) (now : IsoTimestamp) :
    CoreResult (SessionState × SessionRegistry) := do
  let config ← normalizeSessionConfigWorkspace config
  validateSessionResourceLimits config
  rejectIf (registry.sessions.find? config.sessionId).isSome
    ⟨.alreadyExists, "session " ++ config.sessionId.raw ++ " already exists"⟩
  let state := SessionConfig.newState config registry.nextHandle now
  pure (state, { registry.restoreState state with nextHandle := registry.nextHandle + 1 })

def applyConfig (config : SessionConfig) : CoreResult (SessionState × SessionRegistry) := do
  let config ← normalizeSessionConfigWorkspace config
  validateSessionResourceLimits config
  let state ← registry.getSession config.sessionId
  let state :=
    { state with
      resourceLimits := config.resourceLimits
      workspace := state.workspace.or config.workspace
      toolProfile := config.toolProfile
      historyWindow := config.historyWindow }
  pure (state, registry.restoreState state)

def updateWorkspace (update : SessionWorkspaceUpdate) :
    CoreResult ((SessionWorkspace × SessionState) × SessionRegistry) := do
  let state ← registry.getSession update.sessionId
  rejectIf (state.status = .archived)
    ⟨.sessionExpired, "session_workspace_archived: archived sessions cannot switch workspace"⟩
  rejectIf (state.status ≠ .idle)
    ⟨.actionRejected, "session_workspace_busy: finish or cancel the active turn before " ++
      "switching workspace"⟩
  let previous ← orFail state.workspace
    ⟨.invalidInput, "session_workspace_missing: session has no canonical workspace"⟩
  rejectIf (previous.revision ≠ update.expectedRevision)
    ⟨.actionRejected, "session_workspace_revision_conflict: expected " ++
      toString update.expectedRevision ++ ", found " ++ toString previous.revision⟩
  let cwd ← normalizeSessionWorkspaceCwd update.cwd
  if cwd = previous.cwd then pure ((previous, state), registry)
  else
    let state :=
      { state with
        workspace := some ⟨cwd, previous.revision + 1, update.requestedAt⟩
        lastActiveAt := update.requestedAt }
    pure ((previous, state), registry.restoreState state)

def archiveSession (sessionId : SessionId) (now : IsoTimestamp) :
    CoreResult (SessionState × SessionRegistry) := do
  let state ← registry.getSession sessionId
  let state := { state with status := .archived, lastActiveAt := now }
  pure (state, registry.restoreState state)

def markIdle (sessionId : SessionId) (now : IsoTimestamp) :
    CoreResult (SessionState × SessionRegistry) := do
  let state ← registry.getSession sessionId
  rejectIf (state.status = .archived)
    ⟨.sessionExpired, "session " ++ sessionId.raw ++ " is archived"⟩
  let state := { state with status := .idle, lastActiveAt := now }
  pure (state, registry.restoreState state)

def reactivateSession (sessionId : SessionId) (now : IsoTimestamp) :
    CoreResult (SessionState × SessionRegistry) := do
  let state ← registry.getSession sessionId
  if state.status = .archived then
    let state := { state with status := .idle, lastActiveAt := now }
    pure (state, registry.restoreState state)
  else pure (state, registry)

def getSessionByAgent (agentId : AgentId) : CoreResult SessionState :=
  let candidates := (registry.sessions.select fun state =>
    state.agentId = agentId && state.status ≠ .archived).insertionSort
      fun a b => a.sessionId.raw ≤ b.sessionId.raw
  match candidates with
  | [] => .error ⟨.notFound, "active session for agent " ++ agentId.raw ++ " not found"⟩
  | [session] => .ok session
  | _ =>
    .error ⟨.actionRejected, "agent_session_ambiguous: agent " ++ agentId.raw ++
      " has multiple active sessions; specify session_id; candidate_session_ids=[" ++
      String.intercalate "," (candidates.map fun session => session.sessionId.raw) ++ "]"⟩

def allSessions : List SessionState :=
  registry.sessions.rows.insertionSort fun a b => a.handle ≤ b.handle

def isChildOf (parentSessionId : SessionId) (state : SessionState) : Bool :=
  state.delegation.any fun lineage => lineage.parentSessionId = parentSessionId

def delegatedSessionsForParent (parentSessionId : SessionId) : List SessionState :=
  (registry.sessions.select (isChildOf parentSessionId)).insertionSort fun a b =>
    (a.delegation.map DelegationLineage.sourceActionIndex).getD (2 ^ 32 - 1) ≤
      (b.delegation.map DelegationLineage.sourceActionIndex).getD (2 ^ 32 - 1)

end SessionRegistry

end RustyCrew.Engine

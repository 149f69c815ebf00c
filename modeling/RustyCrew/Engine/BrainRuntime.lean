import RustyCrew.Engine.BrainActions

namespace RustyCrew.Engine

open Library Protocol RustyCrew.Persistence CrewM Effect

structure EventReceipt where
  accepted : Bool
  sequence : Nat
  deriving DecidableEq

/-! ## Capacity from the worker pool -/

inductive WorkerPoolDelegationPlan where
  | direct
  | claimed (claim : WorkerPoolClaimRecord)
  | rejected (reason : WorkerPoolNoCapacityReason)
  deriving DecidableEq

structure WorkerPoolDelegationInput where
  request : Option WorkerPoolCapacityRequest
  runId : RunId
  profileId : ProfileId
  taskId : Option TaskId
  (prompt wakeId : String)
  actionIndex : Nat

def inPool {α : Type} (statement : WorkerPoolTables → CoreResult (α × WorkerPoolTables)) :
    CrewM α :=
  inStore fun tables => do
    let (answer, workerPool) ← statement tables.workerPool
    pure (answer, { tables with workerPool })

def workerPoolNoCapacityPlan (request : WorkerPoolCapacityRequest)
    (reason : WorkerPoolNoCapacityReason) : WorkerPoolDelegationPlan :=
  if request.fallbackPolicy = .directOnNoCapacity then .direct else .rejected reason

def refuseMember (member : WorkerPoolMemberRecord) (profileId : ProfileId) (now : IsoTimestamp) :
    Option WorkerPoolNoCapacityReason :=
  if !member.status.canClaim then some .memberUnavailable
  else if member.profileId ≠ profileId then some .memberUnavailable
  else if now < member.lastHeartbeatAt then some .memberHeartbeatStale
  else if member.concurrencyLimit ≤ member.activeLeases then some .memberAtCapacity
  else none

def delegationWorkItem (input : WorkerPoolDelegationInput) (now : IsoTimestamp) :
    WorkerPoolWorkItemRecord where
  workItemId := input.runId.raw
  requestedProfileId := some input.profileId
  taskId := input.taskId
  status := .pending
  priority := 100
  workJson := .object
    [("kind", .string "delegation_request"), ("wake_id", .string input.wakeId),
      ("action_index", .number (toString input.actionIndex)), ("prompt", .string input.prompt)]
  requiredCapabilitiesJson := .object [("profile_id", .string input.profileId.raw)]
  createdAt := now
  updatedAt := now
  claimedByMemberId := none
  leaseId := none
  claimToken := none
  claimDeadlineAt := none
  terminalAt := none
  terminalSummary := none

def delegationClaimRequest (input : WorkerPoolDelegationInput) (request : WorkerPoolCapacityRequest)
    (member : WorkerPoolMemberRecord) (now claimDeadlineAt : IsoTimestamp) :
    WorkerPoolClaimRequest where
  memberId := request.memberId
  leaseId := "lease:" ++ input.runId.raw
  claimToken := "claim:" ++ input.wakeId ++ ":" ++ toString input.actionIndex
  now := now
  claimDeadlineAt := claimDeadlineAt
  minHeartbeatAt := member.lastHeartbeatAt

section
variable (calendar : Calendar)

def claimDelegationCapacity (input : WorkerPoolDelegationInput)
    (request : WorkerPoolCapacityRequest) (member : WorkerPoolMemberRecord) (now : IsoTimestamp) :
    CrewM WorkerPoolDelegationPlan := do
  let claimTtlMs := max (request.claimTtlMs.getD 300000) 1
  let claimDeadlineAt ← lift (addMillisToIso calendar now claimTtlMs)
  inPool fun pool => do
    let pool ← pool.createWorkerPoolWorkItem (delegationWorkItem input now)
    pure ((), pool)
  let claim ← inPool fun pool =>
    pool.claimNextWorkerPoolWorkItem
      (delegationClaimRequest input request member now claimDeadlineAt)
  match claim with
  | .ok claim => pure (.claimed claim)
  | .error reason => pure (workerPoolNoCapacityPlan request reason)

def prepareWorkerPoolClaim (input : WorkerPoolDelegationInput) : CrewM WorkerPoolDelegationPlan :=
  match input.request with
  | none => pure .direct
  | some request =>
    if Text.isBlank request.memberId then pure (.rejected .memberUnavailable)
    else do
      let time ← now
      let found ← load fun tables => tables.workerPool.members.find? request.memberId
      match found with
      | none => pure (workerPoolNoCapacityPlan request .memberUnavailable)
      | some member =>
        match refuseMember member input.profileId time with
        | some reason => pure (workerPoolNoCapacityPlan request reason)
        | none => claimDelegationCapacity calendar input request member time

/-! ## Spawning -/

def workerPoolNoCapacityReasonAsStr : WorkerPoolNoCapacityReason → String
  | .noPendingWork => "no_pending_work"
  | .memberUnavailable => "member_unavailable"
  | .memberHeartbeatStale => "member_heartbeat_stale"
  | .memberAtCapacity => "member_at_capacity"

def delegatedSessionId (parentSessionId : SessionId) (wakeId : String) (index : Nat) : SessionId :=
  ⟨parentSessionId.raw ++ ":delegated:" ++ wakeId ++ ":" ++ toString index⟩

def delegatedAgentId (sessionId : SessionId) : AgentId := ⟨"agent:" ++ sessionId.raw⟩

def sessionKindCanWake : SessionKind → Bool
  | .full | .worker | .delegated => true

structure DelegationOrder where
  batchSessionId : SessionId
  wakeId : String
  index : Nat
  request : DelegationRequest

namespace DelegationOrder

variable (order : DelegationOrder)

def runId : RunId := delegatedRunId order.wakeId order.index

def sessionId : SessionId :=
  delegatedSessionId order.batchSessionId order.wakeId order.index

def correlationId : String :=
  order.request.correlationId.getD ("delegation:" ++ order.wakeId ++ ":" ++ toString order.index)

def poolInput : WorkerPoolDelegationInput where
  request := order.request.capacityRequest
  runId := order.runId
  profileId := order.request.profileId
  taskId := order.request.taskId
  prompt := order.request.prompt
  wakeId := order.wakeId
  actionIndex := order.index

def config (parent : SessionState) (workspace : Option SessionWorkspace)
    (toolProfile : ToolProfile) : SessionConfig where
  sessionId := order.sessionId
  agentId := delegatedAgentId order.sessionId
  profileId := order.request.profileId
  kind := .delegated
  delegation := some
    { parentSessionId := parent.sessionId
      parentAgentId := parent.agentId
      sourceWakeId := order.wakeId
      sourceActionIndex := order.index
      requestedTaskId := order.request.taskId
      correlationId := order.correlationId
      workspaceConstraint := order.request.workspaceConstraint }
  workspace := workspace
  resourceLimits := order.request.resourceLimits.getD ⟨none, some 0⟩
  toolProfile := toolProfile
  historyWindow := parent.historyWindow

def run (parent state : SessionState) (claim : Option WorkerPoolClaimRecord) : WorkerRunRecord where
  runId := order.runId
  parentSessionId := parent.sessionId
  delegatedSessionId := some state.sessionId
  parentAgentId := some parent.agentId
  profileId := order.request.profileId
  taskId := order.request.taskId
  status := .requested
  createdAt := state.createdAt
  lastUpdatedAt := state.createdAt
  sourceWakeId := order.wakeId
  sourceActionIndex := order.index
  delegationCorrelationId := some order.correlationId
  parentConsumption := order.request.parentConsumption.getD .awaitCompletion
  fanOutGroupId := order.request.fanOutGroupId
  fanOutMaxConcurrency := order.request.fanOutMaxConcurrency
  fanOutFailurePolicy := order.request.fanOutFailurePolicy.getD .failSoft
  workerPoolWorkItemId := claim.map fun claim => claim.workItem.workItemId
  workerPoolLeaseId := claim.map fun claim => claim.lease.leaseId
  workerPoolMemberId := claim.map fun claim => claim.member.memberId
  workerPoolClaimToken := claim.map fun claim => claim.lease.claimToken

def prompt (parent state : SessionState) : AgentMessage where
  fromAgent := parent.agentId
  toAgent := delegatedAgentId order.sessionId
  fromSessionId := some parent.sessionId
  toSessionId := some state.sessionId
  body := order.request.prompt
  correlationId := some order.correlationId
  projection := none

end DelegationOrder

variable (order : DelegationOrder)

def claimFor : CrewM (Option WorkerPoolClaimRecord) := do
  let plan ← prepareWorkerPoolClaim calendar order.poolInput
  match plan with
  | .direct => pure none
  | .claimed claim => pure (some claim)
  | .rejected reason =>
    reject .actionRejected ("worker-pool capacity unavailable for action " ++
      toString order.index ++ ": " ++ workerPoolNoCapacityReasonAsStr reason)

def delegatedWorkspace (parent : SessionState) : CrewM (Option SessionWorkspace) :=
  match order.request.workspaceConstraint with
  | some constraint => do
    let time ← now
    pure (some ⟨constraint.cwd, 1, time⟩)
  | none => pure parent.workspace

def delegatedConfig (parent : SessionState) : CrewM SessionConfig := do
  let workspace ← delegatedWorkspace order parent
  let toolProfile ← toolProfileForProfile order.request.profileId
  pure (order.config parent workspace toolProfile)

def advanceRun (sessionId : SessionId) (status : WorkerRunStatus) : CrewM Unit := do
  let time ← now
  updateDelegatedWorkerRunStatusBySession sessionId status time

def announceDelegated (parent state : SessionState) : CrewM Unit := do
  let _ ← publish (.sessionCreated state)
  publishDelegationLifecycle state (some order.wakeId) order.index .created none
  let _ ← publish (.agentMessageRouted (order.prompt parent state))
  if sessionKindCanWake state.kind then do
    let _ ← publish (.brainWakeRequested state.sessionId)
    advanceRun state.sessionId .wakeRequested
    publishDelegationLifecycle state (some order.wakeId) order.index .wakeRequested none
  else pure ()

def startDelegated (parent : SessionState) (config : SessionConfig)
    (claim : Option WorkerPoolClaimRecord) : CrewM Unit := do
  let time ← now
  let state ← inRegistry fun registry => registry.createSession config time
  save fun tables => tables.saveWorkerRunRequested (order.run parent state claim)
  saveEngineSessionWithConfig state config
  advanceRun state.sessionId .sessionCreated
  announceDelegated order parent state

def spawnDelegatedWorker (parent : SessionState) (order : DelegationOrder) : CrewM Unit := do
  let existing ← load fun tables => tables.loadWorkerRun order.runId
  if existing.isSome then pure ()
  else do
    let claim ← claimFor calendar order
    let config ← delegatedConfig order parent
    startDelegated order parent config claim

def spawnForAction (parent : SessionState) (batch : BrainActionBatch) (entry : BrainAction × Nat) :
    CrewM Unit :=
  match entry.1 with
  | .requestDelegation request =>
    spawnDelegatedWorker calendar parent ⟨batch.sessionId, batch.wakeId, entry.2, request⟩
  | _ => pure ()

def spawnDelegatedWorkers (parent : SessionState) (batch : BrainActionBatch) : CrewM Unit :=
  forEach (spawnForAction calendar parent batch) batch.actions.zipIdx

end

/-! ## Executing the other actions -/

def isSentBy (sender : SessionState) (message : AgentMessage) : Bool :=
  message.fromAgent = sender.agentId &&
    message.fromSessionId.all (fun sessionId => sessionId = sender.sessionId)

def addressedSession (registry : SessionRegistry) (message : AgentMessage) :
    CoreResult SessionState :=
  match message.toSessionId with
  | some sessionId => registry.getSession sessionId
  | none => registry.getSessionByAgent message.toAgent

def messageTarget (registry : SessionRegistry) (sender : SessionState) (message : AgentMessage) :
    CoreResult SessionState := do
  rejectIf (isSentBy sender message = false)
    ⟨.actionRejected, "agent_message_sender_session_mismatch"⟩
  let target ← addressedSession registry message
  rejectIf (target.agentId ≠ message.toAgent ∨ target.status = .archived)
    ⟨.actionRejected, "agent_message_target_session_mismatch"⟩
  pure target

def publishMessage (sender : SessionState) (message : AgentMessage) : CrewM EventReceipt := do
  let target ← lookUp fun registry => messageTarget registry sender message
  let sequence ← publish (.agentMessageRouted
    { message with
      fromSessionId := some sender.sessionId, toSessionId := some target.sessionId })
  pure ⟨true, sequence⟩

variable (packet : CompletionPacket)

def publishCompletion : CrewM EventReceipt := do
  let sequence ← publish (.completionPacketDelivered packet)
  pure ⟨true, sequence⟩

def executeAction (sender : SessionState) : BrainAction → CrewM Unit
  | .sendMessage message => do
    let _ ← publishMessage sender message
  | .requestDelegation _ => pure ()
  | .deliverCompletion packet => do
    let _ ← publishCompletion packet

def sessionIsArchived (sessionId : SessionId) : CoreError :=
  ⟨.sessionExpired, "session " ++ sessionId.raw ++ " is archived"⟩

def openSession (sessionId : SessionId) : CrewM SessionState := do
  let session ← getSession sessionId
  lift (rejectIf (session.status = .archived) (sessionIsArchived sessionId))
  pure session

def rejectedBatch (batch : BrainActionBatch) (rejections : List ActionRejection) :
    ActionBatchReceipt :=
  ⟨batch.wakeId, 0, rejections⟩

def execute (batch : BrainActionBatch) : CrewM ActionBatchReceipt := do
  let session ← openSession batch.sessionId
  if validate batch ≠ [] then pure (rejectedBatch batch (validate batch))
  else do
    forEach (executeAction session) batch.actions
    let _ ← publish (.brainActionsAccepted batch.sessionId batch.actions.length)
    pure ⟨batch.wakeId, batch.actions.length, []⟩

/-! ## What a completion brings about -/

def workerRunStatusFor : CompletionStatus → WorkerRunStatus
  | .completed => .completed
  | .failed => .failed
  | .blocked => .blocked
  | .exhausted => .exhausted

def workerPoolStatusForCompletion : CompletionStatus → WorkerPoolWorkStatus
  | .completed => .completed
  | .failed => .failed
  | .blocked => .blocked
  | .exhausted => .exhausted

def delegationPhaseForCompletionStatus : CompletionStatus → DelegationLifecyclePhase
  | .completed => .completed
  | .failed => .failed
  | .blocked => .blocked
  | .exhausted => .exhausted

def forCompletions (f : CompletionPacket → CrewM Unit) (batch : BrainActionBatch) : CrewM Unit :=
  forEach
    (fun action => match action with
      | .deliverCompletion packet => f packet
      | _ => pure ())
    batch.actions

def completeRunLease (run : Option WorkerRunRecord) : CrewM Unit :=
  match run with
  | some run =>
    match run.workerPoolLeaseId, run.workerPoolClaimToken with
    | some leaseId, some claimToken => do
      let time ← now
      let _ ← inPool fun pool => pool.completeWorkerPoolWorkItem
        ⟨leaseId, claimToken, workerPoolStatusForCompletion packet.status, time,
          some packet.summary⟩
    | _, _ => pure ()
  | none => pure ()

def updateLifecycleForCompletion : CrewM Unit := do
  advanceRun packet.sessionId (workerRunStatusFor packet.status)
  let run ← loadDelegatedWorkerRunBySession packet.sessionId
  completeRunLease packet run
  let session ← lookUp fun registry => pure (registry.sessions.find? packet.sessionId)
  match session with
  | some session =>
    publishDelegationLifecycle session none 0 (delegationPhaseForCompletionStatus packet.status)
      (some packet.summary)
  | none => pure ()

def cancelSibling (runId : RunId) (sibling : WorkerRunRecord) : CrewM Unit :=
  if sibling.runId = runId ∨ sibling.status.isTerminal then pure ()
  else
    match sibling.delegatedSessionId with
    | none => pure ()
    | some sessionId => do
      let session ← lookUp fun registry => pure (registry.sessions.find? sessionId)
      match session with
      | some session => do
        let _ ← archiveDelegatedSessionIfNonterminal session .cancelled
      | none => pure ()

def failFast (run : WorkerRunRecord) : CrewM Unit :=
  match run.fanOutFailurePolicy, run.fanOutGroupId with
  | .failFast, some groupId => do
    let siblings ← load fun tables => tables.workerRunsForFanOutGroup run.parentSessionId groupId
    forEach (cancelSibling run.runId) siblings
  | _, _ => pure ()

def applyFailurePolicy : CrewM Unit :=
  if packet.status = .completed then pure ()
  else do
    let run ← loadDelegatedWorkerRunBySession packet.sessionId
    match run with
    | some run => failFast run
    | none => pure ()

def wakeParent : CrewM Unit := do
  let run ← loadDelegatedWorkerRunBySession packet.sessionId
  match run with
  | none => pure ()
  | some run =>
    if run.parentConsumption ≠ .awaitCompletion then pure ()
    else do
      let parent ← lookUp fun registry => pure (registry.sessions.find? run.parentSessionId)
      match parent with
      | none => pure ()
      | some parent =>
        if sessionKindCanWake parent.kind = false ∨ parent.status = .archived then pure ()
        else do
          let _ ← publish (.brainWakeRequested parent.sessionId)

def archiveCompleted : CrewM Unit := do
  let session ← lookUp fun registry => pure (registry.sessions.find? packet.sessionId)
  match session with
  | none => pure ()
  | some session =>
    if isLiveDelegated session then do
      let run ← loadDelegatedWorkerRunBySession session.sessionId
      if isEnded run then do
        let _ ← archiveSession session.sessionId
      else pure ()
    else pure ()

/-! ## The calls of a brain -/

section
variable (calendar : Calendar)

def executeAcceptedActions (session : SessionState) (batch : BrainActionBatch) :
    CrewM ActionBatchReceipt := do
  spawnDelegatedWorkers calendar session batch
  let receipt ← execute batch
  forCompletions updateLifecycleForCompletion batch
  forCompletions applyFailurePolicy batch
  forCompletions wakeParent batch
  forCompletions archiveCompleted batch
  pure receipt

def executeBrainActions (batch : BrainActionBatch) : CrewM ActionBatchReceipt := do
  let session ← openSession batch.sessionId
  if validate batch ≠ [] then pure (rejectedBatch batch (validate batch))
  else do
    let rejections ← validateDelegationInvariants session batch
    if rejections ≠ [] then pure (rejectedBatch batch rejections)
    else if validateFanOutInvariants batch ≠ [] then
      pure (rejectedBatch batch (validateFanOutInvariants batch))
    else executeAcceptedActions calendar session batch

end

def noteStarted (envelope : BrainEventEnvelope) : CrewM Unit :=
  if envelope.event = .started then advanceRun envelope.sessionId .running else pure ()

def submitBrainEvent (envelope : BrainEventEnvelope) : CrewM EventReceipt := do
  noteStarted envelope
  let sequence ← publish
    (.brainEventObserved envelope.sessionId (some envelope.wakeId) envelope.event)
  pure ⟨true, sequence⟩

/-- The message is delivered by another part of the engine, which may publish events. -/
def routeAgentMessage : CrewM EventReceipt := do
  let outside ← call
  Attended.transact fun engine =>
    pure (⟨outside.accepted, outside.sequence⟩,
      { engine with published := engine.published ++ outside.delivered })

def requestDelegatedCheckpoint (parentSessionId sessionId : SessionId) : CrewM EventReceipt := do
  let _ ← getSession parentSessionId
  let delegated ← getSession sessionId
  lift (rejectIf (delegated.status = .archived)
    ⟨.sessionExpired, "delegated session " ++ delegated.sessionId.raw ++ " is archived"⟩)
  let lineage ← lift (orFail delegated.delegation
    ⟨.invalidInput, "session " ++ delegated.sessionId.raw ++ " is not delegated"⟩)
  lift (rejectIf (lineage.parentSessionId ≠ parentSessionId)
    ⟨.invalidInput, "delegated session " ++ delegated.sessionId.raw ++
      " does not belong to parent " ++ parentSessionId.raw⟩)
  let receipt ← routeAgentMessage
  advanceRun delegated.sessionId .checkpointWaiting
  publishDelegationLifecycle delegated (some lineage.sourceWakeId) lineage.sourceActionIndex
    .checkpointRequested none
  pure receipt

end RustyCrew.Engine

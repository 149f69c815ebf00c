import RustyCrew.Coordination.Reviews

namespace RustyCrew.Coordination

open Library Protocol CoordinationM Effect
open RustyCrew.Engine (QueuedMessageRecord QueuedMessageFilter Surroundings pendingFilter)

/-! ## Images -/

def maxExternalInputImages : Nat := 4

def maxExternalInputImageBytes : Nat := 20 * 1024 * 1024

def imageInput (available : List ChatAttachment) (attachmentId : String) :
    CoreResult ExternalTurnInputPart := do
  let attachment ← orFail (available.find? fun candidate => candidate.attachmentId = attachmentId)
    ⟨.notFound, "external_message_image_not_found"⟩
  rejectIf (attachment.status ≠ .active) ⟨.actionRejected, "external_message_image_inactive"⟩
  rejectIf (attachment.mimeType ∉ ["image/png", "image/jpeg", "image/webp"])
    ⟨.invalidInput, "external_message_image_mime_unsupported"⟩
  rejectIf (attachment.byteSize = 0 ∨ maxExternalInputImageBytes < attachment.byteSize)
    ⟨.invalidInput, "external_message_image_size_invalid"⟩
  let storageUrl ← orFail attachment.storageUrl
    ⟨.actionRejected, "external_message_image_content_unavailable"⟩
  rejectIf (Text.stripStem "artifact://tool-media/" storageUrl = none)
    ⟨.actionRejected, "external_message_image_content_unavailable"⟩
  pure (.image storageUrl)

def imageInputs (available : List ChatAttachment) (seen : List String) :
    List String → CoreResult (List ExternalTurnInputPart)
  | [] => .ok []
  | attachmentId :: rest => do
    rejectIf (attachmentId ∈ seen) ⟨.invalidInput, "external_message_image_duplicate"⟩
    let input ← imageInput available attachmentId
    let inputs ← imageInputs available (attachmentId :: seen) rest
    pure (input :: inputs)

variable (sessionId : SessionId)

def externalImageInputs (attachmentIds : List String) :
    CoordinationM (List ExternalTurnInputPart) := do
  refuse (maxExternalInputImages < attachmentIds.length) .invalidInput
    "external_message_image_limit_exceeded"
  let available ← consult fun engine => engine.attachments sessionId
  lift (imageInputs available [] attachmentIds)

/-! ## Activation -/

def isWorking : CoordinationM Bool := do
  let session ← getSession sessionId
  if session.status = .archived then pure false
  else do
    let outside ← call
    pure outside.working

def isTargetSession (agentId : AgentId) (target : AgentRouteResolvedTarget)
    (session : SessionState) : Bool :=
  session.agentId = agentId && session.agentId = target.agentId &&
    session.profileId = target.profileId && session.status ≠ .archived

def isTargetBinding (target : AgentRouteResolvedTarget) (runtimeId : ExternalRuntimeId)
    (bindingRevision : Nat) (binding : ExternalAgentBinding) : Bool :=
  binding.revision = bindingRevision && binding.runtimeId = runtimeId &&
    binding.agentId = some target.agentId && binding.sessionId = some target.sessionId &&
    binding.purpose = .crewAgent && binding.status = .active && binding.isRoutable &&
    target.deliveryPolicy = some binding.messageDeliveryPolicy

def resolveDirectTarget (target : AgentRouteResolvedTarget) (session : SessionState) :
    CoordinationM (Option (SessionState × Option ExternalAgentBinding)) :=
  if target.runtimeId.isSome ∨ target.bindingId.isSome ∨ target.bindingRevision.isSome ∨
      target.deliveryPolicy.isSome then pure none
  else do
    let bindings ← load ExternalTables.listExternalAgentBindings
    if bindings.any fun binding =>
        binding.purpose = .crewAgent && binding.sessionId = some target.sessionId then pure none
    else pure (some (session, none))

def resolveExternalTarget (target : AgentRouteResolvedTarget) (session : SessionState) :
    CoordinationM (Option (SessionState × Option ExternalAgentBinding)) :=
  match target.runtimeId, target.bindingId, target.bindingRevision with
  | some runtimeId, some bindingId, some bindingRevision => do
    let binding ← load fun tables => tables.bindings.find? bindingId
    pure ((binding.filter (isTargetBinding target runtimeId bindingRevision)).map fun binding =>
      (session, some binding))
  | _, _, _ => pure none

/-- The session and the binding that a route leads to, unless they have changed. -/
def resolveAgentRouteActivationTarget (agentId : AgentId) (target : AgentRouteResolvedTarget) :
    CoordinationM (Option (SessionState × Option ExternalAgentBinding)) := do
  let session ← findSession target.sessionId
  match session.filter (isTargetSession agentId target) with
  | none => pure none
  | some session =>
    match target.runtimeKind with
    | .directBrain => resolveDirectTarget target session
    | .codexAppServer => resolveExternalTarget target session

def activationTarget (agentId : AgentId) : Option AgentRouteResolvedTarget →
    CoordinationM (Option (SessionState × Option ExternalAgentBinding))
  | some target => resolveAgentRouteActivationTarget agentId target
  | none => do
    let session ← lookUp fun registry => registry.getSessionByAgent agentId
    let binding ← load fun tables => tables.getExternalBindingForAgent agentId
    pure (some (session, binding))

def activateDirectBrain (session : SessionState) (request : AgentActivationRequest) :
    CoordinationM AgentActivation := do
  let working ← isWorking session.sessionId
  if working then pure (.queuedForNextTurn session.sessionId request.queuedMessageId)
  else pure (.directBrainWakeRequested session.sessionId request.directWakeId)

def requestedTurn (request : AgentActivationRequest) (sessionId : SessionId)
    (binding : ExternalAgentBinding) (nativeThreadId : String) : ExternalTurnCorrelation where
  request :=
    { requestId := request.requestId
      idempotencyKey := request.idempotencyKey
      sessionId := sessionId
      runId := request.runId
      bindingId := binding.bindingId
      input := request.input
      collaborationMode := request.collaborationMode
      provenance := request.provenance
      createdAt := request.createdAt
      expiresAt := request.expiresAt }
  runtimeId := binding.runtimeId
  nativeThreadId := nativeThreadId
  nativeTurnId := none
  taskRef := binding.taskRef
  phase := .accepted
  capacityLeaseId := some request.capacityLeaseId
  terminalReasonCode := none
  terminalError := none
  revision := 1
  updatedAt := request.createdAt

def inputText : ExternalTurnInputPart → Option String
  | .text text => some text
  | _ => none

/-- The session already has a turn: the request steers it or waits for the next one. -/
def activateBusy (session : SessionState) (binding : ExternalAgentBinding)
    (request : AgentActivationRequest) (activeTurn : ExternalTurnCorrelation) : AgentActivation :=
  match binding.messageDeliveryPolicy, activeTurn.phase, activeTurn.nativeTurnId with
  | .immediateSteer, .active, some nativeTurnId =>
    .externalTurnSteerRequested session.sessionId activeTurn.requestId binding.bindingId
      activeTurn.nativeThreadId nativeTurnId ((request.input.findSome? inputText).getD "")
  | _, _, _ => .queuedForNextTurn session.sessionId request.queuedMessageId

variable (turn : ExternalTurnCorrelation)

/-- The turn is created, or takes the place of the queued message it is claimed for. -/
def storeTurn : Option (String × IsoTimestamp) → CoordinationM AgentActivation
  | none => do
    let saved ← inStore fun tables => tables.createExternalTurn turn
    pure (.externalTurnRequested saved.request.sessionId saved.requestId saved.request.bindingId)
  | some (queuedMessageId, claimAt) => do
    let saved ← inStore fun tables =>
      tables.promoteQueuedMessageToExternalTurn queuedMessageId claimAt turn
    match saved with
    | some saved =>
      pure (.externalTurnRequested saved.request.sessionId saved.requestId
        saved.request.bindingId)
    | none => pure (.queuedForNextTurn turn.request.sessionId queuedMessageId)

def isTurnOf (turn : ExternalTurnCorrelation) : Bool :=
  turn.request.sessionId = sessionId

def activateOnRuntime (session : SessionState) (binding : ExternalAgentBinding)
    (request : AgentActivationRequest) (queuedClaim : Option (String × IsoTimestamp)) :
    CoordinationM AgentActivation := do
  let turns ← load ExternalTables.listNonterminalExternalTurns
  match turns.find? (isTurnOf session.sessionId) with
  | some activeTurn => pure (activateBusy session binding request activeTurn)
  | none =>
    match binding.nativeThreadId with
    | none => pure (.rejected "external_thread_not_bound")
    | some nativeThreadId =>
      storeTurn (requestedTurn request session.sessionId binding nativeThreadId) queuedClaim

def activateExternal (session : SessionState) (binding : ExternalAgentBinding)
    (request : AgentActivationRequest) (queuedClaim : Option (String × IsoTimestamp)) :
    CoordinationM AgentActivation :=
  if binding.status ≠ .active ∨ binding.isRoutable = false then
    pure (.rejected "external_binding_not_routable")
  else do
    let found ← load fun tables => tables.registrations.find? binding.runtimeId
    let runtime ← require found .notFound
      s!"external runtime {binding.runtimeId.raw} was not found"
    if runtime.desiredState ≠ .enabled then pure (.rejected "external_runtime_disabled")
    else if runtime.observedState = .incompatible then
      pure (.rejected "external_runtime_incompatible")
    else if runtime.observedState ≠ .ready then pure (.rejected "external_runtime_not_ready")
    else activateOnRuntime session binding request queuedClaim

def activateAgentExecutionInner (request : AgentActivationRequest)
    (queuedClaim : Option (String × IsoTimestamp))
    (resolvedTarget : Option AgentRouteResolvedTarget) : CoordinationM AgentActivation := do
  match ← activationTarget request.agentId resolvedTarget with
  | none => pure (.rejected "agent_route_activation_target_changed")
  | some (session, none) => activateDirectBrain session request
  | some (session, some binding) => activateExternal session binding request queuedClaim

def activateAgentExecution (request : AgentActivationRequest) : CoordinationM AgentActivation :=
  activateAgentExecutionInner request none none

/-! ## Follow-ups -/

def originalMessageId (sourceId : String) : String :=
  (Text.stripStem "agent-message-queue:" sourceId).getD sourceId

def sourceDelivery : Option String → CoordinationM (Option AgentMessageDeliveryReceipt)
  | none => pure none
  | some sourceId =>
    load fun tables => tables.getAgentMessageDeliveryByMessageId (originalMessageId sourceId)

def hasReply : Option String → CoordinationM Bool
  | none => pure false
  | some sourceId => do
    let reply ← load fun tables => tables.getAgentMessageReply (originalMessageId sourceId)
    pure reply.isSome

def completedAllowsFollowUp (delivery : Option AgentMessageDeliveryReceipt) : CoordinationM Bool :=
  if delivery.any fun delivery => delivery.request.fromSessionId.isNone then pure true
  else if turn.terminalReasonCode = some "review_no_reply" ∨
      turn.terminalReasonCode = some "agent_message_no_reply" then pure true
  else hasReply turn.request.provenance.sourceId

def serialAllowsFollowUp (delivery : Option AgentMessageDeliveryReceipt) : CoordinationM Bool :=
  match turn.phase with
  | .failed | .interrupted | .outcomeUnknown => pure true
  | .completed => completedAllowsFollowUp turn delivery
  | _ => pure false

def routedAllowsFollowUp (delivery : Option AgentMessageDeliveryReceipt) : CoordinationM Bool := do
  let found ← load fun tables => tables.bindings.find? turn.request.bindingId
  let binding ← require found .persistenceFailure "serial review turn binding was not found"
  if binding.messageDeliveryPolicy ≠ .serialNextTurn then pure true
  else serialAllowsFollowUp turn delivery

def externalTurnAllowsFollowUpPromotion : CoordinationM Bool :=
  if turn.request.provenance.kind ≠ .routedAgentMessage then pure true
  else do
    let delivery ← sourceDelivery turn.request.provenance.sourceId
    if delivery.any fun delivery => delivery.request.replyToMessageId.isSome then pure true
    else routedAllowsFollowUp turn delivery

def nextFilter : QueuedMessageFilter :=
  ⟨some .pending, some sessionId, none, some 1⟩

def cancelledMessage (now : IsoTimestamp) (reason : String) (queued : QueuedMessageRecord) :
    QueuedMessageRecord :=
  { queued with state := .cancelled, terminalAt := some now, stateReason := some reason }

def cancelPending (now : IsoTimestamp) : CoordinationM Unit := do
  let pending ← load fun tables => tables.queue.loadQueuedMessages (pendingFilter sessionId)
  forEach (fun queued => saveQueuedMessage
    (cancelledMessage now "agent_message_recipient_session_changed" queued)) pending

variable (queued : QueuedMessageRecord)

def followUpDelivery : CoordinationM (Option AgentMessageDeliveryReceipt) :=
  match queued.stateReason.bind (Text.stripStem "agent_delivery:") with
  | none => pure none
  | some deliveryId => do
    let found ← load fun tables => tables.deliveries.find? ⟨deliveryId⟩
    let delivery ← require found .persistenceFailure
      s!"queued external follow-up references missing delivery {deliveryId}"
    pure (some delivery)

def followUpImages : Option AgentMessageDeliveryReceipt → CoordinationM (List ExternalTurnInputPart)
  | none => pure []
  | some delivery => do
    let ownerSessionId ← require queued.ownerSessionId .persistenceFailure
      "queued external image message has no owner session"
    externalImageInputs ownerSessionId delivery.request.imageAttachmentIds

def followUpRequestId : ExternalTurnRequestId :=
  ⟨"external-follow-up:" ++ queued.messageId⟩

def followUpKind : Option AgentMessageDeliveryReceipt → TurnInputProvenanceKind
  | some delivery => delivery.request.inputKind.provenance
  | none => .scheduledWake

def followUpRequest
    (delivery : Option AgentMessageDeliveryReceipt) (images : List ExternalTurnInputPart)
    (now : IsoTimestamp) : AgentActivationRequest where
  agentId := queued.message.toAgent
  requestId := followUpRequestId queued
  idempotencyKey := "external-follow-up:" ++ queued.messageId
  input := .text queued.message.body :: images
  collaborationMode := none
  provenance := ⟨followUpKind delivery, some queued.messageId, queued.message.correlationId⟩
  runId := none
  capacityLeaseId := "external-follow-up-capacity:" ++ queued.messageId
  directWakeId := "external-follow-up-wake:" ++ queued.messageId
  queuedMessageId := "external-follow-up-queue:" ++ queued.messageId
  createdAt := now
  expiresAt := some queued.expiresAt

def followUpTarget (delivery : Option AgentMessageDeliveryReceipt) :
    Option AgentRouteResolvedTarget :=
  (delivery.bind fun delivery => delivery.request.routing).map (·.resolvedTarget)

def finishPromotion (now : IsoTimestamp) :
    AgentActivation → CoordinationM (Option ExternalTurnCorrelation)
  | .rejected reasonCode =>
    if reasonCode = "agent_route_activation_target_changed" then do
      saveQueuedMessage (cancelledMessage now "agent_route_activation_target_changed" queued)
      pure none
    else pure none
  | .externalTurnRequested .. => do
    let found ← load fun tables => tables.turns.find? (followUpRequestId queued)
    let turn ← require found .internalError
      ("promoted external turn " ++ (followUpRequestId queued).raw ++ " was not persisted")
    pure (some turn)
  | _ => pure none

def promoteMessage (now : IsoTimestamp) : CoordinationM (Option ExternalTurnCorrelation) := do
  let delivery ← followUpDelivery queued
  let images ← followUpImages queued delivery
  let activation ← activateAgentExecutionInner (followUpRequest queued delivery images now)
    (some (queued.messageId, now)) (followUpTarget delivery)
  finishPromotion queued now activation

def recipientSessionChanged (session : Option SessionState) : Bool :=
  session.all fun session => session.agentId ≠ queued.message.toAgent || session.status = .archived

def expireQueuedMessagesAt (now : IsoTimestamp) : CoordinationM Unit :=
  inStore fun tables => pure ((), { tables with queue := tables.queue.expireQueuedMessagesAt now })

def promoteNextExternalFollowUp (now : IsoTimestamp) :
    CoordinationM (Option ExternalTurnCorrelation) := do
  expireQueuedMessagesAt now
  let pending ← load fun tables => tables.queue.loadQueuedMessages (nextFilter sessionId)
  match pending.head? with
  | none => pure none
  | some queued => do
    let session ← findSession sessionId
    if recipientSessionChanged queued session then do
      cancelPending sessionId now
      pure none
    else promoteMessage queued now

/-! ## Transitions -/

def findTurn (requestId : ExternalTurnRequestId) : CoordinationM ExternalTurnCorrelation := do
  let found ← load fun tables => tables.turns.find? requestId
  require found .notFound s!"external turn {requestId.raw} was not found"

def followUp : CoordinationM Unit := do
  let allowed ← externalTurnAllowsFollowUpPromotion turn
  if allowed then do
    let _ ← promoteNextExternalFollowUp turn.request.sessionId turn.updatedAt
  else pure ()

def transitionExternalTurnWithError (transition : ExternalTables.TurnTransition) :
    CoordinationM ExternalTurnCorrelation := do
  let current ← findTurn transition.requestId
  let saved ← inStore fun tables =>
    tables.updateExternalTurn (transition.next current) current.revision
  if current.phase.isTerminal = false ∧ transition.nextPhase.isTerminal then followUp saved
  else pure ()
  pure saved

def transitionExternalTurn (requestId : ExternalTurnRequestId) (nextPhase : ExternalTurnPhase)
    (nativeTurnId terminalReasonCode : Option String) (now : IsoTimestamp) :
    CoordinationM ExternalTurnCorrelation :=
  transitionExternalTurnWithError
    ⟨requestId, nextPhase, nativeTurnId, terminalReasonCode, none, now⟩

def validateExternalController (runtimeId : ExternalRuntimeId)
    (controller : ExternalControllerContext) : CoordinationM ExternalControllerLease := do
  let time ← now
  inStore fun tables => do
    let lease ← tables.validateExternalController runtimeId controller time
    pure (lease, tables)

def transitionExternalTurnFromController (controller : ExternalControllerContext)
    (transition : ExternalTables.TurnTransition) : CoordinationM ExternalTurnCorrelation := do
  let current ← findTurn transition.requestId
  let _ ← validateExternalController current.runtimeId controller
  transitionExternalTurnWithError transition

/-! ## Reconciliation -/

def isSerial (binding : ExternalAgentBinding) : Bool :=
  binding.isRoutable && binding.messageDeliveryPolicy = .serialNextTurn

def firstPerSession (inspected : List SessionId) :
    List ExternalAgentBinding → List (SessionId × ExternalAgentBinding)
  | [] => []
  | binding :: rest =>
    match binding.sessionId with
    | none => firstPerSession inspected rest
    | some sessionId =>
      if sessionId ∈ inspected then firstPerSession inspected rest
      else (sessionId, binding) :: firstPerSession (sessionId :: inspected) rest

def latestTurn (binding : ExternalAgentBinding) : CoordinationM (Option ExternalTurnCorrelation) :=
  match binding.nativeThreadId with
  | none => pure none
  | some nativeThreadId => do
    let turns ← load fun tables =>
      tables.listExternalTurnsForNativeThread binding.runtimeId nativeThreadId
    pure (turns.reverse.find? (isTurnOf sessionId))

def latestAllowsFollowUp : Option ExternalTurnCorrelation → CoordinationM Bool
  | none => pure true
  | some turn => externalTurnAllowsFollowUpPromotion turn

def reconcileSession (now : IsoTimestamp) (idle : SessionId × ExternalAgentBinding) :
    CoordinationM (Option ExternalTurnRequestId) := do
  let pending ← load fun tables => tables.queue.loadQueuedMessages (nextFilter idle.1)
  if pending = [] then pure none
  else do
    let latest ← latestTurn idle.1 idle.2
    let allowed ← latestAllowsFollowUp latest
    if allowed then do
      let promoted ← promoteNextExternalFollowUp idle.1 now
      pure (promoted.map (·.requestId))
    else pure none

def reconcileIdleExternalFollowUps (now : IsoTimestamp) :
    CoordinationM (List ExternalTurnRequestId) := do
  let turns ← load ExternalTables.listNonterminalExternalTurns
  let bindings ← load ExternalTables.listExternalAgentBindings
  gather (reconcileSession now) ((firstPerSession [] (bindings.filter isSerial)).filter
    fun idle => !turns.any (isTurnOf idle.1))

/-! ## Hydration -/

structure ExternalRuntimeHydrationReport where
  (runtimeCount bindingCount : Nat)
  (terminalizedRequestIds driverReconciliationRequestIds : List ExternalTurnRequestId)
  expiredInteractionIds : List ExternalInteractionId
  expiredRoundIds : List AgentRoundId
  reconciledDeliveryIds : List AgentMessageDeliveryId
  deriving DecidableEq, Repr

def sessionUnavailable (session : Option SessionState) : Bool :=
  session.all fun session => session.status = .archived

def runtimeUnavailable (runtime : Option ExternalRuntimeRegistration) : Bool :=
  runtime.all fun runtime =>
    runtime.desiredState ≠ .enabled || runtime.observedState = .incompatible

def hydratedPhase (session : Option SessionState) (runtime : Option ExternalRuntimeRegistration) :
    Option (ExternalTurnPhase × String) :=
  if sessionUnavailable session then some (.interrupted, "external_session_unavailable")
  else if runtimeUnavailable runtime then some (.outcomeUnknown, "external_runtime_unavailable")
  else none

def hydrateTurn (runtimes : List ExternalRuntimeRegistration) (now : IsoTimestamp)
    (turn : ExternalTurnCorrelation) : CoordinationM (Option (ExternalTurnRequestId × Bool)) := do
  let session ← findSession turn.request.sessionId
  match hydratedPhase session (runtimes.find? fun runtime =>
      runtime.runtimeId = turn.runtimeId) with
  | some (phase, reason) => do
    let _ ← transitionExternalTurn turn.requestId phase none (some reason) now
    pure (some (turn.requestId, true))
  | none => pure (some (turn.requestId, false))

def hydrateInteraction (now : IsoTimestamp) (interaction : ExternalInteractionRecord) :
    CoordinationM (Option ExternalInteractionId) :=
  if interaction.expiresAt ≤ now then do
    let _ ← inStore fun tables => tables.updateExternalInteraction
      { interaction with status := .expired, resolvedAt := some now } interaction.revision
    pure (some interaction.interactionId)
  else pure none

def expiredRound (now : IsoTimestamp) (round : AgentCorrelatedRound) : AgentCorrelatedRound :=
  { round with
    status := .expired, terminalReasonCode := some "agent_round_timeout", terminalAt := some now }

def hydrateRound (now : IsoTimestamp) (round : AgentCorrelatedRound) :
    CoordinationM (Option AgentRoundId) :=
  if round.expiresAt ≤ now then do
    let expired ← inStore fun tables =>
      tables.updateAgentCorrelatedRound (expiredRound now round) round.revision
    let _ ← publish expired.observed
    pure (some round.roundId)
  else pure none

def reconciledDelivery (now : IsoTimestamp) (delivery : AgentMessageDeliveryReceipt) :
    AgentMessageDeliveryReceipt :=
  if delivery.request.expiresAt ≤ now then
    { delivery with
      status := .expired, reasonCode := some "agent_message_expired", terminalAt := some now }
  else
    { delivery with
      status := .rejected, reasonCode := some "delivery_outcome_unknown_after_restart"
      terminalAt := some now }

/-- A steer is left to the controller of the runtime. -/
def hydrateDelivery (now : IsoTimestamp) (delivery : AgentMessageDeliveryReceipt) :
    CoordinationM (Option AgentMessageDeliveryId) :=
  if delivery.activation.any AgentActivation.isSteer then pure none
  else do
    let saved ← inStore fun tables =>
      tables.updateAgentMessageDelivery (reconciledDelivery now delivery) delivery.revision
    let _ ← publish saved.observed
    pure (some saved.deliveryId)

def listExternalRuntimeRegistrations (tables : ExternalTables) :
    List ExternalRuntimeRegistration :=
  orderedBy (·.runtimeId.raw) (·.runtimeId.raw) tables.registrations.rows

def hydrateExternalRuntimeLifecycle (now : IsoTimestamp) :
    CoordinationM ExternalRuntimeHydrationReport := do
  let runtimes ← load listExternalRuntimeRegistrations
  let bindings ← load ExternalTables.listExternalAgentBindings
  let turns ← load ExternalTables.listNonterminalExternalTurns
  let hydrated ← gather (hydrateTurn runtimes now) turns
  let interactions ← load ExternalTables.listPendingExternalInteractions
  let expiredInteractionIds ← gather (hydrateInteraction now) interactions
  let rounds ← load ExternalTables.listPendingAgentRounds
  let expiredRoundIds ← gather (hydrateRound now) rounds
  let deliveries ← load ExternalTables.listPendingAgentMessageDeliveries
  let reconciledDeliveryIds ← gather (hydrateDelivery now) deliveries
  pure
    { runtimeCount := runtimes.length
      bindingCount := bindings.length
      terminalizedRequestIds := (hydrated.filter (·.2)).map (·.1)
      driverReconciliationRequestIds := (hydrated.filter (!·.2)).map (·.1)
      expiredInteractionIds
      expiredRoundIds
      reconciledDeliveryIds }

/-! ## Runs -/

inductive TurnCall where
  | activate (request : AgentActivationRequest) (target : Option AgentRouteResolvedTarget)
  | promote (sessionId : SessionId) (now : IsoTimestamp)
  | transition (requested : ExternalTables.TurnTransition)
  | transitionFromController (controller : ExternalControllerContext)
      (requested : ExternalTables.TurnTransition)
  | reconcile (now : IsoTimestamp)
  | hydrate (now : IsoTimestamp)
  /-- The calls that leave the turns alone. -/
  | elsewhere (other : CoordinationEngine)

def TurnCall.perform : TurnCall → CoordinationM Unit
  | .activate request target => discardResult (activateAgentExecutionInner request none target)
  | .promote sessionId now => discardResult (promoteNextExternalFollowUp sessionId now)
  | .transition requested => discardResult (transitionExternalTurnWithError requested)
  | .transitionFromController controller requested =>
    discardResult (transitionExternalTurnFromController controller requested)
  | .reconcile now => discardResult (reconcileIdleExternalFollowUps now)
  | .hydrate now => discardResult (hydrateExternalRuntimeLifecycle now)
  | .elsewhere other => Attended.transact fun engine =>
    pure ((), { other with tables := { other.tables with turns := engine.tables.turns } })

def CoordinationEngine.runTurns (engine : CoordinationEngine)
    (attendance : TurnCall × (Nat → Surroundings)) : CoordinationEngine :=
  (attendance.1.perform ⟨engine, attendance.2⟩).2.state

end RustyCrew.Coordination

import RustyCrew.Coordination.Types
import RustyCrew.Engine.Queue
import RustyCrew.Persistence.Store

namespace RustyCrew.Coordination

open Library Protocol
open RustyCrew.Persistence (persistenceError)
open RustyCrew.Engine (Queue QueuedMessageRecord QueuedMessageFilter pendingFilter)

structure ExternalRuntimeEventCursor where
  runtimeId : ExternalRuntimeId
  nextSequenceId : Nat
  deriving DecidableEq, Repr

structure ExternalRuntimeEventCheckpoint where
  runtimeId : ExternalRuntimeId
  (nativeTurnId nativeThreadId : String)
  sessionId : SessionId
  terminalPhase : ExternalTurnPhase
  terminalAt : IsoTimestamp
  (firstSequenceId lastSequenceId compactedEventCount estimatedCompactedBytes : Nat)
  kindCounts : List (String × Nat)
  (checkpointedAt policyCutoff : IsoTimestamp)
  deriving DecidableEq, Repr

def ExternalRuntimeEventCheckpoint.turn (checkpoint : ExternalRuntimeEventCheckpoint) :
    ExternalRuntimeId × String := (checkpoint.runtimeId, checkpoint.nativeTurnId)

/-- The tables of the external runtime and of agent messaging, with the ids of the stored sessions
that their foreign keys refer to. -/
structure ExternalTables where
  sessions : List SessionId
  registrations : Table ExternalRuntimeRegistration.runtimeId
  controllerLeases : Table ExternalControllerLease.runtimeId
  bindings : Table ExternalAgentBinding.bindingId
  turns : Table ExternalTurnCorrelation.requestId
  interactions : Table ExternalInteractionRecord.interactionId
  events : Table NormalizedExternalRuntimeEvent.eventId
  cursors : Table ExternalRuntimeEventCursor.runtimeId
  checkpoints : Table ExternalRuntimeEventCheckpoint.turn
  deliveries : Table AgentMessageDeliveryReceipt.deliveryId
  rounds : Table AgentCorrelatedRound.roundId
  routes : Table AgentRouteRecord.routeKey
  queue : Queue
  deriving DecidableEq

def ExternalTables.empty : ExternalTables :=
  ⟨[], .empty, .empty, .empty, .empty, .empty, .empty, .empty, .empty, .empty, .empty, .empty,
    .empty⟩

def foreignKeyFailed (context : String) : CoreError :=
  persistenceError context "FOREIGN KEY constraint failed"

def uniqueFailed (context columns : String) : CoreError :=
  persistenceError context ("UNIQUE constraint failed: " ++ columns)

def notFound (label : String) : CoreError := ⟨.notFound, label ++ " was not found"⟩

def revisionConflict (label : String) (expected found : Nat) : CoreError :=
  ⟨.actionRejected, s!"{label} revision mismatch: expected {expected}, found {found}"⟩

def validateExpectedRevision (label id : String) : Option Nat → Option Nat → CoreResult Unit
  | none, none => .ok ()
  | some found, some expected =>
    rejectIf (found ≠ expected) ⟨.actionRejected,
      s!"{label} {id} revision mismatch: expected Some({expected}), found {found}"⟩
  | none, some expected => .error ⟨.notFound,
      s!"{label} {id} revision mismatch: expected {expected}, record is missing"⟩
  | some found, none => .error ⟨.actionRejected,
      s!"{label} {id} revision mismatch: expected None, found {found}"⟩

def orderedBy {α : Type} (first second : α → String) (rows : List α) : List α :=
  rows.insertionSort fun a b => first a < first b ∨ first a = first b ∧ second a ≤ second b

namespace ExternalTables

variable (tables : ExternalTables)

def saveSession (sessionId : SessionId) : ExternalTables :=
  if sessionId ∈ tables.sessions then tables
  else { tables with sessions := tables.sessions ++ [sessionId] }

/-! ## Runtimes and their controllers -/

def putExternalRuntimeRegistration
    (record : ExternalRuntimeRegistration) (expectedRevision : Option Nat) :
    CoreResult (ExternalRuntimeRegistration × ExternalTables) := do
  validateExternalRuntimeRegistration record
  let current := (tables.registrations.find? record.runtimeId).map (·.revision)
  validateExpectedRevision "external runtime" record.runtimeId.raw current expectedRevision
  let saved := { record with revision := (current.map (· + 1)).getD 1 }
  pure (saved, { tables with registrations := tables.registrations.put saved })

def maxGeneration : Nat := 2 ^ 64 - 1

def saturatingSucc (generation : Nat) : Nat := min (generation + 1) maxGeneration

def grantedLease (candidate : ExternalControllerLease) :
    Option ExternalControllerLease → ExternalControllerLease
  | none => { candidate with generation := 1, revision := 1 }
  | some current =>
    { candidate with
      generation :=
        if current.holderInstanceId = candidate.holderInstanceId then current.generation
        else saturatingSucc current.generation
      revision := current.revision + 1 }

def acquireExternalControllerLease (candidate : ExternalControllerLease)
    (now : IsoTimestamp) : CoreResult (ExternalControllerLease × ExternalTables) := do
  let current := tables.controllerLeases.find? candidate.runtimeId
  rejectIf (current.any fun current =>
      current.holderInstanceId ≠ candidate.holderInstanceId && now < current.expiresAt)
    ⟨.actionRejected, s!"external runtime {candidate.runtimeId.raw} controller lease is held by " ++
      "another instance"⟩
  rejectIf (tables.registrations.find? candidate.runtimeId = none)
    (foreignKeyFailed "save external controller lease")
  pure (grantedLease candidate current, { tables with
      controllerLeases := tables.controllerLeases.put (grantedLease candidate current) })

def releasedLease (current : ExternalControllerLease) (now : IsoTimestamp) :
    ExternalControllerLease :=
  { current with renewedAt := now, expiresAt := now, revision := current.revision + 1 }

def releaseExternalControllerLease (runtimeId : ExternalRuntimeId)
    (holderInstanceId : String) (generation : Nat) (now : IsoTimestamp) :
    CoreResult (ExternalControllerLease × ExternalTables) := do
  let current ← orFail (tables.controllerLeases.find? runtimeId)
    (notFound "external controller lease")
  rejectIf (current.holderInstanceId ≠ holderInstanceId ∨ current.generation ≠ generation)
    ⟨.actionRejected, "stale external controller cannot release the current lease"⟩
  pure (releasedLease current now,
    { tables with controllerLeases := tables.controllerLeases.put (releasedLease current now) })

/-- The check of the engine that a caller still controls a runtime. -/
def validateExternalController (runtimeId : ExternalRuntimeId)
    (context : ExternalControllerContext) (now : IsoTimestamp) :
    CoreResult ExternalControllerLease := do
  let lease ← orFail (tables.controllerLeases.find? runtimeId)
    ⟨.actionRejected, "external runtime has no active controller lease"⟩
  rejectIf (lease.holderInstanceId ≠ context.holderInstanceId ∨
      lease.generation ≠ context.generation ∨ lease.expiresAt ≤ now)
    ⟨.actionRejected, "external runtime controller lease is stale or expired"⟩
  pure lease

/-! ## Bindings -/

def isReplay (record stored : ExternalAgentBinding) : Bool :=
  stored.lineage.isSome && { record with revision := stored.revision } = stored

def namesPredecessor (bindingId : ExternalBindingId) (binding : ExternalAgentBinding) : Bool :=
  binding.lineage.any fun lineage => lineage.predecessorBindingId = bindingId

def savedBinding (record : ExternalAgentBinding) (current : Option ExternalAgentBinding) :
    ExternalAgentBinding :=
  { record with revision := (current.map (·.revision + 1)).getD 1 }

/-- The foreign keys and the two unique indexes of the table. -/
def checkBindingConstraints (saved : ExternalAgentBinding) : CoreResult Unit := do
  rejectIf (saved.activeCrewAgent.isSome ∧ tables.bindings.rows.any fun row =>
      row.bindingId ≠ saved.bindingId && row.activeCrewAgent = saved.activeCrewAgent)
    (uniqueFailed "save external agent binding" "external_agent_bindings.agent_id")
  rejectIf (saved.nativeThreadId.isSome ∧ tables.bindings.rows.any fun row =>
      row.bindingId ≠ saved.bindingId && row.runtimeId = saved.runtimeId &&
        row.nativeThreadId = saved.nativeThreadId)
    (uniqueFailed "save external agent binding"
      "external_agent_bindings.runtime_id, external_agent_bindings.native_thread_id")
  rejectIf (tables.registrations.find? saved.runtimeId = none ∨
      saved.sessionId.any (· ∉ tables.sessions))
    (foreignKeyFailed "save external agent binding")

def writeBinding (record : ExternalAgentBinding)
    (expectedRevision : Option Nat) : CoreResult (ExternalAgentBinding × ExternalTables) := do
  let current := tables.bindings.find? record.bindingId
  validateExpectedRevision "external binding" record.bindingId.raw (current.map (·.revision))
    expectedRevision
  validateExternalAgentBindingTransition current
    (record.lineage.bind fun lineage => tables.bindings.find? lineage.predecessorBindingId)
    (tables.bindings.rows.any (namesPredecessor record.bindingId)) record
  checkBindingConstraints tables (savedBinding record current)
  pure (savedBinding record current,
    { tables with bindings := tables.bindings.put (savedBinding record current) })

def putExternalAgentBinding (record : ExternalAgentBinding)
    (expectedRevision : Option Nat) : CoreResult (ExternalAgentBinding × ExternalTables) := do
  record.validate
  match (tables.bindings.find? record.bindingId).filter (isReplay record) with
  | some stored => pure (stored, tables)
  | none => writeBinding tables record expectedRevision

def getExternalBindingForAgent (agentId : AgentId) : Option ExternalAgentBinding :=
  (tables.bindings.rows.find? fun row => row.activeCrewAgent = some agentId).filter
    ExternalAgentBinding.isRoutable

def listExternalAgentBindings : List ExternalAgentBinding :=
  orderedBy (·.bindingId.raw) (·.bindingId.raw) tables.bindings.rows

/-! ## Turns -/

/-- The constraints of the table and its foreign keys, and the insertion. -/
def insertExternalTurn (context : String)
    (record : ExternalTurnCorrelation) : CoreResult ExternalTables := do
  rejectIf (tables.turns.find? record.requestId ≠ none)
    (uniqueFailed context "external_turns.request_id")
  rejectIf (record.nativeTurnId.isSome ∧ tables.turns.rows.any fun row =>
      row.runtimeId = record.runtimeId && row.nativeTurnId = record.nativeTurnId)
    (uniqueFailed context "external_turns.runtime_id, external_turns.native_turn_id")
  rejectIf (tables.registrations.find? record.runtimeId = none ∨
      tables.bindings.find? record.request.bindingId = none ∨
      record.request.sessionId ∉ tables.sessions)
    (foreignKeyFailed context)
  pure { tables with turns := tables.turns.put record }

def turnWithIdempotencyKey (key : String) : Option ExternalTurnCorrelation :=
  tables.turns.rows.find? fun row => row.request.idempotencyKey = key

def createExternalTurn (record : ExternalTurnCorrelation) :
    CoreResult (ExternalTurnCorrelation × ExternalTables) :=
  match tables.turnWithIdempotencyKey record.request.idempotencyKey with
  | some existing => do
    rejectIf (existing ≠ record) ⟨.alreadyExists,
      "external turn idempotency key conflicts with a different request"⟩
    pure (existing, tables)
  | none => do
    let tables ← insertExternalTurn tables "save external turn" record
    pure (record, tables)

def unclaimedMessage (now : IsoTimestamp) (queued : QueuedMessageRecord) : QueuedMessageRecord :=
  { queued with
    state := .expired, terminalAt := some now
    stateReason := some "ttl_expired_before_external_turn_claim" }

def promotedMessage (now : IsoTimestamp) (requestId : ExternalTurnRequestId)
    (queued : QueuedMessageRecord) : QueuedMessageRecord :=
  { queued with
    state := .delivered, deliveryAttempts := queued.deliveryAttempts + 1, terminalAt := some now
    stateReason := some ("promoted_to_external_turn:" ++ requestId.raw) }

def claimableMessage (sessionId : SessionId) (messageId : String) : Option QueuedMessageRecord :=
  (tables.queue.loadQueuedMessages (pendingFilter sessionId)).find? fun queued =>
    queued.messageId = messageId

def promoteQueuedMessageToExternalTurn (queuedMessageId : String)
    (now : IsoTimestamp) (record : ExternalTurnCorrelation) :
    CoreResult (Option ExternalTurnCorrelation × ExternalTables) :=
  match tables.turnWithIdempotencyKey record.request.idempotencyKey with
  | some existing => do
    rejectIf (existing ≠ record) ⟨.alreadyExists,
      "external turn idempotency key conflicts with a different queued request"⟩
    pure (some existing, tables)
  | none =>
    match tables.claimableMessage record.request.sessionId queuedMessageId with
    | none => pure (none, tables)
    | some queued =>
      if queued.expiresAt ≤ now then
        pure (none,
          { tables with queue := tables.queue.saveQueuedMessage (unclaimedMessage now queued) })
      else do
        let tables ← insertExternalTurn tables "save promoted external turn" record
        pure (some record, { tables with
            queue := tables.queue.saveQueuedMessage (promotedMessage now record.requestId queued) })

def validateExternalTurnTransition (current next : ExternalTurnPhase) : CoreResult Unit :=
  rejectIf (current.canTransitionTo next = false) ⟨.actionRejected,
      s!"invalid external turn transition {current.debugName} -> {next.debugName}"⟩

/-- The engine only passes records that keep the request, the runtime and the thread, so that the
columns an update leaves alone stay those of the record. -/
def updateExternalTurn (next : ExternalTurnCorrelation)
    (expectedRevision : Nat) : CoreResult (ExternalTurnCorrelation × ExternalTables) := do
  let current ← orFail (tables.turns.find? next.requestId) (notFound "external turn")
  if current = next then pure (current, tables)
  else do
    rejectIf (current.revision ≠ expectedRevision)
      (revisionConflict "external turn" expectedRevision current.revision)
    validateExternalTurnTransition current.phase next.phase
    rejectIf (next.phase.isTerminal ∧ next.capacityLeaseId.isSome)
      ⟨.actionRejected, "terminal external turn must release capacity"⟩
    rejectIf (current.nativeTurnId.isSome ∧ next.nativeTurnId ≠ current.nativeTurnId)
      ⟨.actionRejected, "external turn native_turn_id cannot be rebound"⟩
    rejectIf (current.phase.isTerminal) ⟨.actionRejected, "terminal external turn is immutable"⟩
    rejectIf (next.nativeTurnId.isSome ∧ tables.turns.rows.any fun row =>
        row.requestId ≠ next.requestId && row.runtimeId = next.runtimeId &&
          row.nativeTurnId = next.nativeTurnId)
      (uniqueFailed "update external turn"
        "external_turns.runtime_id, external_turns.native_turn_id")
    let saved := { next with revision := current.revision + 1 }
    pure (saved, { tables with turns := tables.turns.put saved })

structure TurnTransition where
  requestId : ExternalTurnRequestId
  nextPhase : ExternalTurnPhase
  (nativeTurnId terminalReasonCode : Option String)
  terminalError : Option ExternalTurnTerminalError
  now : IsoTimestamp
  deriving DecidableEq, Repr

def TurnTransition.next (transition : TurnTransition) (current : ExternalTurnCorrelation) :
    ExternalTurnCorrelation :=
  { current with
    phase := transition.nextPhase
    nativeTurnId := transition.nativeTurnId <|> current.nativeTurnId
    terminalReasonCode := transition.terminalReasonCode
    terminalError := transition.terminalError
    updatedAt := transition.now
    capacityLeaseId :=
      if transition.nextPhase.isTerminal then none else current.capacityLeaseId }

def applyTransition (transition : TurnTransition) :
    CoreResult ((ExternalTurnCorrelation × ExternalTurnCorrelation) × ExternalTables) := do
  let current ← orFail (tables.turns.find? transition.requestId)
    (notFound ("external turn " ++ transition.requestId.raw))
  let (saved, tables) ← tables.updateExternalTurn (transition.next current) current.revision
  pure ((current, saved), tables)

def listNonterminalExternalTurns : List ExternalTurnCorrelation :=
  orderedBy (·.updatedAt) (·.requestId.raw) (tables.turns.select fun turn => !turn.phase.isTerminal)

def listExternalTurnsForNativeThread (runtimeId : ExternalRuntimeId)
    (nativeThreadId : String) : List ExternalTurnCorrelation :=
  orderedBy (·.updatedAt) (·.requestId.raw) (tables.turns.select fun turn =>
    turn.runtimeId = runtimeId && turn.nativeThreadId = nativeThreadId)

end ExternalTables

end RustyCrew.Coordination

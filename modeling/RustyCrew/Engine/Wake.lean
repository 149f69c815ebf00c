import RustyCrew.Engine.LogicalTurns

namespace RustyCrew.Engine

open Library Protocol RustyCrew.Persistence Effect

structure LogicalTurnWakePreparation where
  bodyStateJson : List UInt8
  systemPrompt : String
  roleAssemblyJson : List UInt8
  continuationState : Option BrainContinuationPayload
  claim : LogicalTurnContinuationClaim
  deriving DecidableEq

structure ClaimedInput where
  claim : LogicalTurnContinuationClaim
  bodyStateJson : List UInt8
  systemPrompt : String
  roleAssemblyJson : List UInt8
  resumed : Bool
  deriving DecidableEq

namespace CoreEngine

variable (services : Services)

def loadQueuedMessages (filter : QueuedMessageFilter) : EngineM (List QueuedMessageRecord) := do
  storeCall services
  read fun e => e.queue.loadQueuedMessages filter

def saveQueuedMessage (record : QueuedMessageRecord) : EngineM Unit := do
  storeCall services
  edit fun e => { e with queue := e.queue.saveQueuedMessage record }

/-- Withdraw a queued message, if it is still pending with the reason it was loaded with. -/
def cancelPendingQueuedDirectDelivery (sessionId : SessionId) (queued : QueuedMessageRecord)
    (now : IsoTimestamp) (reasonCode : String) : EngineM Unit := do
  let pending ← loadQueuedMessages services (pendingFilter sessionId)
  match pending.find? fun current =>
      current.messageId = queued.messageId ∧ current.stateReason = queued.stateReason with
  | some current =>
    saveQueuedMessage services
      { current with state := .cancelled, terminalAt := some now, stateReason := some reasonCode }
  | none => pure ()

def checkPendingDirectMessage (sessionId : SessionId) (session : SessionState)
    (checkedAt : IsoTimestamp) (queued : QueuedMessageRecord) : EngineM Unit := do
  let verdict ← lift (services.queuedDirectDeliveryRearmable session queued)
  match verdict with
  | .cancel reasonCode =>
    cancelPendingQueuedDirectDelivery services sessionId queued checkedAt reasonCode
  | .skip | .rearm => pure ()

def validatePendingDirectAgentMessagesForWake (sessionId : SessionId) : EngineM Unit := do
  let checkedAt ← now services
  let session ← lift (services.getSession sessionId)
  let pending ← loadQueuedMessages services (pendingFilter sessionId)
  forEach (checkPendingDirectMessage services sessionId session checkedAt) pending

def drainMessage (drainedAt : IsoTimestamp) (deliveredIds : List String)
    (record : QueuedMessageRecord) : EngineM (Option QueuedMessageRecord) := do
  let includeInWake := deliveredIds.contains record.messageId
  let drained := drainedMessage drainedAt includeInWake record
  saveQueuedMessage services drained
  pure (if includeInWake then some drained else none)

/-- The steps of `drainFollowUpQueueForWake`, each a store call of its own. -/
def drainBodyFollowUpMessagesForWake (sessionId : SessionId) (maxDeliveredMessages : Option Nat) :
    EngineM (List QueuedMessageRecord) := do
  let drainedAt ← now services
  storeCall services
  edit fun e => { e with queue := e.queue.expireQueuedMessagesAt drainedAt }
  let pending ← loadQueuedMessages services (pendingFilter sessionId)
  let deliveredIds :=
    applyHistoryWindow (pending.map QueuedMessageRecord.messageId) maxDeliveredMessages
  gather (drainMessage services drainedAt deliveredIds) pending

def prepareBodyStateForWake (sessionId : SessionId) : EngineM BodyState := do
  validatePendingDirectAgentMessagesForWake services sessionId
  let state ← lift (services.projectBodyState sessionId)
  let queuedCapacity := (state.session.historyWindow.bind SessionHistoryWindow.maxMessages).map
    fun maxMessages => maxMessages - state.pendingMessages.length
  let queued ← drainBodyFollowUpMessagesForWake services sessionId queuedCapacity
  pure { state with
    pendingMessages := state.pendingMessages ++ queued.map QueuedMessageRecord.message }

def requiredLogicalTurnContent (contentRef : String) : EngineM (List UInt8) := do
  let content ← loadStore services fun s => s.loadLogicalTurnContent contentRef
  lift (orFail content
    ⟨.internalError, "logical turn frozen content " ++ contentRef ++ " is missing"⟩)

def encodeBodyState (failure : String) (state : BodyState) : CoreResult (List UInt8) :=
  match services.encodeBodyState state with
  | .ok bytes => .ok bytes
  | .error error => .error ⟨.internalError, failure ++ ": " ++ error⟩

def refreshLogicalTurnDelegationProjection (sessionId : SessionId)
    (frozenBodyState : List UInt8) : CoreResult (List UInt8) := do
  let bodyState ←
    match services.decodeBodyState frozenBodyState with
    | .ok bodyState => .ok bodyState
    | .error error =>
      .error ⟨.internalError, "decode frozen logical turn body state: " ++ error⟩
  let current ← services.projectBodyState sessionId
  encodeBodyState services "encode refreshed logical turn body state"
    { bodyState with
      childCompletions := current.childCompletions
      fanOutGroups := current.fanOutGroups }

def decodeSystemPrompt (bytes : List UInt8) : CoreResult String :=
  orFail (String.fromUTF8? ⟨bytes.toArray⟩)
    ⟨.internalError, "logical turn system prompt is not UTF-8: " ++ services.utf8Error bytes⟩

def logicalTurnAdmission (wake : Wake) (bodyStateJson : List UInt8) :
    EngineM LogicalTurnAdmissionWrite := do
  let admittedAt ← now services
  let binding ← lift (logicalTurnBinding services wake.registration
    (sha256Text wake.systemPrompt) (sha256Hex wake.roleAssemblyJson))
  pure (admissionWrite wake binding bodyStateJson admittedAt)

def resumeTicket (wake : Wake) (ticket : LogicalTurnContinuationTicket) :
    EngineM ClaimedInput := do
  let stored ← loadStore services fun s => s.loadTurn ticket.logicalTurnId
  let record ← lift
    (orFail stored ⟨.internalError, "logical turn ticket references a missing turn"⟩)
  let claimedAt ← now services
  let claim ← claimLogicalTurn services
    (claimRequest record ticket.continuationId services.serviceInstanceId claimedAt)
  let frozen := claim.checkpoint.frozenInput
  let frozenBodyState ← requiredLogicalTurnContent services frozen.bodyStateRef
  let bodyStateJson ← lift
    (refreshLogicalTurnDelegationProjection services wake.sessionId frozenBodyState)
  let promptBytes ← requiredLogicalTurnContent services frozen.systemPromptRef
  let systemPrompt ← lift (decodeSystemPrompt services promptBytes)
  let roleAssemblyJson ← requiredLogicalTurnContent services frozen.roleAssemblyRef
  pure ⟨claim, bodyStateJson, systemPrompt, roleAssemblyJson, true⟩

def admitAndClaim (wake : Wake) : EngineM ClaimedInput := do
  let bodyState ← prepareBodyStateForWake services wake.sessionId
  let bodyStateJson ← lift
    (encodeBodyState services "serialize logical turn body state" bodyState)
  let admission ← logicalTurnAdmission services wake bodyStateJson
  let admitted ← admitLogicalTurn services admission
  let claimedAt ← now services
  let claim ← claimLogicalTurn services (claimRequest admitted.record
    admitted.record.currentContinuationId services.serviceInstanceId claimedAt)
  pure ⟨claim, bodyStateJson, wake.systemPrompt, wake.roleAssemblyJson, false⟩

def claimInput (wake : Wake) : Option LogicalTurnContinuationTicket → EngineM ClaimedInput
  | some ticket => resumeTicket services wake ticket
  | none => admitAndClaim services wake

def checkModule (wake : Wake) (claim : LogicalTurnContinuationClaim) : CoreResult Unit :=
  rejectIf (claim.checkpoint.moduleState.moduleId ≠ brainModuleId wake.registration)
    ⟨.actionRejected, "logical turn checkpoint belongs to brain module " ++
      claim.checkpoint.moduleState.moduleId ++ ", not " ++ brainModuleId wake.registration⟩

def sessionTickets (store : Store) (sessionId : SessionId) :
    List LogicalTurnContinuationTicket :=
  store.listLogicalTurnTickets.filter fun ticket => ticket.sessionId = sessionId

/-- The ticket a wake of the session resumes, if there is one; two are an error. -/
def runnableTicket (store : Store) (sessionId : SessionId) :
    CoreResult (Option LogicalTurnContinuationTicket) := do
  let tickets := sessionTickets store sessionId
  rejectIf (tickets.length > 1)
    ⟨.internalError, "session " ++ sessionId.raw ++ " has more than one runnable logical turn"⟩
  .ok tickets.head?

def prepareLogicalTurnWake (wake : Wake) : EngineM LogicalTurnWakePreparation := do
  let store ← loadStore services id
  let ticket ← lift (runnableTicket store wake.sessionId)
  let input ← claimInput services wake ticket
  lift (checkModule wake input.claim)
  -- The admission checkpoint holds frozen input of the service, not a payload of the brain.
  let continues := input.resumed ∧ input.claim.checkpoint.yieldReason ≠ .initialAdmission
  pure
    { bodyStateJson := input.bodyStateJson
      systemPrompt := input.systemPrompt
      roleAssemblyJson := input.roleAssemblyJson
      continuationState := if continues then some input.claim.checkpoint.moduleState else none
      claim := input.claim }

end CoreEngine

end RustyCrew.Engine

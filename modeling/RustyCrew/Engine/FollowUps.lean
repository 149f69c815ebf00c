import RustyCrew.Library.Effect
import RustyCrew.Library.Result
import RustyCrew.Library.Rfc3339
import RustyCrew.Engine.Services

namespace RustyCrew.Engine

open Library Protocol Effect

structure BodyDeltaPolicy where
  (queuedMessageTtlMs maxQueuedMessages : Nat)
  deriving DecidableEq, Repr

def defaultDeltaPolicy : BodyDeltaPolicy := ⟨5000, 32⟩

structure AgentMessageDeliveryRequest where
  (deliveryId messageId : String)
  fromAgentId : AgentId
  fromSessionId : Option SessionId
  toAgentId : AgentId
  toSessionId : Option SessionId
  correlationId : Option String
  (createdAt expiresAt : IsoTimestamp)
  deriving DecidableEq, Repr

/-- What the rest of the service answers during one operation on the queue. The clock may answer
differently each time it is used. -/
structure FollowUpServices where
  getSession : SessionId → CoreResult SessionState
  pendingMessagesForSession : SessionState → CoreResult (List AgentMessage)
  clock : Nat → IsoTimestamp
  parseRfc3339 : IsoTimestamp → CoreResult OffsetDateTime
  addMillisToIso : IsoTimestamp → Nat → CoreResult IsoTimestamp
  publish : CoreEvent → CoreResult Unit

structure ProjectedBody where
  session : SessionState
  pendingMessages : List AgentMessage
  deltaPolicy : BodyDeltaPolicy

abbrev QueueM := Effect Queue CoreError

section
variable (services : FollowUpServices)

def windowOf (session : SessionState) : Option Nat :=
  session.historyWindow.bind SessionHistoryWindow.maxMessages

def project (sessionId : SessionId) : CoreResult ProjectedBody := do
  let session ← services.getSession sessionId
  let routed ← services.pendingMessagesForSession session
  pure ⟨session, applyHistoryWindow routed (windowOf session), defaultDeltaPolicy⟩

/-! ## Enqueueing -/

def maxRoutedMessageBytes : Nat := 256 * 1024

def routedMessageTtl (request : AgentMessageDeliveryRequest) : CoreResult Nat := do
  let createdAt ← services.parseRfc3339 request.createdAt
  let expiresAt ← services.parseRfc3339 request.expiresAt
  let ttlMs := (expiresAt.instant - createdAt.instant).tdiv 1000000
  rejectIf (ttlMs ≤ 0 ∨ 2 ^ 32 - 1 < ttlMs) ⟨.invalidInput, "agent_message_ttl_out_of_bounds"⟩
  pure ttlMs.toNat

def routedQueueId (request : AgentMessageDeliveryRequest) : String :=
  "agent-message-queue:" ++ request.messageId

def routedMessage (sessionId : SessionId) (request : AgentMessageDeliveryRequest) (body : String)
    (queue : Queue) : CoreResult QueuedMessageRecord := do
  rejectIf (maxRoutedMessageBytes < body.utf8ByteSize)
    ⟨.invalidInput, "agent_message_body_too_large"⟩
  let session ← services.getSession sessionId
  rejectIf (session.status = .archived)
    ⟨.actionRejected, "agent_message_recipient_session_archived"⟩
  let state ← project services sessionId
  let pendingCount := (queue.loadQueuedMessages (pendingFilter sessionId)).length
  rejectIf (state.deltaPolicy.maxQueuedMessages ≤ pendingCount)
    ⟨.actionRejected, "agent_message_serial_inbox_full"⟩
  let ttlMs ← routedMessageTtl services request
  pure
    { messageId := routedQueueId request
      ownerSessionId := some sessionId
      ownerAgentId := session.agentId
      message :=
        { fromAgent := request.fromAgentId
          toAgent := request.toAgentId
          fromSessionId := request.fromSessionId
          toSessionId := request.toSessionId
          body := body
          correlationId := request.correlationId
          projection := none }
      sourceSequence := none
      enqueuedAt := request.createdAt
      expiresAt := request.expiresAt
      ttlMs := ttlMs
      deliveryAttempts := 0
      state := .pending
      terminalAt := none
      stateReason := some ("agent_delivery:" ++ request.deliveryId) }

def enqueueRoutedAgentMessageWithoutWake (sessionId : SessionId)
    (request : AgentMessageDeliveryRequest) (body : String) : QueueM QueuedMessageRecord := do
  let record ← check (routedMessage services sessionId request body)
  edit fun queue => queue.saveQueuedMessage record
  pure record

def sanitizedClockKey (now : IsoTimestamp) : String :=
  String.ofList (now.toList.map fun character => if character.isAlphanum then character else '_')

/-- `sequence` is the number that the process gives out next. -/
def nextQueuedMessageId (sessionId : SessionId) (now : IsoTimestamp) (sequence : Nat) : String :=
  "follow-up:" ++ sessionId.raw ++ ":" ++ sanitizedClockKey now ++ ":" ++ toString sequence

structure FollowUp where
  sessionId : SessionId
  fromAgent : AgentId
  body : String
  correlationId : Option String
  sequence : Nat
  deriving DecidableEq, Repr

/-- The record of a follow-up, with the policy it is queued under. Every kind of session can be
woken. -/
def followUpMessage (followUp : FollowUp) : CoreResult (QueuedMessageRecord × BodyDeltaPolicy) := do
  let session ← services.getSession followUp.sessionId
  rejectIf (session.status = .archived)
    ⟨.invalidInput, "session " ++ session.sessionId.raw ++ " cannot receive follow-up wakes"⟩
  let state ← project services followUp.sessionId
  let ttlMs := state.deltaPolicy.queuedMessageTtlMs
  let now := services.clock 0
  let expiresAt ← services.addMillisToIso now ttlMs
  pure
    ({ messageId := nextQueuedMessageId followUp.sessionId now followUp.sequence
       ownerSessionId := some followUp.sessionId
       ownerAgentId := session.agentId
       message :=
         { fromAgent := followUp.fromAgent
           toAgent := session.agentId
           fromSessionId := none
           toSessionId := some session.sessionId
           body := followUp.body
           correlationId := followUp.correlationId
           projection := none }
       sourceSequence := none
       enqueuedAt := now
       expiresAt := expiresAt
       ttlMs := ttlMs
       deliveryAttempts := 0
       state := .pending
       terminalAt := none
       stateReason := none }, state.deltaPolicy)

def enqueueBodyFollowUpMessageWithWake (followUp : FollowUp) (requestWake : Bool) :
    QueueM QueuedMessageRecord := do
  let (record, policy) ← lift (followUpMessage services followUp)
  edit fun queue => queue.saveQueuedMessage record
  edit fun queue =>
    enforceFollowUpQueueCap queue (services.clock 1) followUp.sessionId policy.maxQueuedMessages
  if requestWake then lift (services.publish (.brainWakeRequested followUp.sessionId))
  pure record

/-! ## Draining -/

structure WakeMessages where
  messages : List AgentMessage
  drained : List QueuedMessageRecord

def drainForWake (sessionId : SessionId) : QueueM WakeMessages := do
  let state ← lift (project services sessionId)
  let queuedCapacity := (windowOf state.session).map fun maxMessages =>
    maxMessages - state.pendingMessages.length
  let drained ← transact fun queue =>
    .ok (drainFollowUpQueueForWake queue (services.clock 0) sessionId queuedCapacity)
  pure ⟨state.pendingMessages ++ drained.map QueuedMessageRecord.message, drained⟩

end

/-! ## Runs -/

/-- A routed enqueue is the last step of `deliver_agent_message_with_reply`; the receipt and the
queue row of the message, which that function looks up first, are left out. -/
inductive FollowUpCall where
  | enqueueRouted (services : FollowUpServices) (sessionId : SessionId)
      (request : AgentMessageDeliveryRequest) (body : String)
  | enqueueFollowUp (services : FollowUpServices) (followUp : FollowUp) (requestWake : Bool)
  | cap (sessionId : SessionId) (now : IsoTimestamp) (maxQueuedMessages : Nat)
  | expire (now : IsoTimestamp)
  | drain (services : FollowUpServices) (sessionId : SessionId)

structure ObservedQueue where
  queue : Queue
  handed : List QueuedMessageRecord

def ObservedQueue.step (observed : ObservedQueue) : FollowUpCall → ObservedQueue
  | .enqueueRouted services sessionId request body =>
    { observed with
      queue := (enqueueRoutedAgentMessageWithoutWake services sessionId request body
        observed.queue).2 }
  | .enqueueFollowUp services followUp requestWake =>
    { observed with
      queue := (enqueueBodyFollowUpMessageWithWake services followUp requestWake
        observed.queue).2 }
  | .cap sessionId now maxQueuedMessages =>
    { observed with
      queue := enforceFollowUpQueueCap observed.queue now sessionId maxQueuedMessages }
  | .expire now => { observed with queue := observed.queue.expireQueuedMessagesAt now }
  | .drain services sessionId =>
    match drainForWake services sessionId observed.queue with
    | (.ok wake, queue) => ⟨queue, observed.handed ++ wake.drained⟩
    | (.error _, queue) => { observed with queue }

end RustyCrew.Engine

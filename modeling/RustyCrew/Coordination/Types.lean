import RustyCrew.Protocol.External

namespace RustyCrew.Coordination

open Library Protocol

structure AgentMessageDeliveryId where
  raw : String
  deriving DecidableEq, Repr

structure AgentRoundId where
  raw : String
  deriving DecidableEq, Repr

structure AgentRouteKey where
  raw : String
  deriving DecidableEq, Repr

/-! ## Routes -/

inductive AgentDirectoryRuntimeKind where
  | directBrain
  | codexAppServer
  deriving DecidableEq, Repr

inductive AgentRouteTarget where
  | directBrain (agentId : AgentId) (sessionId : SessionId)
  | managedExternal (agentId : AgentId) (bindingId : ExternalBindingId) (bindingRevision : Nat)
  deriving DecidableEq, Repr

structure AgentRouteRecord where
  routeKey : AgentRouteKey
  label : String
  description : Option String
  enabled : Bool
  target : AgentRouteTarget
  requiredRuntimeKind : Option AgentDirectoryRuntimeKind
  requiredDeliveryPolicy : Option ExternalMessageDeliveryPolicy
  revision : Nat
  (createdAt updatedAt : IsoTimestamp)
  deriving DecidableEq, Repr

structure AgentRouteResolvedTarget where
  agentId : AgentId
  sessionId : SessionId
  profileId : ProfileId
  displayLabel : String
  runtimeKind : AgentDirectoryRuntimeKind
  runtimeId : Option ExternalRuntimeId
  bindingId : Option ExternalBindingId
  bindingRevision : Option Nat
  deliveryPolicy : Option ExternalMessageDeliveryPolicy
  deriving DecidableEq, Repr

structure AgentRouteDeliveryProvenance where
  address : String
  routeKey : AgentRouteKey
  routeRevision : Nat
  resolvedTarget : AgentRouteResolvedTarget
  deriving DecidableEq, Repr

/-! ## Activations -/

structure AgentActivationRequest where
  agentId : AgentId
  requestId : ExternalTurnRequestId
  idempotencyKey : String
  input : List ExternalTurnInputPart
  collaborationMode : Option ExternalCollaborationMode
  provenance : TurnInputProvenance
  runId : Option RunId
  (capacityLeaseId directWakeId queuedMessageId : String)
  createdAt : IsoTimestamp
  expiresAt : Option IsoTimestamp
  deriving DecidableEq, Repr

inductive AgentActivation where
  | directBrainWakeRequested (sessionId : SessionId) (wakeId : String)
  | externalTurnRequested (sessionId : SessionId) (requestId : ExternalTurnRequestId)
      (bindingId : ExternalBindingId)
  | externalTurnSteerRequested (sessionId : SessionId) (requestId : ExternalTurnRequestId)
      (bindingId : ExternalBindingId) (nativeThreadId nativeTurnId messageText : String)
  | queuedForNextTurn (sessionId : SessionId) (queueId : String)
  | rejected (reasonCode : String)
  deriving DecidableEq, Repr

def AgentActivation.isSteer : AgentActivation → Bool
  | .externalTurnSteerRequested .. => true
  | _ => false

/-! ## Messages -/

inductive AgentMessageDeliveryStatus where
  | pending
  | accepted
  | rejected
  | expired
  deriving DecidableEq, Repr

def AgentMessageDeliveryStatus.isTerminal (status : AgentMessageDeliveryStatus) : Bool :=
  status ≠ .pending

inductive AgentMessageInputKind where
  | operator
  | routedAgentMessage
  deriving DecidableEq, Repr

def AgentMessageInputKind.provenance : AgentMessageInputKind → TurnInputProvenanceKind
  | .operator => .operator
  | .routedAgentMessage => .routedAgentMessage

inductive AgentCoordinationCaller where
  | system (senderAgentId : AgentId)
  | directBrain (sessionId : SessionId) (wakeId toolCallId : String)
  | externalAgent (runtimeId : ExternalRuntimeId) (bindingId : ExternalBindingId)
      (controllerInstanceId : String) (controllerGeneration : Nat)
      (nativeThreadId nativeTurnId nativeRequestId : String)
  | externalCli (clientId idempotencyKey : String)
  | reviewSubmission (submissionId : String)
  deriving DecidableEq, Repr

structure AgentMessageDeliveryRequest where
  deliveryId : AgentMessageDeliveryId
  (idempotencyKey messageId : String)
  fromAgentId : AgentId
  fromSessionId : Option SessionId
  requestedAddress : String
  toAgentId : AgentId
  toSessionId : Option SessionId
  routing : Option AgentRouteDeliveryProvenance
  replyToMessageId : Option String
  inputKind : AgentMessageInputKind
  body : String
  imageAttachmentIds : List String
  collaborationMode : Option ExternalCollaborationMode
  correlationId : Option String
  requireWake : Bool
  (createdAt expiresAt : IsoTimestamp)
  deriving DecidableEq, Repr

structure AgentMessageDeliveryReceipt where
  request : AgentMessageDeliveryRequest
  status : AgentMessageDeliveryStatus
  sequence : Option Nat
  activation : Option AgentActivation
  resolvedRoundId : Option AgentRoundId
  reasonCode : Option String
  terminalAt : Option IsoTimestamp
  revision : Nat
  deriving DecidableEq, Repr

def AgentMessageDeliveryReceipt.deliveryId (receipt : AgentMessageDeliveryReceipt) :
    AgentMessageDeliveryId := receipt.request.deliveryId

/-! ## Rounds -/

inductive AgentRoundStatus where
  | pending
  | replied
  | expired
  | cancelled
  | failed
  deriving DecidableEq, Repr

structure AgentCorrelatedRound where
  roundId : AgentRoundId
  idempotencyKey : String
  senderAgentId : AgentId
  senderSessionId : Option SessionId
  recipientAgentId : AgentId
  recipientSessionId : SessionId
  senderRequestId : Option ExternalTurnRequestId
  (messageId correlationId : String)
  replyMessageId : Option String
  status : AgentRoundStatus
  outcome : Option Json
  terminalReasonCode : Option String
  (createdAt expiresAt : IsoTimestamp)
  terminalAt : Option IsoTimestamp
  revision : Nat
  deriving DecidableEq, Repr

end RustyCrew.Coordination

import RustyCrew.Protocol.BrainStream

namespace RustyCrew.Protocol

inductive DelegationLifecyclePhase where
  | created
  | wakeRequested
  | checkpointRequested
  | completed
  | failed
  | blocked
  | exhausted
  | timedOut
  | cancelled
  deriving DecidableEq, Repr

structure DelegationLifecycleEvent where
  (parentSessionId delegatedSessionId : SessionId)
  runId : Option RunId
  phase : DelegationLifecyclePhase
  detail : Option String
  deriving DecidableEq, Repr

structure AgentMessageDeliveryReceipt where
  fromAgentId : AgentId
  fromSessionId : Option SessionId
  toAgentId : AgentId
  toSessionId : Option SessionId
  deriving DecidableEq, Repr

structure AgentCorrelatedRound where
  senderAgentId : AgentId
  senderSessionId : Option SessionId
  recipientAgentId : AgentId
  recipientSessionId : SessionId
  deriving DecidableEq, Repr

structure ExternalEvent where
  adapterId : AdapterId
  source : String
  payload : Json
  deriving DecidableEq, Repr

structure DenDataUpdate where
  (projectId entityKind entityId : String)
  revision : Option String
  deriving DecidableEq, Repr

inductive CoreEvent where
  | sessionCreated (state : SessionState)
  | sessionWorkspaceChanged (sessionId : SessionId) (previous current : SessionWorkspace)
  | sessionArchived (sessionId : SessionId)
  | agentMessageRouted (message : AgentMessage)
  | agentMessageDeliveryObserved (receipt : AgentMessageDeliveryReceipt)
  | agentRoundObserved (round : AgentCorrelatedRound)
  | delegationLifecycleObserved (lifecycle : DelegationLifecycleEvent)
  | externalEventInjected (event : ExternalEvent)
  | denDataUpdated (update : DenDataUpdate)
  | brainWakeRequested (sessionId : SessionId)
  | sessionExecutionObserved (sessionId : SessionId)
  | logicalTurnLifecycleObserved (lifecycle : LogicalTurnLifecycleEvent)
  | brainEventObserved (sessionId : SessionId) (wakeId : Option String) (event : BrainEvent)
  | brainActionsAccepted (sessionId : SessionId) (count : Nat)
  | completionPacketDelivered (packet : CompletionPacket)
  deriving DecidableEq

inductive CoreEventKind where
  | sessionCreated
  | sessionWorkspaceChanged
  | sessionArchived
  | agentMessageRouted
  | agentMessageDeliveryObserved
  | agentRoundObserved
  | delegationLifecycleObserved
  | externalEventInjected
  | denDataUpdated
  | brainWakeRequested
  | sessionExecutionObserved
  | logicalTurnLifecycleObserved
  | brainEventObserved
  | brainActionsAccepted
  | completionPacketDelivered
  deriving DecidableEq, Repr

def CoreEventKind.of : CoreEvent → CoreEventKind
  | .sessionCreated _ => .sessionCreated
  | .sessionWorkspaceChanged .. => .sessionWorkspaceChanged
  | .sessionArchived _ => .sessionArchived
  | .agentMessageRouted _ => .agentMessageRouted
  | .agentMessageDeliveryObserved _ => .agentMessageDeliveryObserved
  | .agentRoundObserved _ => .agentRoundObserved
  | .delegationLifecycleObserved _ => .delegationLifecycleObserved
  | .externalEventInjected _ => .externalEventInjected
  | .denDataUpdated _ => .denDataUpdated
  | .brainWakeRequested _ => .brainWakeRequested
  | .sessionExecutionObserved _ => .sessionExecutionObserved
  | .logicalTurnLifecycleObserved _ => .logicalTurnLifecycleObserved
  | .brainEventObserved .. => .brainEventObserved
  | .brainActionsAccepted .. => .brainActionsAccepted
  | .completionPacketDelivered _ => .completionPacketDelivered

structure EventSubscription where
  eventKinds : List CoreEventKind
  sessionId : Option SessionId
  agentId : Option AgentId
  adapterId : Option AdapterId
  deriving DecidableEq, Repr

end RustyCrew.Protocol

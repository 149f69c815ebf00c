import RustyCrew.Protocol.LogicalTurn

namespace RustyCrew.Protocol

structure AgentId where
  raw : String
  deriving DecidableEq, Repr

structure TaskId where
  raw : String
  deriving DecidableEq, Repr

structure RunId where
  raw : String
  deriving DecidableEq, Repr

structure AdapterId where
  raw : String
  deriving DecidableEq, Repr

structure AgentMessage where
  (fromAgent toAgent : AgentId)
  (fromSessionId toSessionId : Option SessionId)
  body : String
  correlationId : Option String
  projection : Option Json
  deriving DecidableEq, Repr

/-! ## Sessions -/

inductive SessionKind where
  | full
  | worker
  | delegated
  deriving DecidableEq, Repr

inductive SessionStatus where
  | active
  | idle
  | archived
  deriving DecidableEq, Repr

structure SessionHistoryWindow where
  maxMessages : Option Nat
  deriving DecidableEq, Repr

structure ResourceLimits where
  (maxDurationMs maxDelegationDepth : Option Nat)
  deriving DecidableEq, Repr

structure DelegatedWorkspaceConstraint where
  cwd : String
  deriving DecidableEq, Repr

structure SessionWorkspace where
  cwd : String
  revision : Nat
  updatedAt : IsoTimestamp
  deriving DecidableEq, Repr

structure SessionWorkspaceUpdate where
  sessionId : SessionId
  cwd : String
  expectedRevision : Nat
  requestedAt : IsoTimestamp
  deriving DecidableEq, Repr

def maxResourceDurationMs : Nat := 30 * 24 * 60 * 60 * 1000

def maxResourceDelegationDepth : Nat := 64

structure DelegationLineage where
  parentSessionId : SessionId
  parentAgentId : AgentId
  sourceWakeId : String
  sourceActionIndex : Nat
  requestedTaskId : Option TaskId
  correlationId : String
  workspaceConstraint : Option DelegatedWorkspaceConstraint
  deriving DecidableEq, Repr

structure ToolDescriptor where
  (name description : String)
  inputSchema : Option Nat
  deriving DecidableEq, Repr

structure ToolProfile where
  tools : List ToolDescriptor
  deriving DecidableEq, Repr

structure SessionConfig where
  sessionId : SessionId
  agentId : AgentId
  profileId : ProfileId
  kind : SessionKind
  delegation : Option DelegationLineage
  workspace : Option SessionWorkspace
  resourceLimits : ResourceLimits
  toolProfile : ToolProfile
  historyWindow : Option SessionHistoryWindow
  deriving DecidableEq, Repr

structure SessionInferenceOverrides where
  reasoningEffort : Option String
  deriving DecidableEq, Repr

structure SessionState where
  handle : Nat
  sessionId : SessionId
  agentId : AgentId
  profileId : ProfileId
  kind : SessionKind
  delegation : Option DelegationLineage
  workspace : Option SessionWorkspace
  resourceLimits : ResourceLimits
  toolProfile : ToolProfile
  historyWindow : Option SessionHistoryWindow
  inferenceOverrides : SessionInferenceOverrides
  status : SessionStatus
  brainTurnCount : Nat
  (createdAt lastActiveAt : IsoTimestamp)
  deriving DecidableEq, Repr

/-! ## What a brain asks for -/

inductive DelegationPriority where
  | low
  | normal
  | high
  deriving DecidableEq, Repr

inductive ParentConsumptionPolicy where
  | awaitCompletion
  | observeOnly
  deriving DecidableEq, Repr

inductive FanOutFailurePolicy where
  | failFast
  | failSoft
  deriving DecidableEq, Repr

inductive WorkerPoolCapacityFallbackPolicy where
  | rejectOnNoCapacity
  | directOnNoCapacity
  deriving DecidableEq, Repr

structure WorkerPoolCapacityRequest where
  memberId : String
  claimTtlMs : Option Nat
  fallbackPolicy : WorkerPoolCapacityFallbackPolicy
  deriving DecidableEq, Repr

structure DelegationRequest where
  profileId : ProfileId
  taskId : Option TaskId
  prompt : String
  expectedOutput : Option String
  resourceLimits : Option ResourceLimits
  workspaceConstraint : Option DelegatedWorkspaceConstraint
  timeoutMs : Option Nat
  priority : Option DelegationPriority
  fanOutGroupId : Option String
  fanOutMaxConcurrency : Option Nat
  fanOutFailurePolicy : Option FanOutFailurePolicy
  correlationId : Option String
  parentConsumption : Option ParentConsumptionPolicy
  capacityRequest : Option WorkerPoolCapacityRequest
  deriving DecidableEq, Repr

inductive CompletionStatus where
  | completed
  | failed
  | blocked
  | exhausted
  deriving DecidableEq, Repr

structure CompletionPacket where
  sessionId : SessionId
  status : CompletionStatus
  summary : String
  deriving DecidableEq, Repr

inductive BrainAction where
  | sendMessage (message : AgentMessage)
  | requestDelegation (request : DelegationRequest)
  | deliverCompletion (packet : CompletionPacket)
  deriving DecidableEq, Repr

end RustyCrew.Protocol

import RustyCrew.Library.Result
import RustyCrew.Library.Text
import RustyCrew.Protocol.Sessions

namespace RustyCrew.Protocol

open Library

structure ExternalRuntimeId where
  raw : String
  deriving DecidableEq, Repr

structure ExternalBindingId where
  raw : String
  deriving DecidableEq, Repr

structure ExternalTurnRequestId where
  raw : String
  deriving DecidableEq, Repr

structure ExternalInteractionId where
  raw : String
  deriving DecidableEq, Repr

structure ProjectId where
  raw : String
  deriving DecidableEq, Repr

structure DenRuntimeReference where
  projectId : Option ProjectId
  taskId : Option TaskId
  deriving DecidableEq, Repr

def validateNonEmpty (field value : String) : CoreResult Unit :=
  rejectIf (Text.isBlank value) ⟨.invalidInput, field ++ " must not be empty"⟩

/-! ## Runtimes and their controllers -/

inductive ExternalRuntimeDesiredState where
  | enabled
  | disabled
  deriving DecidableEq, Repr

inductive ExternalRuntimeObservedState where
  | disconnected
  | connecting
  | ready
  | degraded
  | incompatible
  deriving DecidableEq, Repr

inductive ExternalRuntimeCompatibilityState where
  | unassessed
  | compatibleUncertified
  | certified
  | incompatible
  deriving DecidableEq, Repr

def ExternalRuntimeCompatibilityState.isCompatible : ExternalRuntimeCompatibilityState → Bool
  | .compatibleUncertified | .certified => true
  | _ => false

structure ExternalRuntimeRegistration where
  runtimeId : ExternalRuntimeId
  compatibilityState : ExternalRuntimeCompatibilityState
  desiredState : ExternalRuntimeDesiredState
  observedState : ExternalRuntimeObservedState
  observedReasonCode : Option String
  revision : Nat
  deriving DecidableEq, Repr

def validateExternalRuntimeRegistration (registration : ExternalRuntimeRegistration) :
    CoreResult Unit := do
  validateNonEmpty "runtime_id" registration.runtimeId.raw
  rejectIf (registration.observedState = .ready ∧
      registration.compatibilityState.isCompatible = false)
    ⟨.invalidInput, "ready external runtime requires compatible contract state"⟩
  rejectIf (registration.compatibilityState = .incompatible ∧
      (registration.observedState ≠ .incompatible ∨ registration.observedReasonCode = none))
    ⟨.invalidInput, "incompatible external runtime requires incompatible observed state and reason"⟩

structure ExternalControllerContext where
  holderInstanceId : String
  generation : Nat
  deriving DecidableEq, Repr

structure ExternalControllerLease where
  runtimeId : ExternalRuntimeId
  holderInstanceId : String
  generation : Nat
  (acquiredAt renewedAt expiresAt : IsoTimestamp)
  revision : Nat
  deriving DecidableEq, Repr

/-! ## Bindings -/

inductive ExternalBindingPurpose where
  | crewAgent
  | importedObserver
  deriving DecidableEq, Repr

inductive ExternalBindingStatus where
  | active
  | paused
  | archived
  deriving DecidableEq, Repr

inductive ExternalMessageDeliveryPolicy where
  | immediateSteer
  | serialNextTurn
  deriving DecidableEq, Repr

structure ExternalAgentBindingLineage where
  predecessorBindingId : ExternalBindingId
  predecessorSessionId : SessionId
  (predecessorNativeThreadId transitionId reasonCode : String)
  createdAt : IsoTimestamp
  deriving DecidableEq, Repr

structure ExternalAgentBinding where
  bindingId : ExternalBindingId
  runtimeId : ExternalRuntimeId
  sessionId : Option SessionId
  agentId : Option AgentId
  profileId : Option ProfileId
  profileRevision : Option Nat
  (profilePromptHash profilePromptSnapshot dynamicToolCatalogFingerprint : Option String)
  messageDeliveryPolicy : ExternalMessageDeliveryPolicy
  purpose : ExternalBindingPurpose
  (nativeThreadId cwd label : Option String)
  taskRef : Option DenRuntimeReference
  lineage : Option ExternalAgentBindingLineage
  effectiveConfigFingerprint : String
  status : ExternalBindingStatus
  revision : Nat
  (createdAt updatedAt : IsoTimestamp)
  deriving DecidableEq, Repr

def validateOptional (field : String) : Option String → CoreResult Unit
  | some value => validateNonEmpty field value
  | none => .ok ()

def ExternalAgentBindingLineage.validate (lineage : ExternalAgentBindingLineage)
    (bindingId : ExternalBindingId) : CoreResult Unit := do
  validateNonEmpty "lineage_predecessor_binding_id" lineage.predecessorBindingId.raw
  validateNonEmpty "lineage_predecessor_session_id" lineage.predecessorSessionId.raw
  validateNonEmpty "lineage_predecessor_native_thread_id" lineage.predecessorNativeThreadId
  validateNonEmpty "lineage_transition_id" lineage.transitionId
  validateNonEmpty "lineage_reason_code" lineage.reasonCode
  validateNonEmpty "lineage_created_at" lineage.createdAt
  rejectIf (lineage.predecessorBindingId = bindingId)
    ⟨.invalidInput, "external binding lineage cannot name itself as predecessor"⟩

namespace ExternalAgentBinding

def validate (binding : ExternalAgentBinding) : CoreResult Unit := do
  validateNonEmpty "binding_id" binding.bindingId.raw
  validateNonEmpty "runtime_id" binding.runtimeId.raw
  validateNonEmpty "effective_config_fingerprint" binding.effectiveConfigFingerprint
  validateOptional "dynamic_tool_catalog_fingerprint" binding.dynamicToolCatalogFingerprint
  validateOptional "native_thread_id" binding.nativeThreadId
  rejectIf (binding.purpose = .crewAgent ∧
      (binding.sessionId = none ∨ binding.agentId = none ∨ binding.profileId = none ∨
        binding.profileRevision = none ∨ binding.profilePromptHash = none))
    ⟨.invalidInput,
      "crew_agent external binding requires session, agent, and profile prompt provenance"⟩
  rejectIf (binding.purpose = .importedObserver ∧
      (binding.sessionId.isSome ∨ binding.agentId.isSome))
    ⟨.invalidInput, "imported_observer external binding cannot be routable"⟩
  match binding.lineage with
  | some lineage => lineage.validate binding.bindingId
  | none => .ok ()

def isRoutable (binding : ExternalAgentBinding) : Bool :=
  binding.purpose = .crewAgent && binding.status = .active && binding.sessionId.isSome &&
    binding.agentId.isSome && binding.nativeThreadId.isSome

def activeCrewAgent (binding : ExternalAgentBinding) : Option AgentId :=
  if binding.purpose = .crewAgent ∧ binding.status = .active then binding.agentId else none

end ExternalAgentBinding

/-- What a write may not change of a binding that owns a lineage or is named in one. -/
def changesAuthority (current candidate : ExternalAgentBinding) (referencedAsPredecessor : Bool) :
    Prop :=
  (current.lineage.isSome ∧
      (current.runtimeId ≠ candidate.runtimeId ∨ current.sessionId ≠ candidate.sessionId ∨
        current.agentId ≠ candidate.agentId ∨ current.purpose ≠ candidate.purpose)) ∨
    (referencedAsPredecessor = true ∧
      (current.runtimeId ≠ candidate.runtimeId ∨ current.sessionId ≠ candidate.sessionId ∨
        current.nativeThreadId ≠ candidate.nativeThreadId))

instance (current candidate : ExternalAgentBinding) (referenced : Bool) :
    Decidable (changesAuthority current candidate referenced) := by
  unfold changesAuthority
  infer_instance

/-- The part of the check that a candidate with a lineage goes through. -/
def validateLineage (current predecessor : Option ExternalAgentBinding)
    (candidate : ExternalAgentBinding) (lineage : ExternalAgentBindingLineage) :
    CoreResult Unit := do
  rejectIf (current = none) ⟨.actionRejected,
    "external binding lineage can only be established on an existing successor binding"⟩
  let predecessor ← orFail predecessor ⟨.notFound, "external binding lineage predecessor " ++
    lineage.predecessorBindingId.raw ++ " was not found"⟩
  rejectIf (predecessor.purpose ≠ .crewAgent ∨ candidate.purpose ≠ .crewAgent ∨
      predecessor.runtimeId ≠ candidate.runtimeId ∨
      predecessor.sessionId ≠ some lineage.predecessorSessionId ∨
      predecessor.nativeThreadId ≠ some lineage.predecessorNativeThreadId)
    ⟨.actionRejected,
      "external binding lineage does not match the authoritative predecessor binding"⟩
  rejectIf (candidate.sessionId = none ∨ candidate.sessionId = some lineage.predecessorSessionId ∨
      candidate.nativeThreadId = none ∨
      candidate.nativeThreadId = some lineage.predecessorNativeThreadId)
    ⟨.actionRejected,
      "external binding lineage successor must have a distinct Crew session and native thread"⟩

/-- The part of the check against the stored version of the binding. -/
def validateAuthority (candidate : ExternalAgentBinding) (referencedAsPredecessor : Bool) :
    Option ExternalAgentBinding → CoreResult Unit
  | some current => do
    rejectIf (changesAuthority current candidate referencedAsPredecessor) ⟨.actionRejected,
      "external binding authority identity cannot be changed after creation"⟩
    rejectIf (current.lineage.isSome ∧ current.lineage ≠ candidate.lineage) ⟨.actionRejected,
      "external binding lineage is immutable after Rust establishes it"⟩
  | none => .ok ()

def validateExternalAgentBindingTransition (current predecessor : Option ExternalAgentBinding)
    (referencedAsPredecessor : Bool) (candidate : ExternalAgentBinding) : CoreResult Unit := do
  validateAuthority candidate referencedAsPredecessor current
  match candidate.lineage with
  | some lineage => validateLineage current predecessor candidate lineage
  | none => pure ()

/-! ## Turns -/

inductive TurnInputProvenanceKind where
  | operator
  | routedAgentMessage
  | scheduledWake
  | externalWaitResult
  | control
  deriving DecidableEq, Repr

inductive ExternalCollaborationMode where
  | plan
  deriving DecidableEq, Repr

structure TurnInputProvenance where
  kind : TurnInputProvenanceKind
  (sourceId correlationId : Option String)
  deriving DecidableEq, Repr

inductive ExternalTurnInputPart where
  | text (text : String)
  | image (url : String)
  | skill (name : String) (path : Option String)
  | machineFact (kind : String) (payload : Json)
  deriving DecidableEq, Repr

structure SessionTurnRequested where
  requestId : ExternalTurnRequestId
  idempotencyKey : String
  sessionId : SessionId
  runId : Option RunId
  bindingId : ExternalBindingId
  input : List ExternalTurnInputPart
  collaborationMode : Option ExternalCollaborationMode
  provenance : TurnInputProvenance
  createdAt : IsoTimestamp
  expiresAt : Option IsoTimestamp
  deriving DecidableEq, Repr

inductive ExternalTurnPhase where
  | accepted
  | starting
  | active
  | waitingInteraction
  | completed
  | failed
  | interrupted
  | outcomeUnknown
  deriving DecidableEq, Repr

namespace ExternalTurnPhase

def isTerminal : ExternalTurnPhase → Bool
  | .completed | .failed | .interrupted | .outcomeUnknown => true
  | _ => false

def canTransitionTo (current next : ExternalTurnPhase) : Bool :=
  match current, next with
  | .accepted, .starting | .accepted, .failed | .accepted, .interrupted => true
  | .starting, .active | .starting, .failed | .starting, .interrupted
  | .starting, .outcomeUnknown => true
  | .active, .waitingInteraction | .active, .completed | .active, .failed
  | .active, .interrupted | .active, .outcomeUnknown => true
  | .waitingInteraction, .active | .waitingInteraction, .failed
  | .waitingInteraction, .interrupted | .waitingInteraction, .outcomeUnknown => true
  | _, _ => current = next

def debugName : ExternalTurnPhase → String
  | .accepted => "Accepted"
  | .starting => "Starting"
  | .active => "Active"
  | .waitingInteraction => "WaitingInteraction"
  | .completed => "Completed"
  | .failed => "Failed"
  | .interrupted => "Interrupted"
  | .outcomeUnknown => "OutcomeUnknown"

end ExternalTurnPhase

structure ExternalTurnTerminalError where
  message : String
  (code additionalDetails : Option String)
  willRetry : Option Bool
  deriving DecidableEq, Repr

structure ExternalTurnCorrelation where
  request : SessionTurnRequested
  runtimeId : ExternalRuntimeId
  nativeThreadId : String
  nativeTurnId : Option String
  taskRef : Option DenRuntimeReference
  phase : ExternalTurnPhase
  (capacityLeaseId terminalReasonCode : Option String)
  terminalError : Option ExternalTurnTerminalError
  revision : Nat
  updatedAt : IsoTimestamp
  deriving DecidableEq, Repr

def ExternalTurnCorrelation.requestId (turn : ExternalTurnCorrelation) : ExternalTurnRequestId :=
  turn.request.requestId

/-! ## Interactions and runtime events -/

inductive ExternalInteractionKind where
  | commandApproval
  | fileApproval
  | requestUserInput
  | permissionRequest
  | mcpElicitation
  | unsupported
  deriving DecidableEq, Repr

inductive ExternalInteractionStatus where
  | pending
  | resolved
  | expired
  | lost
  deriving DecidableEq, Repr

structure ExternalInteractionRecord where
  interactionId : ExternalInteractionId
  runtimeId : ExternalRuntimeId
  bindingId : ExternalBindingId
  requestId : ExternalTurnRequestId
  (nativeThreadId nativeTurnId nativeRequestId : String)
  kind : ExternalInteractionKind
  prompt : Json
  allowedResponses : List String
  status : ExternalInteractionStatus
  resolutionIdempotencyKey : Option String
  outcome : Option Json
  rawDetailRef : Option String
  (requestedAt expiresAt : IsoTimestamp)
  resolvedAt : Option IsoTimestamp
  revision : Nat
  deriving DecidableEq, Repr

structure NormalizedExternalRuntimeEvent where
  eventId : String
  sessionId : Option SessionId
  sequenceId : Nat
  createdAt : IsoTimestamp
  kind : String
  runtimeId : ExternalRuntimeId
  (nativeThreadId nativeTurnId itemId requestId : Option String)
  payload : Json
  rawDetailRef : Option String
  deriving DecidableEq, Repr

structure ExternalRuntimeEventInput where
  eventId : String
  sessionId : Option SessionId
  createdAt : IsoTimestamp
  kind : String
  runtimeId : ExternalRuntimeId
  (nativeThreadId nativeTurnId itemId requestId : Option String)
  payload : Json
  rawDetailRef : Option String
  deriving DecidableEq, Repr

end RustyCrew.Protocol

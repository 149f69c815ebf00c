import RustyCrew.Protocol.Sessions

namespace RustyCrew.Protocol

def CoreErrorKind.reasonCode : CoreErrorKind → String
  | .invalidInput => "invalid_input"
  | .notFound => "not_found"
  | .alreadyExists => "already_exists"
  | .sessionExpired => "session_expired"
  | .timeoutExpired => "timeout_expired"
  | .persistenceFailure => "persistence_failure"
  | .adapterUnavailable => "adapter_unavailable"
  | .brainUnavailable => "brain_unavailable"
  | .actionRejected => "action_rejected"
  | .internalError => "internal_error"

inductive BrainPhase where
  | idle
  | exploring
  | composing
  | reviewing
  deriving DecidableEq, Repr

inductive BrainProviderStatusLevel where
  | info
  | degraded
  | error
  deriving DecidableEq, Repr

/-- What a brain reports while it works. The metadata of tool calls is carried along as JSON. -/
inductive BrainEvent where
  | started
  | textDelta (text : String)
  | reasoningDelta (text : String) (format : Option String)
  | phaseChange (phase : BrainPhase) (message : Option String)
  | toolCallStarted (toolName : String) (metadata : Option Json)
  | toolCallFinished (toolName : String) (isError : Bool) (metadata : Option Json)
  | providerStatus (level : BrainProviderStatusLevel) (message : String)
      (metadataJson : Option String)
  | finished
  deriving DecidableEq, Repr

structure BrainEventEnvelope where
  wakeId : String
  sessionId : SessionId
  event : BrainEvent
  deriving DecidableEq, Repr

structure BrainActionBatch where
  wakeId : String
  sessionId : SessionId
  actions : List BrainAction
  deriving DecidableEq, Repr

structure BrainWakeFailure where
  wakeId : String
  sessionId : SessionId
  kind : CoreErrorKind
  reasonCode : Option String
  message : String
  deriving DecidableEq, Repr

inductive BrainWakeStreamItem where
  | event (event : BrainEventEnvelope)
  | actions (batch : BrainActionBatch)
  | wakeFailed (failure : BrainWakeFailure)
  deriving DecidableEq, Repr

def BrainWakeStreamItem.isTerminal : BrainWakeStreamItem → Bool
  | .event _ => false
  | .actions _ | .wakeFailed _ => true

inductive ProviderStateClearReason where
  | brainRequestedClear
  | operatorRequestedClear
  deriving DecidableEq, Repr

structure BrainWakeProviderStateUpdate where
  (moduleId strategyId profileFingerprint providerFingerprint payloadVersion : String)
  payload : Json
  ttlMs : Option Nat
  deriving DecidableEq, Repr

inductive BrainWakeProviderStateOutput where
  | unchanged
  | replace (state : BrainWakeProviderStateUpdate)
  | clear (reason : ProviderStateClearReason)
  deriving DecidableEq, Repr

end RustyCrew.Protocol

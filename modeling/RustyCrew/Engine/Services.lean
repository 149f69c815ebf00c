import RustyCrew.Library.Sha256
import RustyCrew.Protocol.Events
import RustyCrew.Engine.Queue

namespace RustyCrew.Engine

open Library Protocol

structure BodyState where
  session : SessionState
  pendingMessages : List AgentMessage
  (recentEvents childCompletions fanOutGroups : List Json)
  deltaPolicy : Json
  deriving DecidableEq

inductive QueuedDirectDeliveryRearm where
  | skip
  | rearm
  | cancel (reasonCode : String)
  deriving DecidableEq, Repr

structure BrainStrategyMetadata where
  (moduleId strategyId : String)
  deriving DecidableEq, Repr

structure BrainProviderStateScope where
  (profileFingerprint providerFingerprint : String)
  deriving DecidableEq, Repr

structure BrainModelConfig where
  (provider modelName : String)
  modelConfigId : Option String
  modelConfigRevision : Option Nat
  endpointId : Option String
  endpointRevision : Option Nat
  credentialId : Option String
  credentialRevision : Option Nat
  deriving DecidableEq, Repr

structure BrainImplementationRegistration where
  implementationId : String
  profileId : ProfileId
  toolProfile : Json
  modelConfig : BrainModelConfig
  strategy : Option BrainStrategyMetadata
  providerStateScope : Option BrainProviderStateScope
  deriving DecidableEq

structure ProfileRegistryRecord where
  revision : Nat
  activeRuntimeSettingsJson : Json
  deriving DecidableEq

structure ModelConfigurationRecord where
  endpointId : String
  revision : Nat
  encoded : Option (List UInt8)
  deriving DecidableEq

structure ModelEndpointRecord where
  endpointId : String
  credentialId : Option String
  revision : Nat
  deriving DecidableEq

structure ModelProviderRecord where
  credentialId : Option String
  revision : Nat
  deriving DecidableEq

/-- What the rest of the service answers during one call of the engine. The clock, the event bus
and the database may answer differently each time they are used, so they are given the number of
the use. `storeCall` says whether a store call goes through or fails as a whole. -/
structure Services where
  serviceInstanceId : String
  clock : Nat → IsoTimestamp
  publish : Nat → CoreEvent → CoreResult Unit
  getSession : SessionId → CoreResult SessionState
  queuedDirectDeliveryRearmable :
    SessionState → QueuedMessageRecord → CoreResult QueuedDirectDeliveryRearm
  projectBodyState : SessionId → CoreResult BodyState
  encodeBodyState : BodyState → Except String (List UInt8)
  decodeBodyState : List UInt8 → Except String BodyState
  utf8Error : List UInt8 → String
  getProfileRegistryRecord : ProfileId → CoreResult (Option ProfileRegistryRecord)
  getModelConfiguration : String → CoreResult (Option ModelConfigurationRecord)
  getModelEndpoint : String → CoreResult (Option ModelEndpointRecord)
  getModelProvider : String → CoreResult (Option ModelProviderRecord)
  getServiceCredentialRevision : String → CoreResult (Option Nat)
  storeCall : Nat → CoreResult Unit := fun _ => .ok ()

def sha256Hex (bytes : List UInt8) : String := Sha256.sha256Hex bytes

def utf8Bytes (value : String) : List UInt8 := value.toUTF8.data.toList

def sha256Text (value : String) : String := sha256Hex (utf8Bytes value)

def jsonFingerprint (value : Json) : String := sha256Text value.render

def brainModuleId (registration : BrainImplementationRegistration) : String :=
  (registration.strategy.map BrainStrategyMetadata.moduleId).getD registration.implementationId

def profileProviderAlias (profile : ProfileRegistryRecord) : Option String :=
  ((profile.activeRuntimeSettingsJson.get "providerAlias").or
    (profile.activeRuntimeSettingsJson.get "provider_alias")).bind Json.asStr

def profileModelConfigId (profile : ProfileRegistryRecord) : Option String :=
  (profile.activeRuntimeSettingsJson.get "modelConfigId").bind Json.asStr

section
variable (services : Services)

def modelConfigurationFor (config : BrainModelConfig) (modelConfigId : String) :
    CoreResult (Option ModelConfigurationRecord) :=
  if config.modelConfigId.isSome then .ok none else services.getModelConfiguration modelConfigId

def modelEndpointFor : Option ModelConfigurationRecord → CoreResult (Option ModelEndpointRecord)
  | some configuration => services.getModelEndpoint configuration.endpointId
  | none => .ok none

def legacyProviderFor (config : BrainModelConfig)
    (modelConfiguration : Option ModelConfigurationRecord) (legacyProviderAlias : String) :
    CoreResult (Option ModelProviderRecord) :=
  if config.modelConfigId.isNone && modelConfiguration.isNone then
    services.getModelProvider legacyProviderAlias
  else .ok none

def credentialRevisionFor (config : BrainModelConfig) (credentialId : Option String) :
    CoreResult (Option Nat) :=
  match config.credentialRevision, credentialId with
  | some revision, _ => .ok (some revision)
  | none, some credentialId => services.getServiceCredentialRevision credentialId
  | none, none => .ok none

end

def logicalTurnBinding (services : Services) (registration : BrainImplementationRegistration)
    (promptFingerprint roleFingerprint : String) : CoreResult LogicalTurnBindingSnapshot := do
  let config := registration.modelConfig
  let profile ← services.getProfileRegistryRecord registration.profileId
  let legacyProviderAlias := (profile.bind profileProviderAlias).getD config.provider
  let modelConfigId :=
    (config.modelConfigId.or (profile.bind profileModelConfigId)).getD legacyProviderAlias
  let modelConfiguration ← modelConfigurationFor services config modelConfigId
  let endpoint ← modelEndpointFor services modelConfiguration
  let legacyProvider ← legacyProviderFor services config modelConfiguration legacyProviderAlias
  let credentialId := config.credentialId.or
    ((endpoint.bind ModelEndpointRecord.credentialId).or
      (legacyProvider.bind ModelProviderRecord.credentialId))
  let credentialRevision ← credentialRevisionFor services config credentialId
  let toolFingerprint := jsonFingerprint registration.toolProfile
  let profileFingerprint :=
    (registration.providerStateScope.map BrainProviderStateScope.profileFingerprint).getD
      (sha256Text (promptFingerprint ++ "|" ++ roleFingerprint))
  let providerFingerprint :=
    ((registration.providerStateScope.map BrainProviderStateScope.providerFingerprint).or
      ((modelConfiguration.bind ModelConfigurationRecord.encoded).map sha256Hex)).getD
      (sha256Text (config.provider ++ "|" ++ config.modelName))
  .ok
    { profileId := registration.profileId
      profileRevision := (profile.map ProfileRegistryRecord.revision).getD 0
      promptFingerprint := profileFingerprint
      toolSelectionFingerprint := toolFingerprint
      toolRegistryRevision := toolFingerprint
      brainModuleId := brainModuleId registration
      brainStrategyId :=
        (registration.strategy.map BrainStrategyMetadata.strategyId).getD "default"
      modelConfigId := modelConfigId
      modelConfigRevision := config.modelConfigRevision.getD
        ((modelConfiguration.map ModelConfigurationRecord.revision).getD 0)
      endpointId := config.endpointId.getD
        ((endpoint.map ModelEndpointRecord.endpointId).getD legacyProviderAlias)
      endpointRevision := config.endpointRevision.getD
        ((endpoint.map ModelEndpointRecord.revision).getD 0)
      providerAlias := legacyProvider.map fun _ => legacyProviderAlias
      providerRevision := legacyProvider.map ModelProviderRecord.revision
      providerFingerprint := providerFingerprint
      credentialId := credentialId
      credentialRevision := credentialRevision }

end RustyCrew.Engine

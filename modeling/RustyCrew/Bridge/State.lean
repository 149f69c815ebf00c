import RustyCrew.Engine.Step

namespace RustyCrew.Bridge

open Library Protocol RustyCrew.Persistence RustyCrew.Engine Effect

structure BrainImplementationHandle where
  raw : Nat
  deriving DecidableEq, Repr

structure HostToolCall where
  callId : String
  operationId : BrainOperationId
  deriving DecidableEq, Repr

structure ActiveLogicalWake where
  wakeId : String
  brain : BrainImplementationHandle
  sessionId : SessionId
  claim : LogicalTurnContinuationClaim
  (nextProviderOperation nextHostToolOperation : Nat)
  hostToolOperations : Table HostToolCall.callId
  providerOperationId : Option BrainOperationId
  deriving DecidableEq

/-- The bridge of one process. The tables of the engine outlive the process, everything else does
not. `toolOutputs` lists the tool outputs handed to the buffered runs: the module and the text. -/
structure NativeBridge where
  engine : CoreEngine
  initialized : Bool
  activeLogicalWakes : Table ActiveLogicalWake.wakeId
  toolOutputs : List (String × String)

/-- What the rest of the process answers during one call of the bridge. -/
structure BridgeServices where
  engine : Services
  now : IsoTimestamp
  brainRegistration : BrainImplementationHandle → CoreResult BrainImplementationRegistration
  buildWakeRequest : CoreResult Unit
  parseJson : String → Except String Json
  (submitToolOutput cancelBrainRun : String → String → Except String Unit)
  (cleanupBrainRuns bootstrap registerToolProfiles shutdown : CoreResult Unit)

abbrev BridgeM := Effect NativeBridge CoreError

def chatCompletionsModuleId : String := "chat-completions"

def openaiResponsesModuleId : String := "openai-responses"

def engineNotInitialized : CoreError :=
  ⟨.notFound, "native bridge engine is not initialized"⟩

structure TurnWrite where
  op : Op
  turns : (match op with
    | .leaseOperation _ | .completeOperation _ => false
    | _ => true) = true

namespace NativeBridge

def fresh : NativeBridge := ⟨CoreEngine.fresh, false, Table.empty, []⟩

def onEngine {α : Type} (x : EngineM α) : BridgeM α := fun bridge =>
  if bridge.initialized then
    let (result, engine) := x bridge.engine
    (result, { bridge with engine })
  else (.error engineNotInitialized, bridge)

def activeWake (wakeId : String) : BridgeM (Option ActiveLogicalWake) :=
  read fun bridge => bridge.activeLogicalWakes.find? wakeId

def saveWake (active : ActiveLogicalWake) : BridgeM Unit :=
  edit fun bridge => { bridge with activeLogicalWakes := bridge.activeLogicalWakes.put active }

def removeWake (wakeId : String) : BridgeM Unit :=
  edit fun bridge => { bridge with activeLogicalWakes := bridge.activeLogicalWakes.erase wakeId }

def setInitialized (initialized : Bool) : BridgeM Unit :=
  edit fun bridge => { bridge with initialized }

variable (services : BridgeServices)

/-! ## Starting and stopping -/

def initializeEngine : BridgeM Unit := do
  let initialized ← read NativeBridge.initialized
  lift (rejectIf (initialized = true)
    ⟨.alreadyExists, "native bridge engine is already initialized"⟩)
  lift services.bootstrap
  let _ ← fun bridge =>
    let (result, engine) :=
      CoreEngine.hydrateLogicalTurnContinuations services.engine bridge.engine
    (result, { bridge with engine })
  lift services.registerToolProfiles
  setInitialized true

def shutdownEngine : BridgeM Unit := do
  lift services.cleanupBrainRuns
  let initialized ← read NativeBridge.initialized
  lift (rejectIf (initialized = false) engineNotInitialized)
  setInitialized false
  lift services.shutdown
  edit fun bridge => { bridge with activeLogicalWakes := Table.empty }

/-- The process stops and only the tables are left. It may stop in the middle of an engine call that
makes several transactions, so `writes` are transactions on turns made just before. -/
def crash (bridge : NativeBridge) (writes : List TurnWrite) : NativeBridge :=
  { fresh with
    engine := { bridge.engine with
      store := run Store.step bridge.engine.store (writes.map TurnWrite.op) } }

/-! ## Wakes -/

def newWake (wakeId : String) (brain : BrainImplementationHandle) (sessionId : SessionId)
    (claim : LogicalTurnContinuationClaim) : ActiveLogicalWake :=
  ⟨wakeId, brain, sessionId, claim, 0, 0, Table.empty, none⟩

def buildPlainWakeRequest (sessionId : SessionId) :
    BridgeM (Option LogicalTurnWakePreparation) := do
  let bodyState ← onEngine (CoreEngine.prepareBodyStateForWake services.engine sessionId)
  let _ ← lift (CoreEngine.encodeBodyState services.engine "serialize body state" bodyState)
  lift services.buildWakeRequest
  pure none

def buildLogicalWakeRequest (brain : BrainImplementationHandle) (wake : Wake) :
    BridgeM (Option LogicalTurnWakePreparation) := do
  let active ← activeWake wake.sourceWakeId
  lift (rejectIf (active.isSome = true)
    ⟨.alreadyExists, "logical wake " ++ wake.sourceWakeId ++ " is already active"⟩)
  let prepared ← onEngine (CoreEngine.prepareLogicalTurnWake services.engine wake)
  lift services.buildWakeRequest
  saveWake (newWake wake.sourceWakeId brain wake.sessionId prepared.claim)
  pure (some prepared)

def buildBrainWakeRequestForSession (brain : BrainImplementationHandle) (sessionId : SessionId)
    (systemPrompt : String) (roleAssemblyJson : List UInt8) (wakeId : String) :
    BridgeM (Option LogicalTurnWakePreparation) := do
  let registration ← lift (services.brainRegistration brain)
  let moduleId := registration.strategy.map BrainStrategyMetadata.moduleId
  if moduleId = some chatCompletionsModuleId ∨ moduleId = some openaiResponsesModuleId then
    buildLogicalWakeRequest services brain
      ⟨registration, sessionId, wakeId, systemPrompt, roleAssemblyJson⟩
  else buildPlainWakeRequest services sessionId

def settleActiveWake (active : ActiveLogicalWake) (result : LogicalTurnEpochResult)
    (progress : Option BrainWakeProgressSnapshot) : BridgeM LogicalTurnEpochSettlement := do
  let settlement ← onEngine (CoreEngine.settleLogicalTurnEpochWithProgress services.engine
    active.claim result progress)
  removeWake active.wakeId
  pure settlement

def checkSettledBinding (active : ActiveLogicalWake)
    (registration : BrainImplementationRegistration) : CoreResult Unit :=
  rejectIf (registration.profileId ≠ active.claim.record.binding.profileId ∨
      active.sessionId ≠ active.claim.record.sessionId)
    ⟨.actionRejected, "logical wake binding changed before settlement"⟩

/-- A wake whose turn was cancelled meanwhile ends without a settlement of its own. -/
def settleCheckedWake (active : ActiveLogicalWake) (result : LogicalTurnEpochResult)
    (progress : Option BrainWakeProgressSnapshot) : BridgeM LogicalTurnEpochSettlement := do
  let registration ← lift (services.brainRegistration active.brain)
  lift (checkSettledBinding active registration)
  let record ← onEngine (read fun e => e.store.loadTurn active.claim.record.logicalTurnId)
  if record.map LogicalTurnRecord.phase = some .cancelled then do
    removeWake active.wakeId
    pure ⟨.completed, .cancelled⟩
  else settleActiveWake services active result progress

def settleBrainWake (wakeId : String) (result : LogicalTurnEpochResult)
    (progress : Option BrainWakeProgressSnapshot) :
    BridgeM (Option LogicalTurnEpochSettlement) := do
  let active ← activeWake wakeId
  match active with
  | none => pure none
  | some active => do
    let settlement ← settleCheckedWake services active result progress
    pure (some settlement)

def cancelActiveRun (request : LogicalTurnCancelRequest) (active : ActiveLogicalWake) :
    CoreResult Unit :=
  let moduleId := active.claim.record.binding.brainModuleId
  let input := Json.ofMembers
    [("wakeId", .string active.wakeId), ("reasonCode", .string request.reasonCode),
      ("summary", .string request.summary)]
  if moduleId = chatCompletionsModuleId ∨ moduleId = openaiResponsesModuleId then
    match services.cancelBrainRun moduleId input.render with
    | .ok _ => .ok ()
    | .error error => .error ⟨.internalError, "cancel active logical turn provider run: " ++ error⟩
  else .ok ()

def cancelRunOfTurn (request : LogicalTurnCancelRequest) (bridge : NativeBridge) :
    CoreResult Unit :=
  match bridge.activeLogicalWakes.rows.find? fun active =>
      active.claim.record.logicalTurnId = request.logicalTurnId with
  | some active => cancelActiveRun services request active
  | none => .ok ()

def cancelLogicalTurn (request : LogicalTurnCancelRequest) :
    BridgeM LogicalTurnCancellationReceipt := do
  let cancelled ← read (cancelRunOfTurn services request)
  lift cancelled
  onEngine (CoreEngine.cancelLogicalTurn services.engine request)

def resolveLogicalTurnAttentionForOperator (logicalTurnId : LogicalTurnId)
    (expectedRevision : Nat) (action : LogicalTurnResolutionAction) :
    BridgeM LogicalTurnAttentionResolutionReceipt :=
  onEngine (CoreEngine.resolveLogicalTurnAttentionForOperator services.engine logicalTurnId
    expectedRevision action)

end NativeBridge

end RustyCrew.Bridge

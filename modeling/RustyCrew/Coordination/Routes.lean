import RustyCrew.Coordination.Store

namespace RustyCrew.Coordination

open Library Protocol

structure AgentRouteWrite where
  routeKey : AgentRouteKey
  label : String
  description : Option String
  enabled : Bool
  target : AgentRouteTarget
  requiredRuntimeKind : Option AgentDirectoryRuntimeKind
  requiredDeliveryPolicy : Option ExternalMessageDeliveryPolicy
  expectedRevision : Option Nat
  updatedAt : IsoTimestamp
  deriving DecidableEq, Repr

structure AgentRouteDelete where
  routeKey : AgentRouteKey
  expectedRevision : Nat
  deriving DecidableEq, Repr

def validateAgentRouteKey (routeKey : String) : CoreResult Unit :=
  rejectIf (128 < routeKey.utf8ByteSize ∨ !routeKey.toList.head?.any Char.isAlphanum ∨
      !routeKey.toList.all fun value => value.isAlphanum || value ∈ ['.', '_', '-'])
    ⟨.invalidInput, "agent route key must be 1-128 characters, start alphanumeric, and contain " ++
      "only alphanumeric, '.', '_', or '-'"⟩

def validateBoundedRouteText (label value : String) (maxChars : Nat) (allowEmpty : Bool) :
    CoreResult Unit :=
  rejectIf (!allowEmpty && Text.isBlank value || maxChars < value.length)
    ⟨.invalidInput, s!"agent route {label} must contain at most {maxChars} characters"⟩

def AgentRouteWrite.validateTarget (write : AgentRouteWrite) : CoreResult Unit :=
  match write.target with
  | .directBrain agentId sessionId => do
    validateNonEmpty "target.agent_id" agentId.raw
    validateNonEmpty "target.session_id" sessionId.raw
    rejectIf (write.requiredRuntimeKind = some .codexAppServer)
      ⟨.invalidInput, "direct-brain route cannot require codex_app_server runtime"⟩
    rejectIf write.requiredDeliveryPolicy.isSome
      ⟨.invalidInput, "direct-brain route cannot require an external delivery policy"⟩
  | .managedExternal agentId bindingId bindingRevision => do
    validateNonEmpty "target.agent_id" agentId.raw
    validateNonEmpty "target.binding_id" bindingId.raw
    rejectIf (bindingRevision = 0)
      ⟨.invalidInput, "managed external route binding_revision must be positive"⟩
    rejectIf (write.requiredRuntimeKind = some .directBrain)
      ⟨.invalidInput, "managed external route cannot require direct_brain runtime"⟩

def validateAgentRouteWrite (write : AgentRouteWrite) : CoreResult Unit := do
  validateAgentRouteKey write.routeKey.raw
  validateBoundedRouteText "label" write.label 256 false
  if let some description := write.description then
    validateBoundedRouteText "description" description 4096 true
  validateNonEmpty "updated_at" write.updatedAt
  rejectIf (write.expectedRevision = some 0)
    ⟨.invalidInput, "agent route expected_revision must be positive"⟩
  write.validateTarget

def routeRevisionMismatch : CoreError := ⟨.actionRejected, "agent_route_revision_mismatch"⟩

def routeNotFound : CoreError := ⟨.notFound, "agent_route_not_found"⟩

/-- The revision that a write gives the route, and when the route was created. -/
def AgentRouteWrite.version (write : AgentRouteWrite) (current : Option AgentRouteRecord) :
    CoreResult (Nat × IsoTimestamp) :=
  match current, write.expectedRevision with
  | none, none => .ok (1, write.updatedAt)
  | some _, none => .error ⟨.alreadyExists, "agent_route_already_exists"⟩
  | none, some _ => .error routeNotFound
  | some current, some expectedRevision => do
    rejectIf (current.revision ≠ expectedRevision) routeRevisionMismatch
    pure (current.revision + 1, current.createdAt)

def AgentRouteWrite.record (write : AgentRouteWrite) (version : Nat × IsoTimestamp) :
    AgentRouteRecord :=
  ⟨write.routeKey, write.label, write.description, write.enabled, write.target,
    write.requiredRuntimeKind, write.requiredDeliveryPolicy, version.1, version.2, write.updatedAt⟩

namespace ExternalTables

variable (tables : ExternalTables)

def putAgentRoute (write : AgentRouteWrite) : CoreResult (AgentRouteRecord × ExternalTables) := do
  validateAgentRouteWrite write
  let saved := write.record (← write.version (tables.routes.find? write.routeKey))
  pure (saved, { tables with routes := tables.routes.put saved })

def deleteAgentRoute (delete : AgentRouteDelete) :
    CoreResult (AgentRouteRecord × ExternalTables) := do
  let current ← orFail (tables.routes.find? delete.routeKey) routeNotFound
  rejectIf (current.revision ≠ delete.expectedRevision) routeRevisionMismatch
  pure (current, { tables with routes := tables.routes.erase delete.routeKey })

end ExternalTables

end RustyCrew.Coordination

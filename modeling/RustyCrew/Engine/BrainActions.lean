import RustyCrew.Engine.Sessions

namespace RustyCrew.Engine

open Library Protocol RustyCrew.Persistence CrewM

structure ActionRejection where
  index : Nat
  kind : CoreErrorKind
  message : String
  deriving DecidableEq

structure ActionBatchReceipt where
  wakeId : String
  acceptedActions : Nat
  rejectedActions : List ActionRejection
  deriving DecidableEq

def CoreError.rejecting (index : Nat) (failure : CoreError) : ActionRejection :=
  ⟨index, failure.kind, failure.message⟩

/-! ## The checks before anything is done -/

def validateMessage (message : AgentMessage) : CoreResult Unit := do
  rejectIf (Text.isBlank message.fromAgent.raw ∨ Text.isBlank message.toAgent.raw)
    ⟨.invalidInput, "send_message requires non-empty from and to agents"⟩
  rejectIf (Text.isBlank message.body) ⟨.invalidInput, "send_message requires a non-empty body"⟩

def validateDelegationRequest (request : DelegationRequest) : CoreResult Unit := do
  rejectIf (Text.isBlank request.profileId.raw)
    ⟨.invalidInput, "request_delegation requires a profile_id"⟩
  rejectIf (Text.isBlank request.prompt) ⟨.invalidInput, "request_delegation requires a prompt"⟩
  rejectIf (request.expectedOutput.any Text.isBlank)
    ⟨.invalidInput, "request_delegation expected_output must be non-empty when provided"⟩
  rejectIf (request.timeoutMs = some 0)
    ⟨.invalidInput, "request_delegation timeout_ms must be greater than zero when provided"⟩
  rejectIf (request.workspaceConstraint.any fun constraint =>
      Text.isBlank constraint.cwd || !isAbsolutePath constraint.cwd)
    ⟨.invalidInput, "request_delegation workspace_constraint.cwd must be a non-empty absolute path"⟩
  rejectIf (request.resourceLimits.bind ResourceLimits.maxDurationMs = some 0)
    ⟨.invalidInput, "request_delegation resource_limits.max_duration_ms must be greater than " ++
      "zero when provided"⟩
  rejectIf (request.fanOutGroupId.any Text.isBlank)
    ⟨.invalidInput, "request_delegation fan_out_group_id must be non-empty when provided"⟩
  rejectIf (request.fanOutMaxConcurrency = some 0)
    ⟨.invalidInput, "request_delegation fan_out_max_concurrency must be greater than zero when " ++
      "provided"⟩
  rejectIf (request.correlationId.any Text.isBlank)
    ⟨.invalidInput, "request_delegation correlation_id must be non-empty when provided"⟩

def validateCompletionPacket (batchSessionId : SessionId) (packet : CompletionPacket) :
    CoreResult Unit := do
  rejectIf (packet.sessionId ≠ batchSessionId)
    ⟨.invalidInput, "completion packet session_id must match the action batch session_id"⟩
  rejectIf (Text.isBlank packet.sessionId.raw)
    ⟨.invalidInput, "completion packet requires a session_id"⟩
  rejectIf (Text.isBlank packet.summary) ⟨.invalidInput, "completion packet requires a summary"⟩

def validateAction (batchSessionId : SessionId) : BrainAction → CoreResult Unit
  | .sendMessage message => validateMessage message
  | .requestDelegation request => validateDelegationRequest request
  | .deliverCompletion packet => validateCompletionPacket batchSessionId packet

def rejectionOf (batchSessionId : SessionId) (entry : BrainAction × Nat) :
    Option ActionRejection :=
  match validateAction batchSessionId entry.1 with
  | .ok () => none
  | .error failure => some (CoreError.rejecting entry.2 failure)

def validate (batch : BrainActionBatch) : List ActionRejection :=
  batch.actions.zipIdx.filterMap (rejectionOf batch.sessionId)

def unregisteredDelegationProfileError (profileId : ProfileId) : CoreError :=
  ⟨.actionRejected, "delegation profile " ++ profileId.raw ++
    " is not registered with a brain implementation"⟩

def toolProfileForProfile (profileId : ProfileId) : CrewM ToolProfile :=
  Attended.transact fun engine => do
    let entry ← orFail (engine.profileToolProfiles.find? profileId)
      (unregisteredDelegationProfileError profileId)
    pure (entry.toolProfile, engine)

def validateDelegationProfile (session : SessionState) (request : DelegationRequest)
    (index : Nat) : CrewM (Option ActionRejection) :=
  if session.resourceLimits.maxDelegationDepth = some 0 then
    pure (some ⟨index, .actionRejected, "request_delegation exceeds max_delegation_depth"⟩)
  else do
    let profile ← Effect.attempt (toolProfileForProfile request.profileId)
    match profile with
    | .ok _ => pure none
    | .error failure => pure (some (CoreError.rejecting index failure))

def validateCompletionRun (packet : CompletionPacket) (index : Nat) :
    CrewM (Option ActionRejection) := do
  let loaded ← Effect.attempt (loadDelegatedWorkerRunBySession packet.sessionId)
  match loaded with
  | .ok (some run) =>
    if run.status.isTerminal then
      pure (some ⟨index, .actionRejected, "completion packet for delegated session " ++
        packet.sessionId.raw ++ " rejected because worker run " ++ run.runId.raw ++
        " is already terminal"⟩)
    else pure none
  | .ok none => pure none
  | .error failure => pure (some (CoreError.rejecting index failure))

def validateDelegationInvariant (session : SessionState) (entry : BrainAction × Nat) :
    CrewM (Option ActionRejection) :=
  match entry.1 with
  | .requestDelegation request => validateDelegationProfile session request entry.2
  | .deliverCompletion packet => validateCompletionRun packet entry.2
  | .sendMessage _ => pure none

def validateDelegationInvariants (session : SessionState) (batch : BrainActionBatch) :
    CrewM (List ActionRejection) :=
  Effect.gather (validateDelegationInvariant session) batch.actions.zipIdx

/-! ## Fan-out groups -/

structure FanOutValidationGroup where
  groupId : String
  indexes : List Nat
  maxConcurrency : Option Nat
  failurePolicy : Option FanOutFailurePolicy
  deriving DecidableEq

/-- The value a group has after a member's own, and whether the two disagree. -/
def mergeSetting {α : Type} [DecidableEq α] (existing given : Option α) : Option α × Bool :=
  match existing, given with
  | some existing, some given => (some existing, existing ≠ given)
  | none, given => (given, false)
  | existing, none => (existing, false)

def validateFanOutMember (checked : Table FanOutValidationGroup.groupId × List ActionRejection)
    (entry : BrainAction × Nat) : Table FanOutValidationGroup.groupId × List ActionRejection :=
  match entry.1 with
  | .requestDelegation request =>
    match request.fanOutGroupId with
    | some groupId =>
      let group := (checked.1.find? groupId).getD ⟨groupId, [], none, none⟩
      let (maxConcurrency, concurrencyDiffers) :=
        mergeSetting group.maxConcurrency request.fanOutMaxConcurrency
      let (failurePolicy, policyDiffers) :=
        mergeSetting group.failurePolicy request.fanOutFailurePolicy
      let rejections :=
        (if concurrencyDiffers then
          [⟨entry.2, .actionRejected, "fan-out group " ++ groupId ++
            " has inconsistent max concurrency"⟩]
        else []) ++
        (if policyDiffers then
          [⟨entry.2, .actionRejected, "fan-out group " ++ groupId ++
            " has inconsistent failure policy"⟩]
        else [])
      (checked.1.put ⟨groupId, group.indexes ++ [entry.2], maxConcurrency, failurePolicy⟩,
        checked.2 ++ rejections)
    | none => checked
  | _ => checked

def validateFanOutGroup (group : FanOutValidationGroup) : List ActionRejection :=
  match group.maxConcurrency with
  | some maxConcurrency =>
    if maxConcurrency < group.indexes.length then
      group.indexes.map fun index => ⟨index, .actionRejected, "fan-out group " ++
        group.groupId ++ " exceeds max concurrency " ++ toString maxConcurrency⟩
    else []
  | none => []

def validateFanOutInvariants (batch : BrainActionBatch) : List ActionRejection :=
  let (groups, rejections) :=
    batch.actions.zipIdx.foldl validateFanOutMember (Table.empty, [])
  rejections ++ groups.rows.flatMap validateFanOutGroup

end RustyCrew.Engine

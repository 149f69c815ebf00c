import RustyCrew.Brain.ToolPolicy
import RustyCrew.Library.Effect
import RustyCrew.Library.Result
import RustyCrew.Library.Rfc3339

namespace RustyCrew.Brain

open Library Protocol Effect

def wordMax : Nat := 2 ^ 64 - 1

def saturatingAdd (a b : Nat) : Nat := min (a + b) wordMax

inductive BufferedBrainTurnPhase where
  | created
  | running
  | awaitingHostTools
  | yielded
  | attentionRequired
  | completed
  | failed
  | cancelled
  deriving DecidableEq, Repr

def BufferedBrainTurnPhase.isTerminal : BufferedBrainTurnPhase → Bool
  | .created | .running | .awaitingHostTools => false
  | .yielded | .attentionRequired | .completed | .failed | .cancelled => true

def BufferedBrainTurnPhase.debugName : BufferedBrainTurnPhase → String
  | .created => "Created"
  | .running => "Running"
  | .awaitingHostTools => "AwaitingHostTools"
  | .yielded => "Yielded"
  | .attentionRequired => "AttentionRequired"
  | .completed => "Completed"
  | .failed => "Failed"
  | .cancelled => "Cancelled"

structure BufferedBrainTurnLimits where
  maxStreamItems : Nat := 4096
  maxStreamDeltaBytes : Nat := 8 * 1024 * 1024
  maxPendingToolRequests : Nat := 128
  maxToolResults : Nat := 1024
  maxToolOutputBytes : Nat := 64 * 1024
  deriving DecidableEq, Repr

/-- The errors of the coordinator. `panicked` stands for a failed `expect`. -/
inductive BufferedBrainTurnError where
  | invalidLimit (name : String)
  | invalidTransition (phase : BufferedBrainTurnPhase) (operation : String)
  | wakeIdentityMismatch (expected found : String)
  | sessionIdentityMismatch (expected found : String)
  | duplicateToolRequest (callId : String)
  | unknownToolRequest (callId : String)
  | conflictingToolResult (callId : String)
  | bufferLimitExceeded (buffer : String) (limit : Nat)
  | toolOutputTooLarge (callId : String) (actualBytes limitBytes : Nat)
  | sequenceExhausted
  | panicked (message : String)
  deriving DecidableEq, Repr

def BufferedBrainTurnError.message : BufferedBrainTurnError → String
  | .invalidLimit name => name ++ " must be greater than zero"
  | .invalidTransition phase operation =>
    "cannot " ++ operation ++ " while turn is " ++ phase.debugName
  | .wakeIdentityMismatch expected found =>
    "brain stream wake id mismatch: expected " ++ expected ++ ", found " ++ found
  | .sessionIdentityMismatch expected found =>
    "brain stream session id mismatch: expected " ++ expected ++ ", found " ++ found
  | .duplicateToolRequest callId => "tool request " ++ callId ++ " is already registered"
  | .unknownToolRequest callId => "tool request " ++ callId ++ " is not pending"
  | .conflictingToolResult callId =>
    "tool request " ++ callId ++ " already has a different accepted result"
  | .bufferLimitExceeded buffer limit => buffer ++ " exceeded configured limit " ++ toString limit
  | .toolOutputTooLarge callId actualBytes limitBytes =>
    "tool result " ++ callId ++ " is " ++ toString actualBytes ++ " bytes; limit is " ++
      toString limitBytes
  | .sequenceExhausted => "brain stream sequence exhausted"
  | .panicked message => message

def BufferedBrainTurnLimits.validate (limits : BufferedBrainTurnLimits) :
    Except BufferedBrainTurnError BufferedBrainTurnLimits := do
  [("max_stream_items", limits.maxStreamItems),
    ("max_stream_delta_bytes", limits.maxStreamDeltaBytes),
    ("max_pending_tool_requests", limits.maxPendingToolRequests),
    ("max_tool_results", limits.maxToolResults),
    ("max_tool_output_bytes", limits.maxToolOutputBytes)].forM fun (name, value) =>
      rejectIf (value = 0) (BufferedBrainTurnError.invalidLimit name)
  pure limits

structure BufferedNeutralPendingToolRequest where
  callId : String
  providerItemId : Option String
  (name argumentsJson : String)
  deriving DecidableEq, Repr

structure SequencedBrainWakeStreamItem where
  sequence : Nat
  item : BrainWakeStreamItem
  deriving DecidableEq, Repr

structure BufferedBrainTurnTerminal where
  (reasonCode summary occurredAt : String)
  deriving DecidableEq, Repr

inductive BufferedBrainToolResultReceipt where
  | accepted
  | duplicate
  deriving DecidableEq, Repr

structure BufferedBrainTurnDrain where
  wakeId : String
  phase : BufferedBrainTurnPhase
  items : List SequencedBrainWakeStreamItem
  remainingStreamItemCount : Nat
  terminal : Bool
  deriving DecidableEq, Repr

structure BufferedBrainHostToolSubmission where
  receipt : BufferedBrainToolResultReceipt
  decision : BufferedBrainToolPolicyDecision
  deriving DecidableEq, Repr

structure BufferedBrainHostToolOutput where
  output : BufferedNeutralToolOutput
  turnDisposition : Option BufferedBrainHostTurnDisposition
  deriving DecidableEq, Repr

abbrev CallTable (α : Type) := Table (Prod.fst : String × α → String)

structure BufferedBrainTurnCoordinator where
  (moduleId wakeId : String)
  sessionId : SessionId
  phase : BufferedBrainTurnPhase
  limits : BufferedBrainTurnLimits
  createdAt : OffsetDateTime
  startedAt : Option OffsetDateTime
  lastTransitionAt : OffsetDateTime
  nextStreamSequence : Nat
  streamItems : List SequencedBrainWakeStreamItem
  (rawStreamItemCount rawDeltaItemCount retainedStreamItemCount coalescedDeltaItemCount : Nat)
  (droppedStreamItemCount retainedDeltaBytes queuedDeltaBytes : Nat)
  pendingToolRequests : Table BufferedNeutralPendingToolRequest.callId
  undeliveredToolRequestIds : List String
  submittedToolOutputs : CallTable BufferedNeutralToolOutput
  submittedToolDispositions : CallTable (Option BufferedBrainHostTurnDisposition)
  acceptedToolOutputs : CallTable BufferedNeutralToolOutput
  acceptedHostToolResults : CallTable BufferedBrainHostToolResult
  acceptedHostToolDecisions : CallTable BufferedBrainToolPolicyDecision
  toolFailurePolicy : BufferedBrainToolFailurePolicy
  providerStateOutput : Option BrainWakeProviderStateOutput
  terminal : Option BufferedBrainTurnTerminal
  deriving DecidableEq

abbrev TurnM := Effect BufferedBrainTurnCoordinator BufferedBrainTurnError

def streamDeltaBytes : BrainWakeStreamItem → Option Nat
  | .event ⟨_, _, .textDelta text⟩ => some text.utf8ByteSize
  | .event ⟨_, _, .reasoningDelta text _⟩ => some text.utf8ByteSize
  | _ => none

def mergeDelta : BrainWakeStreamItem → BrainWakeStreamItem → Option BrainWakeStreamItem
  | .event ⟨wakeId, sessionId, .textDelta text⟩, .event ⟨_, _, .textDelta incoming⟩ =>
    some (.event ⟨wakeId, sessionId, .textDelta (text ++ incoming)⟩)
  | .event ⟨wakeId, sessionId, .reasoningDelta text format⟩,
      .event ⟨_, _, .reasoningDelta incoming incomingFormat⟩ =>
      if format = incomingFormat then
        some (.event ⟨wakeId, sessionId, .reasoningDelta (text ++ incoming) format⟩)
      else none
  | _, _ => none

def formatTime (now : OffsetDateTime) : String := now.formatRfc3339.getD "unknown"

namespace BufferedBrainTurnCoordinator

def newAt (moduleId wakeId : String) (sessionId : SessionId) (limits : BufferedBrainTurnLimits)
    (now : OffsetDateTime) : Except BufferedBrainTurnError BufferedBrainTurnCoordinator := do
  let limits ← limits.validate
  pure
    { moduleId, wakeId, sessionId, limits
      phase := .created
      createdAt := now
      startedAt := none
      lastTransitionAt := now
      nextStreamSequence := 1
      streamItems := []
      rawStreamItemCount := 0
      rawDeltaItemCount := 0
      retainedStreamItemCount := 0
      coalescedDeltaItemCount := 0
      droppedStreamItemCount := 0
      retainedDeltaBytes := 0
      queuedDeltaBytes := 0
      pendingToolRequests := Table.empty
      undeliveredToolRequestIds := []
      submittedToolOutputs := Table.empty
      submittedToolDispositions := Table.empty
      acceptedToolOutputs := Table.empty
      acceptedHostToolResults := Table.empty
      acceptedHostToolDecisions := Table.empty
      toolFailurePolicy := {}
      providerStateOutput := none
      terminal := none }

/-! ## Checks -/

def invalidTransition (turn : BufferedBrainTurnCoordinator) (operation : String) :
    BufferedBrainTurnError :=
  .invalidTransition turn.phase operation

def requirePhase (phase : BufferedBrainTurnPhase) (operation : String) : TurnM Unit :=
  check fun turn => rejectIf (turn.phase ≠ phase) (turn.invalidTransition operation)

def requireActive (operation : String) : TurnM Unit :=
  check fun turn =>
    rejectIf (turn.phase ≠ .created ∧ turn.phase ≠ .running ∧ turn.phase ≠ .awaitingHostTools)
      (turn.invalidTransition operation)

def streamIdentity : BrainWakeStreamItem → String × SessionId
  | .event event => (event.wakeId, event.sessionId)
  | .actions batch => (batch.wakeId, batch.sessionId)
  | .wakeFailed failure => (failure.wakeId, failure.sessionId)

variable (item : BrainWakeStreamItem)

def validateStreamIdentity : TurnM Unit :=
  check fun turn => do
    let (wakeId, sessionId) := streamIdentity item
    rejectIf (wakeId ≠ turn.wakeId) (.wakeIdentityMismatch turn.wakeId wakeId)
    rejectIf (sessionId ≠ turn.sessionId)
      (.sessionIdentityMismatch turn.sessionId.raw sessionId.raw)

def recordTransitionAt (now : OffsetDateTime) : TurnM Unit :=
  edit fun turn => { turn with lastTransitionAt := now }

/-! ## Phases -/

def startAt (now : OffsetDateTime) : TurnM Unit := do
  requirePhase .created "start"
  edit fun turn => { turn with phase := .running, startedAt := some now }
  recordTransitionAt now

def endTurn (phase : BufferedBrainTurnPhase) (reasonCode summary : String)
    (now : OffsetDateTime) : TurnM Unit := do
  edit fun turn =>
    { turn with phase := phase, terminal := some ⟨reasonCode, summary, formatTime now⟩ }
  recordTransitionAt now

def yieldTurnAt (now : OffsetDateTime) : TurnM Unit := do
  requirePhase .running "yield"
  endTurn .yielded "work_quantum_reached" "brain execution epoch yielded for durable continuation"
    now

def requireAttentionAt (reasonCode summary : String) (now : OffsetDateTime) : TurnM Unit := do
  requirePhase .running "require operator attention"
  endTurn .attentionRequired reasonCode summary now

def transitionTerminal (phase : BufferedBrainTurnPhase) (reasonCode summary : String)
    (now : OffsetDateTime) : TurnM Unit := do
  edit fun turn =>
    { turn with
      phase := phase
      pendingToolRequests := Table.empty
      undeliveredToolRequestIds := []
      submittedToolOutputs := Table.empty
      submittedToolDispositions := Table.empty
      terminal := some ⟨reasonCode, summary, formatTime now⟩ }
  recordTransitionAt now

def failAt (reasonCode summary : String) (now : OffsetDateTime) : TurnM Unit := do
  requireActive "fail"
  transitionTerminal .failed reasonCode summary now

def cancelAt (reasonCode summary : String) (now : OffsetDateTime) : TurnM Unit := do
  let phase ← read BufferedBrainTurnCoordinator.phase
  if phase = .cancelled then pure ()
  else if phase = .attentionRequired then transitionTerminal .cancelled reasonCode summary now
  else do
    requireActive "cancel"
    transitionTerminal .cancelled reasonCode summary now

def setProviderStateOutput (output : BrainWakeProviderStateOutput) (now : OffsetDateTime) :
    TurnM Unit := do
  check fun turn => rejectIf (turn.phase = .created ∨ turn.phase = .cancelled)
    (turn.invalidTransition "set provider state output")
  edit fun turn => { turn with providerStateOutput := some output }
  recordTransitionAt now

/-! ## The stream -/

def deltaRoomExceeded (turn : BufferedBrainTurnCoordinator) : BufferedBrainTurnError :=
  .bufferLimitExceeded "stream_delta_bytes" turn.limits.maxStreamDeltaBytes

/-- The queued bytes with the delta. A delta that is too large by itself waits for an empty
queue. -/
def nextQueuedDeltaBytes (deltaBytes : Nat) : TurnM Nat :=
  check fun turn => do
    let next := turn.queuedDeltaBytes + deltaBytes
    rejectIf (wordMax < next) turn.deltaRoomExceeded
    rejectIf (turn.limits.maxStreamDeltaBytes < next ∧ turn.streamItems ≠ [])
      turn.deltaRoomExceeded
    pure next

def mergeIntoLast (streamItems : List SequencedBrainWakeStreamItem)
    (incoming : BrainWakeStreamItem) :
    Option (Nat × List SequencedBrainWakeStreamItem) := do
  let last ← streamItems.getLast?
  let merged ← mergeDelta last.item incoming
  pure (last.sequence, streamItems.dropLast ++ [⟨last.sequence, merged⟩])

def coalesceAdjacentDelta (incoming : BrainWakeStreamItem) : TurnM (Option Nat) := fun turn =>
  match mergeIntoLast turn.streamItems incoming with
  | some (sequence, streamItems) => (.ok (some sequence), { turn with streamItems })
  | none => (.ok none, turn)

def coalesceDelta (deltaBytes : Nat) (now : OffsetDateTime) : TurnM (Option Nat) := do
  let next ← nextQueuedDeltaBytes deltaBytes
  let coalesced ← coalesceAdjacentDelta item
  match coalesced with
  | none => pure none
  | some sequence => do
    edit fun turn =>
      { turn with
        rawStreamItemCount := saturatingAdd turn.rawStreamItemCount 1
        rawDeltaItemCount := saturatingAdd turn.rawDeltaItemCount 1
        coalescedDeltaItemCount := saturatingAdd turn.coalescedDeltaItemCount 1
        retainedDeltaBytes := saturatingAdd turn.retainedDeltaBytes deltaBytes
        queuedDeltaBytes := next }
    recordTransitionAt now
    pure (some sequence)

def takeSequence : TurnM Nat := do
  let sequence ← read BufferedBrainTurnCoordinator.nextStreamSequence
  lift (rejectIf (wordMax < sequence + 1) .sequenceExhausted)
  edit fun turn => { turn with nextStreamSequence := sequence + 1 }
  pure sequence

def itemEnd (now : OffsetDateTime) :
    BrainWakeStreamItem → Option (BufferedBrainTurnPhase × BufferedBrainTurnTerminal)
  | .event _ => none
  | .actions _ => some (.completed, ⟨"completed", "brain turn completed", formatTime now⟩)
  | .wakeFailed failure =>
    some (.failed, ⟨failure.reasonCode.getD failure.kind.reasonCode, failure.message,
      formatTime now⟩)

def endByItem (now : OffsetDateTime) : TurnM Unit :=
  match itemEnd now item with
  | some (phase, terminal) =>
    edit fun turn => { turn with phase := phase, terminal := some terminal }
  | none => pure ()

def retainStreamItem (sequence : Nat) : TurnM Unit :=
  edit fun turn =>
    { turn with
      streamItems := turn.streamItems ++ [⟨sequence, item⟩]
      rawStreamItemCount := saturatingAdd turn.rawStreamItemCount 1
      retainedStreamItemCount := saturatingAdd turn.retainedStreamItemCount 1 }

def countRetainedDelta : TurnM Unit :=
  match streamDeltaBytes item with
  | some deltaBytes => edit fun turn =>
    { turn with
      rawDeltaItemCount := saturatingAdd turn.rawDeltaItemCount 1
      retainedDeltaBytes := saturatingAdd turn.retainedDeltaBytes deltaBytes
      queuedDeltaBytes := saturatingAdd turn.queuedDeltaBytes deltaBytes }
  | none => pure ()

def appendStreamItem (now : OffsetDateTime) : TurnM Nat := do
  check fun turn =>
    rejectIf (item.isTerminal = false ∧ turn.limits.maxStreamItems ≤ turn.streamItems.length)
      (.bufferLimitExceeded "stream_items" turn.limits.maxStreamItems)
  let sequence ← takeSequence
  retainStreamItem item sequence
  countRetainedDelta item
  endByItem item now
  recordTransitionAt now
  pure sequence

def coalesceItem (now : OffsetDateTime) : TurnM (Option Nat) :=
  match streamDeltaBytes item with
  | some deltaBytes => coalesceDelta item deltaBytes now
  | none => pure none

def enqueueStreamItemAt (now : OffsetDateTime) : TurnM Nat := do
  requirePhase .running "enqueue stream item"
  validateStreamIdentity item
  let coalesced ← coalesceItem item now
  match coalesced with
  | some sequence => pure sequence
  | none => appendStreamItem item now

/-- An item of the provider. Unless the queue was full, a rejected item ends the turn. -/
def enqueueProviderStreamItem (now failedAt : OffsetDateTime) : TurnM Nat := fun turn =>
  match enqueueStreamItemAt item now turn with
  | (.ok sequence, turn) => (.ok sequence, turn)
  | (.error (.bufferLimitExceeded buffer limit), turn) =>
    (.error (.bufferLimitExceeded buffer limit), turn)
  | (.error error, turn) =>
    if turn.phase.isTerminal then (.error error, turn)
    else
      let (_, turn) := failAt "provider_stream_enqueue_failed"
        ("provider stream item was rejected: " ++ error.message) failedAt turn
      (.error error, turn)

def popStreamItems :
    Nat → BufferedBrainTurnCoordinator →
      List SequencedBrainWakeStreamItem × BufferedBrainTurnCoordinator
  | 0, turn => ([], turn)
  | n + 1, turn =>
    match turn.streamItems with
    | [] => ([], turn)
    | item :: rest =>
      let turn :=
        { turn with
          streamItems := rest
          queuedDeltaBytes := match streamDeltaBytes item.item with
            | some deltaBytes => turn.queuedDeltaBytes - deltaBytes
            | none => turn.queuedDeltaBytes }
      if item.item.isTerminal then ([item], turn)
      else
        let (items, turn) := popStreamItems n turn
        (item :: items, turn)

def drainStream (maxItems : Nat) (now : OffsetDateTime) : TurnM BufferedBrainTurnDrain :=
  fun turn =>
    let (items, turn) := popStreamItems (max maxItems 1) turn
    let turn := if items = [] then turn else { turn with lastTransitionAt := now }
    (.ok
      { wakeId := turn.wakeId
        phase := turn.phase
        items := items
        remainingStreamItemCount := turn.streamItems.length
        terminal := turn.phase.isTerminal && turn.streamItems.isEmpty }, turn)

/-! ## Tool calls -/

def checkToolRequest (request : BufferedNeutralPendingToolRequest)
    (turn : BufferedBrainTurnCoordinator) : Except BufferedBrainTurnError Unit := do
  rejectIf (turn.phase ≠ .running ∧ turn.phase ≠ .awaitingHostTools)
    (turn.invalidTransition "queue tool request")
  rejectIf
    ((turn.pendingToolRequests.find? request.callId).isSome = true ∨
      (turn.acceptedToolOutputs.find? request.callId).isSome = true)
    (.duplicateToolRequest request.callId)
  rejectIf (turn.limits.maxPendingToolRequests ≤ turn.pendingToolRequests.rows.length)
    (.bufferLimitExceeded "pending_tool_requests" turn.limits.maxPendingToolRequests)

def queueToolRequestAt (request : BufferedNeutralPendingToolRequest) (now : OffsetDateTime) :
    TurnM Unit := do
  check (checkToolRequest request)
  edit fun turn =>
    { turn with
      pendingToolRequests := turn.pendingToolRequests.put request
      undeliveredToolRequestIds := turn.undeliveredToolRequestIds ++ [request.callId]
      phase := .awaitingHostTools }
  recordTransitionAt now

def popToolRequests :
    Nat → BufferedBrainTurnCoordinator →
      List BufferedNeutralPendingToolRequest × BufferedBrainTurnCoordinator
  | 0, turn => ([], turn)
  | n + 1, turn =>
    match turn.undeliveredToolRequestIds with
    | [] => ([], turn)
    | callId :: rest =>
      let (requests, turn) := popToolRequests n { turn with undeliveredToolRequestIds := rest }
      ((turn.pendingToolRequests.find? callId).toList ++ requests, turn)

def drainHostToolRequests (maxRequests : Nat) (now : OffsetDateTime) :
    TurnM (List BufferedNeutralPendingToolRequest) := fun turn =>
  let (requests, turn) := popToolRequests (max maxRequests 1) turn
  (.ok requests, if requests = [] then turn else { turn with lastTransitionAt := now })

def repeatedOutput (callId : String) (accepted output : BufferedNeutralToolOutput) :
    Except BufferedBrainTurnError BufferedBrainToolResultReceipt :=
  if accepted = output then .ok .duplicate else .error (.conflictingToolResult callId)

def checkToolOutput (callId : String) (output : BufferedNeutralToolOutput)
    (turn : BufferedBrainTurnCoordinator) : Except BufferedBrainTurnError Unit := do
  rejectIf (turn.phase ≠ .awaitingHostTools) (turn.invalidTransition "submit tool output")
  rejectIf (turn.pendingToolRequests.find? callId = none) (.unknownToolRequest callId)
  rejectIf (turn.limits.maxToolOutputBytes < output.output.utf8ByteSize)
    (.toolOutputTooLarge callId output.output.utf8ByteSize turn.limits.maxToolOutputBytes)
  rejectIf (turn.limits.maxToolResults ≤ turn.submittedToolOutputs.rows.length)
    (.bufferLimitExceeded "tool_results" turn.limits.maxToolResults)

def acceptToolOutput (callId : String) (output : BufferedNeutralToolOutput)
    (turn : BufferedBrainTurnCoordinator) : BufferedBrainTurnCoordinator :=
  let pending := turn.pendingToolRequests.erase callId
  { turn with
    pendingToolRequests := pending
    submittedToolOutputs := turn.submittedToolOutputs.put (callId, output)
    acceptedToolOutputs := turn.acceptedToolOutputs.put (callId, output)
    phase := if pending.rows = [] then .running else turn.phase }

def submitToolOutputAt (callId : String) (output : BufferedNeutralToolOutput)
    (now : OffsetDateTime) : TurnM BufferedBrainToolResultReceipt := do
  let accepted ← read fun turn => turn.acceptedToolOutputs.find? callId
  match accepted with
  | some (_, accepted) => lift (repeatedOutput callId accepted output)
  | none => do
    check (checkToolOutput callId output)
    edit (acceptToolOutput callId output)
    recordTransitionAt now
    pure .accepted

def repeatedResult (callId : String) (accepted result : BufferedBrainHostToolResult) :
    TurnM BufferedBrainHostToolSubmission :=
  if accepted = result then
    check fun turn =>
      match turn.acceptedHostToolDecisions.find? callId with
      | some (_, decision) => .ok ⟨.duplicate, decision⟩
      | none => .error (.panicked "accepted host result must retain its policy decision")
  else lift (.error (.conflictingToolResult callId))

/-- The failure policy takes the result before the output is checked. -/
def decideResult (toolName : String) (result : BufferedBrainHostToolResult) :
    TurnM BufferedBrainToolPolicyDecision := fun turn =>
  let (policy, decision) :=
    turn.toolFailurePolicy.recordResult toolName result turn.limits.maxToolOutputBytes
  (.ok decision, { turn with toolFailurePolicy := policy })

def acceptResult (callId : String) (result : BufferedBrainHostToolResult)
    (decision : BufferedBrainToolPolicyDecision) : TurnM Unit :=
  edit fun turn =>
    { turn with
      submittedToolDispositions := turn.submittedToolDispositions.put
        (callId, result.turnDisposition)
      acceptedHostToolResults := turn.acceptedHostToolResults.put (callId, result)
      acceptedHostToolDecisions := turn.acceptedHostToolDecisions.put (callId, decision) }

def submitNewResult (callId : String) (result : BufferedBrainHostToolResult)
    (now : OffsetDateTime) : TurnM BufferedBrainHostToolSubmission := do
  requirePhase .awaitingHostTools "submit host tool result"
  let request ← check fun turn =>
    orFail (turn.pendingToolRequests.find? callId) (.unknownToolRequest callId)
  let decision ← decideResult request.name result
  let _ ← submitToolOutputAt callId decision.providerOutput now
  acceptResult callId result decision
  pure ⟨.accepted, decision⟩

def submitHostToolResultAt (callId : String) (result : BufferedBrainHostToolResult)
    (now : OffsetDateTime) : TurnM BufferedBrainHostToolSubmission := do
  let accepted ← read fun turn => turn.acceptedHostToolResults.find? callId
  match accepted with
  | some (_, accepted) => repeatedResult callId accepted result
  | none => submitNewResult callId result now

def takeSubmittedToolOutput (callId : String) (now : OffsetDateTime) :
    TurnM (Option BufferedNeutralToolOutput) := fun turn =>
  match turn.submittedToolOutputs.find? callId with
  | some (_, output) =>
    (.ok (some output),
      { turn with
        submittedToolOutputs := turn.submittedToolOutputs.erase callId
        lastTransitionAt := now })
  | none => (.ok none, turn)

def takeDisposition (callId : String) : TurnM (Option BufferedBrainHostTurnDisposition) :=
  fun turn =>
    (.ok ((turn.submittedToolDispositions.find? callId).bind Prod.snd),
      { turn with submittedToolDispositions := turn.submittedToolDispositions.erase callId })

def pollSubmittedHostToolOutput (callId : String) (now : OffsetDateTime) :
    TurnM (Option BufferedBrainHostToolOutput) := do
  let taken ← takeSubmittedToolOutput callId now
  match taken with
  | none => pure none
  | some output => do
    let disposition ← takeDisposition callId
    pure (some ⟨output, disposition⟩)

end BufferedBrainTurnCoordinator

/-! ## The calls of a brain and of its host -/

/-- The calls with the times they read from the clock. -/
inductive TurnCall where
  | start (now : OffsetDateTime)
  | enqueueStreamItem (item : BrainWakeStreamItem) (now : OffsetDateTime)
  | enqueueProviderStreamItem (item : BrainWakeStreamItem) (now failedAt : OffsetDateTime)
  | queueToolRequest (request : BufferedNeutralPendingToolRequest) (now : OffsetDateTime)
  | drainHostToolRequests (maxRequests : Nat) (now : OffsetDateTime)
  | submitToolOutput (callId : String) (output : BufferedNeutralToolOutput)
      (now : OffsetDateTime)
  | submitHostToolResult (callId : String) (result : BufferedBrainHostToolResult)
      (now : OffsetDateTime)
  | pollSubmittedToolOutput (callId : String) (now : OffsetDateTime)
  | pollSubmittedHostToolOutput (callId : String) (now : OffsetDateTime)
  | setProviderStateOutput (output : BrainWakeProviderStateOutput) (now : OffsetDateTime)
  | yieldTurn (now : OffsetDateTime)
  | requireAttention (reasonCode summary : String) (now : OffsetDateTime)
  | fail (reasonCode summary : String) (now : OffsetDateTime)
  | cancel (reasonCode summary : String) (now : OffsetDateTime)
  | drainStream (maxItems : Nat) (now : OffsetDateTime)

inductive TurnReply where
  | done
  | sequence (sequence : Nat)
  | requests (requests : List BufferedNeutralPendingToolRequest)
  | receipt (receipt : BufferedBrainToolResultReceipt)
  | submission (submission : BufferedBrainHostToolSubmission)
  | output (output : Option BufferedNeutralToolOutput)
  | hostOutput (output : Option BufferedBrainHostToolOutput)
  | drain (drain : BufferedBrainTurnDrain)
  deriving DecidableEq

open BufferedBrainTurnCoordinator in
def TurnCall.perform : TurnCall → TurnM TurnReply
  | .start now => do
    startAt now
    pure .done
  | .enqueueStreamItem item now => do
    let sequence ← enqueueStreamItemAt item now
    pure (.sequence sequence)
  | .enqueueProviderStreamItem item now failedAt => do
    let sequence ← BufferedBrainTurnCoordinator.enqueueProviderStreamItem item now failedAt
    pure (.sequence sequence)
  | .queueToolRequest request now => do
    queueToolRequestAt request now
    pure .done
  | .drainHostToolRequests maxRequests now => do
    let requests ← BufferedBrainTurnCoordinator.drainHostToolRequests maxRequests now
    pure (.requests requests)
  | .submitToolOutput callId output now => do
    let receipt ← submitToolOutputAt callId output now
    pure (.receipt receipt)
  | .submitHostToolResult callId result now => do
    let submission ← submitHostToolResultAt callId result now
    pure (.submission submission)
  | .pollSubmittedToolOutput callId now => do
    let output ← takeSubmittedToolOutput callId now
    pure (.output output)
  | .pollSubmittedHostToolOutput callId now => do
    let output ← BufferedBrainTurnCoordinator.pollSubmittedHostToolOutput callId now
    pure (.hostOutput output)
  | .setProviderStateOutput output now => do
    BufferedBrainTurnCoordinator.setProviderStateOutput output now
    pure .done
  | .yieldTurn now => do
    yieldTurnAt now
    pure .done
  | .requireAttention reasonCode summary now => do
    requireAttentionAt reasonCode summary now
    pure .done
  | .fail reasonCode summary now => do
    failAt reasonCode summary now
    pure .done
  | .cancel reasonCode summary now => do
    cancelAt reasonCode summary now
    pure .done
  | .drainStream maxItems now => do
    let drain ← BufferedBrainTurnCoordinator.drainStream maxItems now
    pure (.drain drain)

end RustyCrew.Brain

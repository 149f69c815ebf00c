import RustyCrew.Coordination.Store

namespace RustyCrew.Coordination

open Library Protocol

def normalizedEventFromInput (input : ExternalRuntimeEventInput) (sequenceId : Nat) :
    NormalizedExternalRuntimeEvent where
  eventId := input.eventId
  sessionId := input.sessionId
  sequenceId := sequenceId
  createdAt := input.createdAt
  kind := input.kind
  runtimeId := input.runtimeId
  nativeThreadId := input.nativeThreadId
  nativeTurnId := input.nativeTurnId
  itemId := input.itemId
  requestId := input.requestId
  payload := input.payload
  rawDetailRef := input.rawDetailRef

def externalEventMatchesInput (event : NormalizedExternalRuntimeEvent)
    (input : ExternalRuntimeEventInput) : Bool :=
  normalizedEventFromInput input event.sequenceId = event

/-- The kinds of event that compaction folds into a checkpoint, in the order of their names. -/
def detailKinds : List String :=
  ["assistant_text_delta", "command_activity", "dynamic_tool_activity", "file_activity",
    "item_lifecycle", "mcp_activity", "plan_delta", "reasoning_delta"]

def ofNativeTurn (runtimeId : ExternalRuntimeId) (nativeTurnId : String)
    (event : NormalizedExternalRuntimeEvent) : Bool :=
  event.runtimeId = runtimeId && event.nativeTurnId = some nativeTurnId

def detailOf (runtimeId : ExternalRuntimeId) (nativeTurnId : String)
    (event : NormalizedExternalRuntimeEvent) : Bool :=
  ofNativeTurn runtimeId nativeTurnId event && detailKinds.contains event.kind

structure KindAggregate where
  kind : String
  (count first last bytes : Nat)
  deriving DecidableEq, Repr

def addCount (kind : String) (count : Nat) : List (String × Nat) → List (String × Nat)
  | [] => [(kind, count)]
  | (known, found) :: rest =>
    if kind = known then (known, found + count) :: rest
    else if kind < known then (kind, count) :: (known, found) :: rest
    else (known, found) :: addCount kind count rest

structure CompactionSummary where
  kindCounts : List (String × Nat)
  (firstSequence lastSequence : Option Nat)
  (eventCount estimatedBytes : Nat)
  deriving DecidableEq, Repr

def CompactionSummary.add (summary : CompactionSummary) (row : KindAggregate) :
    CompactionSummary where
  kindCounts := addCount row.kind row.count summary.kindCounts
  firstSequence := some (summary.firstSequence.elim row.first (min · row.first))
  lastSequence := some (summary.lastSequence.elim row.last (max · row.last))
  eventCount := summary.eventCount + row.count
  estimatedBytes := summary.estimatedBytes + row.bytes

structure ExternalRuntimeEventRetentionReport where
  enabled : Bool
  cutoff : Option IsoTimestamp
  terminalTurnBatchSize : Option Nat
  (terminalTurnsInspected terminalTurnsCompacted checkpointsCreated eventsDeleted : Nat)
  estimatedReclaimedBytes : Nat
  oldestRetainedSequence : Option Nat
  oldestRetainedAt : Option IsoTimestamp
  deriving DecidableEq, Repr

namespace ExternalTables

def nextSequence (tables : ExternalTables) (runtimeId : ExternalRuntimeId) : Nat :=
  match tables.cursors.find? runtimeId with
  | some cursor => cursor.nextSequenceId
  | none =>
    ((tables.events.select fun event => event.runtimeId = runtimeId).map (·.sequenceId)).foldr
      max 0 + 1

def appendExternalRuntimeEventAllocated (tables : ExternalTables)
    (input : ExternalRuntimeEventInput) :
    CoreResult (NormalizedExternalRuntimeEvent × ExternalTables) :=
  match tables.events.find? input.eventId with
  | some existing => do
    rejectIf (externalEventMatchesInput existing input = false) ⟨.alreadyExists,
      "external runtime event id conflicts with a different payload"⟩
    pure (existing, tables)
  | none => do
    let sequence := tables.nextSequence input.runtimeId
    rejectIf (tables.registrations.find? input.runtimeId = none)
      (foreignKeyFailed "initialize external runtime event cursor")
    rejectIf (tables.events.rows.any fun event =>
        event.runtimeId = input.runtimeId && event.sequenceId = sequence)
      (uniqueFailed "append allocated external runtime event"
        "external_runtime_events.runtime_id, external_runtime_events.sequence_id")
    rejectIf (input.sessionId.any (· ∉ tables.sessions))
      (foreignKeyFailed "append allocated external runtime event")
    pure (normalizedEventFromInput input sequence,
      { tables with
        cursors := tables.cursors.put ⟨input.runtimeId, sequence + 1⟩
        events := tables.events.put (normalizedEventFromInput input sequence) })

/-! ## Compaction -/

def compactionCandidates (tables : ExternalTables) (cutoff : IsoTimestamp) (batchSize : Nat) :
    List ExternalTurnCorrelation :=
  ((tables.turns.select fun turn =>
      turn.phase.isTerminal && turn.updatedAt < cutoff &&
        turn.nativeTurnId.any fun native =>
          tables.events.rows.any (detailOf turn.runtimeId native)).insertionSort fun a b =>
    a.updatedAt < b.updatedAt ∨ a.updatedAt = b.updatedAt ∧
      (a.runtimeId.raw < b.runtimeId.raw ∨ a.runtimeId.raw = b.runtimeId.raw ∧
        a.nativeTurnId.getD "" ≤ b.nativeTurnId.getD "")).take batchSize

section
variable (jsonLength : NormalizedExternalRuntimeEvent → Nat)

/-- `SELECT kind, COUNT(*), MIN(sequence_id), MAX(sequence_id), SUM(LENGTH(record_json))` for one
kind; a kind without rows has no group. -/
def kindAggregate (rows : List NormalizedExternalRuntimeEvent) (kind : String) :
    Option KindAggregate :=
  match rows.filter fun event => event.kind = kind with
  | [] => none
  | event :: rest => some
      { kind := kind
        count := rest.length + 1
        first := (rest.map (·.sequenceId)).foldl min event.sequenceId
        last := (rest.map (·.sequenceId)).foldl max event.sequenceId
        bytes := ((event :: rest).map jsonLength).sum }

def compactionSummary (rows : List NormalizedExternalRuntimeEvent) : CompactionSummary :=
  (detailKinds.filterMap (kindAggregate jsonLength rows)).foldl CompactionSummary.add
    ⟨[], none, none, 0, 0⟩

/-- The checkpoint of a turn, over the one it may already have. -/
def mergedCheckpoint (turn : ExternalTurnCorrelation) (native : String)
    (summary : CompactionSummary) (first last : Nat) (checkpointedAt cutoff : IsoTimestamp)
    (existing : Option ExternalRuntimeEventCheckpoint) : ExternalRuntimeEventCheckpoint where
  runtimeId := turn.runtimeId
  nativeTurnId := native
  nativeThreadId := turn.nativeThreadId
  sessionId := turn.request.sessionId
  terminalPhase := turn.phase
  terminalAt := turn.updatedAt
  firstSequenceId := existing.elim first fun known => min first known.firstSequenceId
  lastSequenceId := existing.elim last fun known => max last known.lastSequenceId
  compactedEventCount := existing.elim summary.eventCount fun known =>
    summary.eventCount + known.compactedEventCount
  estimatedCompactedBytes := existing.elim summary.estimatedBytes fun known =>
    summary.estimatedBytes + known.estimatedCompactedBytes
  kindCounts := existing.elim summary.kindCounts fun known =>
    known.kindCounts.foldl (fun counts (kind, count) => addCount kind count counts)
      summary.kindCounts
  checkpointedAt := checkpointedAt
  policyCutoff := cutoff

def reportCompaction (report : ExternalRuntimeEventRetentionReport) (created : Bool)
    (deleted bytes : Nat) : ExternalRuntimeEventRetentionReport :=
  { report with
    terminalTurnsCompacted := report.terminalTurnsCompacted + 1
    checkpointsCreated := report.checkpointsCreated + created.toNat
    eventsDeleted := report.eventsDeleted + deleted
    estimatedReclaimedBytes := report.estimatedReclaimedBytes + bytes }

def compactTurn (cutoff checkpointedAt : IsoTimestamp)
    (state : ExternalTables × ExternalRuntimeEventRetentionReport)
    (turn : ExternalTurnCorrelation) : ExternalTables × ExternalRuntimeEventRetentionReport :=
  let (tables, report) := state
  let native := turn.nativeTurnId.getD ""
  let rows := tables.events.select (detailOf turn.runtimeId native)
  let summary := compactionSummary jsonLength rows
  match summary.firstSequence, summary.lastSequence with
  | some first, some last =>
    let existing := tables.checkpoints.find? (turn.runtimeId, native)
    ({ tables with
        checkpoints := tables.checkpoints.put
          (mergedCheckpoint turn native summary first last checkpointedAt cutoff existing)
        events := tables.events.discard (detailOf turn.runtimeId native) },
      reportCompaction report existing.isNone rows.length summary.estimatedBytes)
  | _, _ => (tables, report)

def oldestRetained (tables : ExternalTables) : Option NormalizedExternalRuntimeEvent :=
  (tables.events.rows.insertionSort fun a b =>
    a.createdAt < b.createdAt ∨ a.createdAt = b.createdAt ∧ a.sequenceId ≤ b.sequenceId).head?

def startedReport (cutoff : IsoTimestamp) (batchSize inspected : Nat) :
    ExternalRuntimeEventRetentionReport :=
  ⟨true, some cutoff, some batchSize, inspected, 0, 0, 0, 0, none, none⟩

def compactTerminalExternalRuntimeEvents (tables : ExternalTables)
    (cutoff checkpointedAt : IsoTimestamp) (terminalTurnBatchSize : Nat) :
    CoreResult (ExternalRuntimeEventRetentionReport × ExternalTables) := do
  rejectIf (terminalTurnBatchSize = 0) ⟨.invalidInput,
    "external runtime event terminal turn batch size must be greater than zero"⟩
  let candidates := tables.compactionCandidates cutoff terminalTurnBatchSize
  let (tables, report) := candidates.foldl (compactTurn jsonLength cutoff checkpointedAt)
    (tables, startedReport cutoff terminalTurnBatchSize candidates.length)
  let oldest := tables.oldestRetained
  pure ({ report with
      oldestRetainedSequence := oldest.map (·.sequenceId)
      oldestRetainedAt := oldest.map (·.createdAt) }, tables)

end

end ExternalTables

/-! ## Runs of the store -/

inductive StoreCall where
  | saveSession (sessionId : SessionId)
  | registerRuntime (record : ExternalRuntimeRegistration) (expectedRevision : Option Nat)
  | acquireController (candidate : ExternalControllerLease) (now : IsoTimestamp)
  | releaseController (runtimeId : ExternalRuntimeId) (holderInstanceId : String)
      (generation : Nat) (now : IsoTimestamp)
  | putBinding (record : ExternalAgentBinding) (expectedRevision : Option Nat)
  | createTurn (record : ExternalTurnCorrelation)
  | transitionTurn (transition : ExternalTables.TurnTransition)
  | appendEvent (input : ExternalRuntimeEventInput)
  | compactEvents (cutoff checkpointedAt : IsoTimestamp) (terminalTurnBatchSize : Nat)
  deriving DecidableEq, Repr

namespace ExternalTables

def settled {α : Type} (tables : ExternalTables) : CoreResult (α × ExternalTables) → ExternalTables
  | .ok (_, tables) => tables
  | .error _ => tables

def serve (jsonLength : NormalizedExternalRuntimeEvent → Nat) (tables : ExternalTables) :
    StoreCall → ExternalTables
  | .saveSession sessionId => tables.saveSession sessionId
  | .registerRuntime record expected =>
    tables.settled (tables.putExternalRuntimeRegistration record expected)
  | .acquireController candidate now =>
    tables.settled (tables.acquireExternalControllerLease candidate now)
  | .releaseController runtimeId holder generation now =>
    tables.settled (tables.releaseExternalControllerLease runtimeId holder generation now)
  | .putBinding record expected => tables.settled (tables.putExternalAgentBinding record expected)
  | .createTurn record => tables.settled (tables.createExternalTurn record)
  | .transitionTurn transition => tables.settled (tables.applyTransition transition)
  | .appendEvent input => tables.settled (tables.appendExternalRuntimeEventAllocated input)
  | .compactEvents cutoff checkpointedAt batchSize =>
    tables.settled (tables.compactTerminalExternalRuntimeEvents jsonLength cutoff
      checkpointedAt batchSize)

end ExternalTables

end RustyCrew.Coordination

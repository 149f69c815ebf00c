import RustyCrew.Library.Result
import RustyCrew.Library.Text
import RustyCrew.Protocol.Json

namespace RustyCrew.Brain

open Library RustyCrew.Library.Text Protocol

structure BrainContextCompactionPolicy where
  (enabled autoCompactionEnabled : Bool)
  strategyId : String
  (contextWindowTokens compactAtPercent targetPercentAfterCompaction : Nat)
  deriving DecidableEq, Repr

def BrainContextCompactionPolicy.validate (policy : BrainContextCompactionPolicy) :
    Except String Unit := do
  rejectIf (isBlank policy.strategyId) "context compaction strategy_id must not be empty"
  rejectIf (policy.contextWindowTokens = 0)
    "context compaction context_window_tokens must be positive"
  rejectIf (¬(1 ≤ policy.compactAtPercent ∧ policy.compactAtPercent ≤ 100))
    "context compaction compact_at_percent must be between 1 and 100"
  rejectIf (policy.compactAtPercent ≤ policy.targetPercentAfterCompaction)
    "context compaction target_percent_after_compaction must be below compact_at_percent"

def BrainContextCompactionPolicy.targetTokens (policy : BrainContextCompactionPolicy) : Nat :=
  min (policy.contextWindowTokens * policy.targetPercentAfterCompaction) (2 ^ 64 - 1) / 100

structure BrainContextCompactionItem where
  (sourceRef role content : String)
  toolExchangeId : Option String
  toolExchangeCompleted : Bool
  metadata : Json
  deriving DecidableEq, Repr

structure BrainContextCompactionSnapshot where
  sourceProjectionFingerprint : String
  items : List BrainContextCompactionItem
  deriving DecidableEq, Repr

/-- The exclusive item index before which a strategy may compact. -/
structure BrainContextSafeCompactionBoundary where
  boundaryId : String
  compactBeforeItem : Nat
  activeToolExchangeId : Option String
  deriving DecidableEq, Repr

structure BrainContextCompactionStrategyInput where
  snapshot : BrainContextCompactionSnapshot
  policy : BrainContextCompactionPolicy
  safeBoundary : BrainContextSafeCompactionBoundary
  domainContext : Option Json
  parentArtifactId : Option String
  deriving DecidableEq, Repr

structure BrainContextCompactionPayloadLineage where
  (sourceProjectionFingerprint boundaryId : String)
  parentArtifactId : Option String
  deriving DecidableEq, Repr

inductive BrainContextCompactionQuality where
  | exact
  | derived
  | degraded
  deriving DecidableEq, Repr

structure BrainContextCompactionPreservationDecision where
  (strategyId strategyRevision summaryText : String)
  (compactedSourceRefs retainedSourceRefs : List String)
  preservationPayload : Json
  payloadLineage : BrainContextCompactionPayloadLineage
  quality : BrainContextCompactionQuality
  warnings : List String
  deriving DecidableEq, Repr

inductive BrainContextCompactionStrategyFailureKind where
  | invalidInput
  | strategyFailed
  | timedOut
  | invalidDecision
  deriving DecidableEq, Repr

structure BrainContextCompactionStrategyFailure where
  kind : BrainContextCompactionStrategyFailureKind
  (reasonCode summary : String)
  retryable : Bool
  preservesPriorProjection : Bool := true
  deriving DecidableEq, Repr

/-- A strategy. `none` is a `preserve` that panics. -/
structure BrainContextCompactionStrategy where
  (strategyId strategyRevision : String)
  preserve : BrainContextCompactionStrategyInput →
    Option (Except String BrainContextCompactionPreservationDecision)

/-! ## The validators -/

def validateItems (boundary : BrainContextSafeCompactionBoundary) (index : Nat)
    (refs : List String) : List BrainContextCompactionItem → Except String Unit
  | [] => .ok ()
  | item :: rest => do
    rejectIf (isBlank item.sourceRef ∨ item.sourceRef ∈ refs)
      "compaction snapshot source refs must be non-empty and unique"
    rejectIf (index < boundary.compactBeforeItem ∧ item.toolExchangeCompleted = false)
      "safe compaction boundary crosses an active tool exchange"
    rejectIf (index < boundary.compactBeforeItem ∧
        boundary.activeToolExchangeId = item.toolExchangeId ∧ item.toolExchangeId.isSome)
      "safe compaction boundary includes the active tool exchange"
    validateItems boundary (index + 1) (refs ++ [item.sourceRef]) rest

def validateCompactionStrategyInput (input : BrainContextCompactionStrategyInput) :
    Except String Unit := do
  input.policy.validate
  rejectIf (isBlank input.snapshot.sourceProjectionFingerprint)
    "compaction snapshot fingerprint must not be empty"
  rejectIf (isBlank input.safeBoundary.boundaryId) "safe compaction boundary id must not be empty"
  rejectIf (input.snapshot.items.length < input.safeBoundary.compactBeforeItem)
    "safe compaction boundary is outside the frozen snapshot"
  rejectIf (input.safeBoundary.compactBeforeItem = input.snapshot.items.length)
    "safe compaction boundary must retain at least one current item"
  validateItems input.safeBoundary 0 [] input.snapshot.items

def validatePartition (boundary : BrainContextSafeCompactionBoundary)
    (compacted retained : Finset String) (index : Nat) :
    List BrainContextCompactionItem → Except String Unit
  | [] => .ok ()
  | item :: rest => do
    rejectIf (item.sourceRef ∈ compacted ↔ item.sourceRef ∈ retained)
      "compaction decision must partition every frozen projection item"
    rejectIf (item.sourceRef ∈ compacted ∧ boundary.compactBeforeItem ≤ index)
      "compaction decision crosses the supplied safe boundary"
    rejectIf (item.sourceRef ∈ compacted ∧ item.toolExchangeCompleted = false)
      "compaction decision attempts to compact an active tool exchange"
    validatePartition boundary compacted retained (index + 1) rest

def validateCompactionStrategyDecision (input : BrainContextCompactionStrategyInput)
    (strategy : BrainContextCompactionStrategy)
    (decision : BrainContextCompactionPreservationDecision) : Except String Unit := do
  rejectIf (decision.strategyId ≠ strategy.strategyId ∨
      decision.strategyId ≠ input.policy.strategyId)
    "compaction decision strategy id does not match the selected strategy"
  rejectIf (isBlank decision.strategyRevision ∨
      decision.strategyRevision ≠ strategy.strategyRevision)
    "compaction decision strategy revision is invalid"
  rejectIf (isBlank decision.summaryText ∨ decision.compactedSourceRefs = [])
    "compaction decision must contain a summary and compact at least one item"
  rejectIf (decision.payloadLineage.sourceProjectionFingerprint ≠
        input.snapshot.sourceProjectionFingerprint ∨
      decision.payloadLineage.boundaryId ≠ input.safeBoundary.boundaryId ∨
      decision.payloadLineage.parentArtifactId ≠ input.parentArtifactId)
    "compaction decision payload lineage does not match the frozen input"
  let compacted := decision.compactedSourceRefs.toFinset
  let retained := decision.retainedSourceRefs.toFinset
  rejectIf (compacted.card ≠ decision.compactedSourceRefs.length ∨
      retained.card ≠ decision.retainedSourceRefs.length ∨ ¬Disjoint compacted retained)
    "compaction decision source refs must be unique and disjoint"
  validatePartition input.safeBoundary compacted retained 0 input.snapshot.items

/-! ## Running a strategy -/

inductive CompactionStrategyExecution where
  | capacityExhausted
  | unavailable
  | timedOut
  | workerEnded
  | finished
  deriving DecidableEq, Repr

def submitStrategy (execution : CompactionStrategyExecution)
    (strategy : BrainContextCompactionStrategy) (input : BrainContextCompactionStrategyInput) :
    Except BrainContextCompactionStrategyFailure
      (Except String BrainContextCompactionPreservationDecision) :=
  match execution with
  | .capacityExhausted =>
    .error ⟨.strategyFailed, "compaction_strategy_capacity_exhausted",
      "compaction strategy execution capacity is occupied by prior invocations", true, true⟩
  | .unavailable =>
    .error ⟨.strategyFailed, "compaction_strategy_executor_unavailable",
      "compaction strategy executor is unavailable", true, true⟩
  | .timedOut =>
    .error ⟨.timedOut, "compaction_strategy_timed_out",
      "compaction strategy exceeded its execution deadline", true, true⟩
  | .workerEnded =>
    .error ⟨.strategyFailed, "compaction_strategy_worker_failed",
      "compaction strategy worker ended without returning a decision", true, true⟩
  | .finished => .ok ((strategy.preserve input).getD (.error "compaction strategy panicked"))

def executeCompactionStrategy (execution : CompactionStrategyExecution)
    (strategy : BrainContextCompactionStrategy) (input : BrainContextCompactionStrategyInput) :
    Except BrainContextCompactionStrategyFailure BrainContextCompactionPreservationDecision := do
  orFailWith (validateCompactionStrategyInput input) fun error =>
    ⟨.invalidInput, "compaction_strategy_input_invalid", error, false, true⟩
  rejectIf (strategy.strategyId ≠ input.policy.strategyId)
    ⟨.invalidInput, "compaction_strategy_not_selected",
      "strategy id does not match the policy selection", false, true⟩
  let answer ← submitStrategy execution strategy input
  let decision ← orFailWith answer fun error =>
    ⟨.strategyFailed, "compaction_strategy_failed", error, true, true⟩
  orFailWith (validateCompactionStrategyDecision input strategy decision) fun error =>
    ⟨.invalidDecision, "compaction_strategy_decision_invalid", error, true, true⟩
  pure decision

/-! ## The rolling summary -/

def truncateCompactionUtf8 (maxBytes : Nat) : List Char → List Char
  | [] => []
  | character :: rest =>
    if character.utf8Size ≤ maxBytes then
      character :: truncateCompactionUtf8 (maxBytes - character.utf8Size) rest
    else []

def summarize (budget : Nat) (summary : String) : List BrainContextCompactionItem → String
  | [] => summary
  | item :: rest =>
    let remaining := budget - summary.utf8ByteSize
    if remaining ≤ 32 then summary
    else
      let line := item.role ++ ": " ++ item.content ++ "\n"
      summarize budget
        (summary ++ String.ofList (truncateCompactionUtf8 (min remaining 320) line.toList)) rest

def summaryHeading : String :=
  "[Rusty Crew context summary]\nEarlier completed provider items were compacted from the " ++
    "model-facing projection only. Canonical transcript and tool telemetry remain " ++
    "authoritative.\n"

def rollingSummary (input : BrainContextCompactionStrategyInput) :
    BrainContextCompactionPreservationDecision :=
  let boundary := input.safeBoundary.compactBeforeItem
  let budget := min (max input.policy.targetTokens 256) 4096
  { strategyId := "rolling_summary_compaction"
    strategyRevision := "rolling_summary_v1"
    summaryText := summarize budget summaryHeading (input.snapshot.items.take boundary)
    compactedSourceRefs :=
      (input.snapshot.items.take boundary).map BrainContextCompactionItem.sourceRef
    retainedSourceRefs :=
      (input.snapshot.items.drop boundary).map BrainContextCompactionItem.sourceRef
    preservationPayload :=
      Json.ofMembers [("kind", .string "rolling_summary"), ("version", .number "1")]
    payloadLineage :=
      ⟨input.snapshot.sourceProjectionFingerprint, input.safeBoundary.boundaryId,
        input.parentArtifactId⟩
    quality := .derived
    warnings := [] }

def rollingSummaryCompactionStrategy : BrainContextCompactionStrategy where
  strategyId := "rolling_summary_compaction"
  strategyRevision := "rolling_summary_v1"
  preserve input :=
    if input.safeBoundary.compactBeforeItem = 0 then
      some (.error "no completed historical item is available for compaction")
    else if input.snapshot.items.length < input.safeBoundary.compactBeforeItem then none
    else some (.ok (rollingSummary input))

end RustyCrew.Brain

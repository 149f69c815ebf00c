import RustyCrew.Persistence.LogicalTurns

namespace RustyCrew.Persistence

open Library Protocol

/-- The attention raised at startup for a turn whose service stopped during host tools: one
interrupted tool can be confirmed by an operator, several cannot. -/
def hydrationAttention (unknownHostTools : Nat) (now : IsoTimestamp) : LogicalTurnAttention :=
  if unknownHostTools = 1 then
    { reason := .toolOutcomeUnknown
      reasonCode := "host_tool_outcome_unknown_after_restart"
      summary := "a host tool lease was active when the service stopped"
      evidenceRefs := []
      resolutionActions := [.confirmToolCompleted, .confirmToolNotCompleted, .cancel]
      retryUnchangedSafe := false
      requiredAt := now }
  else
    { reason := .invariantRepairRequired
      reasonCode := "multiple_host_tool_outcomes_unknown_after_restart"
      summary := "multiple host tool leases were active when the service stopped; " ++
        "automatic outcome confirmation is unsafe"
      evidenceRefs := []
      resolutionActions := [.cancel]
      retryUnchangedSafe := false
      requiredAt := now }

def finalizedRecord (record : LogicalTurnRecord) (now : IsoTimestamp) : LogicalTurnRecord :=
  { releaseClaim record now with
    phase := .cancelled
    cancellationGeneration := record.cancellationGeneration + 1
    terminalAt := some now }

def interruptedRecord (record : LogicalTurnRecord) (unknownHostTools : Nat)
    (now : IsoTimestamp) : LogicalTurnRecord :=
  { releaseClaim record now with
    phase := .attentionRequired
    attention := some (hydrationAttention unknownHostTools now) }

def recoveredRecord (record : LogicalTurnRecord) (now : IsoTimestamp) : LogicalTurnRecord :=
  { releaseClaim record now with phase := .runnable }

namespace Store

def finalizeCancellation (s : Store) (record : LogicalTurnRecord) (now : IsoTimestamp) :
    CoreResult Store := do
  let cancelled := finalizedRecord record now
  let s ← s.updateTurn cancelled record.revision
  let s := s.deleteTicket cancelled.logicalTurnId
  let progress ← s.currentProgress cancelled
  s.insertOutbox (lifecycleForRecord cancelled progress .cancelled
    "cancelled_during_restart_hydration"
    "logical turn cancellation was finalized during restart hydration" now)

def interruptTurn (s : Store) (record : LogicalTurnRecord) (unknownHostTools : Nat)
    (now : IsoTimestamp) : CoreResult Store := do
  let interrupted := interruptedRecord record unknownHostTools now
  let s ← s.updateTurn interrupted record.revision
  let progress ← s.currentProgress interrupted
  s.insertOutbox (lifecycleForRecord interrupted progress .attentionRequired
    "host_tool_outcome_unknown_after_restart"
    "logical turn requires operator resolution before it can continue" now)

def recoverTurn (s : Store) (record : LogicalTurnRecord) (now : IsoTimestamp) :
    CoreResult Store := do
  let recovered := recoveredRecord record now
  let s ← s.updateTurn recovered record.revision
  let progress ← s.currentProgress recovered
  let s ← s.insertOutbox (lifecycleForRecord recovered progress .continuationResumed
    "restart_recovery" "logical turn continuation recovered after service restart" now)
  .ok (s.upsertTicket (continuationTicket recovered .restartRecovery now))

/-- One round of the hydration loop, on the record as it was loaded before the loop. -/
def hydrateTurn (now : IsoTimestamp) (state : Store × LogicalTurnHydrationReport)
    (record : LogicalTurnRecord) : CoreResult (Store × LogicalTurnHydrationReport) :=
  let (s, report) := state
  if record.phase.isTerminal then
    .ok (s, { report with terminalSkipped := report.terminalSkipped + 1 })
  else if record.phase = .attentionRequired then
    .ok (s, { report with attentionRequired := report.attentionRequired + 1 })
  else if record.phase = .cancelRequested then do
    let s ← s.finalizeCancellation record now
    .ok (s, report)
  else do
    let (s, unknownHostTools) ←
      if record.phase = .running then s.markLeasedHostToolsOutcomeUnknown record.logicalTurnId now
      else .ok (s, [])
    if unknownHostTools ≠ [] then do
      let s ← s.interruptTurn record unknownHostTools.length now
      .ok (s, { report with attentionRequired := report.attentionRequired + 1 })
    else if record.phase = .runnable then
      .ok (s.upsertTicket (continuationTicket record .restartRecovery now),
        { report with alreadyRunnable := report.alreadyRunnable + 1 })
    else do
      let s ← s.recoverTurn record now
      .ok (s, { report with madeRunnable := report.madeRunnable + 1 })

def hydrateLogicalTurns (s : Store) (now : IsoTimestamp) :
    CoreResult (Store × LogicalTurnHydrationReport) :=
  let records := s.loadAllTurns
  records.foldlM (hydrateTurn now) (s, ⟨records.length, 0, 0, 0, 0, now⟩)

end Store

end RustyCrew.Persistence

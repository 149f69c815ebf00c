import RustyCrew.Coordination.Store

namespace RustyCrew.Coordination

open Library Protocol
open RustyCrew.Persistence (persistenceError)

namespace ExternalTables

/-! ## Interactions -/

variable (tables : ExternalTables)

def listPendingExternalInteractions : List ExternalInteractionRecord :=
  orderedBy (·.expiresAt) (·.interactionId.raw)
    (tables.interactions.select fun interaction => interaction.status = .pending)

def updateExternalInteraction (next : ExternalInteractionRecord)
    (expectedRevision : Nat) : CoreResult (ExternalInteractionRecord × ExternalTables) := do
  let current ← orFail (tables.interactions.find? next.interactionId)
    (notFound "external interaction")
  if current = next then pure (current, tables)
  else do
    rejectIf (current.revision ≠ expectedRevision)
      (revisionConflict "external interaction" expectedRevision current.revision)
    rejectIf (current.status ≠ .pending)
      ⟨.actionRejected, "terminal external interaction is immutable"⟩
    rejectIf (next.status = .pending)
      ⟨.actionRejected, "pending external interaction may only transition to terminal"⟩
    let saved := { next with revision := current.revision + 1 }
    pure (saved, { tables with interactions := tables.interactions.put saved })

/-! ## Deliveries -/

def getAgentMessageDeliveryByMessageId (messageId : String) : Option AgentMessageDeliveryReceipt :=
  tables.deliveries.rows.find? fun receipt => receipt.request.messageId = messageId

def getAgentMessageReply (messageId : String) : Option AgentMessageDeliveryReceipt :=
  tables.deliveries.rows.find? fun receipt => receipt.request.replyToMessageId = some messageId

def attachesInitialSteer (current next : AgentMessageDeliveryReceipt) : Bool :=
  current.activation.isNone && next.activation.any AgentActivation.isSteer &&
    next.sequence.isSome && next.reasonCode.isNone && next.terminalAt.isNone

def updateAgentMessageDelivery (next : AgentMessageDeliveryReceipt)
    (expectedRevision : Nat) : CoreResult (AgentMessageDeliveryReceipt × ExternalTables) := do
  let current ← orFail (tables.deliveries.find? next.deliveryId) (notFound "agent message delivery")
  if current = next then pure (current, tables)
  else do
    rejectIf (current.revision ≠ expectedRevision)
      (revisionConflict "agent message delivery" expectedRevision current.revision)
    rejectIf (current.status.isTerminal)
      ⟨.actionRejected, "terminal agent message delivery is immutable"⟩
    rejectIf (next.status = .pending ∧ attachesInitialSteer current next = false) ⟨.actionRejected,
        "pending agent message delivery may only attach its initial steer activation"⟩
    let saved := { next with revision := current.revision + 1 }
    pure (saved, { tables with deliveries := tables.deliveries.put saved })

def listPendingAgentMessageDeliveries : List AgentMessageDeliveryReceipt :=
  orderedBy (·.request.expiresAt) (·.deliveryId.raw)
    (tables.deliveries.select fun receipt => receipt.status = .pending)

/-! ## Rounds -/

def updateAgentCorrelatedRound (next : AgentCorrelatedRound)
    (expectedRevision : Nat) : CoreResult (AgentCorrelatedRound × ExternalTables) := do
  let current ← orFail (tables.rounds.find? next.roundId) (notFound "external correlated round")
  if current = next then pure (current, tables)
  else do
    rejectIf (current.revision ≠ expectedRevision)
      (revisionConflict "external round" expectedRevision current.revision)
    rejectIf (current.status ≠ .pending)
      ⟨.actionRejected, "terminal external correlated round is immutable"⟩
    rejectIf (next.status = .pending)
      ⟨.actionRejected, "pending external round may only transition to a terminal status"⟩
    let saved := { next with revision := current.revision + 1 }
    pure (saved, { tables with rounds := tables.rounds.put saved })

def listPendingAgentRounds : List AgentCorrelatedRound :=
  orderedBy (·.expiresAt) (·.roundId.raw)
    (tables.rounds.select fun round => round.status = .pending)

end ExternalTables

end RustyCrew.Coordination

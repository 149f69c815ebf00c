import RustyCrew.Coordination.MessageStore

namespace RustyCrew.Proof.Coordination

open Library Protocol RustyCrew.Coordination ExternalTables

/-! ## What the calls of agent messaging write -/

section
variable {tables : ExternalTables}

theorem updateExternalInteraction_frame
    (done : tables.updateExternalInteraction next expected = .ok (saved, after)) :
    ∃ interactions, after = { tables with interactions } := by
  simp only [updateExternalInteraction, bind_eq_ok] at done
  obtain ⟨current, -, written⟩ := done
  split at written
  · cases written
    exact ⟨_, rfl⟩
  · simp only [bind_eq_ok, pure_eq_ok, Prod.mk.injEq] at written
    obtain ⟨_, -, _, -, _, -, -, rfl⟩ := written
    exact ⟨_, rfl⟩

theorem updateAgentCorrelatedRound_frame
    (done : tables.updateAgentCorrelatedRound next expected = .ok (saved, after)) :
    ∃ rounds, after = { tables with rounds } := by
  simp only [updateAgentCorrelatedRound, bind_eq_ok] at done
  obtain ⟨current, -, written⟩ := done
  split at written
  · cases written
    exact ⟨_, rfl⟩
  · simp only [bind_eq_ok, pure_eq_ok, Prod.mk.injEq] at written
    obtain ⟨_, -, _, -, _, -, -, rfl⟩ := written
    exact ⟨_, rfl⟩

theorem updateAgentMessageDelivery_frame
    (done : tables.updateAgentMessageDelivery next expected = .ok (saved, after)) :
    ∃ deliveries, after = { tables with deliveries } := by
  simp only [updateAgentMessageDelivery, bind_eq_ok] at done
  obtain ⟨current, -, written⟩ := done
  split at written
  · cases written
    exact ⟨_, rfl⟩
  · simp only [bind_eq_ok, pure_eq_ok, Prod.mk.injEq] at written
    obtain ⟨_, -, _, -, _, -, -, rfl⟩ := written
    exact ⟨_, rfl⟩

theorem updateExternalInteraction_ok (next : ExternalInteractionRecord)
    (stored : tables.interactions.find? next.interactionId = some current)
    (pending : current.status = .pending) (ended : next.status ≠ .pending) :
    tables.updateExternalInteraction next current.revision =
      .ok ({ next with revision := current.revision + 1 }, { tables with
        interactions := tables.interactions.put
          { next with revision := current.revision + 1 } }) := by
  have differs : current ≠ next := fun same => ended (same ▸ pending)
  simp [updateExternalInteraction, stored, orFail, differs, pending, ended, rejectIf]

theorem updateAgentCorrelatedRound_ok (next : Coordination.AgentCorrelatedRound)
    (stored : tables.rounds.find? next.roundId = some current)
    (pending : current.status = .pending) (ended : next.status ≠ .pending) :
    tables.updateAgentCorrelatedRound next current.revision =
      .ok ({ next with revision := current.revision + 1 }, { tables with
        rounds := tables.rounds.put { next with revision := current.revision + 1 } }) := by
  have differs : current ≠ next := fun same => ended (same ▸ pending)
  simp [updateAgentCorrelatedRound, stored, orFail, differs, pending, ended, rejectIf]

theorem updateAgentMessageDelivery_ok {next : Coordination.AgentMessageDeliveryReceipt}
    (stored : tables.deliveries.find? next.deliveryId = some current)
    (pending : current.status = .pending) (ended : next.status ≠ .pending) :
    tables.updateAgentMessageDelivery next current.revision =
      .ok ({ next with revision := current.revision + 1 }, { tables with
        deliveries := tables.deliveries.put { next with revision := current.revision + 1 } }) := by
  have differs : current ≠ next := fun same => ended (same ▸ pending)
  simp [updateAgentMessageDelivery, stored, orFail, differs, pending, ended,
    rejectIf, AgentMessageDeliveryStatus.isTerminal]

end

end RustyCrew.Proof.Coordination

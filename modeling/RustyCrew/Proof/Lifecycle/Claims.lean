import RustyCrew.Proof.Lifecycle.Chain
import RustyCrew.Proof.Lifecycle.Fencing

namespace RustyCrew.Proof.Lifecycle

open Library Protocol RustyCrew.Persistence RustyCrew.Lifecycle Table
open RustyCrew.Proof.Persistence

/-! ## What a claim hands out -/

/-- A running turn has been claimed, and the current continuation has a checkpoint. -/
def Claimable (v : TurnView) : Prop :=
  ∀ record, v.record = some record → (record.phase = .running → record.claimGeneration.isSome) ∧
      ∃ checkpoint ∈ v.checkpoints, checkpoint.continuationId = record.currentContinuationId

theorem step_claimable (step : TurnStep op v v') (claimable : Claimable v) : Claimable v' := by
  cases step with
  | admitTurn valid =>
    obtain ⟨admitted, -, continuation, -⟩ := validateAdmission_ok valid
    rintro _ ⟨⟩
    exact ⟨by simp [admitted], _, List.mem_singleton_self _, continuation⟩
  | claim stored =>
    rintro _ ⟨⟩
    exact ⟨fun _ => rfl, (claimable _ stored).2⟩
  | yield | requireAttention =>
    rintro _ ⟨⟩
    exact ⟨by simp [yieldedRecord, attentionRecord], _,
      List.mem_append_right _ (List.mem_singleton_self _), rfl⟩
  | @complete _ _ request _ stored target fence valid member current =>
    rintro _ ⟨⟩
    refine ⟨fun running => ?_, _, List.mem_map.mpr ⟨_, member, if_pos rfl⟩, current⟩
    have ended := terminal_of_validateCompletion valid
    rw [show request.lifecycleEvent.phase = .running from running] at ended
    cases ended
  | resolveAttention stored | cancel stored | finalize stored | interrupt stored | recover stored =>
    rintro _ ⟨⟩
    refine ⟨?_, (claimable _ stored).2⟩
    simp [resolvedRecord, cancelledRecord, finalizedRecord, interruptedRecord, recoveredRecord]
  | leaseOperation | completeOperation | refresh => exact claimable

theorem run_claimable (ops) (id : LogicalTurnId) :
    Claimable (view (run Store.step Store.empty ops) id) :=
  run_views (R := fun _ => True) (fun _ stored => by cases stored)
    (fun _ _ _ step _ _ => step_claimable step) (fun _ _ => trivial) id

structure HandsOut (s : Store) (request : LogicalTurnClaimRequest)
    (claim : LogicalTurnContinuationClaim) : Prop where
  turn : claim.checkpoint.logicalTurnId = request.logicalTurnId
  requested : claim.checkpoint.continuationId = request.continuationId
  current : claim.record.currentContinuationId = request.continuationId
  stored : s.loadTurn request.logicalTurnId = some claim.record
  fence : ∃ epoch, claim.record.activeEpochId = some epoch ∧
    requireRunningFence claim.record claim.record.revision epoch claim.claimGeneration
      claim.record.cancellationGeneration = .ok ()

/-- A claim hands out the current continuation of its turn under a fence that the next commit may
use, exactly when it does not repeat the claim of a running turn for another continuation. -/
theorem claims_hand_out_current_iff (ops : List Op) (request : LogicalTurnClaimRequest) (s' : Store)
    (claim : LogicalTurnContinuationClaim)
    (accepted : (run Store.step Store.empty ops).claimLogicalTurn request = .ok (s', claim)) :
    HandsOut s' request claim ↔
      ∀ record, (run Store.step Store.empty ops).loadTurn request.logicalTurnId = some record →
        record.phase = .running → record.activeEpochId = some request.executionEpochId →
        record.claimHolder = some request.claimHolder →
        record.currentContinuationId = request.continuationId := by
  obtain ⟨record, checkpoint, stored, loaded, replay | fresh⟩ := claimLogicalTurn_ok accepted
  · obtain ⟨running, epoch, holder, rfl, rfl⟩ := replay
    constructor
    · intro handsOut other found _ _ _
      rw [← Option.some.inj (stored.symm.trans found)]
      exact handsOut.current
    · intro resumes
      have current := resumes record stored running epoch holder
      obtain ⟨claimed, kept, member, isCurrent⟩ :=
        run_claimable ops request.logicalTurnId record stored
      obtain ⟨generation, isClaimed⟩ := Option.isSome_iff_exists.mp (claimed running)
      have same : kept = checkpoint := by
        have found := loadCheckpoint_of_mem member
        rw [isCurrent.trans current, loaded] at found
        exact (Option.some.inj found).symm
      subst same
      refine ⟨by simpa using (mem_select.mp member).2, key_of_find? loaded, current, stored,
        request.executionEpochId, epoch, ?_⟩
      exact requireRunningFence_ok.mpr ⟨rfl, running, epoch, by simp [isClaimed], rfl⟩
  · obtain ⟨-, -, isCurrent, turn, rfl, recorded⟩ := fresh
    have target : record.logicalTurnId = request.logicalTurnId := key_of_find? stored
    constructor
    · intro _ other found _ _ _
      rw [← Option.some.inj (stored.symm.trans found)]
      exact isCurrent
    · intro _
      refine ⟨turn.trans target, key_of_find? loaded, isCurrent, ?_, request.executionEpochId, rfl,
        requireRunningFence_ok.mpr ⟨rfl, rfl, rfl, rfl, rfl⟩⟩
      exact loadTurn_put (insertOutbox_turns recorded) target

def sampleReclaim (sequence : Nat) : LogicalTurnClaimRequest :=
  ⟨sampleTurn "a", 4, sampleContinuation "a" sequence, sampleEpoch 2, "worker", "10:00", "09:00"⟩

theorem claims_hand_out_current_sample :
    ∃ s' claim, claim.replayed = true ∧ HandsOut s' (sampleReclaim 1) claim := by
  have replays : ((run Store.step Store.empty (sampleRun.take 6)).claimLogicalTurn
      (sampleReclaim 1)).map (fun answer => answer.2.replayed) = .ok true := by
    decide +kernel
  have current : ((run Store.step Store.empty (sampleRun.take 6)).loadTurn
      (sampleReclaim 1).logicalTurnId).map LogicalTurnRecord.currentContinuationId =
        some (sampleContinuation "a" 1) := by
    decide +kernel
  cases accepted : (run Store.step Store.empty (sampleRun.take 6)).claimLogicalTurn
      (sampleReclaim 1) with
  | error failure =>
    rw [accepted] at replays
    cases replays
  | ok answer =>
    rw [accepted] at replays
    refine ⟨_, _, Except.ok.inj replays,
      (claims_hand_out_current_iff _ _ _ _ accepted).mpr fun record stored _ _ _ => ?_⟩
    rw [stored] at current
    exact Option.some.inj current

/-- A replayed claim is not checked against the continuation it names. -/
theorem replayed_claim_hands_out_old :
    ((run Store.step Store.empty (sampleRun.take 6)).claimLogicalTurn (sampleReclaim 0)).map
        (fun answer => (answer.2.checkpoint.continuationId,
          answer.2.record.currentContinuationId)) =
      .ok (sampleContinuation "a" 0, sampleContinuation "a" 1) := by
  decide +kernel

end RustyCrew.Proof.Lifecycle

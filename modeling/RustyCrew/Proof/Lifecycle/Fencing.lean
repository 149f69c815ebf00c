import RustyCrew.Proof.Lifecycle.Advance

namespace RustyCrew.Proof.Lifecycle

open Library Protocol RustyCrew.Persistence RustyCrew.Lifecycle Table
open RustyCrew.Proof.Persistence

variable {s s' : Store} {fence : Fence} {claim : LogicalTurnContinuationClaim} {ops : List Op}
  {j : Nat}

/-! ## Claims and the commits that settle them -/

/-- What a worker keeps of its claim and sends back with each commit. -/
structure Fence where
  logicalTurnId : LogicalTurnId
  revision : Nat
  epochId : ExecutionEpochId
  (claimGeneration cancellationGeneration : Nat)
  deriving DecidableEq

def commitFence : Op → Option Fence
  | .yield request => some ⟨request.logicalTurnId, request.expectedRevision,
      request.expectedEpochId, request.expectedClaimGeneration,
      request.expectedCancellationGeneration⟩
  | .requireAttention request => some ⟨request.logicalTurnId, request.expectedRevision,
      request.expectedEpochId, request.expectedClaimGeneration,
      request.expectedCancellationGeneration⟩
  | .complete request => some ⟨request.logicalTurnId, request.expectedRevision,
      request.expectedEpochId, request.expectedClaimGeneration,
      request.expectedCancellationGeneration⟩
  | _ => none

def claimFence (claim : LogicalTurnContinuationClaim) : Option Fence :=
  claim.record.activeEpochId.map fun epoch =>
    ⟨claim.record.logicalTurnId, claim.record.revision, epoch, claim.claimGeneration,
      claim.record.cancellationGeneration⟩

structure FenceHolds (fence : Fence) (record : LogicalTurnRecord) : Prop where
  revision : record.revision = fence.revision
  running : record.phase = .running
  epoch : record.activeEpochId = some fence.epochId
  claimGeneration : record.claimGeneration = some fence.claimGeneration
  cancellationGeneration : record.cancellationGeneration = fence.cancellationGeneration

/-- The answer to a call that changed nothing because it, or the end of its turn, was committed
before. -/
def IsReplay (s : Store) : Response → Prop
  | .claimed claim => claim.replayed = true
  | .yielded receipt => receipt.replayed = true
  | .attentionRequired receipt => receipt.replayed = true
  | .completed record => record.phase.isTerminal = true ∧
      s.loadTurn record.logicalTurnId = some record
  | .cancelled receipt => receipt.replayed = true
  | _ => False

theorem insertOutbox_turns (inserted : s.insertOutbox event = .ok s') : s'.turns = s.turns := by
  rcases insertOutbox_ok inserted with ⟨-, rfl⟩ | ⟨-, rfl⟩ <;> rfl

theorem insertCheckpoint_turns
    (inserted : s.insertCheckpoint checkpoint = .ok s') : s'.turns = s.turns := by
  obtain ⟨-, rfl⟩ := insertCheckpoint_ok inserted
  rfl

theorem loadTurn_put {record : LogicalTurnRecord} {id : LogicalTurnId}
    (turns : s'.turns = s.turns.put record) (target : record.logicalTurnId = id) :
    s'.loadTurn id = some record := by
  rw [Store.loadTurn, turns, find?_put, if_pos target]

theorem committed {record record' : LogicalTurnRecord} {fence : Fence}
    (stored : s.loadTurn fence.logicalTurnId = some record)
    (holds : requireRunningFence record fence.revision fence.epochId fence.claimGeneration
      fence.cancellationGeneration = .ok ()) (turns : s'.turns = s.turns.put record')
    (same : record'.logicalTurnId = record.logicalTurnId)
    (next : record'.revision = record.revision + 1) :
    ∃ record record', s.loadTurn fence.logicalTurnId = some record ∧ FenceHolds fence record ∧
      s'.loadTurn fence.logicalTurnId = some record' ∧ record'.revision = record.revision + 1 := by
  obtain ⟨revision, running, epoch, generation, cancellation⟩ := requireRunningFence_ok.mp holds
  exact ⟨record, record', stored, ⟨revision, running, epoch, generation, cancellation⟩,
    loadTurn_put turns (same.trans (key_of_find? stored)), next⟩

theorem commit_ok {op : Op} {response : Response} (carries : commitFence op = some fence)
    (accepted : s.apply op = .ok (s', response)) : (s' = s ∧ IsReplay s response) ∨
      ∃ record record', s.loadTurn fence.logicalTurnId = some record ∧ FenceHolds fence record ∧
        s'.loadTurn fence.logicalTurnId = some record' ∧
        record'.revision = record.revision + 1 := by
  cases op with
  | yield request =>
    cases carries
    obtain ⟨receipt, call, rfl⟩ := bind_pair_ok accepted
    obtain ⟨record, stored, replay | fresh⟩ := yieldLogicalTurn_ok call
    · obtain ⟨-, -, same, rfl⟩ := replay
      exact .inl ⟨same, rfl⟩
    · obtain ⟨fence, -, -, s₁, s₂, checkpoint, event, rfl⟩ := fresh
      have turns : s₂.turns = s.turns.put (yieldedRecord record request) :=
        (insertOutbox_turns event).trans (insertCheckpoint_turns checkpoint)
      exact .inr (committed stored fence turns rfl rfl)
  | requireAttention request =>
    cases carries
    obtain ⟨receipt, call, rfl⟩ := bind_pair_ok accepted
    obtain ⟨record, stored, replay | fresh⟩ := requireLogicalTurnAttention_ok call
    · obtain ⟨-, same, rfl⟩ := replay
      exact .inl ⟨same, rfl⟩
    · obtain ⟨fence, -, -, s₁, s₂, checkpoint, event, rfl⟩ := fresh
      have turns : s₂.turns = s.turns.put (attentionRecord record request) :=
        (insertOutbox_turns event).trans (insertCheckpoint_turns checkpoint)
      exact .inr (committed stored fence turns rfl rfl)
  | complete request =>
    cases carries
    obtain ⟨record', call, rfl⟩ := bind_pair_ok accepted
    obtain ⟨record, stored, replay | fresh⟩ := completeLogicalTurn_ok call
    · obtain ⟨terminal, same, rfl⟩ := replay
      have target : record'.logicalTurnId = request.logicalTurnId := key_of_find? stored
      exact .inl ⟨same, terminal, target ▸ stored⟩
    · obtain ⟨fence, -, -, checkpoint, s₁, -, event, rfl⟩ := fresh
      have turns : s₁.turns = s.turns.put (completedRecord record request) :=
        insertOutbox_turns event
      exact .inr (committed stored fence turns rfl rfl)
  | _ => cases carries

theorem claim_ok {request : LogicalTurnClaimRequest}
    (accepted : s.apply (.claim request) = .ok (s', .claimed claim))
    (fresh : claim.replayed = false) :
    ∃ record, s.loadTurn claim.record.logicalTurnId = some record ∧
      claim.record.revision = record.revision + 1 ∧
      s'.loadTurn claim.record.logicalTurnId = some claim.record := by
  obtain ⟨_, call, same⟩ := bind_pair_ok accepted
  cases same
  obtain ⟨record, checkpoint, stored, -, replay | claimed⟩ := claimLogicalTurn_ok call
  · obtain ⟨-, -, -, -, rfl⟩ := replay
    cases fresh
  · obtain ⟨-, -, -, -, rfl, recorded⟩ := claimed
    have target : record.logicalTurnId = request.logicalTurnId := key_of_find? stored
    exact ⟨record, target ▸ stored, rfl, loadTurn_put (insertOutbox_turns recorded) rfl⟩

/-! ## Runs of any number of workers -/

/-- A worker claims a turn with the call at position `n`, and is not answered by a replay. -/
def ClaimedAt (ops : List Op) (n : Nat) (claim : LogicalTurnContinuationClaim) : Prop :=
  claim.replayed = false ∧ ∃ request s', ops[n]? = some (.claim request) ∧
    (storeAt ops n).apply (.claim request) = .ok (s', .claimed claim)

def CommittedAt (ops : List Op) (n : Nat) (fence : Fence) : Prop :=
  ∃ op, ops[n]? = some op ∧ commitFence op = some fence ∧ (storeAt ops n).step op ≠ storeAt ops n

theorem claimedAt_stored (claimed : ClaimedAt ops n claim) :
    (storeAt ops (n + 1)).loadTurn claim.record.logicalTurnId = some claim.record ∧
      ∃ record, (storeAt ops n).loadTurn claim.record.logicalTurnId = some record ∧
        claim.record.revision = record.revision + 1 := by
  obtain ⟨fresh, request, s', position, accepted⟩ := claimed
  obtain ⟨record, stored, revision, stored'⟩ := claim_ok accepted fresh
  refine ⟨?_, record, stored, revision⟩
  rw [storeAt_succ position, step_of_ok accepted]
  exact stored'

theorem committedAt_stored (committed : CommittedAt ops n fence) :
    ∃ record record', (storeAt ops n).loadTurn fence.logicalTurnId = some record ∧
      FenceHolds fence record ∧ (storeAt ops (n + 1)).loadTurn fence.logicalTurnId = some record' ∧
      record'.revision = record.revision + 1 := by
  obtain ⟨op, position, carries, changed⟩ := committed
  rw [storeAt_succ position]
  cases accepted : (storeAt ops n).apply op with
  | error failure => exact absurd (step_of_error accepted) changed
  | ok result =>
    rw [step_of_ok accepted] at changed ⊢
    rcases commit_ok carries accepted with ⟨same, -⟩ | settled
    · exact absurd same changed
    · exact settled

structure FencedRun (ops : List Op) : Prop where
  settledOnce : ∀ i j k claim fence, ClaimedAt ops i claim → claimFence claim = some fence →
    CommittedAt ops j fence → CommittedAt ops k fence → j = k
  live : ∀ i j claim fence, ClaimedAt ops i claim → claimFence claim = some fence →
    CommittedAt ops j fence → i < j ∧ ∀ k, i < k → k ≤ j →
        (storeAt ops k).loadTurn claim.record.logicalTurnId = some claim.record
  oneEpoch : ∀ i j k claim claim', ClaimedAt ops i claim → ClaimedAt ops j claim' → i < k → j < k →
    claim.record.logicalTurnId = claim'.record.logicalTurnId →
    (storeAt ops k).loadTurn claim.record.logicalTurnId = some claim.record →
    (storeAt ops k).loadTurn claim'.record.logicalTurnId = some claim'.record → i = j
  replayed : ∀ n op fence s' response, ops[n]? = some op → commitFence op = some fence →
    (storeAt ops n).apply op = .ok (s', response) →
      s' ≠ storeAt ops n ∨ IsReplay (storeAt ops n) response
  advances : ∀ n id record, (storeAt ops n).loadTurn id = some record →
    ∃ record', (storeAt ops (n + 1)).loadTurn id = some record' ∧
      record.claimGeneration.getD 0 ≤ record'.claimGeneration.getD 0 ∧
      (record' = record ∨ record.revision < record'.revision)

private theorem commits_agree
    (first : CommittedAt ops j fence) (second : CommittedAt ops k fence) : ¬j < k := by
  intro order
  obtain ⟨record, record', -, held, stored', revision⟩ := committedAt_stored first
  obtain ⟨last, -, stored, held', -⟩ := committedAt_stored second
  obtain ⟨last', stored'', -, progress⟩ :=
    storeAt_advances ops (Nat.succ_le_of_lt order) _ record' stored'
  rw [stored, Option.some.injEq] at stored''
  subst stored''
  have same := held.revision.trans held'.revision.symm
  rcases progress with rfl | later
  · omega
  · omega

private theorem commit_live (claimed : ClaimedAt ops i claim)
    (taken : claimFence claim = some fence) (committed : CommittedAt ops j fence) :
    i < j ∧ ∀ k, i < k → k ≤ j →
      (storeAt ops k).loadTurn claim.record.logicalTurnId = some claim.record := by
  obtain ⟨stored, old, storedOld, revision⟩ := claimedAt_stored claimed
  obtain ⟨record, -, storedAt, held, -⟩ := committedAt_stored committed
  rw [claimFence, Option.map_eq_some_iff] at taken
  obtain ⟨epoch, -, rfl⟩ := taken
  have atClaim : record.revision = claim.record.revision := held.revision
  refine ⟨?_, fun k later before => storeAt_between stored storedAt atClaim.le later before⟩
  by_contra notLater
  -- before its claim the turn has not reached the revision of the fence
  obtain ⟨old', storedOld', -, progress⟩ :=
    storeAt_advances ops (Nat.le_of_not_lt notLater) _ record storedAt
  rw [storedOld, Option.some.injEq] at storedOld'
  subst storedOld'
  rcases progress with rfl | later
  · omega
  · omega

private theorem claims_agree (claimed : ClaimedAt ops i claim) (claimed' : ClaimedAt ops j claim')
    (turn : claim.record.logicalTurnId = claim'.record.logicalTurnId)
    (open₁ : (storeAt ops k).loadTurn claim.record.logicalTurnId = some claim.record)
    (open₂ : (storeAt ops k).loadTurn claim'.record.logicalTurnId = some claim'.record) :
    ¬i < j := by
  intro order
  obtain ⟨stored, -⟩ := claimedAt_stored claimed
  obtain ⟨-, old, storedOld, revision⟩ := claimedAt_stored claimed'
  obtain ⟨old', storedOld', -, progress⟩ :=
    storeAt_advances ops (Nat.succ_le_of_lt order) _ _ stored
  rw [turn, storedOld, Option.some.injEq] at storedOld'
  subst storedOld'
  rw [turn, open₂, Option.some.injEq] at open₁
  rw [open₁] at revision
  rcases progress with rfl | later
  · omega
  · omega

theorem runs_fenced (ops : List Op) : FencedRun ops where
  settledOnce := by
    intro i j k claim fence _ _ first second
    exact Nat.le_antisymm (Nat.le_of_not_lt (commits_agree second first))
      (Nat.le_of_not_lt (commits_agree first second))
  live := by
    intro i j claim fence claimed taken committed
    exact commit_live claimed taken committed
  oneEpoch := by
    intro i j k claim claim' claimed claimed' _ _ turn open₁ open₂
    exact Nat.le_antisymm (Nat.le_of_not_lt (claims_agree claimed' claimed turn.symm open₂ open₁))
      (Nat.le_of_not_lt (claims_agree claimed claimed' turn open₁ open₂))
  replayed := by
    intro n op fence s' response _ carries accepted
    rcases commit_ok carries accepted with
      ⟨-, replay⟩ | ⟨record, record', stored, -, stored', later⟩
    · exact .inr replay
    · refine .inl fun same => ?_
      rw [same, stored, Option.some.injEq] at stored'
      rw [stored'] at later
      omega
  advances := by
    intro n id record stored
    exact storeAt_advances ops (Nat.le_succ n) id record stored

end RustyCrew.Proof.Lifecycle

import RustyCrew.Proof.Lifecycle.Advance
import RustyCrew.Proof.Lifecycle.Consistency

namespace RustyCrew.Proof.Lifecycle

open Library Protocol RustyCrew.Persistence RustyCrew.Lifecycle Table List
open RustyCrew.Proof.Persistence

variable {checkpoint : LogicalTurnCheckpoint} {v : TurnView} {op : Op} {s : Store}

/-! ## The chain of checkpoints -/

/-- Checkpoints in order: numbered from 0 without a gap, each the child of the one before it, and
the last one the current continuation. -/
structure ParentChain (chain : List LogicalTurnCheckpoint) (current : ContinuationId) : Prop where
  sequences : chain.map LogicalTurnCheckpoint.sequence = List.range chain.length
  parents : chain.map LogicalTurnCheckpoint.parentContinuationId =
    (none :: chain.map fun checkpoint => some checkpoint.continuationId).dropLast
  last : chain.getLast?.map LogicalTurnCheckpoint.continuationId = some current

theorem parentChain_singleton (first : checkpoint.sequence = 0)
    (root : checkpoint.parentContinuationId = none) :
    ParentChain [checkpoint] checkpoint.continuationId := by
  constructor <;> simp [first, root]

theorem ParentChain.append
    (linked : ParentChain chain current) (next : checkpoint.sequence = chain.length)
    (parent : checkpoint.parentContinuationId = some current) :
    ParentChain (chain ++ [checkpoint]) checkpoint.continuationId := by
  obtain ⟨sequences, parents, last⟩ := linked
  refine ⟨?_, ?_, by simp⟩
  · simp [sequences, next, range_succ]
  · have ends : (none :: chain.map fun checkpoint => some checkpoint.continuationId).getLast? =
        some (some current) := by
      cases chain with
      | nil => simp at last
      | cons head tail =>
        obtain ⟨final, isLast, names⟩ := Option.map_eq_some_iff.mp last
        rw [map_cons, getLast?_cons_cons]
        show ((head :: tail).map fun checkpoint => some checkpoint.continuationId).getLast? = _
        rw [getLast?_map, isLast, Option.map_some, names]
    rw [map_append, map_singleton, parents, parent, map_append, map_singleton,
      ← cons_append, dropLast_concat]
    exact dropLast_append_getLast? _ ends

theorem ParentChain.map
    {edit : LogicalTurnCheckpoint → LogicalTurnCheckpoint} (linked : ParentChain chain current)
    (sequence : ∀ checkpoint ∈ chain, (edit checkpoint).sequence = checkpoint.sequence)
    (parent : ∀ checkpoint ∈ chain,
      (edit checkpoint).parentContinuationId = checkpoint.parentContinuationId)
    (id : ∀ checkpoint ∈ chain, (edit checkpoint).continuationId = checkpoint.continuationId) :
    ParentChain (chain.map edit) current := by
  obtain ⟨sequences, parents, last⟩ := linked
  have ids : (chain.map edit).map (fun checkpoint => some checkpoint.continuationId) =
      chain.map fun checkpoint => some checkpoint.continuationId := by
    rw [map_map]
    exact map_congr_left fun checkpoint member => congrArg some (id checkpoint member)
  refine ⟨?_, ?_, ?_⟩
  · rw [length_map, ← sequences, map_map]
    exact map_congr_left sequence
  · rw [ids, ← parents, map_map]
    exact map_congr_left parent
  · rw [← last, getLast?_map, Option.map_map]
    cases final : chain.getLast? with
    | none => rfl
    | some checkpoint => exact congrArg some (id checkpoint (mem_of_getLast? final))

structure ChainedTurn (v : TurnView) (record : LogicalTurnRecord) : Prop where
  chain : ParentChain v.checkpoints record.currentContinuationId
  length : v.checkpoints.length = record.continuationSequence + 1

def Chained (v : TurnView) : Prop := ∀ record, v.record = some record → ChainedTurn v record

private theorem chained_append (chained : ChainedTurn v record)
    (sequence : checkpoint.sequence = record.continuationSequence + 1)
    (parent : checkpoint.parentContinuationId = some record.currentContinuationId) :
    ParentChain (v.checkpoints ++ [checkpoint]) checkpoint.continuationId ∧
      (v.checkpoints ++ [checkpoint]).length = checkpoint.sequence + 1 := by
  refine ⟨chained.chain.append (sequence.trans chained.length.symm) parent, ?_⟩
  rw [length_append, chained.length, sequence, length_singleton]

theorem step_chained (step : TurnStep op v v') (fresh : op.FreshAdmission)
    (chained : Chained v) : Chained v' := by
  cases step with
  | admitTurn valid =>
    obtain ⟨-, -, continuation, sequence, parent, -⟩ := validateAdmission_ok valid
    rintro _ ⟨⟩
    refine ⟨continuation ▸ parentChain_singleton sequence parent, ?_⟩
    rw [fresh.1]
    rfl
  | yield stored target fence valid =>
    obtain ⟨-, parent, sequence, -⟩ := validateYield_ok valid
    obtain ⟨chain, length⟩ := chained_append (chained _ stored) sequence parent
    rintro _ ⟨⟩
    exact ⟨chain, length⟩
  | requireAttention stored target fence valid =>
    obtain ⟨-, parent, sequence, -⟩ := validateAttention_ok valid
    obtain ⟨chain, length⟩ := chained_append (chained _ stored) sequence parent
    rintro _ ⟨⟩
    exact ⟨chain, length⟩
  | complete stored target fence valid member current only =>
    obtain ⟨chain, length⟩ := chained _ stored
    rintro _ ⟨⟩
    refine ⟨chain.map ?_ ?_ ?_, (length_map _).trans length⟩
    all_goals
      intro checkpoint checkpointMember
      split
      · next same =>
        cases only checkpoint checkpointMember (same.trans current)
        rfl
      · rfl
  | claim stored | resolveAttention stored | cancel stored | finalize stored | interrupt stored
  | recover stored =>
    obtain ⟨chain, length⟩ := chained _ stored
    rintro _ ⟨⟩
    exact ⟨chain, length⟩
  | leaseOperation | completeOperation | refresh =>
    intro record stored
    obtain ⟨chain, length⟩ := chained _ stored
    exact ⟨chain, length⟩

theorem storeAt_chained (fresh : ∀ op ∈ ops, op.FreshAdmission) (n : Nat)
    (id : LogicalTurnId) : Consistent (view (storeAt ops n) id) ∧
      Chained (view (storeAt ops n) id) := by
  have taken : ∀ op ∈ ops.take n, op.FreshAdmission := fun op member =>
    fresh op (mem_of_mem_take member)
  refine ⟨(run_consistentStore taken).2 id, run_views (fun _ stored => by cases stored) ?_ taken id⟩
  exact fun _ _ _ step fresh _ => step_chained step fresh

/-! ## The end of a turn -/

def KeepsEnded (s s' : Store) : Prop :=
  ∀ id record, s.loadTurn id = some record → record.phase.isTerminal = true →
    s'.loadTurn id = some record ∧ s'.tickets.find? id = s.tickets.find? id ∧
      checkpointsOf s' id = checkpointsOf s id

theorem keepsEnded_trans (a b c : Store) (first : KeepsEnded a b) (second : KeepsEnded b c) :
    KeepsEnded a c := by
  intro id record stored terminal
  obtain ⟨stored', ticket, checkpoints⟩ := first id record stored terminal
  obtain ⟨stored'', ticket', checkpoints'⟩ := second id record stored' terminal
  exact ⟨stored'', ticket'.trans ticket, checkpoints'.trans checkpoints⟩

theorem step_keepsEnded (grounded : GroundedStore s) (op : Op) : KeepsEnded s (s.step op) := by
  intro id record stored terminal
  have viewed : (view s id).record = some record := stored
  rcases step_follows grounded op id with same | step
  · exact ⟨(congrArg TurnView.record same).trans viewed, congrArg TurnView.ticket same,
      congrArg TurnView.checkpoints same⟩
  cases step_outcome step with
  | kept kept checkpoints _ ticket =>
    refine ⟨kept.trans viewed, ?_, checkpoints⟩
    rcases ticket with same | ⟨other, stored', runnable⟩
    · exact same
    · rw [viewed, Option.some.injEq] at stored'
      rw [stored', runnable] at terminal
      cases terminal
  | admitted absent =>
    rw [absent] at viewed
    cases viewed
  | moved before after moves =>
    rw [viewed, Option.some.injEq] at before
    rw [before, moves.active] at terminal
    cases terminal

theorem storeAt_keepsEnded (ops) (order : n ≤ m) : KeepsEnded (storeAt ops n) (storeAt ops m) :=
  stateAt_relates (fun _ _ _ stored _ => ⟨stored, rfl, rfl⟩) keepsEnded_trans
    (fun k op _ => step_keepsEnded (storeAt_grounded ops k) op) order

/-! ## Stored checkpoints -/

theorem step_checkpoints (step : TurnStep op v v') (member : checkpoint ∈ v.checkpoints) :
    checkpoint ∈ v'.checkpoints ∨ ∃ request record, op = .complete request ∧
      v.record = some record ∧ record.logicalTurnId = request.logicalTurnId ∧
      checkpoint.continuationId = record.currentContinuationId ∧
      { checkpoint with progress := request.lifecycleEvent.progress } ∈ v'.checkpoints := by
  cases step with
  | admitTurn => cases member
  | yield | requireAttention => exact .inl (mem_append_left _ member)
  | @complete _ record request current stored target fence valid currentMember isCurrent only =>
    by_cases same : checkpoint.continuationId = current.continuationId
    · cases only checkpoint member (same.trans isCurrent)
      exact .inr ⟨request, record, rfl, stored, target, isCurrent,
        mem_map.mpr ⟨_, member, if_pos rfl⟩⟩
    · exact .inl (mem_map.mpr ⟨_, member, if_neg same⟩)
  | claim | resolveAttention | cancel | leaseOperation | completeOperation | finalize | interrupt
  | refresh | recover => exact .inl member

theorem loadCheckpoint_of_mem {id : LogicalTurnId} (member : checkpoint ∈ checkpointsOf s id) :
    s.loadCheckpoint checkpoint.continuationId = some checkpoint :=
  find?_of_mem (mem_select.mp member).1

theorem step_loadCheckpoint (grounded : GroundedStore s) (op : Op)
    (stored : s.loadCheckpoint checkpoint.continuationId = some checkpoint) :
    (s.step op).loadCheckpoint checkpoint.continuationId = some checkpoint ∨
      ∃ request record, op = .complete request ∧ s.loadTurn request.logicalTurnId = some record ∧
        checkpoint.continuationId = record.currentContinuationId ∧
        (s.step op).loadCheckpoint checkpoint.continuationId =
          some { checkpoint with progress := request.lifecycleEvent.progress } := by
  have member : checkpoint ∈ checkpointsOf s checkpoint.logicalTurnId :=
    mem_select.mpr ⟨mem_of_find? stored, by simp⟩
  rcases step_follows grounded op checkpoint.logicalTurnId with same | step
  · have kept : checkpointsOf (s.step op) checkpoint.logicalTurnId =
        checkpointsOf s checkpoint.logicalTurnId := congrArg TurnView.checkpoints same
    exact .inl (loadCheckpoint_of_mem (kept ▸ member))
  · rcases step_checkpoints step member with kept | ⟨request, record, called, before, target,
      current, rewritten⟩
    · exact .inl (loadCheckpoint_of_mem kept)
    · refine .inr ⟨request, record, called, ?_, current, loadCheckpoint_of_mem rewritten⟩
      rw [← target, record_id before]
      exact before

/-- A turn is admitted with the continuation sequence 5, claimed and yielded. -/
def skippingRun : List Op :=
  [sampleAdmission "a" { sampleRecord "a" with continuationSequence := 5 }, sampleClaim "a" 1 0 1,
    .yield ⟨sampleTurn "a", 2, sampleEpoch 1, 1, 0,
      sampleCheckpoint "a" 6 (some (sampleContinuation "a" 0)) (some (sampleEpoch 1)),
      sampleEvent "a" 3 6 (some (sampleEpoch 1)) .continuationYielded .yielded, "09:00"⟩]

end RustyCrew.Proof.Lifecycle

import RustyCrew.Proof.Persistence.Hydration

namespace RustyCrew.Proof.Lifecycle

open Library Protocol RustyCrew.Persistence RustyCrew.Lifecycle LogicalTurnPhase
open RustyCrew.Proof.Persistence

/-! ## What a step does to the record -/

/-- A step that moves a turn: never a terminal one, and always to the next revision. -/
structure Moves (record record' : LogicalTurnRecord) : Prop where
  active : record.phase.isTerminal = false
  revision : record'.revision = record.revision + 1
  turn : record'.logicalTurnId = record.logicalTurnId
  session : record'.sessionId = record.sessionId
  generation : record.claimGeneration.getD 0 ≤ record'.claimGeneration.getD 0

inductive Outcome (v v' : TurnView) : Prop where
  | kept (record : v'.record = v.record) (checkpoints : v'.checkpoints = v.checkpoints)
      (log : v'.log = v.log) (ticket : v'.ticket = v.ticket ∨
        ∃ record, v.record = some record ∧ record.phase = .runnable)
  | admitted (before : v = .absent) (phase : ∃ record, v'.record = some record)
  | moved {record record' : LogicalTurnRecord} (before : v.record = some record)
      (after : v'.record = some record') (moves : Moves record record')

theorem active_of_running {record : LogicalTurnRecord} (running : record.phase = .running) :
    record.phase.isTerminal = false := by
  simp [running, isTerminal]

theorem step_outcome (step : TurnStep op v v') : Outcome v v' := by
  cases step with
  | admitTurn valid => exact .admitted rfl ⟨_, rfl⟩
  | claim stored target revision runnable =>
    refine .moved stored rfl ⟨?_, rfl, rfl, rfl, Nat.le_succ _⟩
    cases phase : LogicalTurnRecord.phase _ <;>
      simp_all [isRunnable, isTerminal]
  | yield stored _ fence | requireAttention stored _ fence | complete stored _ fence =>
    exact .moved stored rfl
      ⟨active_of_running (requireRunningFence_ok.mp fence).2.1, rfl, rfl, rfl, le_rfl⟩
  | resolveAttention stored target valid =>
    obtain ⟨-, attending, -⟩ := validateAttentionResolution_ok.mp valid
    refine .moved stored rfl ⟨?_, rfl, rfl, rfl, le_rfl⟩
    simp [attending, isTerminal]
  | cancel stored target active => exact .moved stored rfl ⟨active, rfl, rfl, rfl, le_rfl⟩
  | leaseOperation | completeOperation => exact .kept rfl rfl rfl (.inl rfl)
  | finalize stored requested =>
    refine .moved stored rfl ⟨?_, rfl, rfl, rfl, le_rfl⟩
    simp [requested, isTerminal]
  | interrupt stored running =>
    exact .moved stored rfl ⟨active_of_running running, rfl, rfl, rfl, le_rfl⟩
  | refresh stored runnable => exact .kept rfl rfl rfl (.inr ⟨_, stored, runnable⟩)
  | recover stored resumable =>
    refine .moved stored rfl ⟨?_, rfl, rfl, rfl, le_rfl⟩
    rcases resumable with phase | phase | ⟨phase, -⟩ <;>
      simp [phase, isTerminal]

/-! ## What a run does to the record -/

def Advances (s s' : Store) : Prop :=
  ∀ id record, s.loadTurn id = some record → ∃ record', s'.loadTurn id = some record' ∧
      record.claimGeneration.getD 0 ≤ record'.claimGeneration.getD 0 ∧
      (record' = record ∨ record.revision < record'.revision)

theorem advances_refl (s : Store) : Advances s s :=
  fun _ record stored => ⟨record, stored, le_rfl, .inl rfl⟩

theorem advances_trans (a b c : Store) (first : Advances a b) (second : Advances b c) :
    Advances a c := by
  intro id record stored
  obtain ⟨record', stored', generation, same | later⟩ := first id record stored
  · subst same
    exact second id record' stored'
  · obtain ⟨record'', stored'', generation', progress⟩ := second id record' stored'
    refine ⟨record'', stored'', generation.trans generation', .inr ?_⟩
    rcases progress with same | later'
    · rw [same]
      exact later
    · exact later.trans later'

theorem step_advances (grounded : GroundedStore s) (op : Op) : Advances s (s.step op) := by
  intro id record stored
  have viewed : (view s id).record = some record := stored
  rcases step_follows grounded op id with same | step
  · exact ⟨record, (congrArg TurnView.record same).trans viewed, le_rfl, .inl rfl⟩
  cases step_outcome step with
  | kept kept => exact ⟨record, kept.trans viewed, le_rfl, .inl rfl⟩
  | admitted absent =>
    rw [absent] at viewed
    cases viewed
  | moved before after moves =>
    rw [viewed, Option.some.injEq] at before
    subst before
    refine ⟨_, after, moves.generation, .inr ?_⟩
    rw [moves.revision]
    exact Nat.lt_succ_self _

abbrev storeAt (ops : List Op) (n : Nat) : Store := stateAt Store.step Store.empty ops n

theorem storeAt_succ (position : ops[n]? = some op) :
    storeAt ops (n + 1) = (storeAt ops n).step op :=
  stateAt_succ position

theorem storeAt_grounded (ops) (n : Nat) : GroundedStore (storeAt ops n) :=
  run_groundedStore (ops.take n)

theorem storeAt_advances (ops) (order : n ≤ m) : Advances (storeAt ops n) (storeAt ops m) :=
  stateAt_relates advances_refl advances_trans
    (fun k op _ => step_advances (storeAt_grounded ops k) op) order

theorem storeAt_between {ops : List Op} {n k m : Nat} {id : LogicalTurnId}
    {record : LogicalTurnRecord} (start : (storeAt ops n).loadTurn id = some record)
    {last : LogicalTurnRecord} (stop : (storeAt ops m).loadTurn id = some last)
    (same : last.revision ≤ record.revision) (first : n ≤ k) (second : k ≤ m) :
    (storeAt ops k).loadTurn id = some record := by
  obtain ⟨middle, stored, -, kept⟩ := storeAt_advances ops first id record start
  obtain ⟨last', stored', -, kept'⟩ := storeAt_advances ops second id middle stored
  rw [stop, Option.some.injEq] at stored'
  subst stored'
  rcases kept with rfl | later
  · exact stored
  · rcases kept' with rfl | later'
    · omega
    · omega

end RustyCrew.Proof.Lifecycle

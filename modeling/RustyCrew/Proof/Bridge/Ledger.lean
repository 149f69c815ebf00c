import RustyCrew.Proof.Bridge.Names
import RustyCrew.Proof.Engine.Calls
import RustyCrew.Proof.Lifecycle.Operations

namespace RustyCrew.Proof.Bridge

open Library Protocol RustyCrew.Persistence RustyCrew.Lifecycle
open RustyCrew.Engine RustyCrew.Bridge
open RustyCrew.Proof.Persistence RustyCrew.Proof.Lifecycle RustyCrew.Proof.Engine

variable {row : OperationRow} {s : Store}

/-! ## The recorded attempts of tool calls -/

def Attempts (row : OperationRow) (position : Position) (attempt : Nat) : Prop :=
  row.logicalTurnId = position.turn ∧
    hostToolOperationAttempt position.base row.operationId.raw = some attempt

/-- The operations that a bridge leaves in the store: of the attempts of one tool call all but the
latest are superseded, and all are for the same request. -/
structure Ledger (s : Store) : Prop where
  grounded : GroundedStore s
  names : ∀ row ∈ s.operations.rows, OperationName row.logicalTurnId row.operationId
  superseded : ∀ row ∈ s.operations.rows, ∀ later ∈ s.operations.rows,
    ∀ position attempt latest, Attempts row position attempt → Attempts later position latest →
      attempt < latest → row.record.phase = .superseded
  fingerprint : ∀ row ∈ s.operations.rows, ∀ other ∈ s.operations.rows,
    ∀ position attempt attempt', Attempts row position attempt → Attempts other position attempt' →
      row.record.requestFingerprint = other.record.requestFingerprint
  payload : ∀ row ∈ s.operations.rows, ∀ position attempt, Attempts row position attempt →
    row.record.phase = .completed → ∃ members, row.record.resultPayload = some (.object members)

theorem ledger_empty : Ledger Store.empty := by
  refine ⟨groundedStore_empty, ?_, ?_, ?_, ?_⟩
  all_goals
    intro row member
    cases member

structure Ages (row row' : OperationRow) : Prop where
  turn : row'.logicalTurnId = row.logicalTurnId
  operationId : row'.operationId = row.operationId
  fingerprint : row'.record.requestFingerprint = row.record.requestFingerprint
  superseded : row.record.phase = .superseded → row'.record.phase = .superseded
  payload : row'.record.phase = .completed →
    row.record.phase = .completed ∧ row'.record.resultPayload = row.record.resultPayload ∨
      (∃ members, row'.record.resultPayload = some (.object members)) ∨
      ProviderName row.operationId

theorem ages_refl (row) : Ages row row :=
  ⟨rfl, rfl, rfl, fun superseded => superseded, fun completed => .inl ⟨completed, rfl⟩⟩

theorem Ages.attempts (ages : Ages row row') (attempts : Attempts row' position attempt) :
    Attempts row position attempt := by
  rw [Attempts, ages.turn, ages.operationId] at attempts
  exact attempts

structure Adds (s : Store) (new : OperationRow) : Prop where
  name : OperationName new.logicalTurnId new.operationId
  leased : new.record.phase = .leased
  later : ∀ position attempt, Attempts new position attempt →
    ∀ row ∈ s.operations.rows, ∀ earlier, Attempts row position earlier →
      earlier < attempt ∧ row.record.phase = .superseded ∧
        row.record.requestFingerprint = new.record.requestFingerprint

theorem ledger_of_rows (ledger : Ledger s) (grounded : GroundedStore s')
    {N : OperationRow → Prop} (single : ∀ row other, N row → N other → row = other)
    (adds : ∀ row, N row → Adds s row)
    (rows : ∀ row' ∈ s'.operations.rows, (∃ row ∈ s.operations.rows, Ages row row') ∨ N row') :
    Ledger s' := by
  refine ⟨grounded, fun row' member => ?_, ?_, ?_, ?_⟩
  · rcases rows row' member with ⟨row, old, ages⟩ | new
    · rw [ages.turn, ages.operationId]
      exact ledger.names row old
    · exact (adds row' new).name
  · intro row' member later' member' position attempt latest attempts attempts' smaller
    rcases rows row' member with ⟨row, old, ages⟩ | new
    · refine ages.superseded ?_
      rcases rows later' member' with ⟨later, old', ages'⟩ | new
      · exact ledger.superseded row old later old' position attempt latest (ages.attempts attempts)
          (ages'.attempts attempts') smaller
      · exact ((adds later' new).later position latest attempts' row old attempt
          (ages.attempts attempts)).2.1
    · rcases rows later' member' with ⟨later, old', ages'⟩ | new'
      · have larger := ((adds row' new).later position attempt attempts later old' latest
          (ages'.attempts attempts')).1
        omega
      · cases single row' later' new new'
        cases attempts.2.symm.trans attempts'.2
        exact (Nat.lt_irrefl _ smaller).elim
  · intro row' member other' member' position attempt attempt' attempts attempts'
    rcases rows row' member with ⟨row, old, ages⟩ | new
    · rw [ages.fingerprint]
      rcases rows other' member' with ⟨other, old', ages'⟩ | new
      · rw [ages'.fingerprint]
        exact ledger.fingerprint row old other old' position attempt attempt'
          (ages.attempts attempts) (ages'.attempts attempts')
      · exact ((adds other' new).later position attempt' attempts' row old attempt
          (ages.attempts attempts)).2.2
    · rcases rows other' member' with ⟨other, old', ages'⟩ | new'
      · rw [ages'.fingerprint]
        exact ((adds row' new).later position attempt attempts other old' attempt'
          (ages'.attempts attempts')).2.2.symm
      · rw [single row' other' new new']
  · intro row' member position attempt attempts completed
    rcases rows row' member with ⟨row, old, ages⟩ | new
    · rcases ages.payload completed with ⟨was, same⟩ | object | provider
      · rw [same]
        exact ledger.payload row old position attempt (ages.attempts attempts) was
      · exact object
      · have none := attempt_provider provider position
        rw [(ages.attempts attempts).2] at none
        cases none
    · rw [(adds row' new).leased] at completed
      cases completed

/-! ## Store calls -/

theorem ages_of_rowStep (step : RowStep op row row')
    (other : ∀ request, op ≠ .completeOperation request) : Ages row row' := by
  cases step with
  | kept => exact ages_refl row
  | completed called => exact (other _ called).elim
  | interrupted called leased =>
    refine ⟨rfl, rfl, rfl, fun superseded => ?_, fun completed => by cases completed⟩
    simp only [OperationRow.isHostTool, superseded, Bool.decide_and, Bool.and_eq_true,
      decide_eq_true_eq] at leased
    cases leased.2
  | @confirmed request called unknown =>
    have fingerprint : (Store.confirmedOperation request.action request.now
        row.record).requestFingerprint = row.record.requestFingerprint := by
      unfold Store.confirmedOperation
      split <;> rfl
    refine ⟨rfl, rfl, fingerprint, fun superseded => ?_, fun completed => .inr (.inl ?_)⟩
    · simp only [OperationRow.isHostTool, superseded, Bool.decide_and, Bool.and_eq_true,
        decide_eq_true_eq] at unknown
      cases unknown.2
    · simp only [Store.confirmedOperation] at completed ⊢
      split at completed
      · next action => exact ⟨_, by rw [if_pos action]; rfl⟩
      · cases completed

theorem step_ledger (ledger : Ledger s) (other : ¬Operates op) : Ledger (s.step op) := by
  refine ledger_of_rows (N := fun _ => False) ledger (step_groundedStore ledger.grounded op)
    (fun _ _ impossible => impossible.elim) (fun _ impossible => impossible.elim)
    fun row' stored => ?_
  rcases row_before ledger.grounded op stored with ⟨row, old, step⟩ | ⟨request, rfl, -⟩
  · refine .inl ⟨row, old, ages_of_rowStep step ?_⟩
    rintro request rfl
    exact other trivial
  · exact (other trivial).elim

theorem owned_of_row (grounded : GroundedStore s) (stored : row ∈ s.operations.rows) :
    row.record.operationId = row.operationId ∧ row.record.logicalTurnId = row.logicalTurnId := by
  have member : row ∈ (view s row.logicalTurnId).operations :=
    Table.mem_select.mpr ⟨stored, by simp⟩
  cases found : s.loadTurn row.logicalTurnId with
  | none =>
    rw [(grounded _).eq_absent found] at member
    cases member
  | some record =>
    obtain ⟨named, owner⟩ := ((grounded _).turn found).owned row member
    exact ⟨named, owner.trans (Table.key_of_find? found)⟩

theorem lease_ledger {request : LogicalTurnOperationLeaseRequest} (ledger : Ledger s)
    (adds : (∀ row ∈ s.operations.rows, row.logicalTurnId = request.operation.logicalTurnId →
      row.operationId ≠ request.operation.operationId) → Adds s (.ofRecord request.operation)) :
    Ledger (s.step (.leaseOperation request)) := by
  refine ledger_of_rows
    (N := fun row => row = .ofRecord request.operation ∧ Adds s (.ofRecord request.operation))
    ledger (step_groundedStore ledger.grounded _) (fun _ _ new new' => new.1.trans new'.1.symm)
    (fun row new => new.1 ▸ new.2) fun row' stored => ?_
  rcases row_before ledger.grounded _ stored with ⟨row, old, step⟩ | ⟨other, called, new, fresh⟩
  · exact .inl ⟨row, old, ages_of_rowStep step fun _ impossible => by cases impossible⟩
  · cases called
    refine .inr ⟨new, adds fun row old owner => ?_⟩
    rw [new] at fresh
    exact fresh row old owner

theorem complete_ledger (ledger : Ledger s)
    (stored : row ∈ s.operations.rows) (target : row.operationId = request.operation.operationId)
    (leased : row.record.phase = .leased)
    (payload : (∃ members, request.operation.resultPayload = some (.object members)) ∨ ProviderName
      row.operationId) : Ledger (s.step (.completeOperation request)) := by
  refine ledger_of_rows (N := fun _ => False) ledger (step_groundedStore ledger.grounded _)
    (fun _ _ impossible => impossible.elim) (fun _ impossible => impossible.elim)
    fun row' member => .inl ?_
  rcases row_before ledger.grounded _ member with ⟨before, old, step⟩ | ⟨_, impossible, -⟩
  · refine ⟨before, old, ?_⟩
    cases step with
    | kept => exact ages_refl _
    | @completed request turn operation called target' revision accepted continuation fingerprint =>
      cases called
      cases List.inj_on_of_nodup_map s.operations.unique old stored (target'.trans target.symm)
      obtain ⟨shape, -⟩ := completedOperation_ok accepted
      refine ⟨rfl, rfl, fingerprint.symm, fun superseded => ?_, fun _ => .inr ?_⟩
      · rw [leased] at superseded
        cases superseded
      · refine payload.imp_left fun object => ?_
        show ∃ members, operation.resultPayload = some (.object members)
        rw [shape]
        exact object
    | interrupted impossible | confirmed impossible => cases impossible
  · cases impossible

/-! ## What a bridge call adds -/

/-- Since `s₀` the ledger was kept, and an attempt of a tool call that was added came after nothing
but superseded attempts. -/
structure Extends (s₀ s : Store) : Prop where
  ledger : Ledger s
  recorded : ∀ row ∈ s.operations.rows,
    (∃ old ∈ s₀.operations.rows, old.operationId = row.operationId) ∨
      ∀ position attempt, Attempts row position attempt →
        ∀ old ∈ s₀.operations.rows, ∀ earlier, Attempts old position earlier →
          old.record.phase = .superseded

theorem extends_refl (ledger : Ledger s) : Extends s s :=
  ⟨ledger, fun row stored => .inl ⟨row, stored, rfl⟩⟩

theorem step_extends (extended : Extends s₀ s) (other : ¬Operates op) : Extends s₀ (s.step op) := by
  refine ⟨step_ledger extended.ledger other, fun row' stored => ?_⟩
  rcases row_before extended.ledger.grounded op stored with ⟨row, old, step⟩ | ⟨_, rfl, -⟩
  · have ages : Ages row row' := ages_of_rowStep step (by rintro request rfl; exact other trivial)
    rcases extended.recorded row old with ⟨first, was, same⟩ | superseded
    · exact .inl ⟨first, was, same.trans ages.operationId.symm⟩
    · exact .inr fun position attempt attempts =>
        superseded position attempt (ages.attempts attempts)
  · exact (other trivial).elim

theorem not_operates (continues : Continues op) : ¬Operates op := by
  intro operates
  cases op <;> first | exact continues | exact operates

theorem calls_extends (calls : Calls Continues s s') (extended : Extends s₀ s) : Extends s₀ s' :=
  calls_invariant calls extended fun _ _ kept continues =>
    step_extends kept (not_operates continues)

theorem lease_extends {request : LogicalTurnOperationLeaseRequest} (ledger : Ledger s)
    (adds : (∀ row ∈ s.operations.rows, row.logicalTurnId = request.operation.logicalTurnId →
      row.operationId ≠ request.operation.operationId) → Adds s (.ofRecord request.operation)) :
    Extends s (s.step (.leaseOperation request)) := by
  refine ⟨lease_ledger ledger adds, fun row' stored => ?_⟩
  rcases row_before ledger.grounded _ stored with ⟨row, old, step⟩ | ⟨other, called, rfl, fresh⟩
  · exact .inl ⟨row, old, step.operationId.symm⟩
  · cases called
    exact .inr fun position attempt attempts row old earlier recorded =>
      ((adds fresh).later position attempt attempts row old earlier recorded).2.1

theorem complete_extends (ledger : Ledger s)
    (stored : row ∈ s.operations.rows) (target : row.operationId = request.operation.operationId)
    (leased : row.record.phase = .leased)
    (payload : (∃ members, request.operation.resultPayload = some (.object members)) ∨ ProviderName
      row.operationId) : Extends s (s.step (.completeOperation request)) := by
  refine ⟨complete_ledger ledger stored target leased payload, fun row' member => ?_⟩
  rcases row_before ledger.grounded _ member with ⟨before, old, step⟩ | ⟨_, impossible, -⟩
  · exact .inl ⟨before, old, step.operationId.symm⟩
  · cases impossible

end RustyCrew.Proof.Bridge

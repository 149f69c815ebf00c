import RustyCrew.Proof.Persistence.Hydration

namespace RustyCrew.Proof.Lifecycle

open Library Protocol RustyCrew.Persistence RustyCrew.Lifecycle LogicalTurnPhase
open RustyCrew.Proof.Persistence

variable {phase : LogicalTurnPhase}

/-! ## The joint invariant of the turn, ticket and checkpoint tables -/

/-- The optional fields of a record are set in exactly the phases they belong to. -/
structure FieldsMatchPhase (record : LogicalTurnRecord) : Prop where
  attention : record.attention.isSome ↔ record.phase = .attentionRequired
  epoch : record.activeEpochId.isSome ↔ record.phase = .running
  holder : record.claimHolder.isSome ↔ record.phase = .running
  terminal : record.terminalAt.isSome ↔ record.phase.isTerminal = true

structure ConsistentTurn (v : TurnView) (record : LogicalTurnRecord) : Prop where
  fields : FieldsMatchPhase record
  ticket : if record.phase.isRunnable then
      v.ticket.map LogicalTurnContinuationTicket.continuationId = some record.currentContinuationId
    else v.ticket = none
  checkpoint : ∃ checkpoint ∈ v.checkpoints,
    checkpoint.continuationId = record.currentContinuationId ∧
      checkpoint.sequence = record.continuationSequence

def Consistent (v : TurnView) : Prop := ∀ record, v.record = some record → ConsistentTurn v record

theorem consistent_absent : Consistent .absent := by
  intro record stored
  cases stored

section
variable {record : LogicalTurnRecord}

theorem fields_admitted {write : LogicalTurnAdmissionWrite} (fresh : write.Fresh)
    (phase : write.admission.record.phase = .admitted) :
    FieldsMatchPhase write.admission.record := by
  obtain ⟨-, attention, epoch, holder, terminal⟩ := fresh
  constructor <;> simp [*, isTerminal]

section
variable (fields : FieldsMatchPhase record)
include fields

theorem FieldsMatchPhase.attention_none (phase : record.phase ≠ .attentionRequired) :
    record.attention = none :=
  Option.not_isSome_iff_eq_none.mp fun set => phase (fields.attention.mp set)

theorem FieldsMatchPhase.terminalAt_none (phase : record.phase.isTerminal = false) :
    record.terminalAt = none :=
  Option.not_isSome_iff_eq_none.mp fun set => by simp [fields.terminal.mp set] at phase

theorem FieldsMatchPhase.claim_none (phase : record.phase ≠ .running) :
    record.activeEpochId = none ∧ record.claimHolder = none :=
  ⟨Option.not_isSome_iff_eq_none.mp fun set => phase (fields.epoch.mp set),
    Option.not_isSome_iff_eq_none.mp fun set => phase (fields.holder.mp set)⟩

end

theorem runnable_phase (runnable : phase.isRunnable = true) :
    phase ≠ .attentionRequired ∧ phase ≠ .running ∧ phase.isTerminal = false := by
  cases phase <;> simp_all [isRunnable, isTerminal]

theorem terminal_phase (terminal : phase.isTerminal = true) :
    phase ≠ .attentionRequired ∧ phase ≠ .running ∧ phase.isRunnable = false := by
  cases phase <;> simp_all [isRunnable, isTerminal]

section
variable (fields : FieldsMatchPhase record)
include fields

theorem fields_claimed (runnable : record.phase.isRunnable = true) :
    FieldsMatchPhase (claimedRecord record request) := by
  obtain ⟨calm, -, live⟩ := runnable_phase runnable
  constructor <;> simp [claimedRecord, fields.attention_none calm, fields.terminalAt_none live,
    isTerminal]

theorem fields_released (calm : record.phase ≠ .attentionRequired)
    (live : record.phase.isTerminal = false) (epoch : after.activeEpochId = none)
    (holder : after.claimHolder = none) (attention : after.attention = record.attention)
    (terminal : after.terminalAt = record.terminalAt) (phase : after.phase.isRunnable = true) :
    FieldsMatchPhase after := by
  obtain ⟨afterCalm, afterIdle, afterLive⟩ := runnable_phase phase
  constructor <;> simp [*, fields.attention_none calm, fields.terminalAt_none live]

theorem fields_attending (live : record.phase.isTerminal = false)
    (epoch : after.activeEpochId = none) (holder : after.claimHolder = none)
    (attention : after.attention.isSome = true) (terminal : after.terminalAt = record.terminalAt)
    (phase : after.phase = .attentionRequired) : FieldsMatchPhase after := by
  constructor <;> simp [*, fields.terminalAt_none live, isTerminal]

theorem fields_resolved (phase : record.phase = .attentionRequired) :
    FieldsMatchPhase (resolvedRecord record now) := by
  obtain ⟨epoch, holder⟩ := fields.claim_none (by simp [phase])
  have live := fields.terminalAt_none (by simp [phase, isTerminal])
  constructor <;> simp [resolvedRecord, epoch, holder, live, isTerminal]

end

theorem fields_terminated (epoch : after.activeEpochId = none) (holder : after.claimHolder = none)
    (attention : after.attention = none) (terminal : after.terminalAt.isSome = true)
    (phase : after.phase.isTerminal = true) : FieldsMatchPhase after := by
  obtain ⟨calm, idle, -⟩ := terminal_phase phase
  constructor <;> simp [*]

end

theorem running_of_fence
    (fence : requireRunningFence record revision epoch claimGeneration cancellationGeneration =
      .ok ()) : record.phase = .running :=
  (requireRunningFence_ok.mp fence).2.1

/-! ## One step keeps it -/

theorem step_consistent (step : TurnStep op v v')
    (fresh : op.FreshAdmission) (consistent : Consistent v) : Consistent v' := by
  cases step with
  | @admitTurn write valid =>
    obtain ⟨phase, -, continuation, sequence, -⟩ := validateAdmission_ok valid
    rintro _ ⟨⟩
    refine ⟨fields_admitted fresh phase, ?_, _, List.mem_singleton_self _, continuation, ?_⟩
    · simp [phase, isRunnable, continuationTicket]
    · rw [sequence]
      exact fresh.1.symm
  | claim stored target revision runnable =>
    obtain ⟨fields, -, checkpoint⟩ := consistent _ stored
    rintro _ ⟨⟩
    exact ⟨fields_claimed fields runnable, rfl, checkpoint⟩
  | yield stored target fence valid =>
    obtain ⟨fields, -, -⟩ := consistent _ stored
    have running := running_of_fence fence
    rintro _ ⟨⟩
    refine ⟨fields_released fields (by simp [running])
      (by simp [running, isTerminal]) rfl rfl rfl rfl rfl, rfl, ?_⟩
    exact ⟨_, List.mem_append_right _ (List.mem_singleton_self _), rfl, rfl⟩
  | requireAttention stored target fence valid =>
    obtain ⟨fields, -, -⟩ := consistent _ stored
    have running := running_of_fence fence
    rintro _ ⟨⟩
    refine ⟨fields_attending fields (by simp [running, isTerminal]) rfl rfl rfl
      rfl rfl, rfl, ?_⟩
    exact ⟨_, List.mem_append_right _ (List.mem_singleton_self _), rfl, rfl⟩
  | resolveAttention stored target valid =>
    obtain ⟨fields, -, checkpoint⟩ := consistent _ stored
    obtain ⟨-, attending, -⟩ := validateAttentionResolution_ok.mp valid
    rintro _ ⟨⟩
    exact ⟨fields_resolved fields attending, rfl, checkpoint⟩
  | complete stored target fence valid member current only =>
    obtain ⟨fields, -, old, oldMember, isCurrent, sequence⟩ := consistent _ stored
    have running := running_of_fence fence
    have terminal := terminal_of_validateCompletion valid
    rintro _ ⟨⟩
    refine ⟨fields_terminated rfl rfl (fields.attention_none (by simp [running])) rfl terminal,
      ?_, ?_⟩
    · simp [completedRecord, (terminal_phase terminal).2.2]
    · cases only old oldMember isCurrent
      exact ⟨_, List.mem_map.mpr ⟨_, member, if_pos rfl⟩, current, sequence⟩
  | cancel stored target active revision =>
    obtain ⟨-, -, checkpoint⟩ := consistent _ stored
    rintro _ ⟨⟩
    exact ⟨fields_terminated rfl rfl rfl rfl rfl, rfl, checkpoint⟩
  | leaseOperation | completeOperation =>
    intro record stored'
    obtain ⟨fields, ticket, checkpoint⟩ := consistent _ stored'
    exact ⟨fields, ticket, checkpoint⟩
  | finalize stored requested =>
    obtain ⟨fields, -, checkpoint⟩ := consistent _ stored
    rintro _ ⟨⟩
    exact ⟨fields_terminated rfl rfl (fields.attention_none (by simp [requested])) rfl rfl, rfl,
      checkpoint⟩
  | interrupt stored running leased =>
    obtain ⟨fields, ticket, checkpoint⟩ := consistent _ stored
    rw [running] at ticket
    rintro _ ⟨⟩
    exact ⟨fields_attending fields (by simp [running, isTerminal]) rfl rfl rfl
      rfl rfl, ticket, checkpoint⟩
  | refresh stored runnable =>
    obtain ⟨fields, -, checkpoint⟩ := consistent _ stored
    intro record stored'
    cases stored.symm.trans stored'
    refine ⟨fields, ?_, checkpoint⟩
    rw [runnable]
    rfl
  | recover stored resumable =>
    obtain ⟨fields, -, checkpoint⟩ := consistent _ stored
    rintro _ ⟨⟩
    refine ⟨fields_released fields ?_ ?_ rfl rfl rfl rfl rfl, rfl, checkpoint⟩
    · rcases resumable with phase | phase | ⟨phase, -⟩ <;> simp [phase]
    · rcases resumable with phase | phase | ⟨phase, -⟩ <;>
        simp [phase, isTerminal]

/-! ## Every reachable store keeps it -/

def ConsistentStore (s : Store) : Prop :=
  GroundedStore s ∧ ∀ id, Consistent (view s id)

theorem consistentStore_empty : ConsistentStore Store.empty :=
  ⟨groundedStore_empty, fun _ => consistent_absent⟩

theorem step_consistentStore {op : Op} (fresh : op.FreshAdmission)
    (consistent : ConsistentStore s) : ConsistentStore (s.step op) := by
  obtain ⟨grounded, consistent⟩ := consistent
  refine ⟨step_groundedStore grounded op, step_views grounded consistent fun id step => ?_⟩
  exact step_consistent step fresh (consistent id)

theorem run_consistentStore (fresh : ∀ op ∈ ops, op.FreshAdmission) :
    ConsistentStore (run Store.step Store.empty ops) :=
  run_invariant (fun _ _ consistent allowed => step_consistentStore allowed consistent)
    consistentStore_empty (along_of_forall Op.FreshAdmission fresh)

structure TurnConsistent (s : Store) (record : LogicalTurnRecord) : Prop where
  ticket : record.phase.isRunnable = true →
    ∃ ticket, s.tickets.rows.filter (fun row => row.logicalTurnId = record.logicalTurnId) =
        [ticket] ∧ ticket.continuationId = record.currentContinuationId
  noTicket : record.phase.isRunnable = false →
    s.tickets.rows.filter (fun row => row.logicalTurnId = record.logicalTurnId) = []
  attention : record.attention.isSome ↔ record.phase = .attentionRequired
  epoch : record.activeEpochId.isSome ↔ record.phase = .running
  holder : record.claimHolder.isSome ↔ record.phase = .running
  terminal : record.terminalAt.isSome ↔
    record.phase = .completed ∨ record.phase = .cancelled ∨ record.phase = .failed
  checkpoint : ∃ checkpoint, s.loadCheckpoint record.currentContinuationId = some checkpoint ∧
    checkpoint.logicalTurnId = record.logicalTurnId ∧
    checkpoint.sequence = record.continuationSequence

theorem isTerminal_iff :
    phase.isTerminal = true ↔ phase = .completed ∨ phase = .cancelled ∨ phase = .failed := by
  cases phase <;> simp [isTerminal]

theorem turnConsistent_of_consistent {record : LogicalTurnRecord}
    (consistent : ConsistentStore s) (stored : s.loadTurn record.logicalTurnId = some record) :
    TurnConsistent s record := by
  obtain ⟨fields, ticket, checkpoint, member, current, sequence⟩ :=
    consistent.2 record.logicalTurnId record stored
  have tickets : s.tickets.rows.filter (fun row => row.logicalTurnId = record.logicalTurnId) =
      (view s record.logicalTurnId).ticket.toList := Table.select_key s.tickets _
  obtain ⟨inTable, owner⟩ := Table.mem_select.mp member
  refine ⟨?_, ?_, fields.attention, fields.epoch, fields.holder,
    fields.terminal.trans isTerminal_iff, checkpoint, ?_, by simpa using owner, sequence⟩
  · intro runnable
    rw [if_pos runnable, Option.map_eq_some_iff] at ticket
    obtain ⟨ticket, issued, names⟩ := ticket
    exact ⟨ticket, by rw [tickets, issued]; rfl, names⟩
  · intro idle
    rw [if_neg (by simp [idle])] at ticket
    rw [tickets, ticket]
    rfl
  · rw [← current]
    exact Table.find?_of_mem inTable

/-! ## Sample calls

The calls of a small service whose turns are named by a letter, for the runs that show what the
results of this development say and where they stop. -/

variable (turn : String)

def sampleTurn : LogicalTurnId := ⟨turn⟩

def sampleContinuation (sequence : Nat) : ContinuationId :=
  ⟨turn ++ "/" ++ toString sequence⟩

def sampleEpoch (generation : Nat) : ExecutionEpochId := ⟨"epoch " ++ toString generation⟩

def sampleProgress : LogicalTurnProgress := ⟨0, 0, 0, 0, 0, 0, 0, "state", "09:00", "09:00", 0⟩

def sampleCheckpoint (sequence : Nat) (parent : Option ContinuationId)
    (epoch : Option ExecutionEpochId) : LogicalTurnCheckpoint where
  continuationId := sampleContinuation turn sequence
  logicalTurnId := sampleTurn turn
  sequence := sequence
  parentContinuationId := parent
  completedEpochId := epoch
  bindingGeneration := 1
  frozenInput := ⟨"body", "body", "prompt", "prompt", "role", "role", 0, []⟩
  moduleState := ⟨"chat-completions", "v1", "payload", .null⟩
  operationCursor := 0
  projectionCursor := 0
  progress := sampleProgress
  yieldReason := if sequence = 0 then .initialAdmission else .workQuantumReached
  createdAt := "09:00"

def sampleRecord : LogicalTurnRecord where
  logicalTurnId := sampleTurn turn
  sessionId := ⟨"session"⟩
  sourceWakeId := "wake " ++ turn
  phase := .admitted
  binding := ⟨⟨"profile"⟩, 1, "prompt", "tools", "registry", "chat-completions", "default",
    "model", 1, "endpoint", 1, none, none, "provider", none, none⟩
  currentContinuationId := sampleContinuation turn 0
  continuationSequence := 0
  bindingGeneration := 1
  cancellationGeneration := 0
  activeEpochId := none
  claimGeneration := none
  claimHolder := none
  claimExpiresAt := none
  attention := none
  revision := 1
  admittedAt := "09:00"
  updatedAt := "09:00"
  terminalAt := none

def sampleEvent (revision sequence : Nat) (epoch : Option ExecutionEpochId)
    (kind : LogicalTurnLifecycleEventKind) (phase : LogicalTurnPhase) : LogicalTurnLifecycleEvent :=
  let record := { sampleRecord turn with
    phase := phase
    currentContinuationId := sampleContinuation turn sequence
    continuationSequence := sequence
    activeEpochId := epoch
    revision := revision }
  lifecycleForRecord record sampleProgress kind "sample" "sample" "09:00"

def sampleAdmission (record : LogicalTurnRecord) : Op :=
  .admitTurn {
    admission := {
      record := record
      initialCheckpoint := sampleCheckpoint turn 0 none none
      lifecycleEvent := lifecycleForRecord record sampleProgress .admitted
        "sample" "sample" "09:00" }
    frozenContent := [⟨"body", "body", "json", [1], "09:00"⟩,
      ⟨"prompt", "prompt", "text", [2], "09:00"⟩, ⟨"role", "role", "json", [3], "09:00"⟩] }

def sampleAdmit : Op := sampleAdmission turn (sampleRecord turn)

def sampleClaim (revision sequence generation : Nat) : Op :=
  .claim ⟨sampleTurn turn, revision, sampleContinuation turn sequence, sampleEpoch generation,
    "worker", "10:00", "09:00"⟩

def sampleYield (revision sequence generation : Nat) : Op :=
  .yield ⟨sampleTurn turn, revision, sampleEpoch generation, generation, 0,
    sampleCheckpoint turn (sequence + 1) (some (sampleContinuation turn sequence))
      (some (sampleEpoch generation)),
    sampleEvent turn (revision + 1) (sequence + 1) (some (sampleEpoch generation))
      .continuationYielded .yielded, "09:00"⟩

def sampleComplete (revision sequence generation : Nat) : Op :=
  .complete ⟨sampleTurn turn, revision, sampleEpoch generation, generation, 0,
    sampleEvent turn (revision + 1) sequence (some (sampleEpoch generation)) .completed .completed,
    "09:00"⟩

def sampleCancel (revision : Nat) : Op :=
  .cancel ⟨sampleTurn turn, revision, "cancel " ++ turn, "operator", "stopped", "09:00"⟩

def sampleRun : List Op :=
  [sampleAdmit "a", sampleClaim "a" 1 0 1, sampleAdmit "b", sampleYield "a" 2 0 1,
    sampleClaim "b" 1 0 1, sampleClaim "a" 3 1 2, sampleCancel "b" 2, sampleComplete "a" 4 1 2,
    sampleAdmit "c", sampleClaim "c" 1 0 1, .hydrate "09:30"]

/-! ## The result -/

theorem reachable_turns_consistent (ops : List Op) (fresh : ∀ op ∈ ops, op.FreshAdmission) :
    ∀ record ∈ (run Store.step Store.empty ops).turns.rows,
      TurnConsistent (run Store.step Store.empty ops) record := by
  intro record member
  exact turnConsistent_of_consistent (run_consistentStore fresh) (Table.find?_of_mem member)

theorem reachable_turns_consistent_sample :
    (run Store.step Store.empty sampleRun).turns.rows.map LogicalTurnRecord.phase =
        [.completed, .cancelled, .runnable] ∧
      ∀ record ∈ (run Store.step Store.empty sampleRun).turns.rows,
        TurnConsistent (run Store.step Store.empty sampleRun) record :=
  ⟨by decide +kernel, reachable_turns_consistent sampleRun (by decide)⟩

/-- The store does not look at the terminal timestamp of the record it admits. -/
theorem admitted_turn_has_terminal_time :
    (run Store.step Store.empty [sampleAdmission "a" { sampleRecord "a" with
        terminalAt := some "09:00" }]).turns.rows.map
      (fun record => (record.phase, record.terminalAt)) = [(.admitted, some "09:00")] := by
  decide +kernel

end RustyCrew.Proof.Lifecycle

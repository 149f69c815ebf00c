import RustyCrew.Proof.Lifecycle.Grounded
import RustyCrew.Proof.Persistence.Views

namespace RustyCrew.Proof.Persistence

open Library Protocol RustyCrew.Persistence RustyCrew.Lifecycle OperationRow Store
open RustyCrew.Proof.Lifecycle

variable {s : Store} {id : LogicalTurnId}
variable {row : OperationRow} {now : IsoTimestamp}

def OwnsRecords (s : Store) (id : LogicalTurnId) : Prop :=
  ∀ row ∈ operationsOf s id, row.record.operationId = row.operationId

theorem ownsRecords_of_grounded (grounded : Grounded (view s id)) : OwnsRecords s id := by
  intro row member
  cases stored : (view s id).record with
  | none =>
    have absent : operationsOf s id = [] :=
      congrArg TurnView.operations (grounded.eq_absent stored)
    rw [absent] at member
    cases member
  | some record => exact ((grounded.turn stored).owned row member).1

theorem mem_operationsOf :
    row ∈ operationsOf s id ↔ row ∈ s.operations.rows ∧ row.logicalTurnId = id := by
  rw [operationsOf, Table.mem_select, decide_eq_true_iff]

theorem find?_operationsOf (member : row ∈ operationsOf s id) :
    s.operations.find? row.operationId = some row :=
  Table.find?_of_mem (mem_operationsOf.mp member).1

private theorem select_hostTools (phase) :
    (s.operations.select fun row => row.logicalTurnId = id ∧ row.kind = .hostToolExecution ∧
        row.record.phase = phase) = hostTools phase (operationsOf s id) := by
  rw [hostTools, operationsOf, Table.select, Table.select, List.filter_filter]
  apply List.filter_congr
  intro row _
  simp [isHostTool, Bool.and_comm]

theorem operationsIn_perm (phase) : (s.operationsIn id .hostToolExecution phase).Perm
      ((hostTools phase (operationsOf s id)).map OperationRow.record) := by
  rw [operationsIn, select_hostTools]
  exact (List.perm_insertionSort _ _).map OperationRow.record

theorem mem_hostTools :
    row ∈ hostTools phase rows ↔
      row ∈ rows ∧ row.kind = .hostToolExecution ∧ row.record.phase = phase := by
  simp [hostTools, isHostTool]

/-! ## Interrupting the leased tools of a turn -/

/-- A row while the interrupted operations are being rewritten: `waiting` are still to come. -/
def interruptedRow (id : LogicalTurnId) (now : IsoTimestamp)
    (waiting : List LogicalTurnOperationRecord) (row : OperationRow) : OperationRow :=
  if row.logicalTurnId = id ∧ isHostTool row .leased ∧ row.record ∉ waiting then
    { row with record := outcomeUnknownOperation now row.record }
  else row

private theorem interruptedRow_operationId (now) (waiting : List LogicalTurnOperationRecord) (row) :
    (interruptedRow id now waiting row).operationId = row.operationId := by
  unfold interruptedRow
  split <;> rfl

theorem interruptedRow_logicalTurnId (now) (waiting : List LogicalTurnOperationRecord) (row) :
    (interruptedRow id now waiting row).logicalTurnId = row.logicalTurnId := by
  unfold interruptedRow
  split <;> rfl

private theorem markOne {current : Store} (owns : OwnsRecords s id)
    (leased : row ∈ hostTools .leased (operationsOf s id)) (record : row.record = operation)
    (notLater : operation ∉ rest)
    (rows : current.operations.rows = s.operations.rows.map (interruptedRow id now (operation ::
      rest)))
    (updated : current.updateOperation (outcomeUnknownOperation now operation) operation.revision =
      .ok next) : (∃ operations, next = { current with operations := operations }) ∧
      next.operations.rows = s.operations.rows.map (interruptedRow id now rest) := by
  obtain ⟨member, isHost, isLeased⟩ := mem_hostTools.mp leased
  obtain ⟨inTable, turn⟩ := mem_operationsOf.mp member
  have named : operation.operationId = row.operationId := by
    rw [← record]
    exact owns row member
  obtain ⟨found, lookup, rfl⟩ := updateOperation_ok updated
  refine ⟨⟨_, rfl⟩, ?_⟩
  -- the row being rewritten is still the one the pass started from
  have waitingRow : interruptedRow id now (operation :: rest) row = row := by
    simp [interruptedRow, record]
  have sameRow : found = row := by
    have rowPresent : row ∈ current.operations.rows := by
      rw [rows, List.mem_map]
      exact ⟨row, inTable, waitingRow⟩
    have lookup' : current.operations.find? row.operationId = some row :=
      Table.find?_of_mem rowPresent
    have foundAt : current.operations.find? row.operationId = some found := by
      rw [← named]
      exact lookup
    rw [foundAt, Option.some.injEq] at lookup'
    exact lookup'
  subst sameRow
  have present : current.operations.find? found.operationId = some found := by
    rw [← named]
    exact lookup
  have written := Table.rows_put_of_present (b := found)
    (a := { found with record := outcomeUnknownOperation now operation }) present
  refine written.trans ?_
  rw [rows, List.map_map]
  apply List.map_congr_left
  intro other otherMember
  simp only [Function.comp_apply, interruptedRow_operationId]
  by_cases same : other.operationId = found.operationId
  · have isFound : other = found :=
      List.inj_on_of_nodup_map s.operations.unique otherMember inTable same
    subst isFound
    rw [record] at isLeased
    simp [interruptedRow, turn, isHostTool, isHost, isLeased, record, notLater]
  · rw [if_neg same]
    unfold interruptedRow
    by_cases ofTurn : other.logicalTurnId = id
    · have different : other.record ≠ operation := by
        intro equal
        apply same
        rw [← owns other (mem_operationsOf.mpr ⟨otherMember, ofTurn⟩), equal, named]
      simp [different]
    · simp [ofTurn]

private theorem markAll {operations : List LogicalTurnOperationRecord} (owns : OwnsRecords s id)
    (nodup : operations.Nodup)
    (leased : ∀ operation ∈ operations, ∃ row ∈ hostTools .leased (operationsOf s id), row.record =
      operation)
    (rows : s.operations.rows = s.operations.rows.map (interruptedRow id now operations))
    (marked : operations.foldlM (fun s operation => s.updateOperation (outcomeUnknownOperation now
      operation) operation.revision) s = .ok s') : (∃ table, s' = { s with operations := table }) ∧
      s'.operations.rows = s.operations.rows.map (interruptedRow id now []) := by
  have kept := foldlM_invariant (fun waiting current => waiting.Nodup ∧
    (∀ operation ∈ waiting, ∃ row ∈ hostTools .leased (operationsOf s id),
      row.record = operation) ∧ (∃ table, current = { s with operations := table }) ∧
    current.operations.rows = s.operations.rows.map (interruptedRow id now waiting))
    marked ⟨nodup, leased, ⟨s.operations, rfl⟩, rows⟩ (by
      rintro operation rest current next ⟨nodup, leased, ⟨table, rfl⟩, rows⟩ updated
      obtain ⟨notLater, nodup⟩ := List.nodup_cons.mp nodup
      obtain ⟨row, isLeased, record⟩ := leased operation (by simp)
      obtain ⟨⟨table', rfl⟩, rows'⟩ := markOne owns isLeased record notLater rows updated
      exact ⟨nodup, fun later member => leased later (by simp [member]), ⟨table', rfl⟩, rows'⟩)
  exact ⟨kept.2.2.1, kept.2.2.2⟩

private theorem record_injective (owns : OwnsRecords s id)
    (aMember : a ∈ operationsOf s id) (bMember : b ∈ operationsOf s id)
    (same : a.record = b.record) : a = b := by
  apply List.inj_on_of_nodup_map s.operations.unique (mem_operationsOf.mp aMember).1
    (mem_operationsOf.mp bMember).1
  rw [← owns a aMember, ← owns b bMember, same]

private theorem operationsIn_nodup (owns : OwnsRecords s id) (phase) :
    (s.operationsIn id .hostToolExecution phase).Nodup := by
  rw [(operationsIn_perm phase).nodup_iff]
  have rowsNodup : (hostTools phase (operationsOf s id)).Nodup :=
    ((s.operations.unique.of_map).filter _).filter _
  refine rowsNodup.map_on ?_
  intro a aMember b bMember same
  exact record_injective owns (mem_hostTools.mp aMember).1 (mem_hostTools.mp bMember).1 same

theorem edits_markLeased (owns : OwnsRecords s id)
    (marked : s.markLeasedHostToolsOutcomeUnknown id now = .ok (s', unknown)) :
    Edits s s' id (fun v => { v with operations := interruptTools now v.operations }) ∧
      unknown.length = (hostTools .leased (operationsOf s id)).length := by
  simp only [markLeasedHostToolsOutcomeUnknown, bind_eq_ok, Except.ok.injEq,
    Prod.mk.injEq] at marked
  obtain ⟨s₁, marked, rfl, rfl⟩ := marked
  have leased : ∀ operation ∈ s.operationsIn id .hostToolExecution .leased,
      ∃ row ∈ hostTools .leased (operationsOf s id), row.record = operation := by
    intro operation member
    exact List.mem_map.mp ((operationsIn_perm .leased).mem_iff.mp member)
  have untouched : s.operations.rows = s.operations.rows.map
      (interruptedRow id now (s.operationsIn id .hostToolExecution .leased)) := by
    conv_lhs => rw [← List.map_id s.operations.rows]
    apply List.map_congr_left
    intro row member
    unfold interruptedRow
    split
    · next waiting =>
      obtain ⟨turn, isLeased, notWaiting⟩ := waiting
      refine absurd ((operationsIn_perm .leased).mem_iff.mpr (List.mem_map_of_mem ?_)) notWaiting
      exact List.mem_filter.mpr ⟨mem_operationsOf.mpr ⟨member, turn⟩, isLeased⟩
    · rfl
  obtain ⟨⟨table, rfl⟩, rows⟩ :=
    markAll owns (operationsIn_nodup owns .leased) leased untouched marked
  constructor
  · intro other
    have selected : table.rows.filter (fun row => row.logicalTurnId = other) =
        (operationsOf s other).map (interruptedRow id now []) := by
      rw [rows, List.filter_map, operationsOf, Table.select]
      congr 1
      apply List.filter_congr
      intro row _
      simp [interruptedRow_logicalTurnId]
    have operations : operationsOf { s with operations := table } other =
        if id = other then interruptTools now (operationsOf s other) else operationsOf s other := by
      rw [operationsOf, Table.select, selected]
      split
      · next same =>
        apply List.map_congr_left
        intro row member
        simp [interruptedRow, (mem_operationsOf.mp member).2, same]
      · next different =>
        conv_rhs => rw [← List.map_id (operationsOf s other)]
        apply List.map_congr_left
        intro row member
        have turn := (mem_operationsOf.mp member).2
        simp [interruptedRow, turn, Ne.symm different]
    split
    · next same =>
      rw [if_pos same] at operations
      ext1
      · rfl
      · rfl
      · exact operations
      · rfl
      · rfl
    · next different =>
      rw [if_neg different] at operations
      ext1
      · rfl
      · rfl
      · exact operations
      · rfl
      · rfl
  · rw [List.length_map, (operationsIn_perm .leased).length_eq, List.length_map]

/-! ## Reconciling the one unknown tool -/

theorem edits_reconcile {record : LogicalTurnRecord} (owns : OwnsRecords s record.logicalTurnId)
    (reconciled : s.reconcileUnknownHostToolOperation record request = .ok s') :
    ∃ edit : List OperationRow → List OperationRow,
      Reconciles request (operationsOf s record.logicalTurnId)
        (edit (operationsOf s record.logicalTurnId)) ∧
      Edits s s' record.logicalTurnId (fun v => { v with operations := edit v.operations }) := by
  unfold reconcileUnknownHostToolOperation at reconciled
  split at reconciled
  · next confirms =>
    split at reconciled
    · next operation query =>
      have single : [operation].Perm ((hostTools .outcomeUnknown
          (operationsOf s record.logicalTurnId)).map OperationRow.record) := by
        rw [← query]
        exact operationsIn_perm .outcomeUnknown
      obtain ⟨row, unknown, named⟩ := List.map_eq_singleton_iff.mp
        (List.singleton_perm.mp single).symm
      have member : row ∈ operationsOf s record.logicalTurnId := by
        have inUnknown : row ∈ hostTools .outcomeUnknown (operationsOf s record.logicalTurnId) := by
          rw [unknown]
          exact List.mem_singleton_self row
        exact (mem_hostTools.mp inUnknown).1
      have present : s.operations.find?
          (confirmedOperation request.action request.now operation).operationId = some row := by
        rw [(confirmedOperation_identity _ _ _).1, ← named, owns row member]
        exact find?_operationsOf member
      have edits := edits_updateOperation reconciled present
      rw [(mem_operationsOf.mp member).2] at edits
      refine ⟨_, ?_, edits⟩
      simp only [Reconciles, confirms, if_true]
      exact ⟨row, unknown, by rw [named]⟩
    · cases reconciled
  · next other =>
    cases reconciled
    refine ⟨id, ?_, ?_⟩
    · simp [Reconciles, other]
    · intro turn
      split <;> rfl

end RustyCrew.Proof.Persistence

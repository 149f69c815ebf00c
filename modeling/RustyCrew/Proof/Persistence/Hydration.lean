import RustyCrew.Proof.Persistence.Simulation

namespace RustyCrew.Proof.Persistence

open Library Protocol RustyCrew.Persistence RustyCrew.Lifecycle
open RustyCrew.Proof.Lifecycle

variable {s s' : Store} {now : IsoTimestamp} {record : LogicalTurnRecord}
variable {s₁ : Store} {report : LogicalTurnHydrationReport} {op : Op}

/-! ## One round of the hydration loop -/

/-- The turns a restart leaves alone: they ended, or they wait for an operator. -/
def Resting (phase : LogicalTurnPhase) : Prop :=
  phase.isTerminal = true ∨ phase = .attentionRequired

def Rehydrates (now : IsoTimestamp) (record : LogicalTurnRecord) (v v' : TurnView) : Prop :=
  (v' = v ∧ Resting record.phase) ∨ TurnStep (.hydrate now) v v'

/-- The round on `record` touches only the turn of that record, and takes it through one step
unless it is at rest. -/
def HydratesTurn (now : IsoTimestamp) (s s' : Store) (record : LogicalTurnRecord) : Prop :=
  ∃ edit, Edits s s' record.logicalTurnId edit ∧
    Rehydrates now record (view s record.logicalTurnId) (edit (view s record.logicalTurnId))

private theorem hydratesTurn_self (resting : Resting record.phase) :
    HydratesTurn now s s record := by
  refine ⟨fun v => v, ?_, .inl ⟨rfl, resting⟩⟩
  intro id
  split <;> rfl

theorem finalizeCancellation_hydrates (grounded : GroundedStore s)
    (stored : s.loadTurn record.logicalTurnId = some record)
    (requested : record.phase = .cancelRequested)
    (accepted : s.finalizeCancellation record now = .ok s') :
    HydratesTurn now s s' record := by
  simp only [Store.finalizeCancellation, bind_eq_ok] at accepted
  obtain ⟨s₁, updated, progress, -, event⟩ := accepted
  obtain rfl := updateTurn_ok updated
  have edits := (edits_putTurn (s := s) (finalizedRecord record now) rfl).trans
    (edits_deleteTicket record.logicalTurnId)
  exact ⟨_, edits.insertOutbox event rfl rfl
    (not_logged (grounded _) stored (Nat.lt_succ_self _)), .inr (.finalize stored requested)⟩

theorem interruptTurn_hydrates
    (grounded : GroundedStore s) (stored : s.loadTurn record.logicalTurnId = some record)
    (running : record.phase = .running)
    (marked : s.markLeasedHostToolsOutcomeUnknown record.logicalTurnId now = .ok (s₁, unknown))
    (some : unknown ≠ []) (accepted : s₁.interruptTurn record unknown.length now = .ok s') :
    HydratesTurn now s s' record := by
  obtain ⟨operations, count⟩ := edits_markLeased (ownsRecords_of_grounded (grounded _)) marked
  have leased : hostTools .leased (view s record.logicalTurnId).operations ≠ [] := by
    intro none
    change hostTools .leased (operationsOf s record.logicalTurnId) = [] at none
    rw [none, List.length_nil, List.length_eq_zero_iff] at count
    exact some count
  rw [count] at accepted
  simp only [Store.interruptTurn, bind_eq_ok] at accepted
  obtain ⟨s₂, updated, progress, -, event⟩ := accepted
  obtain rfl := updateTurn_ok updated
  have edits := operations.trans (edits_putTurn (interruptedRecord record
    (hostTools .leased (operationsOf s record.logicalTurnId)).length now) rfl)
  exact ⟨_, edits.insertOutbox event rfl rfl
    (not_logged (grounded _) stored (Nat.lt_succ_self _)), .inr (.interrupt stored running leased)⟩

private theorem interruptTools_of_none
    (none : hostTools .leased rows = []) : interruptTools now rows = rows := by
  conv_rhs => rw [← List.map_id rows]
  apply List.map_congr_left
  intro row member
  have notLeased := List.filter_eq_nil_iff.mp none row member
  simp [notLeased]

private theorem marked_none (grounded : GroundedStore s)
    (marked : s.markLeasedHostToolsOutcomeUnknown turn now = .ok (s₁, [])) :
    hostTools .leased (view s turn).operations = [] ∧ Edits s s₁ turn (fun v => v) := by
  obtain ⟨operations, count⟩ := edits_markLeased (ownsRecords_of_grounded (grounded _)) marked
  have none : hostTools .leased (operationsOf s turn) = [] :=
    List.length_eq_zero_iff.mp (count.symm.trans List.length_nil)
  refine ⟨none, ?_⟩
  intro id
  rw [operations id]
  split
  · next same =>
    subst same
    ext1
    · rfl
    · rfl
    · exact interruptTools_of_none none
    · rfl
    · rfl
  · rfl

theorem recoverTurn_hydrates (grounded : GroundedStore s)
    (stored : s.loadTurn record.logicalTurnId = some record)
    (untouched : Edits s s₁ record.logicalTurnId fun v => v)
    (resumable : record.phase = .admitted ∨ record.phase = .yielded ∨ (record.phase = .running ∧
      hostTools .leased (view s record.logicalTurnId).operations = []))
    (accepted : s₁.recoverTurn record now = .ok s') : HydratesTurn now s s' record := by
  simp only [Store.recoverTurn, bind_eq_ok, Except.ok.injEq] at accepted
  obtain ⟨s₂, updated, progress, -, s₃, event, rfl⟩ := accepted
  obtain rfl := updateTurn_ok updated
  have edits := untouched.trans (edits_putTurn (recoveredRecord record now) rfl)
  have recorded := edits.insertOutbox event rfl rfl
    (not_logged (grounded _) stored (Nat.lt_succ_self _))
  exact ⟨_, recorded.trans (edits_upsertTicket _ rfl), .inr (.recover stored resumable)⟩

theorem refreshTicket_hydrates (stored : s.loadTurn record.logicalTurnId = some record)
    (untouched : Edits s s₁ record.logicalTurnId fun v => v) (runnable : record.phase = .runnable) :
    HydratesTurn now s (s₁.upsertTicket (continuationTicket record .restartRecovery now)) record :=
  ⟨_, untouched.trans (edits_upsertTicket _ rfl), .inr (.refresh stored runnable)⟩

theorem hydrateTurn_hydrates (grounded : GroundedStore s)
    (stored : s.loadTurn record.logicalTurnId = some record)
    (accepted : Store.hydrateTurn now (s, report) record = .ok (s', report')) :
    HydratesTurn now s s' record := by
  unfold Store.hydrateTurn at accepted
  simp only at accepted
  split at accepted
  · next terminal =>
    cases accepted
    exact hydratesTurn_self (.inl terminal)
  · next active =>
  split at accepted
  · next attended =>
    cases accepted
    exact hydratesTurn_self (.inr attended)
  · next unattended =>
  split at accepted
  · next requested =>
    simp only [bind_eq_ok, Except.ok.injEq, Prod.mk.injEq] at accepted
    obtain ⟨s₁, finalized, rfl, -⟩ := accepted
    exact finalizeCancellation_hydrates grounded stored requested finalized
  · next unrequested =>
  split at accepted
  · next running =>
    simp only [bind_eq_ok, Prod.exists] at accepted
    obtain ⟨s₁, unknown, marked, accepted⟩ := accepted
    split at accepted
    · next interrupted =>
      simp only [bind_eq_ok, Except.ok.injEq, Prod.mk.injEq] at accepted
      obtain ⟨s₂, attended, rfl, -⟩ := accepted
      exact interruptTurn_hydrates grounded stored running marked interrupted attended
    · next none =>
      simp only [ne_eq, not_not] at none
      subst none
      obtain ⟨idle, untouched⟩ := marked_none grounded marked
      rw [if_neg (by simp [running])] at accepted
      simp only [bind_eq_ok, Except.ok.injEq, Prod.mk.injEq] at accepted
      obtain ⟨s₂, recovered, rfl, -⟩ := accepted
      exact recoverTurn_hydrates grounded stored untouched (.inr (.inr ⟨running, idle⟩)) recovered
  · next waiting =>
    have untouched : Edits s s record.logicalTurnId fun v => v := by
      intro id
      split <;> rfl
    simp only [ok_bind, ne_eq, not_true, if_false] at accepted
    split at accepted
    · next runnable =>
      cases accepted
      exact refreshTicket_hydrates stored untouched runnable
    · next notRunnable =>
      simp only [bind_eq_ok, Except.ok.injEq, Prod.mk.injEq] at accepted
      obtain ⟨s₁, recovered, rfl, -⟩ := accepted
      refine recoverTurn_hydrates grounded stored untouched ?_ recovered
      cases phase : record.phase <;> simp_all [LogicalTurnPhase.isTerminal]

/-! ## The whole pass -/

private theorem loadAllTurns_ids_nodup (s : Store) :
    (s.loadAllTurns.map LogicalTurnRecord.logicalTurnId).Nodup :=
  ((List.perm_insertionSort _ _).map _).nodup_iff.mpr s.turns.unique

theorem mem_loadAllTurns :
    record ∈ s.loadAllTurns ↔ s.loadTurn record.logicalTurnId = some record := by
  rw [Store.loadAllTurns, (List.perm_insertionSort _ _).mem_iff, Store.loadTurn,
    Table.find?_eq_some, and_iff_left rfl]

/-- The state of the pass when the records `waiting` are still to be visited. -/
private structure HydrationProgress (now : IsoTimestamp) (start : Store)
    (waiting : List LogicalTurnRecord) (current : Store) : Prop where
  nodup : (waiting.map LogicalTurnRecord.logicalTurnId).Nodup
  stored : ∀ record ∈ waiting, start.loadTurn record.logicalTurnId = some record
  unvisited : ∀ record ∈ waiting,
    view current record.logicalTurnId = view start record.logicalTurnId
  visited : ∀ record, start.loadTurn record.logicalTurnId = some record → record ∉ waiting →
    Rehydrates now record (view start record.logicalTurnId) (view current record.logicalTurnId)
  follows : Follows (.hydrate now) start current

private theorem HydrationProgress.next {start current next : Store}
    {waiting : List LogicalTurnRecord}
    {report report' : LogicalTurnHydrationReport} (grounded : GroundedStore start)
    (progress : HydrationProgress now start (record :: waiting) current)
    (accepted : Store.hydrateTurn now (current, report) record = .ok (next, report')) :
    HydrationProgress now start waiting next := by
  have here := progress.unvisited record (by simp)
  have stored : current.loadTurn record.logicalTurnId = some record := by
    rw [← progress.stored record (by simp)]
    exact congrArg TurnView.record here
  obtain ⟨edit, edits, outcome⟩ :=
    hydrateTurn_hydrates (follows_grounded progress.follows grounded) stored accepted
  obtain ⟨fresh, nodup⟩ := List.nodup_cons.mp progress.nodup
  have elsewhere : ∀ later ∈ waiting, record.logicalTurnId ≠ later.logicalTurnId := by
    intro later member same
    exact fresh (same ▸ List.mem_map_of_mem member)
  rw [here] at outcome
  refine ⟨nodup, fun later member => progress.stored later (by simp [member]), ?_, ?_, ?_⟩
  · intro later member
    rw [edits.other (elsewhere later member)]
    exact progress.unvisited later (by simp [member])
  · intro visited stored' notWaiting
    by_cases target : record.logicalTurnId = visited.logicalTurnId
    · have same : record = visited := by
        have first := progress.stored record (by simp)
        rw [target, stored', Option.some.injEq] at first
        exact first.symm
      subst same
      rw [edits.target, here]
      exact outcome
    · rw [edits.other target]
      refine progress.visited visited stored' ?_
      rintro (_ | ⟨_, later⟩)
      · exact target rfl
      · exact notWaiting later
  · intro id
    by_cases target : record.logicalTurnId = id
    · subst target
      rw [edits.target, here]
      exact outcome.imp_left And.left
    · rw [edits.other target]
      exact progress.follows id

private theorem hydrated (grounded : GroundedStore s)
    (accepted : s.hydrateLogicalTurns now = .ok (s', report)) : HydrationProgress now s [] s' := by
  have start : HydrationProgress now s s.loadAllTurns s :=
    ⟨loadAllTurns_ids_nodup s, fun _ member => mem_loadAllTurns.mp member, fun _ _ => rfl,
      fun _ stored notWaiting => absurd (mem_loadAllTurns.mpr stored) notWaiting,
      follows_of_same fun _ => rfl⟩
  exact foldlM_invariant (fun waiting state => HydrationProgress now s waiting state.1) accepted
    start fun record waiting state next progress visited => progress.next grounded visited

theorem hydrate_follows (grounded : GroundedStore s)
    (accepted : s.hydrateLogicalTurns now = .ok (s', report)) : Follows (.hydrate now) s s' :=
  (hydrated grounded accepted).follows

theorem hydrate_rehydrates (grounded : GroundedStore s)
    (accepted : s.hydrateLogicalTurns now = .ok (s', report))
    (stored : s.loadTurn record.logicalTurnId = some record) :
    Rehydrates now record (view s record.logicalTurnId) (view s' record.logicalTurnId) :=
  (hydrated grounded accepted).visited record stored List.not_mem_nil

/-! ## Every call -/

theorem apply_follows (grounded : GroundedStore s)
    (accepted : s.apply op = .ok (s', response)) : Follows op s s' := by
  cases op
  case markOutboxDelivered projectionId deliveredAt =>
    cases accepted
    exact markOutboxDelivered_follows projectionId deliveredAt
  all_goals obtain ⟨_, call, -⟩ := bind_pair_ok accepted
  case admitTurn => exact admit_follows grounded call
  case claim => exact claim_follows grounded call
  case yield => exact yield_follows grounded call
  case requireAttention => exact requireAttention_follows grounded call
  case resolveAttention => exact resolveAttention_follows grounded call
  case complete => exact complete_follows grounded call
  case cancel => exact cancel_follows grounded call
  case leaseOperation => exact leaseOperation_follows call
  case completeOperation => exact completeOperation_follows grounded call
  case hydrate => exact hydrate_follows grounded call

theorem step_of_ok (accepted : s.apply op = .ok (s', response)) : s.step op = s' := by
  rw [Store.step, accepted]

theorem step_of_error {failure : CoreError} (rejected : s.apply op = .error failure) :
    s.step op = s := by
  rw [Store.step, rejected]

theorem step_follows (grounded : GroundedStore s) (op : Op) : Follows op s (s.step op) := by
  cases applied : s.apply op with
  | ok result =>
    rw [step_of_ok applied]
    exact apply_follows grounded applied
  | error failure =>
    rw [step_of_error applied]
    exact follows_of_same fun _ => rfl

theorem step_views {P : TurnView → Prop} (grounded : GroundedStore s) (holds : ∀ id, P (view s id))
    (keeps : ∀ id, TurnStep op (view s id) (view (s.step op) id) → P (view (s.step op) id))
    (id : LogicalTurnId) : P (view (s.step op) id) := by
  rcases step_follows grounded op id with same | step
  · rw [same]
    exact holds id
  · exact keeps id step

theorem step_groundedStore (grounded : GroundedStore s) (op : Op) : GroundedStore (s.step op) :=
  follows_grounded (step_follows grounded op) grounded

theorem groundedStore_empty : GroundedStore Store.empty := fun _ => grounded_absent

theorem run_groundedStore (ops) : GroundedStore (run Store.step Store.empty ops) :=
  run_invariant_all ops (fun _ op grounded => step_groundedStore grounded op) groundedStore_empty

/-- What the steps of a turn keep holds of every turn in every run. -/
theorem run_views {P : TurnView → Prop} {R : Op → Prop} (absent : P .absent)
    (keeps : ∀ op v v', TurnStep op v v' → R op → Grounded v → P v → P v')
    (allowed : ∀ op ∈ ops, R op) (id : LogicalTurnId) :
    P (view (run Store.step Store.empty ops) id) := by
  have step : ∀ s op, (GroundedStore s ∧ ∀ id, P (view s id)) → R op →
      GroundedStore (s.step op) ∧ ∀ id, P (view (s.step op) id) := fun s op holds ok =>
    ⟨step_groundedStore holds.1 op, step_views holds.1 holds.2 fun id step =>
      keeps op _ _ step ok (holds.1 id) (holds.2 id)⟩
  exact (run_invariant step ⟨groundedStore_empty, fun _ => absent⟩ (along_of_forall R allowed)).2 id

end RustyCrew.Proof.Persistence

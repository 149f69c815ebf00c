import RustyCrew.Proof.Lifecycle.Fencing

namespace RustyCrew.Proof.Lifecycle

open Library Protocol RustyCrew.Persistence RustyCrew.Lifecycle
open RustyCrew.Proof.Persistence

variable {op : Op} {record : LogicalTurnRecord} {v : TurnView}

/-! ## What a call writes to the outbox of a turn -/

/-- A call leaves the record and the log of a turn alone, or it moves the record to a later
revision and logs that revision: a cancellation with two projections, any other call with one. -/
inductive Logged (op : Op) (before after : Option LogicalTurnRecord)
    (log log' : List LogicalTurnLifecycleEvent) : Prop where
  | unchanged (record : after = before) (written : log' = log)
  | one {record : LogicalTurnRecord} {event : LogicalTurnLifecycleEvent}
      (stored : after = some record) (later : ∀ old ∈ before, old.revision < record.revision)
      (called : ∀ request, op ≠ .cancel request) (written : log' = log ++ [event])
      (revision : event.logicalTurnRevision = record.revision) (phase : event.phase = record.phase)
  | cancelled {record : LogicalTurnRecord} {request : LogicalTurnCancelRequest}
      {requested final : LogicalTurnLifecycleEvent}
      (stored : after = some record) (later : ∀ old ∈ before, old.revision < record.revision)
      (called : op = .cancel request) (written : log' = log ++ [requested, final])
      (requestedRevision : requested.logicalTurnRevision = record.revision)
      (requestedPhase : requested.kind = .cancelRequested ∧ requested.phase = .cancelRequested)
      (revision : final.logicalTurnRevision = record.revision) (phase : final.phase = record.phase)
      (finalPhase : final.kind = .cancelled ∧ final.phase = .cancelled)

theorem logged_one
    {event : LogicalTurnLifecycleEvent} (later : ∀ old ∈ before, old.revision < record.revision)
    (called : ∀ request, op ≠ .cancel request)
    (revision : event.logicalTurnRevision = record.revision) (phase : event.phase = record.phase) :
    Logged op before (some record) log (log ++ [event]) :=
  .one rfl later called rfl revision phase

private theorem later_of_next {record' : LogicalTurnRecord}
    (stored : before = some record) (next : record'.revision = record.revision + 1) :
    ∀ old ∈ before, old.revision < record'.revision := by
  intro old member
  rw [Option.mem_def, stored, Option.some.injEq] at member
  rw [← member, next]
  exact Nat.lt_succ_self _

theorem step_logged (step : TurnStep op v v') : Logged op v.record v'.record v.log v'.log := by
  cases step with
  | admitTurn valid =>
    obtain ⟨phase, -, -, -, -, -, revision, eventPhase⟩ := validateAdmission_ok valid
    exact logged_one (by simp [TurnView.absent]) (by simp) revision (eventPhase.trans phase.symm)
  | yield stored target fence valid =>
    obtain ⟨-, -, -, -, revision, phase⟩ := validateYield_ok valid
    exact logged_one (later_of_next stored rfl) (by simp) revision phase
  | requireAttention stored target fence valid =>
    obtain ⟨-, -, -, -, revision, phase⟩ := validateAttention_ok valid
    exact logged_one (later_of_next stored rfl) (by simp) revision phase
  | resolveAttention stored target valid =>
    obtain ⟨-, -, -, -, phase, -, -, revision, -⟩ := validateAttentionResolution_ok.mp valid
    exact logged_one (later_of_next stored rfl) (by simp) revision phase
  | complete stored target fence valid =>
    obtain ⟨-, -, revision⟩ := validateCompletion_ok valid
    exact logged_one (later_of_next stored rfl) (by simp) revision rfl
  | cancel stored =>
    exact .cancelled rfl (later_of_next stored rfl) rfl rfl rfl ⟨rfl, rfl⟩ rfl rfl ⟨rfl, rfl⟩
  | leaseOperation | completeOperation | refresh => exact .unchanged rfl rfl
  | claim stored | finalize stored | interrupt stored | recover stored =>
    exact logged_one (later_of_next stored rfl) (by simp) rfl rfl

/-! ## Replaying the outbox -/

/-- The phase a reader of the outbox ends in when it takes the projections of a turn by revision. -/
def replayPhase (log : List LogicalTurnLifecycleEvent) : Option LogicalTurnPhase :=
  (log.insertionSort fun a b => a.logicalTurnRevision ≤ b.logicalTurnRevision).foldl
    (fun _ event => some event.phase) none

structure LoggedTurn (v : TurnView) (record : LogicalTurnRecord) : Prop where
  ordered : v.log.Pairwise fun a b => a.logicalTurnRevision ≤ b.logicalTurnRevision
  last : v.log.getLast?.map LogicalTurnLifecycleEvent.phase = some record.phase

def LoggedView (v : TurnView) : Prop := ∀ record, v.record = some record → LoggedTurn v record

theorem replayPhase_of_logged (logged : LoggedTurn v record) :
    replayPhase v.log = some record.phase := by
  have folds : ∀ (log : List LogicalTurnLifecycleEvent) (phase : Option LogicalTurnPhase),
      log.foldl (fun _ event => some event.phase) phase =
        (log.getLast?.map LogicalTurnLifecycleEvent.phase).or phase := by
    intro log
    induction log with
    | nil => simp
    | cons event rest ih =>
      intro phase
      rw [List.foldl_cons, ih]
      cases rest with
      | nil => rfl
      | cons => rw [List.getLast?_cons_cons]; simp [List.getLast?_cons]
  rw [replayPhase, logged.ordered.insertionSort_eq, folds, logged.last]
  rfl

private theorem ordered_append (grounded : Grounded v) (logged : LoggedView v)
    (later : ∀ old ∈ v.record, old.revision < revision)
    (news : ∀ event ∈ events, event.logicalTurnRevision = revision) :
    (v.log ++ events).Pairwise fun a b => a.logicalTurnRevision ≤ b.logicalTurnRevision := by
  have together : events.Pairwise fun a b => a.logicalTurnRevision ≤ b.logicalTurnRevision :=
    List.pairwise_iff_forall_sublist.mpr fun {a b} sublist => by
      rw [news a (sublist.subset (by simp)), news b (sublist.subset (by simp))]
  cases stored : v.record with
  | none =>
    rw [grounded.eq_absent stored]
    exact together
  | some record =>
    refine List.pairwise_append.mpr ⟨(logged record stored).ordered, together, ?_⟩
    intro old oldMember event member
    have := (grounded.turn stored).logged old oldMember
    have := later record stored
    rw [news event member]
    omega

theorem step_loggedView (step : TurnStep op v v') (grounded : Grounded v)
    (logged : LoggedView v) : LoggedView v' := by
  intro record stored
  cases step_logged step with
  | unchanged same written =>
    obtain ⟨ordered, last⟩ := logged record (same ▸ stored)
    exact ⟨written ▸ ordered, written ▸ last⟩
  | one stored' later _ written revision phase =>
    rw [stored, Option.some.injEq] at stored'
    subst stored'
    refine ⟨?_, ?_⟩
    · rw [written]
      exact ordered_append grounded logged later (List.forall_mem_singleton.mpr revision)
    · rw [written, List.getLast?_concat, Option.map_some, phase]
  | cancelled stored' later _ written requested _ revision phase =>
    rw [stored, Option.some.injEq] at stored'
    subst stored'
    refine ⟨?_, ?_⟩
    · rw [written]
      exact ordered_append grounded logged later
        (List.forall_mem_cons.mpr ⟨requested, List.forall_mem_singleton.mpr revision⟩)
    · rw [written, List.getLast?_append, List.getLast?_cons_cons, List.getLast?_singleton,
        Option.some_or, Option.map_some, phase]

theorem run_loggedView (ops) (id : LogicalTurnId) :
    LoggedView (view (run Store.step Store.empty ops) id) :=
  run_views (R := fun _ => True) (fun _ stored => by cases stored)
    (fun _ _ _ step _ => step_loggedView step) (fun _ _ => trivial) id

theorem replay_unchanged {s : Store}
    (accepted : s.apply op = .ok (s', response)) (replay : IsReplay s response) : s' = s := by
  cases op with
  | claim request =>
    obtain ⟨claim, call, rfl⟩ := bind_pair_ok accepted
    obtain ⟨record, checkpoint, -, -, replayed | claimed⟩ := claimLogicalTurn_ok call
    · exact replayed.2.2.2.1
    · obtain ⟨-, -, -, -, rfl, -⟩ := claimed
      cases replay
  | yield request =>
    obtain ⟨receipt, call, rfl⟩ := bind_pair_ok accepted
    obtain ⟨record, -, replayed | yielded⟩ := yieldLogicalTurn_ok call
    · exact replayed.2.2.1
    · obtain ⟨-, -, rfl, -⟩ := yielded
      cases replay
  | requireAttention request =>
    obtain ⟨receipt, call, rfl⟩ := bind_pair_ok accepted
    obtain ⟨record, -, replayed | attending⟩ := requireLogicalTurnAttention_ok call
    · exact replayed.2.1
    · obtain ⟨-, -, rfl, -⟩ := attending
      cases replay
  | complete request =>
    obtain ⟨_, call, rfl⟩ := bind_pair_ok accepted
    obtain ⟨record, stored, replayed | completed⟩ := completeLogicalTurn_ok call
    · exact replayed.2.1
    · -- a completion that took effect answers with a revision the store did not have
      obtain ⟨-, -, rfl, -⟩ := completed
      have target : record.logicalTurnId = request.logicalTurnId := Table.key_of_find? stored
      have known : s.loadTurn record.logicalTurnId = some (completedRecord record request) :=
        replay.2
      rw [target, stored, Option.some.injEq] at known
      have revision := congrArg LogicalTurnRecord.revision known
      exact absurd revision (Nat.succ_ne_self _).symm
  | cancel request =>
    obtain ⟨receipt, call, rfl⟩ := bind_pair_ok accepted
    rcases cancelLogicalTurn_ok call with ⟨row, -, same, -⟩ | ⟨record, -, -, ended | active⟩
    · exact same
    · obtain ⟨-, rfl, -⟩ := ended
      cases replay
    · obtain ⟨-, rfl, -⟩ := active
      cases replay
  | markOutboxDelivered projectionId deliveredAt =>
    cases accepted
    cases replay
  | admitTurn | resolveAttention | leaseOperation | completeOperation | hydrate =>
    obtain ⟨_, -, rfl⟩ := bind_pair_ok accepted
    cases replay

/-! ## Every run -/

structure FaithfulLog (ops : List Op) : Prop where
  written : ∀ n op id, ops[n]? = some op →
    Logged op ((storeAt ops n).loadTurn id) ((storeAt ops (n + 1)).loadTurn id)
      (logOf (storeAt ops n) id) (logOf (storeAt ops (n + 1)) id)
  rejected : ∀ n op failure, ops[n]? = some op → (storeAt ops n).apply op = .error failure →
    (storeAt ops (n + 1)).outbox = (storeAt ops n).outbox
  replayed : ∀ n op s' response, ops[n]? = some op →
    (storeAt ops n).apply op = .ok (s', response) → IsReplay (storeAt ops n) response →
    (storeAt ops (n + 1)).outbox = (storeAt ops n).outbox
  replay : ∀ n, ∀ record ∈ (storeAt ops n).turns.rows,
    replayPhase (logOf (storeAt ops n) record.logicalTurnId) = some record.phase

theorem runs_logged (ops : List Op) : FaithfulLog ops where
  written := by
    intro n op id position
    rw [storeAt_succ position]
    rcases step_follows (storeAt_grounded ops n) op id with same | step
    · exact .unchanged (congrArg TurnView.record same) (congrArg TurnView.log same)
    · exact step_logged step
  rejected := by
    intro n op failure position rejected
    rw [storeAt_succ position, step_of_error rejected]
  replayed := by
    intro n op s' response position accepted replay
    rw [storeAt_succ position, step_of_ok accepted, replay_unchanged accepted replay]
  replay := by
    intro n record member
    have logged := run_loggedView (ops.take n) record.logicalTurnId
    exact replayPhase_of_logged (logged record (Table.find?_of_mem member))

end RustyCrew.Proof.Lifecycle

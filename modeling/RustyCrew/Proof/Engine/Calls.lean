import RustyCrew.Engine.Step
import RustyCrew.Proof.Lifecycle.Consistency

namespace RustyCrew.Proof.Engine

open Library Protocol RustyCrew.Persistence RustyCrew.Lifecycle Effect
open RustyCrew.Engine RustyCrew.Proof.Persistence RustyCrew.Proof.Lifecycle Effect CoreEngine

variable {op : Op} {s : Store} {wake : Wake}

/-! ## An engine call is a run of store calls -/

def Calls (Allowed : Op → Prop) (s s' : Store) : Prop :=
  ∃ ops : List Op, (∀ op ∈ ops, Allowed op) ∧ s' = run Store.step s ops

section
variable {Allowed : Op → Prop} {s : Store}

theorem calls_refl (s : Store) : Calls Allowed s s := ⟨[], by simp, rfl⟩

theorem calls_trans (first : Calls Allowed s s') (second : Calls Allowed s' s'') :
    Calls Allowed s s'' := by
  obtain ⟨ops, allowed, rfl⟩ := first
  obtain ⟨ops', allowed', rfl⟩ := second
  refine ⟨ops ++ ops', ?_, (run_append s ops ops').symm⟩
  intro op member
  rcases List.mem_append.mp member with left | right
  · exact allowed op left
  · exact allowed' op right

theorem calls_one (allowed : Allowed op) : Calls Allowed s (s.step op) :=
  ⟨[op], by simpa using allowed, rfl⟩

theorem calls_next (calls : Calls Allowed s s') (allowed : Allowed op) :
    Calls Allowed s (s'.step op) :=
  calls_trans calls (calls_one allowed)

theorem calls_weaken {Wider : Op → Prop} (wider : ∀ op, Allowed op → Wider op)
    (calls : Calls Allowed s s') : Calls Wider s s' := by
  obtain ⟨ops, allowed, reached⟩ := calls
  exact ⟨ops, fun op member => wider op (allowed op member), reached⟩

theorem calls_invariant {Inv : Store → Prop} (calls : Calls Allowed s s') (start : Inv s)
    (keeps : ∀ s op, Inv s → Allowed op → Inv (s.step op)) : Inv s' := by
  obtain ⟨ops, allowed, rfl⟩ := calls
  exact run_invariant keeps start (along_of_forall Allowed allowed)

end

def Projected (event : LogicalTurnLifecycleEvent) : Prop :=
  ∃ rest, event.projectionId.raw = "projection:" ++ event.logicalTurnId.raw ++ ":" ++ rest

theorem projected_lifecycleEvent (record input) : Projected (lifecycleEvent record input) := by
  refine ⟨toString (if input.kind = .admitted then record.revision else record.revision + 1) ++
    ":" ++ input.reasonCode, ?_⟩
  simp only [lifecycleEvent, String.append_assoc]

def Continues : Op → Prop
  | .admitTurn _ | .leaseOperation _ | .completeOperation _ => False
  | .yield request => Projected request.lifecycleEvent
  | .requireAttention request => Projected request.lifecycleEvent
  | .resolveAttention request => Projected request.lifecycleEvent
  | .complete request => Projected request.lifecycleEvent
  | _ => True

/-- Whatever the computation does to the store, it does through calls on existing turns. -/
def Does {α : Type} (x : EngineM α) : Prop :=
  ∀ s, Keeps (fun e : CoreEngine => Calls Continues s e.store) x

section
variable {α β : Type} (services : Services) {x : EngineM α} {f : Store → CoreResult (Store × α)}

@[grind ←] theorem does_pure (a : α) : Does (pure a) := fun _ => keeps_pure a

@[grind ←] theorem does_bind {f : α → EngineM β} (first : Does x)
    (next : ∀ a, Does (f a)) : Does (x >>= f) :=
  fun s => keeps_bind (first s) fun a => next a s

@[grind ←] theorem does_lift (result : CoreResult α) : Does (lift result) :=
  fun _ => keeps_lift result

@[grind ←] theorem does_read (f : CoreEngine → α) : Does (read f) := fun _ => keeps_read f

theorem onStore_meets {P : CoreEngine → Prop}
    {Q : α → CoreEngine → Prop} {E : CoreError → CoreEngine → Prop}
    (post : ∀ e s' a, P e → f e.store = .ok (s', a) → Q a { e with store := s' })
    (fails : ∀ e failure, P e → f e.store = .error failure → E failure e) :
    Meets P (CoreEngine.onStore f) Q E := by
  refine meets_transact (fun e e' a accepted holds => ?_) fun e failure failed holds => ?_
  · cases called : f e.store with
    | error failure => simp [called] at accepted
    | ok result =>
      simp only [called, Except.ok.injEq, Prod.mk.injEq] at accepted
      rw [← accepted.1, ← accepted.2]
      exact post e result.1 result.2 holds called
  · cases called : f e.store with
    | error failure' =>
      simp only [called, Except.error.injEq] at failed
      exact fails e failure holds (failed ▸ called)
    | ok result => simp [called] at failed

theorem does_onStore (respond : α → Response)
    (applies : ∀ s, s.apply op = f s >>= fun result => .ok (result.1, respond result.2))
    (continues : Continues op) : Does (CoreEngine.onStore f) := by
  intro s
  refine onStore_meets (fun e s' a calls called => ?_) fun _ _ calls _ => calls
  have applied := applies e.store
  rw [called, ok_bind] at applied
  have reached : e.store.step op = s' := step_of_ok applied
  exact reached ▸ calls_next calls continues

theorem onStore_step (respond : α → Response)
    (applies : ∀ s, s.apply op = f s >>= fun result => .ok (result.1, respond result.2))
    (e : CoreEngine) : (CoreEngine.onStore f e).2.store = e.store.step op := by
  have applied := applies e.store
  cases called : f e.store with
  | ok result =>
    rw [called, ok_bind] at applied
    rw [step_of_ok applied]
    simp [CoreEngine.onStore, transact, called]
  | error failure =>
    rw [called, error_bind] at applied
    rw [step_of_error applied]
    simp [CoreEngine.onStore, transact, called]

def Spares (x : EngineM α) : Prop :=
  ∀ Q : Store → Prop, Keeps (fun e : CoreEngine => Q e.store) x

theorem Spares.does (spares : Spares x) : Does x :=
  fun s => spares (Calls Continues s)

theorem Spares.meets (spares : Spares x) {E : CoreError → CoreEngine → Prop}
    (fails : ∀ failure e, e.store = s → E failure e) :
    Meets (fun e : CoreEngine => e.store = s) x (fun _ e => e.store = s) E :=
  meets_weaken (spares (· = s)) (fun _ => id) (fun _ _ => id) fails

theorem spares_bind {f : α → EngineM β} (first : Spares x)
    (next : ∀ a, Spares (f a)) : Spares (x >>= f) :=
  fun Q => keeps_bind (first Q) fun a => next a Q

theorem spares_edit {f : CoreEngine → CoreEngine} (same : ∀ e, (f e).store = e.store) :
    Spares (edit f) := by
  intro Q
  refine keeps_edit fun e holds => ?_
  rw [same]
  exact holds

theorem spares_now : Spares (CoreEngine.now services) :=
  spares_bind (fun _ => keeps_read _) fun _ =>
    spares_bind (spares_edit fun _ => rfl) fun _ _ => keeps_pure _

theorem spares_publish (event) : Spares (CoreEngine.publish services event) :=
  spares_bind (fun _ => keeps_read _) fun _ =>
    spares_bind (spares_edit fun _ => rfl) fun _ _ => keeps_lift _

theorem spares_storeCall : Spares (CoreEngine.storeCall services) :=
  spares_bind (fun _ => keeps_read _) fun _ =>
    spares_bind (spares_edit fun _ => rfl) fun _ _ => keeps_lift _

@[grind ←] theorem does_loadStore (f : Store → α) : Does (CoreEngine.loadStore services f) :=
  does_bind (spares_storeCall services).does fun _ => does_read _

theorem callStore_meets {P P' : CoreEngine → Prop} {Q : α → CoreEngine → Prop}
    {E : CoreError → CoreEngine → Prop}
    (called : Meets P (CoreEngine.storeCall services) (fun _ => P') E)
    (post : ∀ e s' a, P' e → f e.store = .ok (s', a) → Q a { e with store := s' })
    (fails : ∀ e failure, P' e → f e.store = .error failure → E failure e) :
    Meets P (CoreEngine.callStore services f) Q E :=
  meets_bind called fun _ => onStore_meets post fails

@[grind ←] theorem does_now : Does (CoreEngine.now services) := (spares_now services).does

@[grind ←] theorem does_publish (event) : Does (CoreEngine.publish services event) :=
  (spares_publish services event).does

theorem does_markDelivered (record : LogicalTurnOutboxRecord) (deliveredAt : IsoTimestamp) :
    Does (edit fun e : CoreEngine =>
      { e with
        store := e.store.markLogicalTurnOutboxDelivered record.projectionId deliveredAt }) := by
  intro s
  refine keeps_edit fun e calls => ?_
  show Calls Continues s (e.store.step (.markOutboxDelivered record.projectionId deliveredAt))
  exact calls_next calls trivial

@[grind ←] theorem does_flush : Does (flushLogicalTurnOutbox services) :=
  does_bind (does_loadStore services _) fun _ => fun s => keeps_forEach fun record =>
    (does_bind (does_publish services _) fun _ => does_bind (does_publish services _) fun _ =>
      does_bind (does_now services) fun deliveredAt =>
      does_bind (spares_storeCall services).does fun _ => does_markDelivered record deliveredAt) s

/-! ## The engine's calls on turns that exist -/

theorem does_call (op : Op) (respond : α → Response)
    (applies : ∀ s, s.apply op = f s >>= fun result => .ok (result.1, respond result.2))
    (continues : Continues op) {next : α → EngineM β} (after : ∀ a, Does (next a)) :
    Does (CoreEngine.callStore services f >>= fun a =>
      flushLogicalTurnOutbox services >>= fun _ => next a) := by
  have called : Does (CoreEngine.callStore services f) :=
    does_bind (spares_storeCall services).does fun _ => does_onStore respond applies continues
  exact does_bind called fun a => does_bind (does_flush services) fun _ => after a

@[grind ←] theorem does_claimLogicalTurn (request) : Does (claimLogicalTurn services request) :=
  does_call services (.claim request) .claimed (fun _ => rfl) trivial fun _ => does_pure _

@[grind ←] theorem does_yieldLogicalTurn {request : LogicalTurnYieldRequest}
    (projected : Projected request.lifecycleEvent) :
    Does (yieldLogicalTurn services request) :=
  does_call services (.yield request) .yielded (fun _ => rfl) projected fun _ => by grind

@[grind ←] theorem does_requireLogicalTurnAttention {request : LogicalTurnAttentionRequest}
    (projected : Projected request.lifecycleEvent) :
    Does (requireLogicalTurnAttention services request) :=
  does_call services (.requireAttention request) .attentionRequired (fun _ => rfl) projected
    fun _ => does_pure _

@[grind ←] theorem does_resolveLogicalTurnAttention
    {request : LogicalTurnAttentionResolutionRequest}
    (projected : Projected request.lifecycleEvent) :
    Does (resolveLogicalTurnAttention services request) :=
  does_call services (.resolveAttention request) .attentionResolved (fun _ => rfl) projected
    fun _ => by grind

@[grind ←] theorem does_completeLogicalTurn {request : LogicalTurnCompletionRequest}
    (projected : Projected request.lifecycleEvent) :
    Does (completeLogicalTurn services request) :=
  does_call services (.complete request) .completed (fun _ => rfl) projected fun _ => does_pure _

theorem does_cancelLogicalTurn (request) : Does (cancelLogicalTurn services request) :=
  does_call services (.cancel request) .cancelled (fun _ => rfl) trivial fun _ => does_pure _

theorem does_hydrateLogicalTurnContinuations :
    Does (hydrateLogicalTurnContinuations services) := by
  refine does_bind (does_now services) fun hydratedAt => ?_
  have requeued : Does (requeueLogicalTurnContinuations services) :=
    does_bind (does_loadStore services _) fun _ => does_bind
      (fun s => keeps_forEach fun _ => does_publish services _ s) fun _ => does_pure _
  exact does_call services (.hydrate hydratedAt) .hydrated (fun _ => rfl) trivial fun _ =>
    does_bind requeued fun _ => does_pure _

theorem does_settle (claim result snapshot) :
    Does (settleLogicalTurnEpochWithProgress services claim result snapshot) := by
  refine does_bind (does_now services) fun settledAt => does_bind (does_lift _) fun epochId => ?_
  have projected : ∀ input, Projected (lifecycleEvent claim.record input) :=
    projected_lifecycleEvent claim.record
  cases result with
  | completed | failed =>
    exact does_bind (does_completeLogicalTurn services (projected _)) fun _ => does_pure _
  | yielded moduleState =>
    exact does_bind (does_lift _) fun _ =>
      does_bind (does_yieldLogicalTurn services (projected _)) fun _ => does_pure _
  | attentionRequired moduleState attention =>
    exact does_bind (does_lift _) fun _ =>
      does_bind (does_requireLogicalTurnAttention services (projected _)) fun _ => does_pure _

theorem does_resolveForOperator (logicalTurnId) (expectedRevision : Nat) (action) :
    Does (resolveLogicalTurnAttentionForOperator services logicalTurnId
      expectedRevision action) := by
  unfold resolveLogicalTurnAttentionForOperator
  repeat refine does_bind (by grind) fun _ => ?_
  exact does_resolveLogicalTurnAttention services (projected_lifecycleEvent _ _)

/-! ## A wake -/

theorem spares_loadQueuedMessages (filter) : Spares (loadQueuedMessages services filter) :=
  spares_bind (spares_storeCall services) fun _ _ => keeps_read _

theorem spares_saveQueuedMessage (record) : Spares (saveQueuedMessage services record) :=
  spares_bind (spares_storeCall services) fun _ => spares_edit fun _ => rfl

theorem spares_prepareBodyStateForWake (sessionId) :
    Spares (prepareBodyStateForWake services sessionId) := by
  have checked : ∀ session checkedAt queued, Spares
      (checkPendingDirectMessage services sessionId session checkedAt queued) := by
    intro session checkedAt queued
    refine spares_bind (fun _ => keeps_lift _) fun verdict => ?_
    cases verdict with
    | cancel reasonCode =>
      refine spares_bind (spares_loadQueuedMessages services _) fun pending => ?_
      split
      · exact spares_saveQueuedMessage services _
      · exact fun _ => keeps_pure _
    | skip | rearm => exact fun _ => keeps_pure _
  have validated : Spares (validatePendingDirectAgentMessagesForWake services sessionId) :=
    spares_bind (spares_now services) fun _ => spares_bind (fun _ => keeps_lift _) fun _ =>
      spares_bind (spares_loadQueuedMessages services _) fun _ Q =>
      keeps_forEach fun queued => checked _ _ queued Q
  have drained : ∀ capacity, Spares
      (drainBodyFollowUpMessagesForWake services sessionId capacity) := by
    intro capacity
    refine spares_bind (spares_now services) fun _ => ?_
    refine spares_bind (spares_storeCall services) fun _ => ?_
    refine spares_bind (spares_edit fun _ => rfl) fun _ => ?_
    refine spares_bind (spares_loadQueuedMessages services _) fun _ Q => ?_
    exact meets_gather fun _ _ =>
      meets_bind (spares_saveQueuedMessage services _ Q) fun _ => keeps_pure _
  exact spares_bind validated fun _ => spares_bind (fun _ => keeps_lift _) fun _ =>
    spares_bind (drained _) fun _ _ => keeps_pure _

theorem does_resumeTicket (wake ticket) : Does (resumeTicket services wake ticket) := by
  unfold resumeTicket
  repeat refine does_bind (by grind [requiredLogicalTurnContent]) fun _ => ?_
  exact does_pure _

/-- A turn was admitted for the wake first, and existing turns went on from there. -/
def Admits (wake : Wake) (s s' : Store) : Prop :=
  ∃ binding bodyStateJson admittedAt,
    Calls Continues (s.step (.admitTurn (admissionWrite wake binding bodyStateJson admittedAt))) s'

/-- What preparing a wake does to the store: a turn is admitted only for a session that has no
ticket. -/
def WakeCalls (wake : Wake) (s s' : Store) : Prop :=
  Calls Continues s s' ∨ sessionTickets s wake.sessionId = [] ∧ Admits wake s s'

theorem Does.admits (does : Does x) : Keeps (fun e : CoreEngine => Admits wake s e.store) x := by
  rintro e ⟨binding, bodyStateJson, admittedAt, calls⟩
  have ran := does _ e calls
  revert ran
  cases x e with
  | mk result e' => cases result <;> exact fun ran => ⟨binding, bodyStateJson, admittedAt, ran⟩

theorem Does.wakeCalls (does : Does x) (ticketless : sessionTickets s wake.sessionId = []) :
    Meets (fun e : CoreEngine => Admits wake s e.store) x
      (fun _ e => Admits wake s e.store) (fun _ e => WakeCalls wake s e.store) :=
  meets_weaken does.admits (fun _ => id) (fun _ _ => id)
    fun _ _ admitted => .inr ⟨ticketless, admitted⟩

theorem wakeCalls_of_same (_ : CoreError) (e : CoreEngine) (same : e.store = s) :
    WakeCalls wake s e.store := by
  rw [same]
  exact .inl (calls_refl s)

theorem logicalTurnAdmission_meets (wake) (bodyStateJson : List UInt8) (s : Store) :
    Meets (fun e : CoreEngine => e.store = s) (logicalTurnAdmission services wake bodyStateJson)
      (fun write e => e.store = s ∧
        ∃ binding admittedAt, write = admissionWrite wake binding bodyStateJson admittedAt)
      (fun _ e => WakeCalls wake s e.store) := by
  refine meets_bind ((spares_now services).meets wakeCalls_of_same) fun admittedAt => ?_
  refine meets_bind (meets_lift (fun _ _ _ => id)
    fun failure e _ same => wakeCalls_of_same failure e same) fun binding => ?_
  exact meets_pure fun _ same => ⟨same, binding, admittedAt, rfl⟩

theorem admitLogicalTurn_meets {wake : Wake} (ticketless : sessionTickets s wake.sessionId = [])
    (binding) (bodyStateJson : List UInt8) (admittedAt) : Meets (fun e : CoreEngine => e.store = s)
      (admitLogicalTurn services (admissionWrite wake binding bodyStateJson admittedAt))
      (fun _ e => Admits wake s e.store) (fun _ e => WakeCalls wake s e.store) := by
  refine meets_bind (meets_lift (fun _ _ _ => id)
    fun failure e _ same => wakeCalls_of_same failure e same) fun _ => ?_
  refine meets_bind (Q := fun _ e => Admits wake s e.store)
    (callStore_meets services ((spares_storeCall services).meets wakeCalls_of_same) ?_ ?_)
    fun admission => ?_
  · intro e s' admission same called
    have applied : e.store.apply
        (.admitTurn (admissionWrite wake binding bodyStateJson admittedAt)) =
        .ok (s', .admitted admission) := by
      simp only [Store.apply, called, ok_bind]
    refine ⟨binding, bodyStateJson, admittedAt, ?_⟩
    rw [← same, step_of_ok applied]
    exact calls_refl _
  · exact fun e failure same _ => wakeCalls_of_same failure e same
  · exact meets_bind ((does_flush services).wakeCalls ticketless) fun _ => meets_pure fun _ => id

theorem admitAndClaim_wakeCalls (ticketless : sessionTickets s wake.sessionId = []) :
    Meets (fun e : CoreEngine => e.store = s) (admitAndClaim services wake)
      (fun _ e => WakeCalls wake s e.store) (fun _ e => WakeCalls wake s e.store) := by
  refine meets_bind
    ((spares_prepareBodyStateForWake services _).meets wakeCalls_of_same) fun body => ?_
  refine meets_bind (meets_lift (fun _ _ _ => id)
    fun failure e _ same => wakeCalls_of_same failure e same) fun bodyStateJson => ?_
  refine meets_bind (logicalTurnAdmission_meets services wake bodyStateJson s) fun write => ?_
  rintro e ⟨same, binding, admittedAt, rfl⟩
  refine meets_bind (admitLogicalTurn_meets services ticketless _ _ _) (fun admitted => ?_) e same
  refine meets_bind ((spares_now services).does.wakeCalls ticketless) fun claimedAt => ?_
  refine meets_bind ((does_claimLogicalTurn services _).wakeCalls ticketless) fun claim => ?_
  exact meets_pure fun _ admitted => .inr ⟨ticketless, admitted⟩

theorem runnableTicket_ok (found : runnableTicket s sessionId = .ok ticket) :
    sessionTickets s sessionId = ticket.toList := by
  simp only [runnableTicket, bind_eq_ok, rejectIf_eq_ok, Except.ok.injEq] at found
  obtain ⟨-, single, rfl⟩ := found
  cases tickets : sessionTickets s sessionId with
  | nil => rfl
  | cons first rest =>
    rw [tickets, List.length_cons] at single
    have none : rest = [] := List.eq_nil_of_length_eq_zero (by omega)
    rw [none]
    rfl

theorem prepare_wakeCalls (wake) (e : CoreEngine) :
    WakeCalls wake e.store (prepareLogicalTurnWake services wake e).2.store := by
  have keeps : Meets (fun e' : CoreEngine => e'.store = e.store)
      (prepareLogicalTurnWake services wake)
      (fun _ e' => WakeCalls wake e.store e'.store)
      (fun _ e' => WakeCalls wake e.store e'.store) := by
    refine meets_bind (Q := fun store e' => store = e.store ∧ e'.store = e.store)
      (meets_then ((spares_storeCall services).meets wakeCalls_of_same) fun _ =>
        meets_read fun _ same => ⟨same, same⟩) fun store => ?_
    rintro e₁ ⟨rfl, same⟩
    refine meets_bind (Q := fun ticket e' => sessionTickets e.store wake.sessionId = ticket.toList ∧
        e'.store = e.store)
      (meets_lift (fun _ _ found same => ⟨runnableTicket_ok found, same⟩)
        fun failure e' _ same => wakeCalls_of_same failure e' same) (fun ticket => ?_) e₁ same
    refine meets_bind
      (Q := fun (_ : ClaimedInput) (e' : CoreEngine) => WakeCalls wake e.store e'.store)
      ?_ fun input => ?_
    swap
    · exact meets_bind (keeps_lift _) fun _ => meets_pure fun _ => id
    rintro e₂ ⟨tickets, same⟩
    cases ticket with
    | some ticket =>
      have resumed : Meets (fun e' : CoreEngine => e'.store = e.store)
          (resumeTicket services wake ticket)
          (fun _ e' => WakeCalls wake e.store e'.store)
          (fun _ e' => WakeCalls wake e.store e'.store) :=
        meets_weaken (does_resumeTicket services wake ticket e.store)
          (fun e' same => same ▸ calls_refl _) (fun _ _ calls => .inl calls)
          fun _ _ calls => .inl calls
      exact resumed e₂ same
    | none => exact admitAndClaim_wakeCalls services tickets e₂ same
  have ran := keeps e rfl
  revert ran
  cases prepareLogicalTurnWake services wake e with
  | mk result e' => cases result <;> exact fun ran => ran

end

/-! ## Every call, every run -/

def Operates : Op → Prop
  | .leaseOperation _ | .completeOperation _ => True
  | _ => False

/-- The store calls of an engine: new turns as it admits them, and calls on existing turns. -/
def EngineOp (op : Op) : Prop :=
  Continues op ∨ Operates op ∨ ∃ wake binding bodyStateJson admittedAt,
    op = .admitTurn (admissionWrite wake binding bodyStateJson admittedAt)

theorem step_calls (e : CoreEngine) (call) : Calls Continues e.store (e.step call).store ∨
      (∃ op, Operates op ∧ (e.step call).store = e.store.step op) ∨
      ∃ services wake, call = .prepare services wake ∧ sessionTickets e.store wake.sessionId = [] ∧
        Admits wake e.store (e.step call).store := by
  cases call with
  | prepare services wake =>
    rcases prepare_wakeCalls services wake e with calls | ⟨ticketless, admitted⟩
    · exact .inl calls
    · exact .inr (.inr ⟨services, wake, rfl, ticketless, admitted⟩)
  | settle services claim result snapshot =>
    exact .inl ((does_settle services claim result snapshot e.store).state (calls_refl _))
  | cancel services request =>
    exact .inl ((does_cancelLogicalTurn services request e.store).state (calls_refl _))
  | resolve services logicalTurnId expectedRevision action =>
    exact .inl ((does_resolveForOperator services logicalTurnId expectedRevision action
      e.store).state (calls_refl _))
  | startup services =>
    exact .inl ((does_hydrateLogicalTurnContinuations services e.store).state (calls_refl _))
  | leaseOperation request =>
    exact .inr (.inl ⟨.leaseOperation request, trivial,
      onStore_step .operationLeased (fun _ => rfl) e⟩)
  | completeOperation request =>
    exact .inr (.inl ⟨.completeOperation request, trivial,
      onStore_step .operationCompleted (fun _ => rfl) e⟩)
  | queueMessage record => exact .inl (calls_refl _)

theorem step_engineOps (e : CoreEngine) (call) : Calls EngineOp e.store (e.step call).store := by
  rcases step_calls e call with
    calls | ⟨op, operates, called⟩ |
    ⟨services, wake, -, -, binding, bodyStateJson, admittedAt, calls⟩
  · exact calls_weaken (fun _ continues => .inl continues) calls
  · rw [called]
    exact calls_one (.inr (.inl operates))
  · exact calls_trans (calls_one (.inr (.inr ⟨wake, binding, bodyStateJson, admittedAt, rfl⟩)))
      (calls_weaken (fun _ continues => .inl continues) calls)

theorem run_engineOps (calls) :
    Calls EngineOp Store.empty (run CoreEngine.step CoreEngine.fresh calls).store :=
  @run_invariant_all _ _ _ (fun e : CoreEngine => Calls EngineOp Store.empty e.store) _ calls
    (fun e call reached => calls_trans reached (step_engineOps e call)) (calls_refl _)

theorem Continues.not_admission (continues : Continues op) : ∀ write, op ≠ .admitTurn write := by
  rintro write rfl
  exact continues

theorem Operates.not_admission (operates : Operates op) : ∀ write, op ≠ .admitTurn write := by
  rintro write rfl
  exact operates

theorem fresh_of_not_admission (other : ∀ write, op ≠ .admitTurn write) : op.FreshAdmission := by
  cases op with
  | admitTurn write => exact (other write rfl).elim
  | _ => trivial

theorem engineOp_fresh (allowed : EngineOp op) : op.FreshAdmission := by
  rcases allowed with continues | operates | ⟨wake, binding, bodyStateJson, admittedAt, rfl⟩
  · exact fresh_of_not_admission continues.not_admission
  · exact fresh_of_not_admission operates.not_admission
  · exact ⟨rfl, rfl, rfl, rfl, rfl⟩

end RustyCrew.Proof.Engine

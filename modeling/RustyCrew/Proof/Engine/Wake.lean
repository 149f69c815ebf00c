import RustyCrew.Proof.Engine.Projections
import RustyCrew.Proof.Engine.Queue

namespace RustyCrew.Proof.Engine

open Library Protocol RustyCrew.Persistence RustyCrew.Lifecycle Effect Table Store
open RustyCrew.Engine RustyCrew.Proof.Persistence RustyCrew.Proof.Lifecycle

variable {queue : Queue} {sessionId : SessionId}

/-! ## Steps that cannot fail -/

def Never : CoreError → CoreEngine → Prop := fun _ _ => False

theorem meets_of_never {α : Type} {P : CoreEngine → Prop} {Q : α → CoreEngine → Prop}
    {E : CoreError → CoreEngine → Prop} {x : EngineM α} (meets : Meets P x Q Never) :
    Meets P x Q E :=
  meets_weaken meets (fun _ => id) (fun _ _ => id) fun _ _ impossible => impossible.elim

def Publishes (services : Services) : Prop :=
  ∀ moment event, services.publish moment event = .ok ()

/-- No store call fails from this use of the services on. -/
def Steady (services : Services) (n : Nat) : Prop :=
  ∀ moment, n ≤ moment → services.storeCall moment = .ok ()

theorem Steady.mono (steady : Steady services n) (later : n ≤ m) : Steady services m :=
  fun moment after => steady moment (later.trans after)

/-- Something may have been written, and no store call fails any more. -/
def Late (services : Services) (P : Store → Prop) (e : CoreEngine) : Prop :=
  Steady services e.moment ∧ P e.store

theorem Late.tick (late : Late services P e) : Late services P e.tick :=
  ⟨late.1.mono (Nat.le_succ _), late.2⟩

section

theorem storeCall_eq (services e) :
    CoreEngine.storeCall services e = (services.storeCall e.moment, e.tick) := rfl

theorem storeCall_late {P : Store → Prop} :
    Meets (Late services P) (CoreEngine.storeCall services) (fun _ => Late services P) Never := by
  intro e late
  rw [storeCall_eq, late.1 e.moment le_rfl]
  exact late.tick

theorem lift_meets {α : Type} {result : CoreResult α} {a : α} (known : result = .ok a) :
    Meets P (Effect.lift result) (fun b e => b = a ∧ P e) Never := by
  rw [known]
  exact fun e holds => ⟨rfl, holds⟩

theorem now_meets {E : CoreError → CoreEngine → Prop} (ticked : ∀ e, P e → P e.tick) :
    Meets P (CoreEngine.now services)
      (fun time e => (∃ moment, time = services.clock moment) ∧ P e) E := by
  intro e holds
  exact ⟨⟨e.moment, rfl⟩, ticked e holds⟩

theorem publish_meets (publishes : Publishes services) (ticked : ∀ e, P e → P e.tick) (event) :
    Meets P (CoreEngine.publish services event) (fun _ => P) Never := by
  refine meets_then (meets_read fun _ => id) fun _ => ?_
  refine meets_then (meets_edit ticked) fun _ => ?_
  refine meets_lift (fun _ _ _ => id) fun failure e failed _ => ?_
  rw [publishes] at failed
  cases failed

theorem flush_meets {P : Store → Prop} (publishes : Publishes services)
    (delivered : ∀ s projectionId deliveredAt, P s →
      P (s.markLogicalTurnOutboxDelivered projectionId deliveredAt)) :
    Meets (Late services P) (CoreEngine.flushLogicalTurnOutbox services)
      (fun _ => Late services P) Never := by
  have ticked : ∀ e, Late services P e → Late services P e.tick := fun _ => Late.tick
  refine meets_then (meets_then storeCall_late fun _ => meets_read fun _ => id) fun pending => ?_
  refine meets_forEach fun record _ => ?_
  refine meets_bind (publish_meets publishes ticked _) fun _ => ?_
  refine meets_bind (publish_meets publishes ticked _) fun _ => ?_
  refine meets_bind (now_meets ticked) fun deliveredAt => ?_
  refine meets_bind (meets_weaken storeCall_late (fun _ late => late.2) (fun _ _ => id)
    fun _ _ => id) fun _ => ?_
  exact meets_edit fun e late => ⟨late.1, delivered e.store _ _ late.2⟩

theorem meets_flushed {P : α → Store → Prop} {E : CoreError → CoreEngine → Prop}
    (publishes : Publishes services) (called : Meets R x (fun a => Late services (P a)) E)
    (delivered : ∀ a s projectionId deliveredAt, P a s →
      P a (s.markLogicalTurnOutboxDelivered projectionId deliveredAt)) :
    Meets R (x >>= fun a => CoreEngine.flushLogicalTurnOutbox services >>= fun _ => pure a)
      (fun a => Late services (P a)) E :=
  meets_bind called fun a => meets_bind
    (meets_of_never (flush_meets publishes (delivered a))) fun _ => meets_pure fun _ => id

end

theorem markDelivered_outbox (s : Store) (projectionId deliveredAt) :
    ∃ outbox, s.markLogicalTurnOutboxDelivered projectionId deliveredAt =
        { s with outbox := outbox } ∧
      ∀ id, s.outbox.find? id = none → outbox.find? id = none := by
  unfold markLogicalTurnOutboxDelivered
  split
  · next event found =>
    refine ⟨_, rfl, fun id absent => ?_⟩
    have key : (⟨event, none⟩ : LogicalTurnOutboxRecord).projectionId = projectionId :=
      key_of_find? found
    rw [find?_put]
    split
    · next same =>
      have here : projectionId = id := key.symm.trans same
      rw [here, absent] at found
      cases found
    · exact absent
  · exact ⟨s.outbox, rfl, fun _ => id⟩

/-! ## When a failed wake leaves everything as it was -/

def Unchanged (e e' : CoreEngine) : Prop := e'.store = e.store ∧ e'.queue = e.queue

/-- Nothing has been written yet, after at least so many uses of the services. -/
def Early (e : CoreEngine) (n : Nat) (e' : CoreEngine) : Prop :=
  Unchanged e e' ∧ e.moment + n ≤ e'.moment

structure Resumable (services : Services) (s : Store) (wake : Wake)
    (checkpoint : LogicalTurnCheckpoint) : Prop where
  bodyState : ∃ bytes refreshed,
    s.loadLogicalTurnContent checkpoint.frozenInput.bodyStateRef = some bytes ∧
      CoreEngine.refreshLogicalTurnDelegationProjection services wake.sessionId bytes =
        .ok refreshed
  systemPrompt : ∃ bytes text,
    s.loadLogicalTurnContent checkpoint.frozenInput.systemPromptRef = some bytes ∧
      CoreEngine.decodeSystemPrompt services bytes = .ok text
  roleAssembly : ∃ bytes,
    s.loadLogicalTurnContent checkpoint.frozenInput.roleAssemblyRef = some bytes
  moduleId : checkpoint.moduleState.moduleId = brainModuleId wake.registration

/-- The queue holds no message that a wake of the session would take out or let expire. -/
def QueueIdle (services : Services) (queue : Queue) (sessionId : SessionId) : Prop :=
  ∀ row ∈ queue.rows, row.state = .pending →
    row.ownerSessionId ≠ some sessionId ∧ ∀ moment, ¬row.expiresAt ≤ services.clock moment

/-- Everything the admission of a new turn depends on is in order. -/
structure Admissible (services : Services) (e : CoreEngine) (wake : Wake) : Prop where
  session : ∃ session, services.getSession wake.sessionId = .ok session ∧
    session.status ≠ .archived ∧ session.profileId = wake.registration.profileId ∧
    ∀ row ∈ e.queue.rows, row.state = .pending → row.ownerSessionId = some wake.sessionId →
      ∃ answer, services.queuedDirectDeliveryRearmable session row = .ok answer
  bodyState : ∃ state, services.projectBodyState wake.sessionId = .ok state
  encodes : ∀ state, ∃ bytes, services.encodeBodyState state = .ok bytes
  binding : ∃ binding, logicalTurnBinding services wake.registration
    (sha256Text wake.systemPrompt) (sha256Hex wake.roleAssemblyJson) = .ok binding
  turn : e.store.loadTurn (admittedTurnId wake) = none
  continuation : e.store.loadCheckpoint (admittedContinuationId wake) = none
  content : ∀ state bytes moment, services.encodeBodyState state = .ok bytes →
    ∃ s, (frozenContent wake bytes (services.clock moment)).foldlM insertContentBlob e.store = .ok s

/-- A wake that cannot fail once it has changed something. The claim of a ticket is the fourth use
of the services, the admission with an idle queue the eighth; with messages in the queue the third
loads them. A store call may fail up to there. -/
def Recoverable (services : Services) (e : CoreEngine) (wake : Wake) : Prop :=
  match CoreEngine.sessionTickets e.store wake.sessionId with
  | [] => Publishes services ∧
      (QueueIdle services e.queue wake.sessionId ∧ Steady services (e.moment + 8) ∨
        Admissible services e wake ∧ Steady services (e.moment + 3))
  | [ticket] => Publishes services ∧ Steady services (e.moment + 4) ∧
      ∀ checkpoint, e.store.loadCheckpoint ticket.continuationId = some checkpoint →
        Resumable services e.store wake checkpoint
  | _ => True

section
variable {services : Services} {wake : Wake} {e₀ : CoreEngine} {s : Store}

theorem Early.tick (early : Early e₀ n e) : Early e₀ (n + 1) e.tick :=
  ⟨early.1, Nat.succ_le_succ early.2⟩

theorem Early.steady (early : Early e₀ n e) (steady : Steady services (e₀.moment + n)) :
    Steady services e.moment :=
  steady.mono early.2

theorem now_early {E : CoreError → CoreEngine → Prop} :
    Meets (Early e₀ n) (CoreEngine.now services)
      (fun time e => (∃ moment, time = services.clock moment) ∧ Early e₀ (n + 1) e) E :=
  fun e early => ⟨⟨e.moment, rfl⟩, early.tick⟩

theorem storeCall_early : Meets (Early e₀ n) (CoreEngine.storeCall services)
    (fun _ => Early e₀ (n + 1)) (fun _ => Unchanged e₀) := by
  intro e early
  rw [storeCall_eq]
  cases services.storeCall e.moment with
  | ok => exact early.tick
  | error failure => exact early.1

theorem loadStore_early (f : Store → α) : Meets (Early e₀ n) (CoreEngine.loadStore services f)
    (fun a e => a = f e₀.store ∧ Early e₀ (n + 1) e) (fun _ => Unchanged e₀) := by
  refine meets_bind storeCall_early fun _ => meets_read fun e early => ?_
  rw [early.1.1]
  exact ⟨rfl, early⟩

theorem loadQueued_early (filter) :
    Meets (Early e₀ n) (CoreEngine.loadQueuedMessages services filter)
      (fun rows e => rows = e₀.queue.loadQueuedMessages filter ∧ Early e₀ (n + 1) e)
      (fun _ => Unchanged e₀) := by
  refine meets_bind storeCall_early fun _ => meets_read fun e early => ?_
  rw [early.1.2]
  exact ⟨rfl, early⟩

theorem requiredContent_meets {P : Store → Prop}
    (stored : ∀ s, P s → s.loadLogicalTurnContent contentRef = some bytes) :
    Meets (Late services P) (CoreEngine.requiredLogicalTurnContent services contentRef)
      (fun content e => content = bytes ∧ Late services P e) Never := by
  refine meets_bind (Q := fun content e => content = some bytes ∧ Late services P e)
    (meets_then storeCall_late fun _ => meets_read fun e late => ⟨stored _ late.2, late⟩)
    fun content => ?_
  refine meets_lift (fun content' e found holds => ?_) fun failure e failed holds => ?_
  · rw [holds.1, orFail_eq_ok, Option.some.injEq] at found
    exact ⟨found.symm, holds.2⟩
  · rw [holds.1] at failed
    cases failed

theorem claim_blobs (accepted : s.claimLogicalTurn request = .ok (s', claim)) :
    s.loadCheckpoint request.continuationId = some claim.checkpoint ∧ s'.blobs = s.blobs := by
  obtain ⟨record, checkpoint, -, loaded, outcome⟩ := claimLogicalTurn_ok accepted
  rcases outcome with ⟨-, -, -, rfl, rfl⟩ | ⟨-, -, -, -, rfl, recorded⟩
  · exact ⟨loaded, rfl⟩
  · refine ⟨loaded, ?_⟩
    rcases insertOutbox_ok recorded with ⟨-, rfl⟩ | ⟨-, rfl⟩ <;> rfl

theorem claimLogicalTurn_meets (publishes : Publishes services)
    (steady : Steady services (e₀.moment + 4)) (request) :
    Meets (Early e₀ 3) (CoreEngine.claimLogicalTurn services request)
      (fun claim => Late services fun s =>
        e₀.store.loadCheckpoint request.continuationId = some claim.checkpoint ∧
          s.blobs = e₀.store.blobs) (fun _ => Unchanged e₀) := by
  refine meets_flushed publishes (callStore_meets services storeCall_early ?_ ?_) ?_
  · intro e s' claim early called
    rw [early.1.1] at called
    exact ⟨early.steady steady, claim_blobs called⟩
  · exact fun e failure early _ => early.1
  · intro claim s projectionId deliveredAt kept
    obtain ⟨outbox, marked, -⟩ := markDelivered_outbox s projectionId deliveredAt
    rw [marked]
    exact kept

theorem resumeTicket_meets (publishes : Publishes services)
    (steady : Steady services (e₀.moment + 4)) {ticket : LogicalTurnContinuationTicket}
    (resumable : ∀ checkpoint, e₀.store.loadCheckpoint ticket.continuationId = some checkpoint →
      Resumable services e₀.store wake checkpoint) :
    Meets (Early e₀ 1) (CoreEngine.resumeTicket services wake ticket)
      (fun input _ => CoreEngine.checkModule wake input.claim = .ok ())
      (fun _ => Unchanged e₀) := by
  refine meets_bind (loadStore_early _) fun stored => ?_
  refine meets_bind (Q := fun _ => Early e₀ 2)
    (meets_lift (fun _ _ _ loaded => loaded.2) fun _ _ _ loaded => loaded.2.1) fun record => ?_
  refine meets_bind now_early fun claimedAt => ?_
  refine meets_bind (meets_weaken (claimLogicalTurn_meets publishes steady _)
    (fun _ timed => timed.2) (fun _ _ => id) fun _ _ => id) fun claim => ?_
  -- the turn is claimed, so from here on nothing may fail
  rintro e ⟨calm, loaded, kept⟩
  obtain ⟨⟨body, refreshed, bodyStored, refreshes⟩, ⟨prompt, text, promptStored, decodes⟩,
    ⟨roles, rolesStored⟩, moduleId⟩ := resumable _ loaded
  have stored : ∀ {contentRef bytes}, e₀.store.loadLogicalTurnContent contentRef = some bytes →
      ∀ s : Store, s.blobs = e₀.store.blobs →
        s.loadLogicalTurnContent contentRef = some bytes := by
    intro contentRef bytes found s same
    rw [loadLogicalTurnContent, same]
    exact found
  refine meets_of_never (P := Late services fun s => s.blobs = e₀.store.blobs) ?_ e ⟨calm, kept⟩
  refine meets_bind (requiredContent_meets (stored bodyStored)) fun content => ?_
  refine meets_bind (Q := fun _ => Late services fun s => s.blobs = e₀.store.blobs)
    (meets_lift (fun _ _ _ kept => kept.2) fun failure e' failed kept => ?_) fun _ => ?_
  · rw [kept.1, refreshes] at failed
    cases failed
  refine meets_bind (requiredContent_meets (stored promptStored)) fun content => ?_
  refine meets_bind (Q := fun _ => Late services fun s => s.blobs = e₀.store.blobs)
    (meets_lift (fun _ _ _ kept => kept.2) fun failure e' failed kept => ?_) fun _ => ?_
  · rw [kept.1, decodes] at failed
    cases failed
  refine meets_bind (requiredContent_meets (stored rolesStored)) fun _ => ?_
  refine meets_pure fun _ _ => ?_
  exact (rejectIf_eq_ok _ _ _).mpr (not_not.mpr moduleId)

/-! ## Draining the queue -/

theorem pending_of_loaded {row : QueuedMessageRecord}
    (loaded : row ∈ queue.loadQueuedMessages (pendingFilter sessionId)) :
    row ∈ queue.rows ∧ row.state = .pending ∧ row.ownerSessionId = some sessionId := by
  simpa [QueuedMessageFilter.admits, pendingFilter] using loaded_row loaded

theorem loaded_of_idle (idle : QueueIdle services queue sessionId) :
    queue.loadQueuedMessages (pendingFilter sessionId) = [] := by
  refine List.eq_nil_iff_forall_not_mem.mpr fun row loaded => ?_
  obtain ⟨member, pending, owner⟩ := pending_of_loaded loaded
  exact (idle row member pending).1 owner

theorem expire_of_idle (idle : QueueIdle services queue sessionId) (moment : Nat) :
    queue.expireQueuedMessagesAt (services.clock moment) = queue := by
  have none : expiring queue (services.clock moment) = [] := by
    refine List.eq_nil_iff_forall_not_mem.mpr fun row expires => ?_
    obtain ⟨member, pending, due⟩ := expiring_row expires
    exact (idle row member pending).2 moment due
  rw [expire_eq, none]
  rfl

theorem storeCall_of_steady (steady : Steady services 0) (e) :
    CoreEngine.storeCall services e = (.ok (), e.tick) := by
  rw [storeCall_eq, steady e.moment (Nat.zero_le _)]

theorem drainMessages_eq (steady : Steady services 0) (drainedAt) (ids rows e) :
    ∃ moment, gather (CoreEngine.drainMessage services drainedAt ids) rows e =
      (.ok ((rows.filter fun row => ids.contains row.messageId).map
        (drainedMessage drainedAt true)),
        ⟨e.store, settle e.queue (fun row =>
          drainedMessage drainedAt (ids.contains row.messageId) row) rows, moment⟩) := by
  induction rows generalizing e with
  | nil => exact ⟨e.moment, rfl⟩
  | cons row rest ih =>
    obtain ⟨moment, others⟩ := ih ⟨e.store, e.queue.saveQueuedMessage
      (drainedMessage drainedAt (ids.contains row.messageId) row), e.moment + 1⟩
    have saved : CoreEngine.drainMessage services drainedAt ids row e =
        (.ok (if ids.contains row.messageId then
            some (drainedMessage drainedAt (ids.contains row.messageId) row) else none),
          ⟨e.store, e.queue.saveQueuedMessage
            (drainedMessage drainedAt (ids.contains row.messageId) row), e.moment + 1⟩) := by
      have stored : CoreEngine.saveQueuedMessage services
          (drainedMessage drainedAt (ids.contains row.messageId) row) e = (.ok (), _) :=
        bind_ok (storeCall_of_steady steady e)
      exact bind_ok stored
    refine ⟨moment, gather_returns.mpr ⟨_, _, saved, _, others, ?_⟩⟩
    rw [List.filter_cons]
    cases ids.contains row.messageId <;> rfl

/-- As long as the database answers, the steps of a drain come to the function on the queue. -/
theorem drainBody_eq (steady : Steady services 0) (sessionId) (capacity : Option Nat) (e) :
    ∃ moment, CoreEngine.drainBodyFollowUpMessagesForWake services sessionId capacity e =
      (.ok (drainFollowUpQueueForWake e.queue (services.clock e.moment) sessionId capacity).2,
        ⟨e.store, (drainFollowUpQueueForWake e.queue (services.clock e.moment) sessionId
          capacity).1, moment⟩) := by
  rw [drain_eq]
  obtain ⟨moment, drained⟩ := drainMessages_eq steady (services.clock e.moment)
    (applyHistoryWindow ((draining e.queue (services.clock e.moment) sessionId).map
      QueuedMessageRecord.messageId) capacity)
    (draining e.queue (services.clock e.moment) sessionId)
    ⟨e.store, e.queue.expireQueuedMessagesAt (services.clock e.moment), e.moment + 3⟩
  refine ⟨moment, Eq.trans ?_ drained⟩
  have loads : ∀ e, CoreEngine.loadQueuedMessages services (pendingFilter sessionId) e =
      (.ok (e.queue.loadQueuedMessages (pendingFilter sessionId)), e.tick) :=
    fun e => bind_ok (storeCall_of_steady steady e)
  exact (bind_ok (storeCall_of_steady steady e.tick)).trans (bind_ok (loads _))

/-- Nothing has been written yet, or nothing can fail any more and the store is as it was. -/
def Guarded (services : Services) (wake : Wake) (e : CoreEngine) (n : Nat) (e' : CoreEngine) :
    Prop :=
  Early e n e' ∨ Admissible services e wake ∧ Late services (· = e.store) e'

section
variable (guarded : Guarded services wake e₀ n e)
include guarded

theorem Guarded.unchanged (impossible : ¬Admissible services e₀ wake) : Unchanged e₀ e := by
  rcases guarded with early | ⟨admissible, -⟩
  · exact early.1
  · exact (impossible admissible).elim

theorem Guarded.store : e.store = e₀.store := by
  rcases guarded with early | ⟨-, late⟩
  · exact early.1.1
  · exact late.2

theorem Guarded.steady (steady : Steady services (e₀.moment + n)) : Steady services e.moment := by
  rcases guarded with early | ⟨-, late⟩
  · exact early.steady steady
  · exact late.1

theorem Guarded.tick : Guarded services wake e₀ (n + 1) e.tick :=
  guarded.imp Early.tick fun late => ⟨late.1, late.2.tick⟩

end

theorem storeCall_guarded : Meets (Guarded services wake e₀ n) (CoreEngine.storeCall services)
    (fun _ => Guarded services wake e₀ (n + 1)) (fun _ => Unchanged e₀) := by
  rintro e (early | ⟨admissible, late⟩)
  · exact meets_weaken storeCall_early (fun _ => id) (fun _ _ => .inl) (fun _ _ => id) e early
  · exact meets_weaken (meets_of_never storeCall_late) (fun _ => id)
      (fun _ _ late => .inr ⟨admissible, late⟩) (fun _ _ => id) e late

theorem prepareBody_idle (idle : QueueIdle services e₀.queue wake.sessionId) :
    Meets (Early e₀ 1) (CoreEngine.prepareBodyStateForWake services wake.sessionId)
      (fun _ => Early e₀ 6) (fun _ => Unchanged e₀) := by
  have validated : Meets (Early e₀ 1)
      (CoreEngine.validatePendingDirectAgentMessagesForWake services wake.sessionId)
      (fun _ => Early e₀ 3) (fun _ => Unchanged e₀) := by
    refine meets_bind now_early fun checkedAt => ?_
    refine meets_bind (Q := fun _ => Early e₀ 2)
      (meets_lift (fun _ _ _ timed => timed.2) fun _ _ _ timed => timed.2.1) fun session => ?_
    refine meets_bind (loadQueued_early _) fun pending => ?_
    rintro e ⟨rfl, early⟩
    rw [loaded_of_idle idle]
    exact early
  refine meets_bind validated fun _ => ?_
  refine meets_bind (meets_lift (fun _ _ _ => id) fun _ _ _ early => early.1) fun state => ?_
  refine meets_bind ?_ fun _ => meets_pure fun _ => id
  refine meets_bind now_early fun drainedAt => ?_
  rintro e ⟨⟨moment, rfl⟩, early⟩
  refine meets_bind (storeCall_early (n := 4)) (fun _ => ?_) e early
  refine meets_bind (Q := fun _ => Early e₀ 5) (meets_edit fun e early => ?_) fun _ => ?_
  · refine ⟨⟨early.1.1, ?_⟩, early.2⟩
    show e.queue.expireQueuedMessagesAt _ = _
    rw [early.1.2, expire_of_idle idle]
  · refine meets_bind (loadQueued_early _) fun pending => ?_
    rintro e ⟨rfl, early⟩
    rw [loaded_of_idle idle]
    exact early

theorem queue_late (filter) : Meets (Late services P)
    (CoreEngine.loadQueuedMessages services filter) (fun _ => Late services P) Never :=
  meets_then storeCall_late fun _ => meets_read fun _ => id

theorem save_late (record) : Meets (Late services P)
    (CoreEngine.saveQueuedMessage services record) (fun _ => Late services P) Never :=
  meets_then storeCall_late fun _ => meets_edit fun _ late => late

theorem prepareBody_admissible (admissible : Admissible services e₀ wake)
    (steady : Steady services (e₀.moment + 3)) :
    Meets (Early e₀ 1) (CoreEngine.prepareBodyStateForWake services wake.sessionId)
      (fun _ => Late services (· = e₀.store)) (fun _ => Unchanged e₀) := by
  obtain ⟨session, known, -, -, checks⟩ := admissible.session
  obtain ⟨state, projects⟩ := admissible.bodyState
  have validated : Meets (Early e₀ 1)
      (CoreEngine.validatePendingDirectAgentMessagesForWake services wake.sessionId)
      (fun _ => Late services (· = e₀.store)) (fun _ => Unchanged e₀) := by
    refine meets_bind now_early fun checkedAt => ?_
    refine meets_bind (meets_of_never (lift_meets known)) fun session' => ?_
    rintro e ⟨rfl, -, early⟩
    refine meets_bind (loadQueued_early (n := 2) _) (fun pending => ?_) e early
    rintro e ⟨rfl, early⟩
    refine meets_of_never (meets_forEach fun row loaded => ?_) e ⟨early.steady steady, early.1.1⟩
    obtain ⟨member, isPending, owner⟩ := pending_of_loaded loaded
    obtain ⟨answer, checked⟩ := checks row member isPending owner
    refine meets_bind (Q := fun _ => Late services (· = e₀.store))
      (meets_weaken (lift_meets checked) (fun _ => id) (fun _ _ given => given.2) fun _ _ => id)
      fun given => ?_
    cases given with
    | cancel reasonCode =>
      refine meets_bind (queue_late _) fun pending => ?_
      split
      · exact save_late _
      · exact meets_pure fun _ => id
    | skip | rearm => exact meets_pure fun _ => id
  refine meets_bind validated fun _ => meets_of_never ?_
  refine meets_bind (lift_meets projects) fun _ => ?_
  refine meets_bind ?_ fun _ => meets_pure fun _ => id
  refine meets_bind (now_meets fun _ kept => ⟨kept.1, kept.2.tick⟩) fun drainedAt => ?_
  refine meets_bind (meets_weaken storeCall_late (fun _ kept => kept.2.2) (fun _ _ => id)
    fun _ _ => id) fun _ => ?_
  refine meets_bind (Q := fun _ => Late services (· = e₀.store))
    (meets_edit fun _ late => late) fun _ => ?_
  refine meets_bind (queue_late _) fun pending => meets_gather fun row _ => ?_
  exact meets_bind (save_late _) fun _ => meets_pure fun _ => id

/-! ## From the admission to the claim -/

/-- The new turn is stored as it was admitted, and its claim has a projection id of its own. -/
structure Ready (wake : Wake) (binding : LogicalTurnBindingSnapshot) (bodyStateJson : List UInt8)
    (admittedAt : IsoTimestamp) (s : Store) : Prop where
  turn : s.loadTurn (admittedTurnId wake) = some (admittedRecord wake binding admittedAt)
  checkpoint : s.loadCheckpoint (admittedContinuationId wake) =
    some (admittedCheckpoint wake bodyStateJson admittedAt)
  projection : s.outbox.find? ⟨"projection:" ++ (admittedTurnId wake).raw ++ ":" ++
    "2:continuation_claimed"⟩ = none

variable {binding : LogicalTurnBindingSnapshot} {bodyStateJson : List UInt8}
  {admittedAt : IsoTimestamp}

theorem admission_projectionId (wake binding) (bodyStateJson : List UInt8) (admittedAt) :
    (admissionWrite wake binding bodyStateJson admittedAt).admission.lifecycleEvent.projectionId =
      ⟨"projection:" ++ (admittedTurnId wake).raw ++ ":" ++ "1:initial_admission"⟩ := by
  have rest : toString 1 ++ ":" ++ "initial_admission" = "1:initial_admission" := by decide
  rw [← rest]
  simp only [admissionWrite, lifecycleEvent, admittedRecord, if_true, String.append_assoc]

theorem ready_of_admitted (store : NamedStore s)
    (accepted : s.insertLogicalTurnAdmission
      (admissionWrite wake binding bodyStateJson admittedAt) =
      .ok (s', admission)) :
    admission.record = admittedRecord wake binding admittedAt ∧
      Ready wake binding bodyStateJson admittedAt s' := by
  obtain ⟨-, rfl, blobs, s₁, s₂, s₃, turn, checkpoint, event, rfl⟩ :=
    insertLogicalTurnAdmission_ok accepted
  obtain ⟨missing, rfl⟩ := insertTurn_ok turn
  obtain ⟨-, rfl⟩ := insertCheckpoint_ok checkpoint
  refine ⟨rfl, ?_⟩
  have absent := projection_absent store missing "2:continuation_claimed"
  have other : (⟨"projection:" ++ (admittedTurnId wake).raw ++ ":" ++ "1:initial_admission"⟩ :
      TurnProjectionId) ≠
      ⟨"projection:" ++ (admittedTurnId wake).raw ++ ":" ++ "2:continuation_claimed"⟩ := by
    intro same
    have texts := congrArg TurnProjectionId.raw same
    simp only [String.append_right_inj] at texts
    revert texts
    decide
  rcases insertOutbox_ok event with ⟨-, rfl⟩ | ⟨-, rfl⟩
  · exact ⟨find?_eq_some.mpr ⟨mem_put.mpr (.inl rfl), rfl⟩,
      find?_eq_some.mpr ⟨mem_put.mpr (.inl rfl), rfl⟩, absent⟩
  · refine ⟨find?_eq_some.mpr ⟨mem_put.mpr (.inl rfl), rfl⟩,
      find?_eq_some.mpr ⟨mem_put.mpr (.inl rfl), rfl⟩, ?_⟩
    refine find?_eq_none.mpr fun row member same => ?_
    rcases mem_put.mp member with rfl | ⟨member, -⟩
    · exact other ((admission_projectionId wake binding bodyStateJson admittedAt).symm.trans same)
    · exact find?_eq_none.mp absent row member same

theorem ready_markDelivered (ready : Ready wake binding bodyStateJson admittedAt s)
    (projectionId deliveredAt) : Ready wake binding bodyStateJson admittedAt
      (s.markLogicalTurnOutboxDelivered projectionId deliveredAt) := by
  obtain ⟨outbox, marked, absent⟩ := markDelivered_outbox s projectionId deliveredAt
  rw [marked]
  exact ⟨ready.turn, ready.checkpoint, absent _ ready.projection⟩

theorem claim_projectionId (record request progress) (reasonCode summary : String)
    (first : record.revision = 1) :
    (lifecycleForRecord (claimedRecord record request) progress .continuationClaimed reasonCode
      summary request.now).projectionId =
      ⟨"projection:" ++ record.logicalTurnId.raw ++ ":" ++ "2:continuation_claimed"⟩ := by
  have rest : toString 2 ++ ":" ++ "continuation_claimed" = "2:continuation_claimed" := by decide
  rw [← rest]
  simp only [lifecycleForRecord, claimedRecord, first, String.append_assoc,
    LogicalTurnLifecycleEventKind.asStr]

theorem insertOutbox_accepts {event : LogicalTurnLifecycleEvent}
    (absent : s.outbox.find? event.projectionId = none) :
    ∃ s', s.insertOutbox event = .ok s' := by
  rw [insertOutbox, absent]
  exact ⟨_, rfl⟩

theorem claimLogicalTurn_accepts {request : LogicalTurnClaimRequest}
    (stored : s.loadTurn request.logicalTurnId = some record)
    (loaded : s.loadCheckpoint request.continuationId = some checkpoint)
    (revision : record.revision = request.expectedRevision) (phase : record.phase = .admitted)
    (current : record.currentContinuationId = request.continuationId)
    (turn : checkpoint.logicalTurnId = record.logicalTurnId)
    (absent : s.outbox.find? (lifecycleForRecord (claimedRecord record request) checkpoint.progress
      .continuationClaimed "continuation_claimed"
      "logical turn continuation claimed for an execution epoch" request.now).projectionId = none) :
    ∃ s' claim, s.claimLogicalTurn request = .ok (s', claim) ∧ claim.checkpoint = checkpoint := by
  have key : record.logicalTurnId = request.logicalTurnId := key_of_find? stored
  have updated : s.updateTurn (claimedRecord record request) record.revision =
      .ok { s with turns := s.turns.put (claimedRecord record request) } := by
    refine if_pos ?_
    show (s.loadTurn record.logicalTurnId).map LogicalTurnRecord.revision = some record.revision
    rw [key, stored, Option.map_some]
  obtain ⟨s', recorded⟩ := @insertOutbox_accepts
    (deleteTicket { s with turns := s.turns.put (claimedRecord record request) }
      (claimedRecord record request).logicalTurnId) _ absent
  have fresh : ¬(record.phase = .running ∧ record.activeEpochId = some request.executionEpochId ∧
      record.claimHolder = some request.claimHolder) := by simp [phase]
  have runnable : record.phase.isRunnable = true := by rw [phase]; rfl
  refine ⟨s', ⟨claimedRecord record request, checkpoint, record.claimGeneration.getD 0 + 1, false⟩,
    ?_, rfl⟩
  rw [revision] at updated
  simp only [claimLogicalTurn, stored, loaded, orFail, ok_bind, if_neg fresh,
    requireRevision, rejectIf, revision, current, turn, runnable, updated, recorded, ne_eq,
    not_true_eq_false, or_self, if_false]

theorem claim_of_ready (ready : Ready wake binding bodyStateJson admittedAt s)
    (serviceInstanceId : String) (now) :
    ∃ s' claim, s.claimLogicalTurn (claimRequest (admittedRecord wake binding admittedAt)
        (admittedRecord wake binding admittedAt).currentContinuationId serviceInstanceId now) =
          .ok (s', claim) ∧
      claim.checkpoint = admittedCheckpoint wake bodyStateJson admittedAt := by
  refine claimLogicalTurn_accepts ready.turn ready.checkpoint rfl rfl rfl rfl ?_
  rw [claim_projectionId _ _ _ _ _ rfl]
  exact ready.projection

theorem admissionWrite_valid (wake binding) (bodyStateJson : List UInt8) (admittedAt) :
    validateAdmission (admissionWrite wake binding bodyStateJson admittedAt) = .ok () := by
  simp [validateAdmission, validateLifecycleIdentity, admissionWrite, lifecycleEvent,
    admittedRecord, admittedCheckpoint, frozenInput, frozenContent, logicalTurnContent, rejectIf]

theorem admission_accepts (store : NamedStore s) (missing : s.loadTurn (admittedTurnId wake) = none)
    (fresh : s.loadCheckpoint (admittedContinuationId wake) = none)
    (content : (frozenContent wake bodyStateJson admittedAt).foldlM insertContentBlob s = .ok s₀) :
    ∃ result, s.insertLogicalTurnAdmission
      (admissionWrite wake binding bodyStateJson admittedAt) = .ok result := by
  obtain ⟨blobs, rfl⟩ := insertContentBlobs_ok content
  have empty : checkpointsOf s (admittedTurnId wake) = [] :=
    congrArg TurnView.checkpoints ((store.grounded _).eq_absent missing)
  have unused : s.checkpoints.rows.any (fun row =>
      row.logicalTurnId = admittedTurnId wake ∧ row.sequence = 0) = false := by
    refine List.any_eq_false.mpr fun row member taken => ?_
    have listed : row ∈ checkpointsOf s (admittedTurnId wake) :=
      mem_select.mpr ⟨member, by simpa using (of_decide_eq_true taken).1⟩
    rw [empty] at listed
    cases listed
  have turn : Store.insertTurn { s with blobs := blobs } (admittedRecord wake binding admittedAt) =
      .ok { s with
        blobs := blobs
        turns := s.turns.put (admittedRecord wake binding admittedAt) } := by
    refine if_neg ?_
    show ¬(s.loadTurn (admittedTurnId wake)).isSome = true
    rw [missing]
    exact Bool.false_ne_true
  have checkpoint : insertCheckpoint { s with
        blobs := blobs
        turns := s.turns.put (admittedRecord wake binding admittedAt) }
      (admittedCheckpoint wake bodyStateJson admittedAt) =
      .ok { s with
        blobs := blobs
        turns := s.turns.put (admittedRecord wake binding admittedAt)
        checkpoints := s.checkpoints.put (admittedCheckpoint wake bodyStateJson admittedAt) } := by
    refine (if_neg ?_).trans (if_neg ?_)
    · show ¬(s.loadCheckpoint (admittedContinuationId wake)).isSome = true
      rw [fresh]
      exact Bool.false_ne_true
    · rw [Bool.not_eq_true]
      exact unused
  obtain ⟨s', event⟩ := @insertOutbox_accepts { s with
      blobs := blobs
      turns := s.turns.put (admittedRecord wake binding admittedAt)
      checkpoints := s.checkpoints.put (admittedCheckpoint wake bodyStateJson admittedAt) }
    (admissionWrite wake binding bodyStateJson admittedAt).admission.lifecycleEvent
    (by rw [admission_projectionId]; exact projection_absent store missing _)
  refine ⟨(s'.upsertTicket (continuationTicket (admittedRecord wake binding admittedAt)
    .initialAdmission admittedAt),
    (admissionWrite wake binding bodyStateJson admittedAt).admission), ?_⟩
  simp only [insertLogicalTurnAdmission, bind_eq_ok]
  exact ⟨(), admissionWrite_valid _ _ _ _, _, content, _, turn, _, checkpoint, _, event, rfl⟩

theorem binding_profileId
    (bound : logicalTurnBinding services registration promptFingerprint roleFingerprint =
      .ok binding) : binding.profileId = registration.profileId := by
  simp only [logicalTurnBinding, bind_eq_ok, Except.ok.injEq] at bound
  obtain ⟨profile, -, configuration, -, endpoint, -, provider, -, credential, -, rfl⟩ := bound
  rfl

theorem encodeBodyState_ok {failure : String} {state : BodyState} {bytes : List UInt8} :
    CoreEngine.encodeBodyState services failure state = .ok bytes ↔
      services.encodeBodyState state = .ok bytes := by
  unfold CoreEngine.encodeBodyState
  split <;> simp_all

/-- The write a wake hands to the store, with what the checks before it have established. -/
def Prepared (services : Services) (wake : Wake) (write : LogicalTurnAdmissionWrite) : Prop :=
  ∃ binding bodyStateJson moment,
    write = admissionWrite wake binding bodyStateJson (services.clock moment) ∧
      binding.profileId = wake.registration.profileId ∧
      ∃ state, services.encodeBodyState state = .ok bodyStateJson

theorem logicalTurnAdmission_prepared
    (encoded : services.encodeBodyState state = .ok bodyStateJson) :
    Meets (Guarded services wake e₀ 6)
      (CoreEngine.logicalTurnAdmission services wake bodyStateJson)
      (fun write e => Prepared services wake write ∧ Guarded services wake e₀ 7 e)
      (fun _ => Unchanged e₀) := by
  have timed : Meets (Guarded services wake e₀ 6) (CoreEngine.now services)
      (fun time e => (∃ moment, time = services.clock moment) ∧ Guarded services wake e₀ 7 e)
      (fun _ => Unchanged e₀) :=
    fun e guarded => ⟨⟨e.moment, rfl⟩, guarded.tick⟩
  refine meets_bind timed fun now => ?_
  refine meets_bind (Q := fun binding e => (∃ moment, now = services.clock moment) ∧
      binding.profileId = wake.registration.profileId ∧ Guarded services wake e₀ 7 e)
    (meets_lift ?_ ?_) fun binding => ?_
  · intro binding e bound kept
    exact ⟨kept.1, binding_profileId bound, kept.2⟩
  · intro failure e failed kept
    refine kept.2.unchanged fun admissible => ?_
    obtain ⟨binding, bound⟩ := admissible.binding
    rw [bound] at failed
    cases failed
  · refine meets_pure fun e kept => ?_
    obtain ⟨⟨moment, rfl⟩, profile, guarded⟩ := kept
    exact ⟨⟨binding, bodyStateJson, moment, rfl, profile, state, encoded⟩, guarded⟩

section
variable (publishes : Publishes services)
include publishes

theorem admitLogicalTurn_ready (store : NamedStore e₀.store)
    (steady : Steady services (e₀.moment + 8)) {write : LogicalTurnAdmissionWrite}
    (prepared : Prepared services wake write) :
    Meets (Guarded services wake e₀ 7) (CoreEngine.admitLogicalTurn services write)
      (fun admission => Late services fun s => ∃ binding bodyStateJson admittedAt,
        admission.record = admittedRecord wake binding admittedAt ∧
          Ready wake binding bodyStateJson admittedAt s)
      (fun _ => Unchanged e₀) := by
  obtain ⟨binding, bodyStateJson, moment, rfl, profile, state, encoded⟩ := prepared
  refine meets_then (meets_lift (fun _ _ _ => id) ?_) fun _ => ?_
  · intro failure e failed guarded
    refine guarded.unchanged fun admissible => ?_
    obtain ⟨session, known, active, sameProfile, -⟩ := admissible.session
    have sameBinding : session.profileId = binding.profileId := sameProfile.trans profile.symm
    have accepted : CoreEngine.ensureLogicalTurnSession services
        (admissionWrite wake binding bodyStateJson (services.clock moment)).admission.record =
        .ok () := by
      have known' : services.getSession (admissionWrite wake binding bodyStateJson
        (services.clock moment)).admission.record.sessionId = .ok session := known
      simp only [CoreEngine.ensureLogicalTurnSession, known', ok_bind, bind_eq_ok, rejectIf_eq_ok]
      exact ⟨(), active, not_not.mpr sameBinding⟩
    rw [accepted] at failed
    cases failed
  refine meets_flushed publishes (callStore_meets services storeCall_guarded ?_ ?_) ?_
  · intro e s' admission guarded called
    rw [guarded.store] at called
    exact ⟨guarded.steady steady, binding, bodyStateJson, _, ready_of_admitted store called⟩
  · intro e failure guarded failed
    refine guarded.unchanged fun admissible => ?_
    obtain ⟨s₀, content⟩ := admissible.content state bodyStateJson moment encoded
    obtain ⟨result, accepted⟩ := @admission_accepts wake _ binding bodyStateJson
      (services.clock moment) _ store admissible.turn admissible.continuation content
    rw [guarded.store, accepted] at failed
    cases failed
  · rintro admission s projectionId deliveredAt ⟨binding, bodyStateJson, admittedAt, record, ready⟩
    exact ⟨binding, bodyStateJson, admittedAt, record,
      ready_markDelivered ready projectionId deliveredAt⟩

theorem claim_ready {admission : LogicalTurnAdmission} (claimedAt) : Meets
      (Late services fun s => ∃ binding bodyStateJson admittedAt,
        admission.record = admittedRecord wake binding admittedAt ∧
          Ready wake binding bodyStateJson admittedAt s)
      (CoreEngine.claimLogicalTurn services (claimRequest admission.record
        admission.record.currentContinuationId services.serviceInstanceId claimedAt))
      (fun claim => Late services fun _ => CoreEngine.checkModule wake claim = .ok ()) Never := by
  rintro e ⟨calm, binding, bodyStateJson, admittedAt, record, ready⟩
  rw [record]
  refine meets_flushed (R := Late services (Ready wake binding bodyStateJson admittedAt)) publishes
    (callStore_meets services storeCall_late ?_ ?_) (fun _ _ _ _ => id) e ⟨calm, ready⟩
  · intro e s' claim late called
    obtain ⟨s'', claim', accepted, checkpoint⟩ := claim_of_ready late.2 _ _
    rw [accepted, Except.ok.injEq, Prod.mk.injEq] at called
    refine ⟨late.1, ?_⟩
    rw [CoreEngine.checkModule, ← called.2, checkpoint, rejectIf_eq_ok]
    exact not_not.mpr rfl
  · intro e failure late failed
    obtain ⟨s'', claim', accepted, -⟩ := claim_of_ready late.2 services.serviceInstanceId claimedAt
    rw [accepted] at failed
    cases failed

theorem admitAndClaim_meets (store : NamedStore e₀.store)
    (drains : QueueIdle services e₀.queue wake.sessionId ∧ Steady services (e₀.moment + 8) ∨
      Admissible services e₀ wake ∧ Steady services (e₀.moment + 3)) :
    Meets (Early e₀ 1) (CoreEngine.admitAndClaim services wake)
      (fun input _ => CoreEngine.checkModule wake input.claim = .ok ())
      (fun _ => Unchanged e₀) := by
  have steady : Steady services (e₀.moment + 8) := by
    rcases drains with ⟨-, steady⟩ | ⟨-, steady⟩
    · exact steady
    · exact steady.mono (by omega)
  have prepared : Meets (Early e₀ 1) (CoreEngine.prepareBodyStateForWake services wake.sessionId)
      (fun _ => Guarded services wake e₀ 6) (fun _ => Unchanged e₀) := by
    rcases drains with ⟨idle, -⟩ | ⟨admissible, steady⟩
    · exact meets_weaken (prepareBody_idle idle) (fun _ => id) (fun _ _ => .inl) fun _ _ => id
    · exact meets_weaken (prepareBody_admissible admissible steady) (fun _ => id)
        (fun _ _ late => .inr ⟨admissible, late⟩) fun _ _ => id
  refine meets_bind prepared fun bodyState => ?_
  refine meets_bind (Q := fun bytes e => services.encodeBodyState bodyState = .ok bytes ∧
      Guarded services wake e₀ 6 e)
    (meets_lift (fun _ _ encoded guarded => ⟨encodeBodyState_ok.mp encoded, guarded⟩) ?_)
    fun bodyStateJson => ?_
  · intro failure e failed guarded
    refine guarded.unchanged fun admissible => ?_
    obtain ⟨bytes, encoded⟩ := admissible.encodes bodyState
    rw [encodeBodyState_ok.mpr encoded] at failed
    cases failed
  rintro e ⟨encoded, guarded⟩
  refine meets_bind (logicalTurnAdmission_prepared encoded) (fun write => ?_) e guarded
  rintro e ⟨written, guarded⟩
  refine meets_bind (admitLogicalTurn_ready publishes store steady written) (fun admission => ?_)
    e guarded
  refine meets_bind (now_meets fun _ => Late.tick) fun claimedAt => ?_
  refine meets_bind (meets_weaken (claim_ready publishes claimedAt)
    (fun _ ready => ready.2) (fun _ _ => id) fun _ _ impossible => impossible.elim)
    fun claim => ?_
  exact meets_pure fun _ checked => checked.2

end

theorem prepare_recoverable (store : NamedStore e₀.store)
    (recoverable : Recoverable services e₀ wake) :
    Meets (Early e₀ 0) (CoreEngine.prepareLogicalTurnWake services wake)
      (fun _ _ => True) (fun _ => Unchanged e₀) := by
  refine meets_bind (loadStore_early id) fun s => ?_
  rintro e ⟨rfl, early⟩
  refine meets_bind
    (Q := fun ticket e => CoreEngine.sessionTickets e₀.store wake.sessionId = ticket.toList ∧
      Early e₀ 1 e)
    (meets_lift (fun _ _ found early => ⟨runnableTicket_ok found, early⟩)
      fun _ _ _ early => early.1) (fun ticket => ?_) e early
  refine meets_bind (Q := fun (input : ClaimedInput) (_ : CoreEngine) =>
      CoreEngine.checkModule wake input.claim = .ok ()) ?_ fun input => ?_
  · rintro e ⟨tickets, early⟩
    rw [Recoverable, tickets] at recoverable
    cases ticket with
    | none => exact admitAndClaim_meets recoverable.1 store recoverable.2 e early
    | some ticket =>
      exact resumeTicket_meets recoverable.1 recoverable.2.1 recoverable.2.2 e early
  · refine meets_bind (Q := fun _ _ => True)
      (meets_lift (fun _ _ _ _ => trivial) fun failure e failed accepted => ?_) fun _ =>
        meets_pure fun _ _ => trivial
    rw [accepted] at failed
    cases failed

end

/-! ## Wakes that fail too late -/

def yieldedRun : List EngineCall :=
  [wakeCall "chat" "wake-1", settleCall "wake-1" (.yielded (samplePayload "chat"))]

def followUp (sessionId : SessionId) : QueuedMessageRecord where
  messageId := "message"
  ownerSessionId := some sessionId
  ownerAgentId := ⟨"agent"⟩
  message := ⟨⟨"user"⟩, ⟨"agent"⟩, none, some sessionId, "hello", none, none⟩
  sourceSequence := none
  enqueuedAt := sampleNow
  expiresAt := "2026-01-02T00:00:00Z"
  ttlMs := 86400000
  deliveryAttempts := 0
  state := .pending
  terminalAt := none
  stateReason := none

def endedRun : List EngineCall :=
  [wakeCall "chat" "wake-1", settleCall "wake-1" .completed, .queueMessage (followUp ⟨"session"⟩)]

def mismatchedWake : Except CoreError LogicalTurnWakePreparation × CoreEngine :=
  CoreEngine.prepareLogicalTurnWake sampleServices (sampleWake "planner" "wake-2")
    (run CoreEngine.step CoreEngine.fresh yieldedRun)

def repeatedWake : Except CoreError LogicalTurnWakePreparation × CoreEngine :=
  CoreEngine.prepareLogicalTurnWake sampleServices (sampleWake "chat" "wake-1")
    (run CoreEngine.step CoreEngine.fresh endedRun)

def databaseLocked : CoreError := ⟨.persistenceFailure, "database is locked"⟩

/-- The database refuses the admission, the eighth use of the services during the wake. -/
def lockedServices : Services :=
  { sampleServices with
    storeCall := fun moment => if moment = 7 then .error databaseLocked else .ok () }

def queuedRun : List EngineCall := [.queueMessage (followUp ⟨"other"⟩)]

theorem locked_recoverable : Recoverable lockedServices
    (run CoreEngine.step CoreEngine.fresh queuedRun) (sampleWake "chat" "wake-1") := by
  have later : ¬(followUp ⟨"other"⟩).expiresAt ≤ sampleNow := by decide
  refine ⟨fun _ _ => rfl, .inl ⟨fun row member _ => ?_, fun moment after => ?_⟩⟩
  · cases List.mem_singleton.mp member
    exact ⟨by decide, fun _ => later⟩
  · have other : moment ≠ 7 := by
      rintro rfl
      exact absurd after (by decide)
    exact if_neg other

end RustyCrew.Proof.Engine

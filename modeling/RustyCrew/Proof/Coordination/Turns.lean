import RustyCrew.Coordination.Turns
import RustyCrew.Proof.Coordination.Engine
import RustyCrew.Proof.Coordination.MessageStore
import RustyCrew.Proof.Coordination.Store
import RustyCrew.Proof.Engine.Queue

namespace RustyCrew.Proof.Coordination

open Library Protocol RustyCrew.Coordination CoordinationM Attended Table ExternalTables List
open RustyCrew.Engine (Queue QueuedMessageRecord QueuedMessageFilter Surroundings pendingFilter)
open RustyCrew.Proof.Engine

variable {tables after : ExternalTables} {sessionId : SessionId} {session : SessionState}
  {turn : ExternalTurnCorrelation} {engine : CoordinationEngine}

/-! ## What happens to the turns and to the queue -/

def Idle (sessionId : SessionId) (tables : ExternalTables) : Prop :=
  ∀ turn ∈ tables.turns.rows, turn.request.sessionId = sessionId → turn.phase.isTerminal = true

structure Opens (tables : ExternalTables) (turn : ExternalTurnCorrelation) : Prop where
  idle : Idle turn.request.sessionId tables
  fresh : tables.turns.find? turn.requestId = none
  accepted : turn.phase = .accepted
  unbound : turn.nativeTurnId = none

structure Moves (before after : ExternalTurnCorrelation) : Prop where
  request : after.request = before.request
  allowed : before.phase.canTransitionTo after.phase = true
  running : before.phase.isTerminal = false
  bound : before.nativeTurnId.isSome → after.nativeTurnId = before.nativeTurnId
  released : after.phase.isTerminal = true → after.capacityLeaseId = none

structure FirstPending (queue : Queue) (sessionId : SessionId) (queued : QueuedMessageRecord) :
    Prop where
  stored : queued ∈ queue.rows
  pending : queued.state = .pending
  owner : queued.ownerSessionId = some sessionId
  first : ∀ other ∈ queue.rows, other.state = .pending → other.ownerSessionId = some sessionId →
    other = queued ∨ Before queued other

def Drops (before after : QueuedMessageRecord) : Prop :=
  before.state = .pending ∧ (after.state = .expired ∨ after.state = .cancelled) ∧
    after.messageId = before.messageId

def Dropped (queue after : Queue) : Prop :=
  ∃ f : QueuedMessageRecord → QueuedMessageRecord, after.rows = queue.rows.map f ∧
    ∀ row ∈ queue.rows, f row = row ∨ Drops row (f row)

inductive TurnEvent where
  | created (turn : ExternalTurnCorrelation)
  | promoted (queued : QueuedMessageRecord) (turn : ExternalTurnCorrelation)
  | moved (before after : ExternalTurnCorrelation)
  | aside

inductive Happens (tables : ExternalTables) : TurnEvent → ExternalTables → Prop
  | created {turn : ExternalTurnCorrelation} (opens : Opens tables turn) :
      Happens tables (.created turn) { tables with turns := tables.turns.put turn }
  | promoted {queued delivered : QueuedMessageRecord} {turn : ExternalTurnCorrelation}
      {now : IsoTimestamp} {queue : Queue} (opens : Opens tables turn)
      (first : FirstPending tables.queue turn.request.sessionId queued)
      (named : turn.requestId = followUpRequestId queued)
      (keyed : turn.request.idempotencyKey = "external-follow-up:" ++ queued.messageId)
      (isDelivered : delivered = { queued with
        state := .delivered, deliveryAttempts := queued.deliveryAttempts + 1, terminalAt := some now
        stateReason := some ("promoted_to_external_turn:" ++ turn.requestId.raw) })
      (rows : queue.rows =
        tables.queue.rows.map fun other => if other = queued then delivered else other) :
      Happens tables (.promoted queued turn) { tables with turns := tables.turns.put turn, queue }
  | moved {before after : ExternalTurnCorrelation}
      (stored : tables.turns.find? before.requestId = some before) (moves : Moves before after) :
      Happens tables (.moved before after) { tables with turns := tables.turns.put after }
  | aside {after : ExternalTables} (turns : after.turns = tables.turns)
      (queue : Dropped tables.queue after.queue) : Happens tables .aside after

/-! ## Turns stay in order -/

/-- At most one turn of a session is under way, and a turn that has ended holds no capacity. -/
structure Orderly (tables : ExternalTables) : Prop where
  single : ∀ a ∈ tables.turns.rows, ∀ b ∈ tables.turns.rows,
    a.phase.isTerminal = false → b.phase.isTerminal = false →
      a.request.sessionId = b.request.sessionId → a = b
  released : ∀ turn ∈ tables.turns.rows, turn.phase.isTerminal = true → turn.capacityLeaseId = none

section
variable {tables : ExternalTables}

theorem orderly_of_turns (orderly : Orderly tables) (turns : after.turns = tables.turns) :
    Orderly after := by
  constructor
  · rw [turns]
    exact orderly.single
  · rw [turns]
    exact orderly.released

theorem orderly_empty (turns : tables.turns = .empty) : Orderly tables := by
  constructor
  · simp [turns]
  · simp [turns]

theorem orderly_open (orderly : Orderly tables) (opens : Opens tables turn)
    (turns : after.turns = tables.turns.put turn) : Orderly after := by
  have notIdle : ∀ a ∈ tables.turns.rows, a.phase.isTerminal = false →
      a.request.sessionId ≠ turn.request.sessionId := by
    intro a isRow running same
    rw [opens.idle a isRow same] at running
    cases running
  constructor
  · intro a isRow b isOther running runningOther same
    rw [turns, mem_put] at isRow isOther
    rcases isRow with rfl | ⟨isRow, -⟩
    · rcases isOther with rfl | ⟨isOther, -⟩
      · rfl
      · exact absurd same.symm (notIdle b isOther runningOther)
    · rcases isOther with rfl | ⟨isOther, -⟩
      · exact absurd same (notIdle a isRow running)
      · exact orderly.single a isRow b isOther running runningOther same
  · intro a isRow ended
    rw [turns, mem_put] at isRow
    rcases isRow with rfl | ⟨isRow, -⟩
    · rw [opens.accepted] at ended
      cases ended
    · exact orderly.released a isRow ended

theorem orderly_move {before : ExternalTurnCorrelation} (orderly : Orderly tables)
    (stored : tables.turns.find? before.requestId = some before) (moves : Moves before moved) :
    Orderly { tables with turns := tables.turns.put moved } := by
  have isBefore := mem_of_find? stored
  have sameId : before.requestId = moved.requestId :=
    congrArg SessionTurnRequested.requestId moves.request.symm
  -- another running turn of the session would stand beside the one that moves
  have alone : ∀ a ∈ tables.turns.rows, a.requestId ≠ moved.requestId →
      a.phase.isTerminal = false → a.request.sessionId ≠ moved.request.sessionId := by
    intro a isRow other running same
    rw [moves.request] at same
    have merged := orderly.single a isRow before isBefore running moves.running same
    exact other (merged ▸ sameId)
  constructor
  · intro a isRow b isOther running runningOther same
    rw [mem_put] at isRow isOther
    rcases isRow with rfl | ⟨isRow, notMoved⟩
    · rcases isOther with rfl | ⟨isOther, notMoved⟩
      · rfl
      · exact absurd same.symm (alone b isOther notMoved runningOther)
    · rcases isOther with rfl | ⟨isOther, -⟩
      · exact absurd same (alone a isRow notMoved running)
      · exact orderly.single a isRow b isOther running runningOther same
  · intro a isRow ended
    rw [mem_put] at isRow
    rcases isRow with rfl | ⟨isRow, -⟩
    · exact moves.released ended
    · exact orderly.released a isRow ended

theorem orderly_happens (orderly : Orderly tables) (happens : Happens tables event after) :
    Orderly after := by
  cases happens with
  | created opens | promoted opens => exact orderly_open orderly opens rfl
  | moved stored moves => exact orderly_move orderly stored moves
  | aside turns queue => exact orderly_of_turns orderly turns

theorem known_happens
    (known : tables.turns.find? requestId ≠ none) (happens : Happens tables event after) :
    after.turns.find? requestId ≠ none := by
  have kept : ∀ turn, (tables.turns.put turn).find? requestId ≠ none := by
    intro turn
    rw [find?_put]
    split
    · simp
    · exact known
  cases happens with
  | created opens => exact kept _
  | promoted opens first named => exact kept _
  | moved stored moves => exact kept _
  | aside turns queue =>
    rw [turns]
    exact known

end

/-! ## The queue -/

section
variable {queue : Queue}

theorem dropped_refl (queue) : Dropped queue queue :=
  ⟨id, by simp, fun _ _ => .inl rfl⟩

theorem dropped_expire (queue now) : Dropped queue (queue.expireQueuedMessagesAt now) := by
  refine ⟨_, rows_expire queue now, fun row _ => ?_⟩
  by_cases expires : row ∈ expiring queue now
  · rw [if_pos expires]
    exact .inr ⟨(expiring_row expires).2.1, .inl rfl, rfl⟩
  · rw [if_neg expires]
    exact .inl rfl

theorem dropped_save {f : QueuedMessageRecord → QueuedMessageRecord} (inPlace : InPlace f)
    (stored : queued ∈ queue.rows) (pending : queued.state = .pending)
    (ended : (f queued).state = .expired ∨ (f queued).state = .cancelled) :
    Dropped queue (queue.saveQueuedMessage (f queued)) := by
  refine ⟨_, rows_save inPlace stored, fun row _ => ?_⟩
  by_cases same : row = queued
  · subst same
    rw [if_pos rfl]
    exact .inr ⟨pending, ended, inPlace.messageId row⟩
  · rw [if_neg same]
    exact .inl rfl

theorem admits_next :
    (nextFilter sessionId).admits row = true ↔
      row.state = .pending ∧ row.ownerSessionId = some sessionId := by
  simp [nextFilter, QueuedMessageFilter.admits]

theorem firstPending_of_load
    (loaded : (queue.loadQueuedMessages (nextFilter sessionId)).head? = some queued) :
    FirstPending queue sessionId queued := by
  have member := mem_of_head? loaded
  obtain ⟨stored, admitted⟩ := loaded_row member
  have own := admits_next.mp admitted
  refine ⟨stored, own.1, own.2, fun other isOther pending owner => ?_⟩
  by_contra neither
  obtain ⟨different, late⟩ := not_or.mp neither
  -- a message before the one that is loaded would have taken its place
  have ordered : queueOrder other queued := by
    by_contra reversed
    exact late (not_queueOrder.mp reversed)
  have earlier : Before other queued := by
    rw [← not_queueOrder]
    intro back
    exact different (queueOrder_antisymm stored isOther back ordered)
  have listed : other ∈ queue.rows.filter fun row =>
      (nextFilter sessionId).admits row ∧ Before row queued :=
    mem_filter.mpr ⟨isOther, by simpa using ⟨admits_next.mpr ⟨pending, owner⟩, earlier⟩⟩
  have none := (mem_load stored admitted).mp member
  rw [show pageSize (nextFilter sessionId) = 1 from rfl, Nat.lt_one_iff] at none
  rw [eq_nil_of_length_eq_zero none] at listed
  cases listed

end

/-! ## Histories of calls -/

def Reached (start : ExternalTables) (engine : CoordinationEngine) : Prop :=
  ∃ events, History Happens start events engine.tables

section

theorem Reached.happens (reached : Reached start engine)
    (happens : Happens engine.tables event tables) : Reached start { engine with tables } :=
  let ⟨events, history⟩ := reached
  ⟨events ++ [event], history.snoc happens⟩

theorem Reached.aside (reached : Reached start engine) (turns : tables.turns = engine.tables.turns)
    (queue : Dropped engine.tables.queue tables.queue) : Reached start { engine with tables } :=
  reached.happens (.aside turns queue)

end

structure FollowsUp (P : CoordinationEngine → Prop) : Prop where
  aside : ∀ {engine queue}, Dropped engine.tables.queue queue → P engine →
    P { engine with tables := { engine.tables with queue } }
  promoted : ∀ {engine queued turn tables}, Happens engine.tables (.promoted queued turn) tables →
    P engine → P { engine with tables }

theorem followsUp_reached (start : ExternalTables) : FollowsUp (Reached start) where
  aside queue reached := reached.aside rfl queue
  promoted happens reached := reached.happens happens

/-! ## Storing a turn -/

def Activated (P P' : CoordinationEngine → Prop) (activation : AgentActivation)
    (engine : CoordinationEngine) : Prop :=
  match activation with
  | .rejected _ => P engine
  | _ => P' engine

def Next (P : CoordinationEngine → Prop) (queued : QueuedMessageRecord)
    (engine : CoordinationEngine) : Prop :=
  P engine ∧ ∃ sessionId, FirstPending engine.tables.queue sessionId queued

section
variable {now : IsoTimestamp}

theorem claimable_next (first : FirstPending tables.queue sessionId queued)
    (found : tables.claimableMessage other queued.messageId = some claimed) :
    claimed = queued ∧ other = sessionId := by
  have isClaimed := loaded_row (mem_of_find?_eq_some found)
  have sameId : claimed.messageId = queued.messageId := by simpa using find?_some found
  have same := Queue.row_unique isClaimed.1 first.stored sameId
  subst same
  have owner := (admits_pending.mp isClaimed.2).2
  rw [first.owner] at owner
  exact ⟨rfl, (Option.some.inj owner).symm⟩

theorem upholds_createTurn (request sessionId binding) (nativeThreadId : String) :
    Upholds (fun e => Idle sessionId e.tables ∧ Reached start e)
      (storeTurn (requestedTurn request sessionId binding nativeThreadId) none)
      (Activated P (Reached start)) (Reached start) := by
  apply upholds_bind (Q := fun _ => Reached start)
  · refine upholds_inStore (fun e saved tables done pre => ?_) fun _ pre => pre.2
    rcases createExternalTurn_eq done with rfl | ⟨fresh, rfl⟩
    · exact pre.2
    · exact pre.2.happens (.created ⟨pre.1, fresh, rfl, rfl⟩)
  · intro saved
    exact upholds_pure fun _ => id

theorem upholds_promoteTurn (closed : FollowsUp P) (delivery images sessionId binding)
    (nativeThreadId : String) :
    Upholds (fun e => Idle sessionId e.tables ∧ Next P queued e)
      (storeTurn (requestedTurn (followUpRequest queued delivery images now) sessionId binding
        nativeThreadId) (some (queued.messageId, now))) (Activated P' P) P := by
  apply upholds_bind (Q := fun _ => P)
  · refine upholds_inStore (fun e saved tables done pre => ?_) fun _ pre => pre.2.1
    obtain ⟨idle, holds, sessionId, first⟩ := pre
    rcases promoteQueuedMessageToExternalTurn_eq done with rfl | ⟨claimed, found, ended⟩
    · exact holds
    · obtain ⟨rfl, rfl⟩ := claimable_next first found
      rcases ended with rfl | ⟨fresh, rfl⟩
      · have drops := dropped_save (f := unclaimedMessage now)
          ⟨fun _ => rfl, fun _ => rfl⟩ first.stored first.pending (.inl rfl)
        exact closed.aside drops holds
      · have rows := rows_save (f := promotedMessage now (followUpRequestId claimed))
          ⟨fun _ => rfl, fun _ => rfl⟩ first.stored
        exact closed.promoted (.promoted ⟨idle, fresh, rfl, rfl⟩ first rfl rfl rfl rows) holds
  · intro saved
    cases saved with
    | none | some => exact upholds_pure fun _ => id

end

/-! ## Activation -/

section
variable {P P' : CoordinationEngine → Prop}

@[simp] theorem preserves_isWorking : Preserves P (isWorking sessionId) := by
  refine preserves_bind preserves_getSession fun session => ?_
  simp

@[simp] theorem preserves_resolveDirectTarget :
    Preserves P (resolveDirectTarget target session) := by
  unfold resolveDirectTarget
  split <;> simp

@[simp] theorem preserves_resolveExternalTarget :
    Preserves P (resolveExternalTarget target session) := by
  unfold resolveExternalTarget
  split <;> simp

theorem preserves_activationTarget (agentId target) :
    Preserves P (activationTarget agentId target) := by
  cases target with
  | none => simp [activationTarget]
  | some target =>
    refine preserves_bind preserves_findSession fun session => ?_
    split
    · simp
    · split <;> simp

theorem preserves_activateDirectBrain (session request) :
    Preserves P (activateDirectBrain session request) := by
  simp [activateDirectBrain]

theorem idle_of_listed
    (none : tables.listNonterminalExternalTurns.find? (isTurnOf sessionId) = none) :
    Idle sessionId tables := by
  intro turn isRow own
  by_contra running
  have listed : turn ∈ tables.listNonterminalExternalTurns :=
    (mem_insertionSort _).mpr (mem_select.mpr ⟨isRow, by simpa using running⟩)
  simpa [isTurnOf, own] using find?_eq_none.mp none turn listed

theorem activateBusy_activated
    (holds : P' engine) : Activated P P' (activateBusy session binding request turn) engine := by
  unfold activateBusy
  split
  · exact holds
  · exact holds

section
variable {request : AgentActivationRequest}
variable (kept : ∀ e, P e → P' e)
variable (stores : ∀ sessionId binding nativeThreadId,
  Upholds (fun e => Idle sessionId e.tables ∧ P e)
    (storeTurn (requestedTurn request sessionId binding nativeThreadId) claim) (Activated P P') P')

include kept stores

theorem upholds_activateOnRuntime (session binding) :
    Upholds P (activateOnRuntime session binding request claim) (Activated P P') P' := by
  apply upholds_bind (Q := fun turns e => turns = e.tables.listNonterminalExternalTurns ∧ P e)
    (upholds_load (fun _ pre => ⟨rfl, pre⟩) kept)
  intro turns
  cases busy : turns.find? (isTurnOf session.sessionId) with
  | some turn => exact upholds_pure fun e pre => activateBusy_activated (kept e pre.2)
  | none =>
    cases binding.nativeThreadId with
    | none => exact upholds_pure fun _ pre => pre.2
    | some nativeThreadId =>
      refine (stores session.sessionId binding nativeThreadId).starting (fun e pre => ?_)
      refine ⟨idle_of_listed ?_, pre.2⟩
      rw [← pre.1]
      exact busy

theorem upholds_activateExternal (session binding) :
    Upholds P (activateExternal session binding request claim) (Activated P P') P' := by
  unfold activateExternal
  split
  · exact upholds_pure fun _ => id
  · apply upholds_then (upholds_load (fun _ => id) kept)
    intro found
    apply upholds_then (upholds_lift (fun _ _ _ => id) kept)
    intro runtime
    split
    · exact upholds_pure fun _ => id
    · split
      · exact upholds_pure fun _ => id
      · split
        · exact upholds_pure fun _ => id
        · exact upholds_activateOnRuntime kept stores session binding

theorem upholds_activate (target) :
    Upholds P (activateAgentExecutionInner request claim target) (Activated P P') P' := by
  apply upholds_then
  · exact (preserves_activationTarget _ target).failing kept
  · intro resolved
    split
    · exact upholds_pure fun _ => id
    · next session =>
      refine upholds_weaken (preserves_activateDirectBrain session request) (fun _ => id)
        (fun activation e pre => ?_) kept
      cases activation with
      | rejected reasonCode => exact pre
      | directBrainWakeRequested | externalTurnRequested | externalTurnSteerRequested
      | queuedForNextTurn => exact kept e pre
    · next session binding => exact upholds_activateExternal kept stores session binding

end

end

/-! ## Follow-ups -/

section
variable {P : CoordinationEngine → Prop}

@[simp] theorem preserves_externalImageInputs :
    Preserves P (externalImageInputs sessionId attachmentIds) := by
  simp [externalImageInputs]

@[simp] theorem preserves_sourceDelivery : Preserves P (sourceDelivery sourceId) := by
  cases sourceId <;> simp [sourceDelivery]

@[simp] theorem preserves_hasReply : Preserves P (hasReply sourceId) := by
  cases sourceId <;> simp [hasReply]

@[simp] theorem preserves_serialAllowsFollowUp :
    Preserves P (serialAllowsFollowUp turn delivery) := by
  unfold serialAllowsFollowUp
  split <;> simp [completedAllowsFollowUp]

@[simp] theorem preserves_externalTurnAllowsFollowUpPromotion :
    Preserves P (externalTurnAllowsFollowUpPromotion turn) := by
  refine preserves_ite (by simp) fun _ => preserves_bind (by simp) fun delivery => ?_
  refine preserves_ite (by simp) fun _ => preserves_bind (by simp) fun found => ?_
  simp

@[simp] theorem preserves_followUpDelivery : Preserves P (followUpDelivery queued) := by
  unfold followUpDelivery
  split <;> simp

@[simp] theorem preserves_followUpImages : Preserves P (followUpImages queued delivery) := by
  cases delivery <;> simp [followUpImages]

end

section
variable {P : CoordinationEngine → Prop} {queued : QueuedMessageRecord}

theorem cancelled_inPlace (now) (reason : String) : InPlace (cancelledMessage now reason) :=
  ⟨fun _ => rfl, fun _ => rfl⟩

def Cancelling (P : CoordinationEngine → Prop) (rest : List QueuedMessageRecord)
    (engine : CoordinationEngine) : Prop :=
  P engine ∧ rest.Nodup ∧
    ∀ queued ∈ rest, queued ∈ engine.tables.queue.rows ∧ queued.state = .pending

variable (closed : FollowsUp P)
include closed

theorem FollowsUp.cancel (holds : P engine) (stored : queued ∈ engine.tables.queue.rows)
    (pending : queued.state = .pending) (now) (reason : String) :
    P { engine with tables := { engine.tables with
      queue := engine.tables.queue.saveQueuedMessage (cancelledMessage now reason queued) } } :=
  closed.aside (dropped_save (cancelled_inPlace now reason) stored pending (.inr rfl)) holds

theorem cancelling_cons
    (cancelling : Cancelling P (queued :: rest) engine) (now : IsoTimestamp) (reason : String) :
    Cancelling P rest { engine with tables := { engine.tables with
      queue := engine.tables.queue.saveQueuedMessage (cancelledMessage now reason queued) } } := by
  obtain ⟨holds, unique, left⟩ := cancelling
  obtain ⟨fresh, unique⟩ := nodup_cons.mp unique
  obtain ⟨stored, pending⟩ := left queued mem_cons_self
  refine ⟨closed.cancel holds stored pending now reason, unique, fun other isLeft => ?_⟩
  obtain ⟨isRow, otherPending⟩ := left other (mem_cons_of_mem _ isLeft)
  refine ⟨?_, otherPending⟩
  rw [rows_save (cancelled_inPlace now reason) stored, mem_map]
  refine ⟨other, isRow, if_neg ?_⟩
  rintro rfl
  exact fresh isLeft

theorem preserves_cancelPending (sessionId now) : Preserves P (cancelPending sessionId now) := by
  apply upholds_bind (Q := Cancelling P)
  · refine upholds_load (fun e holds => ?_) fun _ => id
    refine ⟨holds, nodup_load _ _, fun queued loaded => ?_⟩
    obtain ⟨isRow, admitted⟩ := loaded_row loaded
    exact ⟨isRow, (admits_pending.mp admitted).1⟩
  · intro pending
    refine (upholds_forEach_rest (P := Cancelling P) (E := P)
      fun queued rest => ?_).returning (fun _ _ post => post.1)
    refine upholds_inStore (fun e _ tables saved cancelling => ?_) fun _ pre => pre.1
    cases saved
    exact cancelling_cons closed cancelling now _

theorem upholds_finishPromotion (now activation) :
    Upholds (Activated (Next P queued) P activation) (finishPromotion queued now activation)
      (fun _ => P) P := by
  cases activation with
  | rejected reasonCode =>
    rw [finishPromotion]
    split
    · apply upholds_bind (Q := fun _ => P)
      · refine upholds_inStore (fun e _ tables saved next => ?_) fun _ pre => pre.1
        cases saved
        obtain ⟨holds, sessionId, first⟩ := next
        exact closed.cancel holds first.stored first.pending now _
      · intro _
        exact preserves_pure
    · exact upholds_pure fun _ next => next.1
  | externalTurnRequested sessionId requestId bindingId =>
    exact (by simp [finishPromotion] : Preserves P
      (finishPromotion queued now (.externalTurnRequested sessionId requestId bindingId)))
  | directBrainWakeRequested | externalTurnSteerRequested | queuedForNextTurn =>
    exact preserves_pure

theorem upholds_promoteMessage (now) :
    Upholds (Next P queued) (promoteMessage queued now) (fun _ => P) P := by
  have drop : ∀ e, Next P queued e → P e := fun _ next => next.1
  apply upholds_then (preserves_followUpDelivery.failing drop)
  intro delivery
  apply upholds_then (preserves_followUpImages.failing drop)
  intro images
  apply upholds_bind (upholds_activate drop (upholds_promoteTurn closed delivery images)
    (followUpTarget delivery))
  intro activation
  exact upholds_finishPromotion closed now activation

theorem preserves_promoteNext {now : IsoTimestamp} :
    Preserves P (promoteNextExternalFollowUp sessionId now) := by
  apply upholds_then
  · refine upholds_inStore (fun e _ tables saved holds => ?_) fun _ => id
    cases saved
    exact closed.aside (dropped_expire _ now) holds
  intro _
  apply upholds_bind (Q := fun pending e => (∀ queued, pending.head? = some queued →
    FirstPending e.tables.queue sessionId queued) ∧ P e)
  · refine upholds_load (fun e holds => ⟨fun queued loaded => ?_, holds⟩) fun _ => id
    exact firstPending_of_load loaded
  intro pending
  cases head : pending.head? with
  | none => exact upholds_pure fun _ pre => pre.2
  | some queued =>
    apply upholds_bind (Q := fun _ => Next P queued)
    · refine upholds_lookUp (fun e _ _ pre => ?_) fun _ pre => pre.2
      exact ⟨pre.2, sessionId, pre.1 queued rfl⟩
    intro session
    split
    · apply upholds_bind (Q := fun _ => P)
        ((preserves_cancelPending closed sessionId now).starting (fun _ next => next.1))
      intro _
      exact preserves_pure
    · exact upholds_promoteMessage closed now

theorem preserves_followUp : Preserves P (followUp turn) := by
  simp [Coordination.followUp, preserves_promoteNext closed]

end

/-! ## Transitions -/

section
variable {start : ExternalTables}

theorem upholds_findTurn {P : CoordinationEngine → Prop} (requestId) :
    Upholds P (findTurn requestId)
      (fun turn e => e.tables.turns.find? requestId = some turn ∧ P e) P := by
  apply upholds_bind (Q := fun found e => found = e.tables.turns.find? requestId ∧ P e)
    (upholds_load (fun _ pre => ⟨rfl, pre⟩) fun _ => id)
  intro found
  exact upholds_require (fun turn e known pre => ⟨pre.1.symm.trans known, pre.2⟩) fun _ pre => pre.2

theorem reached_update {transition : TurnTransition} (reached : Reached start engine)
    (stored : engine.tables.turns.find? transition.requestId = some current)
    (updated : engine.tables.updateExternalTurn (transition.next current) current.revision = .ok
      (saved, tables)) : Reached start { engine with tables } := by
  have sameId : current.requestId = transition.requestId := key_of_find? stored
  have found : engine.tables.turns.find? current.requestId = some current := by
    rw [sameId]
    exact stored
  obtain ⟨known, foundAgain, ⟨-, -, rfl⟩ | ⟨allowed, running, released, bound, rfl, rfl⟩⟩ :=
    updateExternalTurn_eq updated
  · exact reached
  · cases foundAgain.symm.trans found
    exact reached.happens (.moved found ⟨rfl, allowed, running, bound, released⟩)

@[simp] theorem preserves_transition {transition : TurnTransition} :
    Preserves (Reached start) (transitionExternalTurnWithError transition) := by
  apply upholds_bind (upholds_findTurn transition.requestId)
  intro current
  apply upholds_bind (Q := fun _ => Reached start)
  · refine upholds_inStore (fun e saved tables updated pre => ?_) fun _ pre => pre.2
    exact reached_update pre.2 pre.1 updated
  intro saved
  split <;> simp [preserves_followUp (followsUp_reached start)]

theorem preserves_transitionFromController (controller transition) :
    Preserves (Reached start) (transitionExternalTurnFromController controller transition) := by
  apply upholds_then ((upholds_findTurn _).returning (fun _ _ post => post.2))
  intro current
  refine preserves_bind (preserves_bind preserves_now fun time => ?_) fun _ => preserves_transition
  refine upholds_inStore (fun e lease tables validated reached => ?_) fun _ => id
  simp only [bind_eq_ok, pure_eq_ok, Prod.mk.injEq] at validated
  obtain ⟨-, -, -, rfl⟩ := validated
  exact reached

/-! ## Reconciliation and hydration -/

theorem preserves_reconcile (now) :
    Preserves (Reached start) (reconcileIdleExternalFollowUps now) := by
  refine preserves_bind (by simp) fun turns => preserves_bind (by simp) fun bindings => ?_
  refine upholds_gather fun idle _ => preserves_bind (by simp) fun pending => ?_
  refine preserves_ite (by simp) fun _ => preserves_bind ?_ fun latest => ?_
  · unfold latestTurn
    split <;> simp
  · cases latest <;> simp [latestAllowsFollowUp, preserves_promoteNext (followsUp_reached start)]

theorem preserves_hydrateTurn (runtimes) (now turn) :
    Preserves (Reached start) (hydrateTurn runtimes now turn) := by
  refine preserves_bind preserves_findSession fun session => ?_
  split <;> simp [transitionExternalTurn]

@[simp] theorem preserves_publishTurns : Preserves (Reached start) (publish event) :=
  upholds_publish (fun _ _ => id) fun _ => id

section
variable (now : IsoTimestamp)
include now

theorem preserves_hydrateInteraction (interaction) :
    Preserves (Reached start) (hydrateInteraction now interaction) := by
  refine preserves_ite (fun _ => preserves_bind ?_ fun _ => preserves_pure) (by simp)
  refine upholds_inStore (fun e saved tables updated reached => ?_) fun _ => id
  obtain ⟨_, rfl⟩ := updateExternalInteraction_frame updated
  exact reached.aside rfl (dropped_refl _)

theorem preserves_hydrateRound (round) : Preserves (Reached start) (hydrateRound now round) := by
  refine preserves_ite (fun _ => preserves_bind ?_ fun _ => by simp) (by simp)
  refine upholds_inStore (fun e saved tables updated reached => ?_) fun _ => id
  obtain ⟨_, rfl⟩ := updateAgentCorrelatedRound_frame updated
  exact reached.aside rfl (dropped_refl _)

theorem preserves_hydrateDelivery (delivery) :
    Preserves (Reached start) (hydrateDelivery now delivery) := by
  refine preserves_ite (by simp) fun _ => preserves_bind ?_ fun _ => by simp
  refine upholds_inStore (fun e saved tables updated reached => ?_) fun _ => id
  obtain ⟨_, rfl⟩ := updateAgentMessageDelivery_frame updated
  exact reached.aside rfl (dropped_refl _)

theorem preserves_hydrate : Preserves (Reached start) (hydrateExternalRuntimeLifecycle now) := by
  refine preserves_bind (by simp) fun runtimes => preserves_bind (by simp) fun bindings => ?_
  refine preserves_bind (by simp) fun turns => preserves_bind ?_ fun hydrated => ?_
  · exact upholds_gather fun turn _ => preserves_hydrateTurn runtimes now turn
  refine preserves_bind (by simp) fun interactions => preserves_bind ?_ fun _ => ?_
  · exact upholds_gather fun interaction _ => preserves_hydrateInteraction now interaction
  refine preserves_bind (by simp) fun rounds => preserves_bind ?_ fun _ => ?_
  · exact upholds_gather fun round _ => preserves_hydrateRound now round
  refine preserves_bind (by simp) fun deliveries => preserves_bind ?_ fun _ => preserves_pure
  exact upholds_gather fun delivery _ => preserves_hydrateDelivery now delivery

end

end

/-! ## Runs -/

/-- What a call did: everything except the calls of the rest of the engine has a history. -/
def Performed (call : TurnCall) (before : ExternalTables) (events : List TurnEvent)
    (after : ExternalTables) : Prop :=
  match call with
  | .elsewhere _ => events = [] ∧ after.turns = before.turns
  | _ => History Happens before events after

theorem reached_runTurns {α : Type} {x : CoordinationM α}
    (keeps : Preserves (Reached engine.tables) x) (answers : Nat → Surroundings) :
    Reached engine.tables (discardResult x ⟨engine, answers⟩).2.state := by
  have kept : Preserves (Reached engine.tables) (discardResult x) :=
    preserves_bind keeps fun _ => preserves_pure
  exact (kept.preserves ⟨[], .nil⟩).2

theorem performed_runTurns (engine : CoordinationEngine)
    (attendance : TurnCall × (Nat → Surroundings)) :
    ∃ events, Performed attendance.1 engine.tables events (engine.runTurns attendance).tables := by
  obtain ⟨call, answers⟩ := attendance
  cases call with
  | activate request target =>
    refine reached_runTurns ((upholds_activate (P := Reached engine.tables) (fun _ => id)
      (upholds_createTurn request) target).returning
        fun activation e post => ?_) answers
    cases activation <;> exact post
  | promote sessionId now =>
    exact reached_runTurns (preserves_promoteNext (followsUp_reached _)) answers
  | transition requested => exact reached_runTurns preserves_transition answers
  | transitionFromController controller requested =>
    exact reached_runTurns (preserves_transitionFromController controller requested) answers
  | reconcile now => exact reached_runTurns (preserves_reconcile now) answers
  | hydrate now => exact reached_runTurns (preserves_hydrate now) answers
  | elsewhere other => exact ⟨[], rfl, rfl⟩

theorem orderly_performed {call : TurnCall} {events : List TurnEvent} (orderly : Orderly tables)
    (performed : Performed call tables events after) : Orderly after := by
  cases call with
  | elsewhere other => exact orderly_of_turns orderly performed.2
  | activate | promote | transition | transitionFromController | reconcile | hydrate =>
    exact performed.invariant (fun _ _ _ => orderly_happens) orderly

def promotedId : TurnEvent → Option String
  | .promoted queued _ => some queued.messageId
  | _ => none

structure PromotedOnce (messageIds : List String) (tables : ExternalTables) : Prop where
  once : messageIds.Nodup
  known : ∀ messageId ∈ messageIds, tables.turns.find? ⟨"external-follow-up:" ++ messageId⟩ ≠ none

theorem PromotedOnce.happens
    (promoted : PromotedOnce messageIds tables) (happens : Happens tables event after) :
    PromotedOnce (messageIds ++ [event].filterMap promotedId) after := by
  have known : ∀ messageId ∈ messageIds,
      after.turns.find? ⟨"external-follow-up:" ++ messageId⟩ ≠ none :=
    fun messageId member => known_happens (promoted.known messageId member) happens
  cases happens with
  | promoted opens first named =>
    unfold followUpRequestId at named
    have fresh := opens.fresh
    rw [named] at fresh
    constructor
    · refine nodup_append.mpr ⟨promoted.once, by simp [promotedId], ?_⟩
      intro messageId member other isNew same
      have isQueued : other = _ := mem_singleton.mp isNew
      rw [isQueued] at same
      exact promoted.known messageId member (same ▸ fresh)
    · intro messageId member
      rcases mem_append.mp member with old | new
      · exact known messageId old
      · have isQueued : messageId = _ := mem_singleton.mp new
        rw [isQueued, find?_put, if_pos named]
        exact Option.some_ne_none _
  | created | moved | aside =>
    rw [filterMap_cons_none rfl, filterMap_nil, append_nil]
    exact ⟨promoted.once, known⟩

theorem PromotedOnce.performed {messageIds : List String} {call : TurnCall}
    {events : List TurnEvent} (promoted : PromotedOnce messageIds tables)
    (performed : Performed call tables events after) :
    PromotedOnce (messageIds ++ events.filterMap promotedId) after := by
  have along : ∀ {events after}, History Happens tables events after →
      PromotedOnce (messageIds ++ events.filterMap promotedId) after := by
    intro events after history
    induction history with
    | nil => simpa using promoted
    | snoc _ happens ih =>
      rw [filterMap_append, ← append_assoc]
      exact ih.happens happens
  cases call with
  | elsewhere other =>
    obtain ⟨rfl, turns⟩ := performed
    refine ⟨by simpa using promoted.once, fun messageId member => ?_⟩
    rw [turns]
    exact promoted.known messageId (by simpa using member)
  | activate | promote | transition | transitionFromController | reconcile | hydrate =>
    exact along performed

def turnsAt (engine : CoordinationEngine) (calls : List (TurnCall × (Nat → Surroundings)))
    (n : Nat) : ExternalTables :=
  (stateAt CoordinationEngine.runTurns
    { engine with tables := { engine.tables with turns := .empty } } calls n).tables

theorem ended_happens (ended : turn.phase.isTerminal = true) (stored : turn ∈ tables.turns.rows)
    (happens : Happens tables event after) : turn ∈ after.turns.rows := by
  cases happens with
  | created opens | promoted opens =>
    exact mem_put.mpr (.inr ⟨stored, find?_eq_none.mp opens.fresh turn stored⟩)
  | moved found moves =>
    refine mem_put.mpr (.inr ⟨stored, fun same => ?_⟩)
    have isBefore := find?_of_mem stored
    rw [same, ExternalTurnCorrelation.requestId, moves.request] at isBefore
    cases found.symm.trans isBefore
    exact Bool.false_ne_true (moves.running.symm.trans ended)
  | aside turns => exact turns ▸ stored

/-- A turn that has ended stays as it is, whatever calls follow and whichever of them fail. -/
theorem ended_turns_kept (engine : CoordinationEngine)
    (calls : List (TurnCall × (Nat → Surroundings))) (n later : Nat) :
    (turnsAt engine calls n).turns.rows.filter (·.phase.isTerminal) ⊆
      (turnsAt engine calls (n + later)).turns.rows := by
  intro turn member
  have ended := (mem_filter.mp member).2
  induction later with
  | zero => exact mem_of_mem_filter member
  | succ later ih =>
    cases position : calls[n + later]? with
    | none => rwa [← Nat.add_assoc, turnsAt, stateAt_succ_of_end position]
    | some call =>
      rw [← Nat.add_assoc, turnsAt, stateAt_succ position]
      obtain ⟨events, performed⟩ := performed_runTurns _ call
      obtain ⟨call, answers⟩ := call
      cases call with
      | elsewhere other => exact performed.2 ▸ ih
      | activate | promote | transition | transitionFromController | reconcile | hydrate =>
        exact performed.invariant (fun _ _ _ stored => ended_happens ended stored) ih

end RustyCrew.Proof.Coordination

import RustyCrew.Proof.Coordination.Bindings
import RustyCrew.Proof.Coordination.Turns
import RustyCrew.Proof.Engine.Crew

namespace RustyCrew.Proof.Coordination

open Library Protocol RustyCrew.Coordination CoordinationM Attended Effect Table ExternalTables List
open RustyCrew.Engine (Surroundings QueuedMessageRecord)
open RustyCrew.Proof.Engine (calm crewSession)

variable {engine : CoordinationEngine} {turn : ExternalTurnCorrelation}
  {found : Option (ExternalTurnRequestId × Bool)}

/-! ## Calls that do not fail -/

def Calm (s : Attended CoordinationEngine Surroundings) : Prop := ∀ n, (s.answers n).fault = none

section
variable {α : Type} {s : Attended CoordinationEngine Surroundings} {failure : CoreError}

theorem ask_eq (s : Attended CoordinationEngine Surroundings) :
    (Attended.ask : CoordinationM Surroundings) s = (.ok (s.answers 0), s.after s.state) := rfl

theorem call_answered (answered : (s.answers 0).fault = none) :
    call s = (.ok (s.answers 0), s.after s.state) := by
  rw [call, bind_ok (ask_eq s), answered]
  rfl

theorem call_failed (fault : (s.answers 0).fault = some failure) :
    call s = (.error failure, s.after s.state) := by
  rw [call, bind_ok (ask_eq s), fault]
  rfl

section
variable {statement : ExternalTables → CoreResult (α × ExternalTables)}

theorem inStore_failed (fault : (s.answers 0).fault = some failure) :
    inStore statement s = (.error failure, s.after s.state) :=
  bind_error (call_failed fault)

theorem inStore_answered (answered : (s.answers 0).fault = none) :
    inStore statement s = (.ok a, s') ↔ ∃ tables, statement s.state.tables = .ok (a, tables) ∧
      s' = s.after { s.state with tables } := by
  rw [inStore, bind_ok (call_answered answered), transact_returns]
  simp only [bind_eq_ok, pure_eq_ok, Prod.exists, Prod.mk.injEq, state_after]
  constructor
  · rintro ⟨_, ⟨_, tables, stated, rfl, rfl⟩, rfl⟩
    exact ⟨tables, stated, rfl⟩
  · rintro ⟨tables, stated, rfl⟩
    exact ⟨_, ⟨a, tables, stated, rfl, rfl⟩, rfl⟩

end

section
variable (calm : Calm s)
include calm

theorem Calm.after (engine) : Calm (s.after engine) :=
  fun n => calm (n + 1)

theorem Calm.remains (remains : Remains s.answers s') : Calm s' := by
  obtain ⟨k, rest⟩ := remains
  intro n
  rw [rest n]
  exact calm (n + k)

theorem call_calm : call s = (.ok (s.answers 0), s.after s.state) :=
  call_answered (calm 0)

theorem inStore_calm {statement : ExternalTables → CoreResult (α × ExternalTables)} :
    inStore statement s = (.ok a, s') ↔ ∃ tables, statement s.state.tables = .ok (a, tables) ∧
      s' = s.after { s.state with tables } :=
  inStore_answered (calm 0)

theorem load_calm (query : ExternalTables → α) :
    load query s = (.ok (query s.state.tables), s.after s.state) :=
  (inStore_calm calm).mpr ⟨_, rfl, rfl⟩

theorem publish_calm (event) : publish event s = (.ok (s.answers 0).sequence,
      s.after { s.state with published := s.state.published ++ [event] }) := by
  rw [publish, bind_ok (call_calm calm)]
  rfl

end

end

/-- Without failing calls, the computation returns with `Q`. -/
abbrev Completes {α : Type} (P : CoordinationEngine → Prop) (x : CoordinationM α)
    (Q : α → CoordinationEngine → Prop) : Prop :=
  Attends (fun outside : Surroundings => outside.fault = none) 0 P x 0 Q fun _ => False

section
variable {α : Type} {P : CoordinationEngine → Prop} {Q : α → CoordinationEngine → Prop}

theorem completes_inStore {statement : ExternalTables → CoreResult (α × ExternalTables)}
    (stated : ∀ e, P e → ∃ a tables, statement e.tables = .ok (a, tables) ∧ Q a { e with tables }) :
    Completes P (inStore statement) Q := by
  intro s pre
  obtain ⟨a, tables, answered, post⟩ := stated s.state pre.2
  have ran : inStore statement s = (.ok a, s.after { s.state with tables }) :=
    (inStore_answered (pre.1 0 (Nat.zero_le 0))).mpr ⟨tables, answered, rfl⟩
  rw [ran]
  exact ⟨fun n _ => pre.1 (n + 1) (Nat.zero_le _), post⟩

theorem completes_load {query : ExternalTables → α} (post : ∀ e, P e → Q (query e.tables) e) :
    Completes P (load query) Q :=
  completes_inStore fun e pre => ⟨_, _, rfl, post e pre⟩

theorem completes_findSession {Q : Option SessionState → CoordinationEngine → Prop}
    (post : ∀ e, P e → Q (e.registry.sessions.find? sessionId) e) :
    Completes P (findSession sessionId) Q :=
  fun _ pre => ⟨pre.1, post _ pre.2⟩

end

/-! ## Closing a turn -/

def closing (engine : CoordinationEngine) (turn : ExternalTurnCorrelation) :
    Option (ExternalTurnPhase × String) :=
  hydratedPhase (engine.registry.sessions.find? turn.request.sessionId)
    ((listExternalRuntimeRegistrations engine.tables).find? fun runtime =>
      runtime.runtimeId = turn.runtimeId)

variable (now : IsoTimestamp)

def closedTurn (turn : ExternalTurnCorrelation) (phase : ExternalTurnPhase)
    (reason : String) : ExternalTurnCorrelation :=
  { TurnTransition.next ⟨turn.requestId, phase, none, some reason, none, now⟩ turn
    with revision := turn.revision + 1 }

def closeTurn (s : Attended CoordinationEngine Surroundings) (closed : ExternalTurnCorrelation) :
    Attended CoordinationEngine Surroundings where
  state :=
    { s.state with tables := { s.state.tables with turns := s.state.tables.turns.put closed } }
  answers n := s.answers (n + 2)

def nativeOf (tables : ExternalTables) (requestId : ExternalTurnRequestId) :
    Option (ExternalRuntimeId × Option String) :=
  ((tables.turns.find? requestId).filter fun turn => turn.nativeTurnId.isSome).map fun turn =>
    (turn.runtimeId, turn.nativeTurnId)

def Unshared (tables : ExternalTables) (turn : ExternalTurnCorrelation) : Prop :=
  ∀ other, other ≠ turn.requestId → turn.nativeTurnId.isSome →
    nativeOf tables other ≠ some (turn.runtimeId, turn.nativeTurnId)

def sourceOf (tables : ExternalTables) (turn : ExternalTurnCorrelation) :
    Option Coordination.AgentMessageDeliveryReceipt :=
  turn.request.provenance.sourceId.bind fun sourceId =>
    tables.getAgentMessageDeliveryByMessageId (originalMessageId sourceId)

/-- Whether a routed turn answers a message: then the next message need not wait for a reply. -/
def isReply (tables : ExternalTables) (turn : ExternalTurnCorrelation) : Bool :=
  (sourceOf tables turn).any fun delivery => delivery.request.replyToMessageId.isSome

/-- The binding of a routed turn that answers no message is stored. -/
def Bound (tables : ExternalTables) (turn : ExternalTurnCorrelation) : Prop :=
  turn.request.provenance.kind = .routedAgentMessage → isReply tables turn = false →
    tables.bindings.find? turn.request.bindingId ≠ none

/-- The phase can follow that of the turn, no other turn of the runtime has its native turn, and its
binding is found when its end is looked at. -/
structure Endable (tables : ExternalTables) (turn : ExternalTurnCorrelation)
    (phase : ExternalTurnPhase) : Prop where
  allowed : turn.phase.canTransitionTo phase = true
  unshared : Unshared tables turn
  bound : Bound tables turn

/-- A message that waits for the session of the turn is for another agent or for a session that is
gone, so that it is not promoted. -/
def Quiet (engine : CoordinationEngine) (turn : ExternalTurnCorrelation) : Prop :=
  ∀ queued ∈ engine.tables.queue.rows, queued.state = .pending →
    queued.ownerSessionId = some turn.request.sessionId →
      recipientSessionChanged queued (engine.registry.sessions.find? turn.request.sessionId) = true

/-- Ending the turn and looking for a message to promote both succeed. -/
structure Closes (now : IsoTimestamp) (turn : ExternalTurnCorrelation) (phase : ExternalTurnPhase)
    (reason : String) (s : Attended CoordinationEngine Surroundings) : Prop where
  allowed : turn.phase.canTransitionTo phase = true
  unshared : Unshared s.state.tables turn
  promotes : (followUp (closedTurn now turn phase reason)
    (closeTurn s (closedTurn now turn phase reason))).1 = .ok ()

theorem closing_ends (isClosing : closing engine turn = some (phase, reason)) :
    phase = .interrupted ∨ phase = .outcomeUnknown := by
  unfold closing hydratedPhase at isClosing
  split at isClosing
  · cases isClosing
    exact .inl rfl
  · split at isClosing
    · cases isClosing
      exact .inr rfl
    · cases isClosing

theorem closing_isTerminal
    (isClosing : closing engine turn = some (phase, reason)) : phase.isTerminal = true := by
  rcases closing_ends isClosing with rfl | rfl <;> rfl

section
variable {tables after : ExternalTables}
variable {now : IsoTimestamp}

theorem unshared_iff : ¬(turn.nativeTurnId.isSome ∧ tables.turns.rows.any fun other =>
      other.requestId ≠ turn.requestId && other.runtimeId = turn.runtimeId &&
        other.nativeTurnId = turn.nativeTurnId) ↔ Unshared tables turn := by
  simp only [any_eq_true, Bool.and_eq_true, decide_eq_true_eq, not_and, not_exists, and_imp]
  constructor
  · intro alone id differs native same
    obtain ⟨other, kept, isPair⟩ := Option.map_eq_some_iff.mp same
    obtain ⟨found, -⟩ := Option.filter_eq_some_iff.mp kept
    obtain ⟨runtime, isNative⟩ := Prod.mk.inj isPair
    exact alone native other (mem_of_find? found) (key_of_find? found ▸ differs) runtime isNative
  · intro alone native other isRow differs runtime isNative
    refine alone other.requestId differs native ?_
    rw [nativeOf, find?_of_mem isRow, Option.filter_some_pos (by rw [isNative, native]),
      Option.map_some, runtime, isNative]

theorem update_closed (stored : tables.turns.find? turn.requestId = some turn)
    (running : turn.phase.isTerminal = false) (ends : phase.isTerminal = true) :
    tables.updateExternalTurn (TurnTransition.next
        ⟨turn.requestId, phase, none, some reason, none, now⟩ turn) turn.revision =
      .ok (saved, after) ↔
    turn.phase.canTransitionTo phase = true ∧ Unshared tables turn ∧
      saved = closedTurn now turn phase reason ∧
      after = { tables with turns := tables.turns.put saved } := by
  have differs : turn ≠ TurnTransition.next
      ⟨turn.requestId, phase, none, some reason, none, now⟩ turn := by
    intro same
    have samePhase : turn.phase = phase := congrArg (·.phase) same
    rw [samePhase, ends] at running
    cases running
  have found : tables.turns.find? (TurnTransition.next
      ⟨turn.requestId, phase, none, some reason, none, now⟩ turn).requestId = some turn := stored
  simp only [updateExternalTurn, found, orFail, ok_bind, if_neg differs]
  simp only [validateExternalTurnTransition, bind_eq_ok, rejectIf_eq_ok, pure_eq_ok, Prod.mk.injEq]
  constructor
  · rintro ⟨-, -, -, allowed, -, -, -, -, -, -, -, unshared, rfl, rfl⟩
    exact ⟨Bool.not_eq_false _ ▸ allowed, unshared_iff.mp unshared, rfl, rfl⟩
  · rintro ⟨allowed, unshared, rfl, rfl⟩
    exact ⟨(), fun other => other rfl, (), Bool.not_eq_false _ ▸ allowed, (),
      by simp [TurnTransition.next, ends], (), fun rebound => rebound.2 rfl, (),
      by simp [running], (), unshared_iff.mpr unshared, rfl, rfl⟩

end

section
variable {now : IsoTimestamp}

theorem transition_returns (calm : Calm s)
    (stored : s.state.tables.turns.find? turn.requestId = some turn)
    (running : turn.phase.isTerminal = false) (ends : phase.isTerminal = true) :
    transitionExternalTurn turn.requestId phase none (some reason) now s = (.ok saved, s') ↔
      Closes now turn phase reason s ∧ saved = closedTurn now turn phase reason ∧
        s' = (followUp (closedTurn now turn phase reason)
          (closeTurn s (closedTurn now turn phase reason))).2 := by
  have finds : findTurn turn.requestId s = (.ok turn, s.after s.state) := by
    rw [findTurn, bind_ok (load_calm calm _), stored]
    rfl
  unfold transitionExternalTurn transitionExternalTurnWithError
  rw [bind_ok finds, bind_returns]
  simp only [inStore_calm (calm.after _), state_after, update_closed stored running ends, running,
    ends, and_self, if_true]
  constructor
  · rintro ⟨_, _, ⟨_, ⟨allowed, unshared, rfl, rfl⟩, rfl⟩, ran⟩
    obtain ⟨_, _, followed, ended⟩ := bind_returns.mp ran
    cases ended
    exact ⟨⟨allowed, unshared, congrArg Prod.fst followed⟩, rfl, (congrArg Prod.snd followed).symm⟩
  · rintro ⟨closes, rfl, rfl⟩
    refine ⟨_, _, ⟨_, ⟨closes.allowed, closes.unshared, rfl, rfl⟩, rfl⟩, ?_⟩
    exact bind_returns.mpr ⟨(), _, Prod.ext closes.promotes rfl, rfl⟩

theorem findSession_eq (s : Attended CoordinationEngine Surroundings) (sessionId) :
    findSession sessionId s = (.ok (s.state.registry.sessions.find? sessionId), s) := rfl

theorem hydrateTurn_keeps (registry : s.state.registry = engine.registry)
    (kept : closing engine turn = none) :
    hydrateTurn (listExternalRuntimeRegistrations engine.tables) now turn s =
      (.ok (some (turn.requestId, false)), s) := by
  unfold closing at kept
  rw [← registry] at kept
  rw [hydrateTurn, bind_ok (findSession_eq s _), kept]
  rfl

theorem hydrateTurn_returns (calm : Calm s) (registry : s.state.registry = engine.registry)
    (stored : s.state.tables.turns.find? turn.requestId = some turn)
    (running : turn.phase.isTerminal = false)
    (isClosing : closing engine turn = some (phase, reason)) :
    hydrateTurn (listExternalRuntimeRegistrations engine.tables) now turn s = (.ok found, s') ↔
      Closes now turn phase reason s ∧ found = some (turn.requestId, true) ∧
        s' = (followUp (closedTurn now turn phase reason)
          (closeTurn s (closedTurn now turn phase reason))).2 := by
  have ends := closing_isTerminal isClosing
  unfold closing at isClosing
  rw [← registry] at isClosing
  rw [hydrateTurn, bind_ok (findSession_eq s _), isClosing]
  simp only [bind_returns, transition_returns calm stored running ends]
  constructor
  · rintro ⟨_, _, ⟨closes, rfl, rfl⟩, ended⟩
    cases ended
    exact ⟨closes, rfl, rfl⟩
  · rintro ⟨closes, rfl, rfl⟩
    exact ⟨_, _, ⟨closes, rfl, rfl⟩, rfl⟩

end

/-! ## What follows a turn that is closed -/

theorem bound_of_followUp (calm : Calm s) (ran : (followUp turn s).1 = .ok ()) :
    Bound s.state.tables turn := by
  intro routed plain missing
  obtain ⟨s₁, sourced, same, calm₁⟩ : ∃ s₁, sourceDelivery turn.request.provenance.sourceId s =
      (.ok (sourceOf s.state.tables turn), s₁) ∧ s₁.state = s.state ∧ Calm s₁ := by
    unfold sourceOf sourceDelivery
    cases turn.request.provenance.sourceId with
    | none => exact ⟨s, rfl, rfl, calm⟩
    | some sourceId => exact ⟨_, load_calm calm _, rfl, calm.after _⟩
  obtain ⟨failure, s₂, lost⟩ : ∃ failure s₂,
      externalTurnAllowsFollowUpPromotion turn s = (.error failure, s₂) := by
    unfold externalTurnAllowsFollowUpPromotion routedAllowsFollowUp
    rw [if_neg (by simp [routed]), bind_ok sourced, if_neg (by simpa [isReply] using plain),
      bind_ok (load_calm calm₁ _), same, missing]
    exact ⟨_, _, rfl⟩
  rw [followUp, bind_error lost] at ran
  cases ran

section
variable {P : CoordinationEngine → Prop}
  (ends : turn.phase = .interrupted ∨ turn.phase = .outcomeUnknown)
  (bound : ∀ e, P e → Bound e.tables turn)
include ends bound

theorem completes_allows :
    Completes P (externalTurnAllowsFollowUpPromotion turn) fun _ => P := by
  unfold externalTurnAllowsFollowUpPromotion
  split
  · exact attends_pure fun _ => id
  · next routed =>
    have sourced : Completes P (sourceDelivery turn.request.provenance.sourceId) fun delivery e =>
        delivery = sourceOf e.tables turn ∧ P e := by
      unfold sourceOf sourceDelivery
      cases turn.request.provenance.sourceId with
      | none => exact attends_pure fun _ pre => ⟨rfl, pre⟩
      | some sourceId => exact completes_load fun _ pre => ⟨rfl, pre⟩
    refine attends_bind sourced fun delivery => ?_
    split
    · exact attends_pure fun _ pre => pre.2
    · next plain =>
      refine attends_bind (Q := fun found e => found ≠ none ∧ P e) (completes_load fun e pre =>
        ⟨bound e pre.2 (not_not.mp routed) ?_, pre.2⟩) fun found => attends_assume fun stored => ?_
      · rw [Bool.not_eq_true, pre.1] at plain
        exact plain
      · obtain ⟨binding, rfl⟩ := Option.ne_none_iff_exists'.mp stored
        refine attends_then (attends_pure fun _ => id) fun binding => ?_
        unfold serialAllowsFollowUp
        split
        · exact attends_pure fun _ => id
        · rcases ends with ended | ended
          all_goals
            rw [ended]
            exact attends_pure fun _ => id

theorem completes_followUp (closed : FollowsUp P)
    (quiet : ∀ e, P e → Quiet e turn) : Completes P (followUp turn) fun _ _ => True := by
  have saves {queued : QueuedMessageRecord} :
      Completes (fun _ => True) (saveQueuedMessage queued) fun _ _ => True :=
    completes_inStore fun _ _ => ⟨_, _, rfl, trivial⟩
  have cancels : Completes (fun _ => True)
      (cancelPending turn.request.sessionId turn.updatedAt) fun _ _ => True :=
    attends_bind (Q := fun _ _ => True) (completes_load fun _ _ => trivial) fun _ =>
      attends_forEach fun _ _ => saves
  have promotes : Completes P
      (promoteNextExternalFollowUp turn.request.sessionId turn.updatedAt) fun _ _ => True := by
    refine attends_then (completes_inStore fun e holds =>
      ⟨_, _, rfl, closed.aside (dropped_expire _ turn.updatedAt) holds⟩) fun _ => ?_
    refine attends_bind (Q := fun pending e => (∀ queued, pending.head? = some queued →
      FirstPending e.tables.queue turn.request.sessionId queued) ∧ P e)
      (completes_load fun e holds => ⟨fun _ => firstPending_of_load, holds⟩) fun pending => ?_
    cases head : pending.head? with
    | none => exact attends_pure fun _ _ => trivial
    | some queued =>
      refine attends_bind (Q := fun session _ => recipientSessionChanged queued session = true)
        (completes_findSession fun e pre => ?_) fun session => ?_
      · have first := pre.1 queued rfl
        exact quiet e pre.2 queued first.stored first.pending first.owner
      · split
        · exact attends_bind (attends_weaken cancels (fun _ _ => trivial)
            (fun _ _ => id) fun _ => id)
            fun _ => attends_pure fun _ _ => trivial
        · next kept => exact attends_false fun _ changed => kept changed
  refine attends_bind (completes_allows ends bound) fun allowed => ?_
  split
  · exact attends_bind promotes fun _ => attends_pure fun _ _ => trivial
  · exact attends_pure fun _ _ => trivial

end

/-! ## The loop over the turns -/

def hydrated (engine : CoordinationEngine) (turn : ExternalTurnCorrelation) :
    ExternalTurnCorrelation :=
  match closing engine turn with
  | some (phase, reason) => closedTurn now turn phase reason
  | none => turn

/-- The turns of `done` have been looked at; the others are as they were listed. -/
structure Hydrating (now : IsoTimestamp) (engine : CoordinationEngine)
    (done : List ExternalTurnCorrelation) (e : CoordinationEngine) : Prop where
  registry : e.registry = engine.registry
  frame : ∃ turns queue, e.tables = { engine.tables with turns, queue }
  turns : ∀ turn ∈ engine.tables.listNonterminalExternalTurns, e.tables.turns.find? turn.requestId =
      some (if turn ∈ done then hydrated now engine turn else turn)
  natives : ∀ requestId, nativeOf e.tables requestId = nativeOf engine.tables requestId
  waiting : ∀ queued ∈ e.tables.queue.rows, queued.state = .pending →
    queued ∈ engine.tables.queue.rows

theorem pending_of_dropped {queue after : RustyCrew.Engine.Queue} (dropped : Dropped queue after)
    (isRow : queued ∈ after.rows) (pending : queued.state = .pending) : queued ∈ queue.rows := by
  obtain ⟨f, rows, each⟩ := dropped
  rw [rows, mem_map] at isRow
  obtain ⟨old, isOld, rfl⟩ := isRow
  rcases each old isOld with same | ⟨-, ended | ended, -⟩
  · rw [same]
    exact isOld
  · cases pending.symm.trans ended
  · cases pending.symm.trans ended

theorem followsUp_hydrating (engine) (done : List ExternalTurnCorrelation) :
    FollowsUp (Hydrating now engine done) where
  aside dropped hydrating := by
    obtain ⟨turns, queue, tables⟩ := hydrating.frame
    refine ⟨hydrating.registry, ⟨turns, _, by rw [tables]⟩, hydrating.turns, hydrating.natives,
      fun queued isRow pending => ?_⟩
    exact hydrating.waiting queued (pending_of_dropped dropped isRow pending) pending
  promoted happens hydrating := by
    obtain ⟨turns, queue, tables⟩ := hydrating.frame
    cases happens with
    | promoted opens first named keyed isDelivered rows =>
      refine ⟨hydrating.registry, ⟨_, _, by rw [tables]⟩, fun turn listed => ?_,
        fun requestId => ?_, fun other isRow pending => ?_⟩
      · have known := hydrating.turns turn listed
        rw [find?_put, if_neg]
        · exact known
        · intro same
          rw [← same, opens.fresh] at known
          cases known
      · rw [← hydrating.natives, nativeOf, find?_put]
        split
        · next same => simp [nativeOf, ← same, opens.fresh, opens.unbound]
        · rfl
      · rw [rows, mem_map] at isRow
        obtain ⟨old, isOld, rfl⟩ := isRow
        split at pending
        · rw [isDelivered] at pending
          cases pending
        · next differs =>
          rw [if_neg differs]
          exact hydrating.waiting old isOld pending

theorem listed_nonterminal (tables : ExternalTables) :
    tables.turns.Listed tables.listNonterminalExternalTurns :=
  listed_of_perm (perm_insertionSort _ _)

theorem running_of_listed {tables : ExternalTables} : turn ∈ tables.listNonterminalExternalTurns ↔
      turn ∈ tables.turns.rows ∧ turn.phase.isTerminal = false := by
  rw [listNonterminalExternalTurns, orderedBy, mem_insertionSort, mem_select, Bool.not_eq_true']

section
variable {now : IsoTimestamp} {engine : CoordinationEngine}
variable {turn : ExternalTurnCorrelation}
variable {s : Attended CoordinationEngine Surroundings}

theorem Hydrating.advanced {e : CoordinationEngine} (hydrating : Hydrating now engine done s.state)
    (isListed : turn ∈ engine.tables.listNonterminalExternalTurns)
    (turns : ∀ requestId, e.tables.turns.find? requestId =
      if turn.requestId = requestId then some (hydrated now engine turn)
      else s.state.tables.turns.find? requestId) :
    ∀ other ∈ engine.tables.listNonterminalExternalTurns, e.tables.turns.find? other.requestId =
      some (if other ∈ done ++ [turn] then hydrated now engine other else other) := by
  intro other isOther
  rw [turns]
  split
  · next same =>
    have merged := inj_on_of_nodup_map (listed_nonterminal engine.tables).distinct isListed
      isOther same
    simp [merged]
  · next differs =>
    have distinct : other ≠ turn := fun same => differs (same ▸ rfl)
    simp [hydrating.turns other isOther, distinct]

/-- Only the phase, the reason, the capacity, the revision and the time of the turn change. -/
theorem Hydrating.close (hydrating : Hydrating now engine done s.state)
    (isListed : turn ∈ engine.tables.listNonterminalExternalTurns)
    (stored : s.state.tables.turns.find? turn.requestId = some turn)
    (isClosing : closing engine turn = some (phase, reason)) :
    Hydrating now engine (done ++ [turn])
      (closeTurn s (closedTurn now turn phase reason)).state := by
  obtain ⟨turns, queue, tables⟩ := hydrating.frame
  refine ⟨hydrating.registry, ⟨_, queue, by rw [closeTurn, tables]⟩,
    hydrating.advanced isListed fun requestId => ?_, fun requestId => ?_, hydrating.waiting⟩
  · rw [closeTurn, find?_put, hydrated, isClosing]
    rfl
  · rw [← hydrating.natives, nativeOf, closeTurn, find?_put]
    split
    · next same =>
      have known : s.state.tables.turns.find? requestId = some turn := same ▸ stored
      simp [nativeOf, known, closedTurn, TurnTransition.next, Option.filter]
    · rfl

section
variable (hydrating : Hydrating now engine done s.state)
variable (listed : engine.tables.listNonterminalExternalTurns = done ++ turn :: rest)
include hydrating listed

theorem stored_of_hydrating :
    turn ∈ engine.tables.listNonterminalExternalTurns ∧ turn.phase.isTerminal = false ∧
      s.state.tables.turns.find? turn.requestId = some turn := by
  have isListed : turn ∈ engine.tables.listNonterminalExternalTurns := by simp [listed]
  have notDone : turn ∉ done := by
    have distinct := (listed_nonterminal engine.tables).distinct.of_map
    rw [listed, nodup_append] at distinct
    exact fun isDone => distinct.2.2 turn isDone turn mem_cons_self rfl
  have stored := hydrating.turns turn isListed
  rw [if_neg notDone] at stored
  exact ⟨isListed, (running_of_listed.mp isListed).2, stored⟩

variable (calm : Calm s)
include calm

theorem hydrateTurn_iff :
    (∃ found s', hydrateTurn (listExternalRuntimeRegistrations engine.tables) now turn s =
        (.ok found, s')) ↔
      ∀ phase reason, closing engine turn = some (phase, reason) →
        Closes now turn phase reason s := by
  obtain ⟨-, running, stored⟩ := stored_of_hydrating hydrating listed
  cases isClosing : closing engine turn with
  | none => simp [hydrateTurn_keeps hydrating.registry isClosing]
  | some chosen =>
    obtain ⟨phase, reason⟩ := chosen
    simp [hydrateTurn_returns calm hydrating.registry stored running isClosing]

theorem hydrateTurn_step
    (ran : hydrateTurn (listExternalRuntimeRegistrations engine.tables) now turn s =
      (.ok found, s')) :
    found = some (turn.requestId, (closing engine turn).isSome) ∧ Calm s' ∧
      Hydrating now engine (done ++ [turn]) s'.state := by
  obtain ⟨isListed, running, stored⟩ := stored_of_hydrating hydrating listed
  cases isClosing : closing engine turn with
  | none =>
    rw [hydrateTurn_keeps hydrating.registry isClosing] at ran
    cases ran
    refine ⟨rfl, calm, hydrating.registry, hydrating.frame,
      hydrating.advanced isListed fun requestId => ?_, hydrating.natives, hydrating.waiting⟩
    split
    · next same => simp [← same, stored, hydrated, isClosing]
    · rfl
  | some chosen =>
    obtain ⟨phase, reason⟩ := chosen
    obtain ⟨-, rfl, rfl⟩ :=
      (hydrateTurn_returns calm hydrating.registry stored running isClosing).mp ran
    obtain ⟨remains, kept⟩ :=
      (preserves_followUp (followsUp_hydrating now engine (done ++ [turn]))).preserves
        (hydrating.close isListed stored isClosing)
    exact ⟨rfl, Calm.remains (fun n => calm (n + 2)) remains, kept⟩

end

theorem Hydrating.reads (hydrating : Hydrating now engine done e)
    (turn : ExternalTurnCorrelation) :
    (Unshared e.tables turn ↔ Unshared engine.tables turn) ∧
      (Bound e.tables turn ↔ Bound engine.tables turn) := by
  obtain ⟨turns, queue, tables⟩ := hydrating.frame
  constructor
  · simp only [Unshared, hydrating.natives]
  · rw [tables]
    rfl

theorem endable_of_closes (hydrating : Hydrating now engine done s.state) (calm : Calm s)
    (closes : Closes now turn phase reason s) : Endable engine.tables turn phase := by
  obtain ⟨unshared, bound⟩ := hydrating.reads turn
  have closed : Bound (closeTurn s (closedTurn now turn phase reason)).state.tables
      (closedTurn now turn phase reason) :=
    bound_of_followUp (fun n => calm (n + 2)) closes.promotes
  exact ⟨closes.allowed, unshared.mp closes.unshared, bound.mp closed⟩

theorem closes_of_endable (hydrating : Hydrating now engine done s.state)
    (listed : engine.tables.listNonterminalExternalTurns = done ++ turn :: rest) (calm : Calm s)
    (isClosing : closing engine turn = some (phase, reason))
    (endable : Endable engine.tables turn phase ∧ Quiet engine turn) :
    Closes now turn phase reason s := by
  obtain ⟨isListed, -, stored⟩ := stored_of_hydrating hydrating listed
  refine ⟨endable.1.allowed, (hydrating.reads turn).1.mpr endable.1.unshared, ?_⟩
  have follows : Completes _ (followUp (closedTurn now turn phase reason)) _ :=
    completes_followUp (closing_ends isClosing)
      (fun e later => (later.reads _).2.mpr endable.1.bound)
      (followsUp_hydrating now engine (done ++ [turn])) fun e later queued isRow pending owner => by
        rw [later.registry]
        exact endable.2 queued (later.waiting queued isRow pending) pending owner
  have ran := follows _ ⟨fun n _ => calm (n + 2), hydrating.close isListed stored isClosing⟩
  split at ran
  · next same => rw [same]
  · exact ran.elim

def hydrateTurns (now : IsoTimestamp) (engine : CoordinationEngine)
    (turns : List ExternalTurnCorrelation) :
    CoordinationM (List (ExternalTurnRequestId × Bool)) :=
  gather (hydrateTurn (listExternalRuntimeRegistrations engine.tables) now) turns

section
variable (calm : Calm s) (hydrating : Hydrating now engine done s.state)
variable (listed : engine.tables.listNonterminalExternalTurns = done ++ rest)
include calm hydrating listed

theorem hydrateTurns_ok {found : List (ExternalTurnRequestId × Bool)}
    (ran : hydrateTurns now engine rest s = (.ok found, s')) :
    found = rest.map (fun turn => (turn.requestId, (closing engine turn).isSome)) ∧
      (∀ turn ∈ rest, ∀ phase reason, closing engine turn = some (phase, reason) →
        Endable engine.tables turn phase) ∧ Calm s' ∧
      Hydrating now engine engine.tables.listNonterminalExternalTurns s'.state := by
  induction rest generalizing done s found with
  | nil =>
    cases ran
    rw [listed, append_nil]
    exact ⟨rfl, by simp, calm, hydrating⟩
  | cons turn rest ih =>
    obtain ⟨one, middle, once, others, gathered, rfl⟩ := gather_returns.mp ran
    have first := (hydrateTurn_iff hydrating listed calm).mp ⟨one, middle, once⟩
    obtain ⟨rfl, calmLater, later⟩ := hydrateTurn_step hydrating listed calm once
    obtain ⟨rfl, endable, ended⟩ := ih calmLater later (by simp [listed]) gathered
    refine ⟨rfl, fun other isOther phase reason isClosing => ?_, ended⟩
    rcases mem_cons.mp isOther with rfl | isLater
    · exact endable_of_closes hydrating calm (first phase reason isClosing)
    · exact endable other isLater phase reason isClosing

theorem hydrateTurns_succeed (endable : ∀ turn ∈ rest, ∀ phase reason,
      closing engine turn = some (phase, reason) →
        Endable engine.tables turn phase ∧ Quiet engine turn) :
    ∃ found s', hydrateTurns now engine rest s = (.ok found, s') := by
  induction rest generalizing done s with
  | nil => exact ⟨[], s, rfl⟩
  | cons turn rest ih =>
    obtain ⟨one, middle, once⟩ := (hydrateTurn_iff hydrating listed calm).mpr
      fun phase reason isClosing => closes_of_endable hydrating listed calm isClosing
        (endable turn mem_cons_self phase reason isClosing)
    obtain ⟨-, calmLater, later⟩ := hydrateTurn_step hydrating listed calm once
    obtain ⟨others, s', gathered⟩ := ih calmLater later (by simp [listed]) fun other isLater =>
      endable other (mem_cons_of_mem _ isLater)
    exact ⟨_, s', gather_returns.mpr ⟨one, middle, once, others, gathered, rfl⟩⟩

end

end

/-! ## Interactions, rounds and deliveries -/

section
variable (now : IsoTimestamp)

theorem gather_settles {ρ κ β : Type} [DecidableEq κ] {key : ρ → κ} {rows : List ρ}
    (table : ExternalTables → Table key) {test : ρ → Bool} {f : ρ → CoordinationM (Option β)}
    (calm : Calm s) (perm : rows.Perm ((table s.state.tables).select test))
    (step : ∀ a s, Calm s → (table s.state.tables).find? (key a) = some a → test a = true →
      ∃ one s', f a s = (.ok one, s') ∧ Calm s' ∧ s'.state.tables.turns = s.state.tables.turns ∧
        (table s'.state.tables = table s.state.tables ∨
          ∃ b, table s'.state.tables = (table s.state.tables).put b ∧ key b = key a)) :
    ∃ found s', gather f rows s = (.ok found, s') ∧ Calm s' ∧
      s'.state.tables.turns = s.state.tables.turns := by
  have advance : ∀ a rest (middle : Attended CoordinationEngine Surroundings),
      (Calm middle ∧ middle.state.tables.turns = s.state.tables.turns ∧
        (table middle.state.tables).Listed (a :: rest) ∧ ∀ b ∈ a :: rest, test b = true) →
      ∃ one next, f a middle = (.ok one, next) ∧ Calm next ∧
        next.state.tables.turns = s.state.tables.turns ∧
        (table next.state.tables).Listed rest ∧ ∀ b ∈ rest, test b = true := by
    rintro a rest middle ⟨calm, same, listed, pending⟩
    obtain ⟨one, next, ran, calm, kept, written⟩ := step a middle calm
      (listed.stored a mem_cons_self) (pending a mem_cons_self)
    refine ⟨one, next, ran, calm, kept.trans same, ?_, fun b left => pending b (.tail _ left)⟩
    rcases written with unchanged | ⟨b, put, sameKey⟩
    · rw [unchanged]
      exact listed.tail
    · rw [put]
      exact listed.put sameKey
  have pending : ∀ a ∈ rows, test a = true := fun a member =>
    (mem_select.mp (perm.mem_iff.mp member)).2
  obtain ⟨found, s', ran, calm, same, -⟩ := gather_succeeds
    (R := fun rest s' => Calm s' ∧ s'.state.tables.turns = s.state.tables.turns ∧
      (table s'.state.tables).Listed rest ∧ ∀ b ∈ rest, test b = true)
    advance ⟨calm, rfl, listed_of_perm perm, pending⟩
  exact ⟨found, s', ran, calm, same⟩

theorem hydrateInteractions_succeed (calm : Calm s) : ∃ found s',
    gather (hydrateInteraction now) s.state.tables.listPendingExternalInteractions s =
      (.ok found, s') ∧ Calm s' ∧ s'.state.tables.turns = s.state.tables.turns := by
  refine gather_settles interactions calm (perm_insertionSort _ _)
    fun interaction s calm stored pending => ?_
  unfold hydrateInteraction
  split
  · have updates := updateExternalInteraction_ok
      { interaction with status := .expired, resolvedAt := some now } stored
      (of_decide_eq_true pending) (by simp)
    exact ⟨_, _, bind_ok ((inStore_calm calm).mpr ⟨_, updates, rfl⟩), calm.after _, rfl,
      .inr ⟨_, rfl, rfl⟩⟩
  · exact ⟨none, s, rfl, calm, rfl, .inl rfl⟩

theorem hydrateRounds_succeed (calm : Calm s) : ∃ found s',
    gather (hydrateRound now) s.state.tables.listPendingAgentRounds s = (.ok found, s') ∧
      Calm s' ∧ s'.state.tables.turns = s.state.tables.turns := by
  refine gather_settles ExternalTables.rounds calm (perm_insertionSort _ _)
    fun round s calm stored pending => ?_
  unfold hydrateRound
  split
  · have updates := updateAgentCorrelatedRound_ok (expiredRound now round) stored
      (of_decide_eq_true pending) (by simp [expiredRound])
    have saved : inStore (fun tables =>
        tables.updateAgentCorrelatedRound (expiredRound now round) round.revision) s = _ :=
      (inStore_calm calm).mpr ⟨_, updates, rfl⟩
    exact ⟨_, _, (bind_ok saved).trans (bind_ok (publish_calm (calm.after _) _)),
      (calm.after _).after _, rfl, .inr ⟨_, rfl, rfl⟩⟩
  · exact ⟨none, s, rfl, calm, rfl, .inl rfl⟩

theorem hydrateDeliveries_succeed (calm : Calm s) : ∃ found s',
    gather (hydrateDelivery now) s.state.tables.listPendingAgentMessageDeliveries s =
      (.ok found, s') ∧ Calm s' ∧ s'.state.tables.turns = s.state.tables.turns := by
  refine gather_settles deliveries calm (perm_insertionSort _ _)
    fun delivery s calm stored pending => ?_
  have sameId : (reconciledDelivery now delivery).deliveryId = delivery.deliveryId := by
    unfold reconciledDelivery
    split <;> rfl
  have ended : (reconciledDelivery now delivery).status ≠ .pending := by
    unfold reconciledDelivery
    split <;> simp
  unfold hydrateDelivery
  split
  · exact ⟨none, s, rfl, calm, rfl, .inl rfl⟩
  · have updates := updateAgentMessageDelivery_ok (sameId ▸ stored) (of_decide_eq_true pending)
      ended
    have saved : inStore (fun tables =>
        tables.updateAgentMessageDelivery (reconciledDelivery now delivery) delivery.revision) s =
        _ := (inStore_calm calm).mpr ⟨_, updates, rfl⟩
    exact ⟨_, _, (bind_ok saved).trans (bind_ok (publish_calm (calm.after _) _)),
      (calm.after _).after _, rfl, .inr ⟨_, rfl, sameId⟩⟩

end

/-! ## Hydration -/

def undisturbed (engine : CoordinationEngine) (answers : Nat → Surroundings) :
    Attended CoordinationEngine Surroundings :=
  ⟨engine, fun n => { answers n with fault := none }⟩

structure TurnsSettled (engine after : CoordinationEngine)
    (report : ExternalRuntimeHydrationReport) : Prop where
  ended : ∀ turn ∈ engine.tables.turns.rows, turn.phase.isTerminal = false →
    closing engine turn ≠ none → ∃ closed, after.tables.turns.find? turn.requestId = some closed ∧
      closed.phase.isTerminal = true
  reported : ∀ turn ∈ engine.tables.turns.rows, turn.phase.isTerminal = false →
    closing engine turn = none → turn.requestId ∈ report.driverReconciliationRequestIds

theorem hydrating_start : Hydrating now engine [] engine :=
  ⟨rfl, ⟨_, _, rfl⟩, fun turn isListed => (listed_nonterminal engine.tables).stored turn isListed,
    fun _ => rfl, fun _ isRow _ => isRow⟩

theorem Hydrating.terminal {now : IsoTimestamp} {e : CoordinationEngine}
    (hydrating : Hydrating now engine engine.tables.listNonterminalExternalTurns e)
    (isRow : turn ∈ engine.tables.turns.rows) (running : turn.phase.isTerminal = false)
    (isClosing : closing engine turn ≠ none) :
    ∃ closed, e.tables.turns.find? turn.requestId = some closed ∧
      closed.phase.isTerminal = true := by
  have isListed := running_of_listed.mpr ⟨isRow, running⟩
  have stored := hydrating.turns turn isListed
  rw [if_pos isListed] at stored
  refine ⟨_, stored, ?_⟩
  unfold hydrated
  split
  · next phase reason chosen => exact closing_isTerminal chosen
  · next none => exact absurd none isClosing

/-- The claimed outcome of a hydration in which no call fails. -/
def Settles (now : IsoTimestamp) (engine : CoordinationEngine) (answers : Nat → Surroundings) :
    Prop :=
  ∃ report after, hydrateExternalRuntimeLifecycle now (undisturbed engine answers) =
    (.ok report, after) ∧ TurnsSettled engine after.state report

def EachClosing (engine : CoordinationEngine)
    (holds : ExternalTurnCorrelation → ExternalTurnPhase → Prop) : Prop :=
  ∀ turn ∈ engine.tables.turns.rows, turn.phase.isTerminal = false → ∀ phase reason,
    closing engine turn = some (phase, reason) → holds turn phase

def crewEngine (names : List String) : CoordinationEngine where
  registry := .fromStates (names.zipIdx.map fun (name, n) =>
    { crewSession (n + 1) (name ++ "-session") none with agentId := ⟨name ++ "-agent"⟩ })
  tables := run (ExternalTables.serve fun _ => 0) .empty (.registerRuntime codexRuntime none ::
    names.flatMap fun name =>
      [.saveSession ⟨name ++ "-session"⟩, .putBinding (crewBinding name) none])
  reviews := .empty
  published := []
  displayName _ := none
  attachments _ := []

def requestFor (name : String) : AgentActivationRequest :=
  ⟨⟨name ++ "-agent"⟩, ⟨"agent-message:m"⟩, "m", [.text "hello"], none,
    ⟨.routedAgentMessage, some "m", none⟩, none, "capacity", "wake", "queue",
    "2026-01-01T00:00:00Z", none⟩

end RustyCrew.Proof.Coordination

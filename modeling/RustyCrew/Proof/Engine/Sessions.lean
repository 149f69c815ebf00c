import RustyCrew.Proof.Engine.Calls
import RustyCrew.Proof.Lifecycle.Advance

namespace RustyCrew.Proof.Engine

open Library Protocol RustyCrew.Persistence RustyCrew.Lifecycle Table
open RustyCrew.Engine RustyCrew.Proof.Persistence RustyCrew.Proof.Lifecycle CoreEngine

variable {s : Store}

/-! ## The turns of one session -/

theorem admits_of_absent (step : TurnStep op v v') (absent : v.record = none) :
    ∃ write, op = .admitTurn write ∧ v'.record = some write.admission.record := by
  cases step with
  | @admitTurn write valid => exact ⟨write, rfl, rfl⟩
  | claim stored | yield stored | requireAttention stored | resolveAttention stored
  | complete stored | cancel stored | leaseOperation stored | completeOperation stored
  | finalize stored | interrupt stored | refresh stored | recover stored =>
    rw [absent] at stored
    cases stored

theorem step_turn (grounded : GroundedStore s) (op : Op) {id : LogicalTurnId}
    {record : LogicalTurnRecord} (stored : (s.step op).loadTurn id = some record) :
    (∃ write, op = .admitTurn write ∧ record = write.admission.record) ∨
      ∃ before, s.loadTurn id = some before ∧ before.sessionId = record.sessionId ∧
        (record.phase.isTerminal = false → before.phase.isTerminal = false) := by
  have viewed : (view (s.step op) id).record = some record := stored
  rcases step_follows grounded op id with same | step
  · rw [same] at viewed
    exact .inr ⟨record, viewed, rfl, fun active => active⟩
  cases step_outcome step with
  | kept kept =>
    rw [kept] at viewed
    exact .inr ⟨record, viewed, rfl, fun active => active⟩
  | admitted absent =>
    obtain ⟨write, isAdmission, new⟩ := admits_of_absent step (by rw [absent]; rfl)
    rw [viewed, Option.some.injEq] at new
    exact .inl ⟨write, isAdmission, new⟩
  | moved before after moves =>
    rw [viewed, Option.some.injEq] at after
    subst after
    exact .inr ⟨_, before, moves.session.symm, fun _ => moves.active⟩

def Exclusive (s : Store) : Prop :=
  ∀ id id' record record', s.loadTurn id = some record → s.loadTurn id' = some record' →
    record.sessionId = record'.sessionId → record.phase.isTerminal = false →
    record'.phase.isTerminal = false → id = id'

def SessionEnded (s : Store) (sessionId : SessionId) : Prop :=
  ∀ record ∈ s.turns.rows, record.sessionId = sessionId → record.phase.isTerminal = true

theorem step_exclusive (grounded : GroundedStore s) (admitsNone : ∀ write, op ≠ .admitTurn write)
    (exclusive : Exclusive s) : Exclusive (s.step op) := by
  have old : ∀ {id : LogicalTurnId} {record : LogicalTurnRecord},
      (s.step op).loadTurn id = some record → ∃ before, s.loadTurn id = some before ∧
        before.sessionId = record.sessionId ∧
        (record.phase.isTerminal = false → before.phase.isTerminal = false) := by
    intro id record stored
    rcases step_turn grounded op stored with ⟨write, isAdmission, -⟩ | before
    · exact (admitsNone write isAdmission).elim
    · exact before
  intro id id' record record' stored stored' same active active'
  obtain ⟨before, was, session, going⟩ := old stored
  obtain ⟨before', was', session', going'⟩ := old stored'
  exact exclusive id id' before before' was was' (by rw [session, session', same]) (going active)
    (going' active')

theorem admission_exclusive {write : LogicalTurnAdmissionWrite} (grounded : GroundedStore s)
    (exclusive : Exclusive s) (ended : SessionEnded s write.admission.record.sessionId) :
    Exclusive (s.step (.admitTurn write)) := by
  -- a turn of the admitted one's session that is still going on can only be the admitted one
  have new : ∀ {id : LogicalTurnId} {record : LogicalTurnRecord},
      (s.step (.admitTurn write)).loadTurn id = some record →
      record.sessionId = write.admission.record.sessionId → record.phase.isTerminal = false →
      record = write.admission.record := by
    intro id record stored session active
    rcases step_turn grounded _ stored with ⟨write', isAdmission, rfl⟩ | ⟨before, was, same, going⟩
    · cases isAdmission
      rfl
    · have terminal := ended before (mem_of_find? was) (by rw [same, session])
      rw [going active] at terminal
      cases terminal
  intro id id' record record' stored stored' same active active'
  rcases step_turn grounded _ stored with ⟨write', isAdmission, rfl⟩ | ⟨before, was, session, going⟩
  · cases isAdmission
    have other := new stored' same.symm active'
    rw [← key_of_find? stored, ← key_of_find? stored', other]
  rcases step_turn grounded _ stored' with
    ⟨write', isAdmission, rfl⟩ | ⟨before', was', session', going'⟩
  · cases isAdmission
    have other := new stored same active
    rw [← key_of_find? stored, ← key_of_find? stored', other]
  · exact exclusive id id' before before' was was' (by rw [session, session', same])
      (going active) (going' active')

/-! ## The tickets of one session -/

def Ticketed (v : TurnView) : Prop :=
  ∀ ticket, v.ticket = some ticket →
    ∃ record, v.record = some record ∧ ticket.sessionId = record.sessionId

theorem step_ticketed (step : TurnStep op v v') (ticketed : Ticketed v) : Ticketed v' := by
  cases step with
  | admitTurn | yield | resolveAttention | recover =>
    intro ticket issued
    cases issued
    exact ⟨_, rfl, rfl⟩
  | claim | requireAttention | complete | cancel | finalize =>
    intro ticket issued
    cases issued
  | leaseOperation | completeOperation => exact ticketed
  | interrupt stored =>
    intro ticket issued
    obtain ⟨record, stored', session⟩ := ticketed ticket issued
    cases stored.symm.trans stored'
    exact ⟨_, rfl, session⟩
  | refresh stored =>
    intro ticket issued
    cases issued
    exact ⟨_, stored, rfl⟩

structure TicketedStore (s : Store) : Prop where
  consistent : ConsistentStore s
  ticketed : ∀ id, Ticketed (view s id)

theorem ticketedStore_empty : TicketedStore Store.empty := by
  refine ⟨consistentStore_empty, fun id ticket issued => ?_⟩
  cases issued

theorem step_ticketedStore (allowed : EngineOp op) (ticketed : TicketedStore s) :
    TicketedStore (s.step op) := by
  refine ⟨step_consistentStore (engineOp_fresh allowed) ticketed.consistent,
    step_views ticketed.consistent.1 ticketed.ticketed fun id step => ?_⟩
  exact step_ticketed step (ticketed.ticketed id)

theorem ticket_turn (store : TicketedStore s) (member : ticket ∈ sessionTickets s sessionId) :
    ∃ record, s.loadTurn ticket.logicalTurnId = some record ∧ record.sessionId = sessionId ∧
      record.phase.isTerminal = false := by
  simp only [sessionTickets, List.mem_filter, decide_eq_true_eq,
    Store.listLogicalTurnTickets, List.mem_insertionSort] at member
  have issued : (view s ticket.logicalTurnId).ticket = some ticket := find?_of_mem member.1
  obtain ⟨record, stored, session⟩ := store.ticketed _ ticket issued
  refine ⟨record, stored, session.symm.trans member.2, ?_⟩
  have valid := (store.consistent.2 _ record stored).ticket
  cases runnable : record.phase.isRunnable with
  | false =>
    rw [runnable, issued] at valid
    cases valid
  | true => exact (runnable_phase runnable).2.2

theorem length_le_one {α κ : Type} {key : α → κ} {items : List α} (unique : (items.map key).Nodup)
    (same : ∀ a ∈ items, ∀ b ∈ items, key a = key b) : items.length ≤ 1 := by
  cases items with
  | nil => simp
  | cons a rest =>
    cases rest with
    | nil => simp
    | cons b rest =>
      have equal := same a (by simp) b (by simp)
      simp [equal] at unique

theorem sessionTickets_single (store : TicketedStore s) (exclusive : Exclusive s) (sessionId) :
    (sessionTickets s sessionId).length ≤ 1 := by
  have unique : ((sessionTickets s sessionId).map
      LogicalTurnContinuationTicket.logicalTurnId).Nodup := by
    refine List.Nodup.sublist (List.filter_sublist.map _) ?_
    exact ((List.perm_insertionSort _ s.tickets.rows).map _).nodup_iff.mpr s.tickets.unique
  refine length_le_one unique fun a member b member' => ?_
  obtain ⟨record, stored, session, active⟩ := ticket_turn store member
  obtain ⟨record', stored', session', active'⟩ := ticket_turn store member'
  exact exclusive _ _ record record' stored stored' (session.trans session'.symm) active active'

/-! ## A service to run the engine in -/

def sampleNow : IsoTimestamp := "2026-01-01T00:00:00Z"

def sampleSession (sessionId : SessionId) : SessionState where
  handle := 1
  sessionId := sessionId
  agentId := ⟨"agent"⟩
  profileId := ⟨"profile"⟩
  kind := .full
  delegation := none
  workspace := none
  resourceLimits := ⟨none, none⟩
  toolProfile := ⟨[]⟩
  historyWindow := none
  inferenceOverrides := ⟨none⟩
  status := .idle
  brainTurnCount := 0
  createdAt := sampleNow
  lastActiveAt := sampleNow

def sampleBody (sessionId : SessionId) : BodyState :=
  ⟨sampleSession sessionId, [], [], [], [], .object []⟩

def sampleBodyJson : List UInt8 := utf8Bytes "\x7b\"pending_messages\":[]\x7d"

def sampleServices : Services where
  serviceInstanceId := "service"
  clock := fun _ => sampleNow
  publish := fun _ _ => .ok ()
  getSession := fun sessionId => .ok (sampleSession sessionId)
  queuedDirectDeliveryRearmable := fun _ _ => .ok .skip
  projectBodyState := fun sessionId => .ok (sampleBody sessionId)
  encodeBodyState := fun _ => .ok sampleBodyJson
  decodeBodyState := fun _ => .ok (sampleBody ⟨"session"⟩)
  utf8Error := fun _ => "invalid utf-8 sequence"
  getProfileRegistryRecord := fun _ => .ok none
  getModelConfiguration := fun _ => .ok none
  getModelEndpoint := fun _ => .ok none
  getModelProvider := fun _ => .ok none
  getServiceCredentialRevision := fun _ => .ok none

def sampleWake (moduleId wakeId : String) : Wake where
  registration :=
    { implementationId := moduleId
      profileId := ⟨"profile"⟩
      toolProfile := .object []
      modelConfig := ⟨"provider", "model", none, none, none, none, none, none⟩
      strategy := none
      providerStateScope := some ⟨"profile fingerprint", "provider fingerprint"⟩ }
  sessionId := ⟨"session"⟩
  sourceWakeId := wakeId
  systemPrompt := "prompt"
  roleAssemblyJson := utf8Bytes "[]"

def sampleBinding (moduleId : String) : LogicalTurnBindingSnapshot where
  profileId := ⟨"profile"⟩
  profileRevision := 0
  promptFingerprint := "profile fingerprint"
  toolSelectionFingerprint := jsonFingerprint (.object [])
  toolRegistryRevision := jsonFingerprint (.object [])
  brainModuleId := moduleId
  brainStrategyId := "default"
  modelConfigId := "provider"
  modelConfigRevision := 0
  endpointId := "provider"
  endpointRevision := 0
  providerAlias := none
  providerRevision := none
  providerFingerprint := "provider fingerprint"
  credentialId := none
  credentialRevision := none

def wakeClaim (moduleId wakeId : String) : LogicalTurnContinuationClaim :=
  let wake := sampleWake moduleId wakeId
  let record := admittedRecord wake (sampleBinding moduleId) sampleNow
  ⟨claimedRecord record (claimRequest record record.currentContinuationId "service" sampleNow),
    admittedCheckpoint wake sampleBodyJson sampleNow, 1, false⟩

def samplePayload (moduleId : String) : BrainContinuationPayload :=
  ⟨moduleId, "1", jsonFingerprint (.object []), .object []⟩

def sampleAttention : BrainWakeAttention :=
  ⟨.noProgress, "no_progress", "the brain makes no progress", [], [.retryUnchanged, .cancel],
    true, 3⟩

def wakeCall (moduleId wakeId : String) : EngineCall :=
  .prepare sampleServices (sampleWake moduleId wakeId)

def settleCall (wakeId : String) (result : LogicalTurnEpochResult) : EngineCall :=
  .settle sampleServices (wakeClaim "chat" wakeId) result none

/-! ## Two tickets for one session -/

/-- A first turn stops for attention, a second wake starts another turn that yields, and then the
operator lets the first one continue. -/
def doubledRun : List EngineCall :=
  [wakeCall "chat" "wake-1",
    settleCall "wake-1" (.attentionRequired (samplePayload "chat") sampleAttention),
    wakeCall "chat" "wake-2", settleCall "wake-2" (.yielded (samplePayload "chat")),
    .resolve sampleServices (admittedTurnId (sampleWake "chat" "wake-1")) 3 .retryUnchanged]

def doubledEngine : CoreEngine := run CoreEngine.step CoreEngine.fresh doubledRun

theorem two_tickets_for_one_session :
    (sessionTickets doubledEngine.store ⟨"session"⟩).length = 2 ∧
      (prepareLogicalTurnWake sampleServices (sampleWake "chat" "wake-3") doubledEngine).1 = .error
          ⟨.internalError, "session session has more than one runnable logical turn"⟩ := by
  decide +kernel

/-! ## One ticket for each session -/

/-- A wake of a session that has no ticket comes only when its turns have all ended. -/
def WakesEndedSession (e : CoreEngine) : EngineCall → Prop
  | .prepare _ wake =>
    sessionTickets e.store wake.sessionId = [] → SessionEnded e.store wake.sessionId
  | _ => True

instance (s : Store) (sessionId : SessionId) : Decidable (SessionEnded s sessionId) := by
  unfold SessionEnded
  infer_instance

instance (e : CoreEngine) (call : EngineCall) : Decidable (WakesEndedSession e call) := by
  cases call <;> unfold WakesEndedSession <;> infer_instance

structure SessionsKept (e : CoreEngine) : Prop where
  store : TicketedStore e.store
  exclusive : Exclusive e.store

theorem calls_sessionsKept (calls : Calls Continues s s') (store : TicketedStore s)
    (exclusive : Exclusive s) : TicketedStore s' ∧ Exclusive s' :=
  @calls_invariant _ _ _ (fun s => TicketedStore s ∧ Exclusive s) calls ⟨store, exclusive⟩
    fun _ _ kept continues =>
      ⟨step_ticketedStore (.inl continues) kept.1,
        step_exclusive kept.1.consistent.1 continues.not_admission kept.2⟩

theorem step_sessionsKept (e : CoreEngine) (call) (kept : SessionsKept e)
    (condition : WakesEndedSession e call) : SessionsKept (e.step call) := by
  obtain ⟨store, exclusive⟩ := kept
  rcases step_calls e call with
    calls | ⟨op, operates, called⟩ | ⟨services, wake, rfl, ticketless, admitted⟩
  · obtain ⟨store', exclusive'⟩ := calls_sessionsKept calls store exclusive
    exact ⟨store', exclusive'⟩
  · refine ⟨called ▸ step_ticketedStore (.inr (.inl operates)) store, ?_⟩
    rw [called]
    exact step_exclusive store.consistent.1 operates.not_admission exclusive
  · obtain ⟨binding, bodyStateJson, admittedAt, calls⟩ := admitted
    have ended : SessionEnded e.store wake.sessionId := condition ticketless
    obtain ⟨store', exclusive'⟩ := calls_sessionsKept calls
      (step_ticketedStore (.inr (.inr ⟨_, _, _, _, rfl⟩)) store)
      (admission_exclusive store.consistent.1 exclusive ended)
    exact ⟨store', exclusive'⟩

theorem sessionsKept_fresh : SessionsKept CoreEngine.fresh := by
  refine ⟨ticketedStore_empty, ?_⟩
  intro id id' record record' stored
  cases stored

theorem runnableTicket_of_single
    (single : (sessionTickets s sessionId).length ≤ 1) : runnableTicket s sessionId =
      .ok (sessionTickets s sessionId).head? := by
  have accepted : rejectIf ((sessionTickets s sessionId).length > 1)
      (⟨.internalError, "session " ++ sessionId.raw ++
        " has more than one runnable logical turn"⟩ : CoreError) = .ok () :=
    (rejectIf_eq_ok _ _ _).mpr (Nat.not_lt.mpr single)
  simp only [runnableTicket, accepted, ok_bind]

theorem sessions_have_one_ticket (calls : List EngineCall)
    (condition : Along CoreEngine.step WakesEndedSession CoreEngine.fresh calls)
    (sessionId : SessionId) :
    let s := (run CoreEngine.step CoreEngine.fresh calls).store
    (sessionTickets s sessionId).length ≤ 1 ∧
      ∃ ticket, runnableTicket s sessionId = .ok ticket := by
  obtain ⟨store, exclusive⟩ : SessionsKept (run CoreEngine.step CoreEngine.fresh calls) :=
    run_invariant step_sessionsKept sessionsKept_fresh condition
  have single := sessionTickets_single store exclusive sessionId
  exact ⟨single, _, runnableTicket_of_single single⟩

def successiveRun : List EngineCall :=
  [wakeCall "chat" "wake-1", settleCall "wake-1" .completed, wakeCall "chat" "wake-2",
    settleCall "wake-2" (.yielded (samplePayload "chat"))]

theorem sessions_have_one_ticket_sample :
    (sessionTickets (run CoreEngine.step CoreEngine.fresh successiveRun).store
        ⟨"session"⟩).length = 1 ∧
      ∃ ticket, runnableTicket
        (run CoreEngine.step CoreEngine.fresh successiveRun).store ⟨"session"⟩ = .ok ticket :=
  ⟨by decide +kernel, (sessions_have_one_ticket successiveRun (by decide +kernel) ⟨"session"⟩).2⟩

end RustyCrew.Proof.Engine

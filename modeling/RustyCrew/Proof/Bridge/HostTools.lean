import RustyCrew.Proof.Bridge.Ledger
import RustyCrew.Proof.Engine.Sessions

namespace RustyCrew.Proof.Bridge

open Library Protocol RustyCrew.Persistence RustyCrew.Lifecycle Effect Table
open RustyCrew.Engine RustyCrew.Bridge
open RustyCrew.Proof.Persistence RustyCrew.Proof.Lifecycle RustyCrew.Proof.Engine NativeBridge

variable {s : Store} {operation : LogicalTurnOperationRecord} {position : Position}
  {row : OperationRow} {active : ActiveLogicalWake} {bridge : NativeBridge} {x : BridgeM α}
  {entry : Nat × LogicalTurnOperationRecord}

/-! ## The latest attempt -/

theorem latestAttempt_greatest (recorded : entry ∈ entries) : ∃ latest ∈ entries,
    latestAttempt entries = some latest ∧ ∀ other ∈ entries, other.1 ≤ latest.1 := by
  cases entries with
  | nil => cases recorded
  | cons first rest =>
    clear recorded
    induction rest generalizing first with
    | nil => exact ⟨first, by simp, rfl, by simp⟩
    | cons next rest ih =>
      by_cases smaller : next.1 < first.1
      · obtain ⟨latest, member, found, greatest⟩ := ih first
        have folds : latestAttempt (first :: next :: rest) = latestAttempt (first :: rest) := by
          simp [latestAttempt, smaller]
        exact ⟨latest, by grind, folds.trans found, by grind⟩
      · obtain ⟨latest, member, found, greatest⟩ := ih next
        have folds : latestAttempt (first :: next :: rest) = latestAttempt (next :: rest) := by
          simp [latestAttempt, smaller]
        exact ⟨latest, .tail _ member, folds.trans found, by grind⟩

def attemptsAt (s : Store) (position : Position) : List (Nat × LogicalTurnOperationRecord) :=
  recordedAttempts position.base (s.listLogicalTurnOperations position.turn)

theorem mem_listLogicalTurnOperations :
    operation ∈ s.listLogicalTurnOperations turn ↔
      ∃ row ∈ s.operations.rows, row.logicalTurnId = turn ∧ row.record = operation := by
  simp [Store.listLogicalTurnOperations, Table.select, and_assoc]

theorem mem_attemptsAt (grounded : GroundedStore s) {attempt : Nat} :
    (attempt, operation) ∈ attemptsAt s position ↔
      ∃ row ∈ s.operations.rows, Attempts row position attempt ∧ row.record = operation := by
  simp only [attemptsAt, recordedAttempts, List.mem_filterMap, mem_listLogicalTurnOperations,
    Option.map_eq_some_iff, Prod.mk.injEq]
  constructor
  · rintro ⟨_, ⟨row, stored, owner, rfl⟩, _, read, rfl, rfl⟩
    rw [(owned_of_row grounded stored).1] at read
    exact ⟨row, stored, ⟨owner, read⟩, rfl⟩
  · rintro ⟨row, stored, ⟨owner, read⟩, rfl⟩
    refine ⟨row.record, ⟨row, stored, owner, rfl⟩, attempt, ?_, rfl, rfl⟩
    rw [(owned_of_row grounded stored).1]
    exact read

theorem attempts_name (ledger : Ledger s) (stored : row ∈ s.operations.rows) {attempt : Nat}
    (attempts : Attempts row position attempt) :
    row.operationId = position.operationId attempt ∧ attempt < 2 ^ 64 := by
  obtain ⟨owner, read⟩ := attempts
  cases ledger.names row stored with
  | hostTool position' attempt' owner' small name =>
    rw [name] at read
    obtain ⟨rfl, rfl⟩ := attempt_position (owner'.trans owner) small read
    exact ⟨name, small⟩
  | provider provider =>
    rw [attempt_provider provider] at read
    cases read

theorem lease_chosen (ledger : Ledger s) {requestFingerprint : String}
    (chosen : chooseAttempt position.base position.sequence requestFingerprint (latestAttempt
      (attemptsAt s position)) = .ok (.lease operationId)) :
    ∃ attempt, attempt < 2 ^ 64 ∧ operationId = position.operationId attempt ∧
      ∀ row ∈ s.operations.rows, ∀ earlier, Attempts row position earlier →
        (earlier < attempt ∨ row.operationId = operationId) ∧ row.record.phase = .superseded ∧
          row.record.requestFingerprint = requestFingerprint := by
  have listed : ∀ row ∈ s.operations.rows, ∀ earlier, Attempts row position earlier →
      (earlier, row.record) ∈ attemptsAt s position := fun row stored earlier attempts =>
    (mem_attemptsAt ledger.grounded).mpr ⟨row, stored, attempts, rfl⟩
  cases recorded : attemptsAt s position with
  | nil =>
    rw [recorded] at chosen listed
    cases chosen
    refine ⟨0, by decide, rfl, fun row stored earlier attempts => ?_⟩
    cases listed row stored earlier attempts
  | cons first rest =>
    obtain ⟨⟨attempt, existing⟩, member, latest, greatest⟩ :=
      latestAttempt_greatest (recorded ▸ List.mem_cons_self : first ∈ attemptsAt s position)
    obtain ⟨last, stored, attempts, rfl⟩ := (mem_attemptsAt ledger.grounded).mp member
    obtain ⟨name, small⟩ := attempts_name ledger stored attempts
    rw [latest] at chosen
    simp only [chooseAttempt, bind_eq_ok, rejectIf_eq_ok, ne_eq, not_not] at chosen
    obtain ⟨-, sameRequest, chosen⟩ := chosen
    cases phase : last.record.phase with
    | superseded =>
      simp only [phase, Except.ok.injEq, HostToolAnswer.lease.injEq] at chosen
      have nonzero : min (attempt + 1) (2 ^ 64 - 1) ≠ 0 := by omega
      refine ⟨min (attempt + 1) (2 ^ 64 - 1), by omega, ?_,
        fun row old earlier earlierAttempt => ?_⟩
      · rw [← chosen, Position.operationId, if_neg nonzero]
      have bound : earlier ≤ attempt := greatest _ (listed row old earlier earlierAttempt)
      have request : row.record.requestFingerprint = requestFingerprint :=
        (ledger.fingerprint row old last stored position earlier attempt earlierAttempt
          attempts).trans sameRequest
      rcases Nat.lt_or_eq_of_le bound with before | rfl
      · exact ⟨.inl (by omega), ledger.superseded row old last stored position earlier attempt
          earlierAttempt attempts before, request⟩
      · have same : row.operationId = last.operationId :=
          (attempts_name ledger old earlierAttempt).1.trans name.symm
        cases List.inj_on_of_nodup_map s.operations.unique old stored same
        refine ⟨?_, phase, request⟩
        by_cases largest : earlier + 1 < 2 ^ 64
        · exact .inl (by omega)
        · right
          have exhausted : min (earlier + 1) (2 ^ 64 - 1) = earlier := by omega
          rw [name, ← chosen, exhausted, Position.operationId, if_neg (by omega)]
    | _ =>
      simp only [phase] at chosen
      cases chosen

/-! ## The calls of the bridge -/

def NamesProvider (active : ActiveLogicalWake) : Prop :=
  ∀ id, active.providerOperationId = some id → ProviderName id

def ProvidersNamed (wakes : Table ActiveLogicalWake.wakeId) : Prop :=
  ∀ active ∈ wakes.rows, ∀ id, active.providerOperationId = some id → ProviderName id

structure Kept (s₀ : Store) (bridge : NativeBridge) : Prop where
  store : Extends s₀ bridge.engine.store
  providers : ProvidersNamed bridge.activeLogicalWakes

structure Untouched (s₀ : Store) (bridge : NativeBridge) : Prop where
  store : bridge.engine.store = s₀
  providers : ProvidersNamed bridge.activeLogicalWakes

def Records {α : Type} (s₀ : Store) (x : BridgeM α) : Prop :=
  Meets (Untouched s₀) x (fun _ => Kept s₀) (fun _ => Kept s₀)

theorem providersNamed_put (named : ProvidersNamed wakes)
    (own : NamesProvider active) : ProvidersNamed (wakes.put active) :=
  forall_put named own

section
variable {α β : Type} {s₀ : Store} {f : α → BridgeM β}

theorem Untouched.kept (untouched : Untouched s₀ bridge) (ledger : Ledger s₀) : Kept s₀ bridge := by
  refine ⟨?_, untouched.providers⟩
  rw [untouched.store]
  exact extends_refl ledger

theorem records_of_keeps (ledger : Ledger s₀) (keeps : Keeps (Kept s₀) x) : Records s₀ x :=
  meets_weaken keeps (fun _ untouched => untouched.kept ledger) (fun _ _ => id) fun _ _ => id

theorem Records.state (records : Records s₀ x) (untouched : Untouched s₀ bridge) :
    Kept s₀ (x bridge).2 :=
  Meets.state records untouched

theorem records_bind {x : BridgeM α} (first : Records s₀ x)
    (next : ∀ a, Keeps (Kept s₀) (f a)) : Records s₀ (x >>= f) :=
  meets_bind first next

theorem records_lift (ledger : Ledger s₀)
    (next : ∀ a, result = .ok a → Records s₀ (f a)) : Records s₀ (Effect.lift result >>= f) := by
  refine meets_bind (Q := fun a bridge => result = .ok a ∧ Untouched s₀ bridge)
    (meets_lift (fun _ _ ok untouched => ⟨ok, untouched⟩)
      fun _ _ _ untouched => untouched.kept ledger) fun a => ?_
  rintro bridge ⟨ok, untouched⟩
  exact next a ok bridge untouched

theorem records_activeWake {f : Option ActiveLogicalWake → BridgeM β}
    (next : ∀ active, (∀ wake, active = some wake → NamesProvider wake) → Records s₀ (f active)) :
    Records s₀ (activeWake wakeId >>= f) := by
  intro bridge untouched
  refine next (bridge.activeLogicalWakes.find? wakeId) (fun wake found => ?_) bridge untouched
  exact untouched.providers wake (mem_of_find? found)

theorem records_saveWake {f : Unit → BridgeM β} (own : NamesProvider active)
    (next : Records s₀ (f ())) : Records s₀ (NativeBridge.saveWake active >>= f) := by
  intro bridge untouched
  exact next _ ⟨untouched.store, providersNamed_put untouched.providers own⟩

theorem meets_readStore {g : CoreEngine → α} (ledger : Ledger s₀) :
    Meets (Untouched s₀) (NativeBridge.onEngine (Effect.read g))
      (fun a bridge => (∃ e : CoreEngine, e.store = s₀ ∧ a = g e) ∧ Untouched s₀ bridge)
      (fun _ => Kept s₀) := by
  intro bridge untouched
  by_cases running : bridge.initialized = true
  · simp only [NativeBridge.onEngine, running, if_true, Effect.read]
    exact ⟨⟨bridge.engine, untouched.store, rfl⟩, untouched.store, untouched.providers⟩
  · simp only [NativeBridge.onEngine, running]
    exact untouched.kept ledger

theorem records_readStore {g : CoreEngine → α} (ledger : Ledger s₀)
    (next : ∀ e : CoreEngine, e.store = s₀ → Records s₀ (f (g e))) :
    Records s₀ (NativeBridge.onEngine (Effect.read g) >>= f) := by
  refine meets_bind (meets_readStore ledger) fun a => ?_
  rintro bridge ⟨⟨e, store, rfl⟩, untouched⟩
  exact next e store bridge untouched

theorem keeps_onEngine {x : EngineM α}
    (kept : ∀ e : CoreEngine, Extends s₀ e.store → Extends s₀ (x e).2.store) :
    Keeps (Kept s₀) (NativeBridge.onEngine x) := by
  refine meets_state_iff.mpr fun bridge before => ?_
  unfold NativeBridge.onEngine
  split
  · exact ⟨kept _ before.store, before.providers⟩
  · exact before

theorem keeps_saveWake (own : NamesProvider active) :
    Keeps (Kept s₀) (NativeBridge.saveWake active) :=
  keeps_edit fun _ kept => ⟨kept.store, providersNamed_put kept.providers own⟩

theorem records_onStore {f : Store → CoreResult (Store × α)} (ledger : Ledger s₀)
    (respond : α → Response)
    (applies : ∀ s, s.apply op = f s >>= fun result => .ok (result.1, respond result.2))
    (extended : Extends s₀ (s₀.step op)) :
    Records s₀ (NativeBridge.onEngine (CoreEngine.onStore f)) := by
  refine meets_state_iff.mpr fun bridge untouched => ?_
  unfold NativeBridge.onEngine
  split
  · refine ⟨?_, untouched.providers⟩
    show Extends s₀ (CoreEngine.onStore f bridge.engine).2.store
    rw [onStore_step respond applies, untouched.store]
    exact extended
  · exact untouched.kept ledger

theorem records_leaseOperation {request : LogicalTurnOperationLeaseRequest} (ledger : Ledger s₀)
    (adds : (∀ row ∈ s₀.operations.rows, row.logicalTurnId = request.operation.logicalTurnId →
        row.operationId ≠ request.operation.operationId) → Adds s₀ (.ofRecord request.operation)) :
    Records s₀ (leaseOperation request) :=
  records_onStore ledger .operationLeased (fun _ => rfl) (lease_extends ledger adds)

theorem records_completeOperation {request : LogicalTurnOperationCompletionRequest}
    (ledger : Ledger s₀) (stored : row ∈ s₀.operations.rows)
    (target : row.operationId = request.operation.operationId) (leased : row.record.phase = .leased)
    (payload : (∃ members, request.operation.resultPayload = some (.object members)) ∨ ProviderName
      row.operationId) : Records s₀ (completeOperation request) :=
  records_onStore ledger .operationCompleted (fun _ => rfl)
    (complete_extends ledger stored target leased payload)

variable (services : BridgeServices) {active : ActiveLogicalWake}

section
variable (ledger : Ledger s₀)
include ledger

theorem records_leaseActiveProvider (own : NamesProvider active) (inputJson : String) :
    Records s₀ (leaseActiveProvider services active inputJson) := by
  refine records_lift ledger fun epochId _ => records_saveWake own ?_
  refine records_readStore (g := fun _ => ()) ledger fun _ _ => ?_
  refine records_lift ledger fun claimGeneration _ => ?_
  have provider : ProviderName (providerOperationId
      (providerOperationBase active.claim.record.logicalTurnId
        active.claim.record.currentContinuationId epochId) active.nextProviderOperation) :=
    ⟨_, _, _, _, rfl⟩
  refine records_bind (records_leaseOperation ledger fun _ => ⟨.provider provider, rfl, ?_⟩)
    fun _ => keeps_saveWake ?_
  · intro position attempt attempts
    cases attempts.2.symm.trans (attempt_provider provider position)
  · intro id saved
    cases saved
    exact provider

theorem records_leaseHostTool (own : NamesProvider active) (position) (callId : String)
    {requestFingerprint : String} (turn : position.turn = active.claim.record.logicalTurnId)
    (chosen : chooseAttempt position.base position.sequence requestFingerprint (latestAttempt
      (attemptsAt s₀ position)) = .ok (.lease operationId)) :
    Records s₀ (leaseHostTool services active callId requestFingerprint operationId) := by
  obtain ⟨attempt, small, name, earlier⟩ := lease_chosen ledger chosen
  refine records_lift ledger fun epochId _ => records_lift ledger fun claimGeneration _ => ?_
  refine records_bind (records_leaseOperation ledger fun fresh =>
    ⟨.hostTool position attempt turn small name, rfl, ?_⟩) fun _ =>
    keeps_bind (keeps_saveWake own) fun _ => keeps_pure _
  intro position' attempt' attempts row stored before attemptsBefore
  have read : hostToolOperationAttempt position'.base operationId.raw = some attempt' := attempts.2
  rw [name] at read
  obtain ⟨rfl, rfl⟩ := attempt_position (turn.trans attempts.1) small read
  obtain ⟨order, superseded, request⟩ := earlier row stored before attemptsBefore
  refine ⟨order.resolve_right fun same => ?_, superseded, request⟩
  exact fresh row stored (attemptsBefore.1.trans turn) same

theorem records_prepareActiveHostTool (own : NamesProvider active) (moduleId : String)
    (request : Json) : Records s₀ (prepareActiveHostTool services active moduleId request) := by
  refine records_lift ledger fun callId _ => records_lift ledger fun name _ =>
    records_lift ledger fun argumentsJson _ => records_saveWake own ?_
  refine records_readStore ledger fun e store => ?_
  refine records_lift ledger fun answer chosen => ?_
  cases answer with
  | replay operation =>
    have submits {output : String} : Keeps (Kept s₀) (submitToolOutput services moduleId output) :=
      keeps_bind (keeps_lift _) fun _ => keeps_bind (keeps_lift _)
        fun _ => keeps_edit fun _ kept => ⟨kept.store, kept.providers⟩
    refine records_of_keeps ledger (keeps_bind (keeps_saveWake own) fun _ => ?_)
    grind
  | suppress => exact records_of_keeps ledger (keeps_pure _)
  | lease operationId =>
    rw [store] at chosen
    show Records s₀ (leaseHostTool services
      { active with nextHostToolOperation := nextSequence active.nextHostToolOperation } callId
      (hostToolFingerprint name argumentsJson) operationId)
    refine records_leaseHostTool services ledger ?_
      ⟨active.claim.record.logicalTurnId, active.claim.record.currentContinuationId,
        active.nextHostToolOperation⟩ callId rfl chosen
    exact own

theorem records_findOperation {f : LogicalTurnOperationRecord → BridgeM β}
    (next : ∀ row ∈ s₀.operations.rows, row.operationId = operationId → Records s₀ (f row.record)) :
    Records s₀ (findOperation active operationId missing >>= f) := by
  have found : Meets (Untouched s₀) (findOperation active operationId missing)
      (fun operation bridge => (∃ row ∈ s₀.operations.rows, row.operationId = operationId ∧
        row.record = operation) ∧ Untouched s₀ bridge) (fun _ => Kept s₀) := by
    refine meets_bind (meets_readStore ledger) fun operations => ?_
    refine meets_lift (fun operation bridge located kept => ⟨?_, kept.2⟩)
      fun _ _ _ kept => kept.2.kept ledger
    obtain ⟨⟨e, rfl, rfl⟩, -⟩ := kept
    rw [orFail_eq_ok] at located
    obtain ⟨row, stored, -, rfl⟩ :=
      mem_listLogicalTurnOperations.mp (List.mem_of_find?_eq_some located)
    have named : row.record.operationId = operationId := by simpa using List.find?_some located
    exact ⟨row, stored, (owned_of_row ledger.grounded stored).1.symm.trans named, rfl⟩
  refine meets_bind found fun operation => ?_
  rintro bridge ⟨⟨row, stored, named, rfl⟩, untouched⟩
  exact next row stored named bridge untouched

end

theorem object_of_member
    (required : requiredJsonString value name = .ok text) : ∃ members, value = .object members := by
  cases value with
  | object members => exact ⟨members, rfl⟩
  | _ => cases required

section
variable (ledger : Ledger s₀)
include ledger

theorem records_settleHostTool (stored : row ∈ s₀.operations.rows) (inputJson : String)
    (members : List (String × Json)) :
    Records s₀ (settleHostTool services active row.record inputJson (.object members)) := by
  unfold settleHostTool
  split
  · exact records_lift ledger fun _ _ => records_of_keeps ledger (keeps_pure _)
  · refine records_lift ledger fun _ leased => records_lift ledger fun claimGeneration _ => ?_
    rw [rejectIf_eq_ok, not_not] at leased
    refine records_bind (records_completeOperation ledger stored ?_ leased (.inl ⟨members, rfl⟩))
      fun _ => keeps_pure _
    exact (owned_of_row ledger.grounded stored).1.symm

theorem records_completeHostTool (inputJson : String) :
    Records s₀ (completeHostToolOperation services inputJson) := by
  refine records_lift ledger fun payload _ => records_lift ledger fun wakeId required =>
    records_lift ledger fun callId _ => records_activeWake fun active _ => ?_
  obtain ⟨members, rfl⟩ := object_of_member required
  cases active with
  | none => exact records_of_keeps ledger (keeps_pure _)
  | some active =>
    exact records_lift ledger fun call _ => records_findOperation ledger fun row stored _ =>
      records_settleHostTool services ledger stored inputJson members

theorem records_leaseProvider (wakeId inputJson : String) :
    Records s₀ (leaseProviderOperation services wakeId inputJson) := by
  refine records_activeWake fun active known => ?_
  cases active with
  | none => exact records_of_keeps ledger (keeps_pure _)
  | some active => exact records_leaseActiveProvider services ledger (known active rfl) inputJson

theorem records_prepareHostTool (moduleId wakeId : String) (request : Json) :
    Records s₀ (prepareHostToolOperation services moduleId wakeId request) := by
  refine records_activeWake fun active known => ?_
  cases active with
  | none => exact records_of_keeps ledger (keeps_pure _)
  | some active =>
    exact records_prepareActiveHostTool services ledger (known active rfl) moduleId request

theorem records_completeProvider (wakeId : String) (payload : Json) :
    Records s₀ (completeProviderOperation services wakeId payload) := by
  refine records_activeWake fun active known => ?_
  cases target : active.bind fun active => active.providerOperationId.map fun operationId =>
      (active, operationId) with
  | none => exact records_of_keeps ledger (keeps_pure _)
  | some pair =>
    obtain ⟨wake, operationId⟩ := pair
    obtain ⟨active', rfl, found⟩ := Option.bind_eq_some_iff.mp target
    obtain ⟨id, held, same⟩ := Option.map_eq_some_iff.mp found
    cases same
    have provider : ProviderName operationId := known _ rfl _ held
    refine records_findOperation ledger fun row stored named => ?_
    split
    · exact records_of_keeps ledger (keeps_pure _)
    · next leased =>
      refine records_lift ledger fun claimGeneration _ => records_bind
        (records_completeOperation ledger stored ?_ (not_not.mp leased)
          (.inr (named ▸ provider))) fun _ => keeps_pure _
      exact (owned_of_row ledger.grounded stored).1.symm

end

theorem does_extends {x : EngineM α} (does : Does x) (e : CoreEngine)
    (extended : Extends s₀ e.store) : Extends s₀ (x e).2.store :=
  calls_extends ((does e.store).state (calls_refl _)) extended

theorem wake_extends (calls : WakeCalls wake s s') (extended : Extends s₀ s) : Extends s₀ s' := by
  rcases calls with continued | ⟨-, binding, bodyStateJson, admittedAt, continued⟩
  · exact calls_extends continued extended
  · exact calls_extends continued (step_extends extended id)

theorem keeps_initializeEngine : Keeps (Kept s₀) (initializeEngine services) := by
  unfold initializeEngine
  repeat refine keeps_bind (by grind) fun _ => ?_
  refine keeps_bind (meets_state_iff.mpr fun _ kept =>
    ⟨does_extends (does_hydrateLogicalTurnContinuations services.engine) _ kept.store,
      kept.providers⟩) fun _ => keeps_bind (keeps_lift _) fun _ => ?_
  exact keeps_edit fun _ kept => ⟨kept.store, kept.providers⟩

theorem keeps_shutdownEngine : Keeps (Kept s₀) (shutdownEngine services) := by
  unfold shutdownEngine
  repeat refine keeps_bind (by grind) fun _ => ?_
  refine keeps_bind (keeps_edit fun _ kept => ⟨kept.store, kept.providers⟩) fun _ => ?_
  refine keeps_bind (keeps_lift _) fun _ => keeps_edit fun _ kept =>
    ⟨kept.store, fun active member => ?_⟩
  cases member

theorem keeps_buildWakeRequest (brain sessionId) (systemPrompt : String)
    (roleAssemblyJson : List UInt8) (wakeId : String) :
    Keeps (Kept s₀) (buildBrainWakeRequestForSession services brain sessionId
      systemPrompt roleAssemblyJson wakeId) := by
  refine keeps_bind (keeps_lift _) fun registration => ?_
  show Keeps (Kept s₀) (ite _ _ _)
  split
  · refine keeps_bind (keeps_read _) fun _ => ?_
    refine keeps_bind (keeps_lift _) fun _ => keeps_bind
      (keeps_onEngine fun e extended => wake_extends (prepare_wakeCalls services.engine _ e)
        extended) fun _ => ?_
    refine keeps_bind (keeps_lift _) fun _ => keeps_bind (keeps_saveWake ?_) fun _ => keeps_pure _
    intro id held
    cases held
  · refine keeps_bind (keeps_onEngine (does_extends
      (spares_prepareBodyStateForWake services.engine sessionId).does)) fun _ => ?_
    grind

theorem keeps_removeWake (wakeId : String) :
    Keeps (Kept s₀) (removeWake wakeId) :=
  keeps_edit fun _ kept => ⟨kept.store, fun active member =>
    kept.providers active (mem_erase.mp member).1⟩

theorem keeps_settleWake (wakeId : String) (result progress) :
    Keeps (Kept s₀) (settleBrainWake services wakeId result progress) := by
  refine keeps_bind (keeps_read _) fun active => ?_
  cases active with
  | none => exact keeps_pure _
  | some active =>
    refine keeps_bind ?_ fun _ => keeps_pure _
    refine keeps_bind (keeps_lift _) fun _ => keeps_bind (keeps_lift _) fun _ => keeps_bind
      (keeps_onEngine fun _ => id) fun record => ?_
    split
    · exact keeps_bind (keeps_removeWake _) fun _ => keeps_pure _
    · exact keeps_bind (keeps_onEngine (does_extends (does_settle services.engine _ _ _)))
        fun _ => keeps_bind (keeps_removeWake _) fun _ => keeps_pure _

theorem crash_kept (kept : Kept s₀ bridge) (writes) : Kept s₀ (bridge.crash writes) := by
  refine ⟨?_, fun active member => by cases member⟩
  have calls : Calls (fun op => ¬Operates op) bridge.engine.store
      (bridge.crash writes).engine.store := by
    refine ⟨writes.map TurnWrite.op, fun op member => ?_, rfl⟩
    obtain ⟨write, -, rfl⟩ := List.mem_map.mp member
    intro operates
    have turns := write.turns
    revert turns operates
    cases write.op with
    | leaseOperation | completeOperation => exact fun _ turns => by cases turns
    | _ => exact fun operates _ => operates
  exact calls_invariant calls kept.store fun _ _ extended other => step_extends extended other

end

variable (bridge : NativeBridge)

theorem step_kept (ledger : Ledger bridge.engine.store)
    (providers : ProvidersNamed bridge.activeLogicalWakes) (call) :
    Kept bridge.engine.store (bridge.step call) := by
  have untouched : Untouched bridge.engine.store bridge := ⟨rfl, providers⟩
  have kept := untouched.kept ledger
  cases call with
  | initializeEngine services => exact (keeps_initializeEngine services).state kept
  | shutdownEngine services => exact (keeps_shutdownEngine services).state kept
  | crash writes => exact crash_kept kept writes
  | buildWakeRequest services brain sessionId systemPrompt roleAssemblyJson wakeId =>
    exact (keeps_buildWakeRequest services brain sessionId systemPrompt roleAssemblyJson
      wakeId).state kept
  | settleWake services wakeId result progress =>
    exact (keeps_settleWake services wakeId result progress).state kept
  | cancelTurn services request =>
    exact (keeps_bind (keeps_read _) fun _ => keeps_bind
      (keeps_lift _) fun _ => keeps_onEngine (does_extends
      (does_cancelLogicalTurn services.engine request))).state kept
  | resolveAttention services logicalTurnId expectedRevision action =>
    exact (keeps_onEngine (does_extends (does_resolveForOperator services.engine logicalTurnId
      expectedRevision action))).state kept
  | leaseProvider services wakeId inputJson =>
    exact (records_leaseProvider services ledger wakeId inputJson).state untouched
  | completeProvider services wakeId payload =>
    exact (records_completeProvider services ledger wakeId payload).state untouched
  | prepareHostTool services moduleId wakeId request =>
    exact (records_prepareHostTool services ledger moduleId wakeId request).state untouched
  | completeHostTool services inputJson =>
    exact (records_completeHostTool services ledger inputJson).state untouched
  | queueMessage record => exact ⟨kept.store, kept.providers⟩

theorem run_kept (calls) : Ledger (run NativeBridge.step NativeBridge.fresh calls).engine.store ∧
      ProvidersNamed (run NativeBridge.step NativeBridge.fresh calls).activeLogicalWakes := by
  refine @run_invariant_all _ _ _ (fun bridge : NativeBridge => Ledger bridge.engine.store ∧
      ProvidersNamed bridge.activeLogicalWakes) _ calls (fun bridge call kept => ?_)
    ⟨ledger_empty, fun active member => by cases member⟩
  have after := step_kept bridge kept.1 kept.2 call
  exact ⟨after.store.ledger, after.providers⟩

/-! ## One tool request -/

structure Requests (bridge : NativeBridge) (wakeId : String) (request : Json)
    (active : ActiveLogicalWake) (callId name argumentsJson : String) : Prop where
  active : bridge.activeLogicalWakes.find? wakeId = some active
  callId : requiredJsonString request "call_id" = .ok callId
  name : requiredJsonString request "name" = .ok name
  argumentsJson : requiredJsonString request "arguments_json" = .ok argumentsJson

def requestedPosition (active : ActiveLogicalWake) : Position :=
  ⟨active.claim.record.logicalTurnId, active.claim.record.currentContinuationId,
    active.nextHostToolOperation⟩

def chosenAnswer (s : Store) (active : ActiveLogicalWake) (name argumentsJson : String) :
    CoreResult HostToolAnswer :=
  chooseAttempt (requestedPosition active).base active.nextHostToolOperation
    (hostToolFingerprint name argumentsJson)
    (latestAttempt (attemptsAt s (requestedPosition active)))

def countedWake (active : ActiveLogicalWake) : ActiveLogicalWake :=
  { active with nextHostToolOperation := nextSequence active.nextHostToolOperation }

def withWake (active : ActiveLogicalWake) : NativeBridge :=
  { bridge with activeLogicalWakes := bridge.activeLogicalWakes.put active }

theorem saveWake_eq (active) :
    NativeBridge.saveWake active bridge = (.ok (), withWake bridge active) := rfl

def countedBridge (active : ActiveLogicalWake) : NativeBridge :=
  withWake bridge (countedWake active)

section
variable {bridge : NativeBridge} {active : ActiveLogicalWake}

theorem prepareHostTool_eq (services) (moduleId : String)
    (requested : Requests bridge wakeId request active callId name argumentsJson) :
    prepareHostToolOperation services moduleId wakeId request bridge =
      if bridge.initialized then
        match chosenAnswer bridge.engine.store active name argumentsJson with
        | .ok answer => answerHostTool services (countedWake active) moduleId callId
            (hostToolFingerprint name argumentsJson) answer (countedBridge bridge active)
        | .error failure => (.error failure, countedBridge bridge active)
      else (.error engineNotInitialized, countedBridge bridge active) := by
  have found : activeWake wakeId bridge = (.ok (some active), bridge) := by
    rw [← requested.active]
    rfl
  refine (bind_ok found).trans ?_
  refine (lift_bind requested.callId).trans ?_
  refine (lift_bind requested.name).trans ?_
  refine (lift_bind requested.argumentsJson).trans ?_
  refine (bind_ok (saveWake_eq bridge (countedWake active))).trans ?_
  by_cases running : bridge.initialized = true
  · have listed : listOperations (countedWake active) (countedBridge bridge active) =
        (.ok (bridge.engine.store.listLogicalTurnOperations active.claim.record.logicalTurnId),
          countedBridge bridge active) := if_pos running
    rw [if_pos running]
    refine (bind_ok listed).trans ?_
    cases chosen : chosenAnswer bridge.engine.store active name argumentsJson with
    | ok answer => exact lift_bind chosen
    | error failure =>
      refine bind_error ?_
      exact Prod.ext chosen rfl
  · have failed : listOperations (countedWake active) (countedBridge bridge active) =
        (.error engineNotInitialized, countedBridge bridge active) := if_neg running
    rw [if_neg running]
    exact bind_error failed

theorem completed_latest (ledger : Ledger s) (recorded : entry ∈ attemptsAt s position)
    (completed : entry.2.phase = .completed) :
    latestAttempt (attemptsAt s position) = some entry := by
  obtain ⟨last, member, latest, greatest⟩ := latestAttempt_greatest recorded
  obtain ⟨row, stored, attempts, same⟩ := (mem_attemptsAt ledger.grounded).mp recorded
  obtain ⟨lastRow, lastStored, lastAttempts, lastSame⟩ :=
    (mem_attemptsAt ledger.grounded).mp member
  rcases Nat.lt_or_eq_of_le (greatest entry recorded) with before | number
  · have superseded := ledger.superseded row stored lastRow lastStored _ _ _ attempts
      lastAttempts before
    rw [same, completed] at superseded
    cases superseded
  · rw [number] at attempts
    have named := (attempts_name ledger stored attempts).1.trans
      (attempts_name ledger lastStored lastAttempts).1.symm
    cases List.inj_on_of_nodup_map s.operations.unique stored lastStored named
    exact latest.trans (congrArg some (Prod.ext number.symm (lastSame.symm.trans same)))

theorem replay_never_executes (services) (moduleId callId : String) (operation bridge) :
    (replayHostToolResult services active moduleId callId operation bridge).1 ≠ .ok true := by
  have anything {α : Type} (x : BridgeM α) :
      Meets (fun _ => True) x (fun _ _ => True) (fun _ _ => True) :=
    meets_state_iff.mpr fun _ _ => trivial
  have answers : Meets (fun _ => True)
      (replayHostToolResult services active moduleId callId operation)
      (fun answer _ => answer = false) (fun _ _ => True) := by
    refine meets_bind (anything _) fun _ => meets_bind (anything _) fun _ => ?_
    refine meets_bind (anything _) fun _ => meets_bind (anything _) fun _ => ?_
    exact meets_pure fun _ _ => rfl
  have answered := answers bridge trivial
  intro told
  rw [← Prod.eta (replayHostToolResult services active moduleId callId operation
    bridge), told] at answered
  cases answered

theorem replay_outcome (services) (moduleId callId : String)
    (payload : operation.resultPayload = some (.object members)) (bridge) :
    let answer := replayHostToolResult services active moduleId callId operation bridge
    let replayJson := (replayedPayload members active.wakeId callId).render
    answer.2.engine = bridge.engine ∧
      (moduleId = chatCompletionsModuleId ∨ moduleId = openaiResponsesModuleId →
        ∀ u, services.submitToolOutput moduleId replayJson = .ok u → answer.1 = .ok false ∧
            answer.2.toolOutputs = bridge.toolOutputs ++ [(moduleId, replayJson)]) := by
  intro answer replayJson
  obtain ⟨recorded, isRecorded⟩ : ∃ recorded, recorded =
    withWake bridge (active.recordCall callId operation.operationId) := ⟨_, rfl⟩
  have replays : answer = (submitToolOutput services moduleId replayJson >>= fun _ => pure false)
        recorded := by
    rw [isRecorded]
    refine (bind_ok (saveWake_eq bridge _)).trans ?_
    refine (lift_bind ((orFail_eq_ok _ _ _).mpr payload)).trans ?_
    exact lift_bind rfl
  have engine : recorded.engine = bridge.engine := by rw [isRecorded]; rfl
  have outputs : recorded.toolOutputs = bridge.toolOutputs := by rw [isRecorded]; rfl
  rw [replays]
  by_cases supported : moduleId = chatCompletionsModuleId ∨ moduleId = openaiResponsesModuleId
  · have accepted : rejectIf
        (moduleId ≠ chatCompletionsModuleId ∧ moduleId ≠ openaiResponsesModuleId)
        (⟨.invalidInput, "unsupported brain module"⟩ : CoreError) = .ok () := by
      rw [rejectIf_eq_ok, ← not_or, not_not]
      exact supported
    cases submitted : services.submitToolOutput moduleId replayJson with
    | ok u =>
      have handed : submitToolOutput services moduleId replayJson recorded =
          (.ok (), { recorded with
            toolOutputs := recorded.toolOutputs ++ [(moduleId, replayJson)] }) := by
        refine (lift_bind accepted).trans ((lift_bind (a := ()) ?_).trans rfl)
        rw [submitted]
      rw [bind_ok handed, ← outputs]
      exact ⟨engine, fun _ _ _ => ⟨rfl, rfl⟩⟩
    | error error =>
      have refused : submitToolOutput services moduleId replayJson recorded =
          (.error ⟨.internalError, "replay durable host tool result: " ++ error⟩, recorded) := by
        refine (lift_bind accepted).trans (bind_error ?_)
        rw [submitted]
        rfl
      rw [bind_error refused]
      exact ⟨engine, fun _ _ impossible => by cases impossible⟩
  · have unsupported : submitToolOutput services moduleId replayJson recorded =
        (.error ⟨.invalidInput, "unsupported brain module"⟩, recorded) := by
      refine bind_error (congrArg (·, recorded) (if_pos ?_))
      rw [← not_or]
      exact supported
    rw [bind_error unsupported]
    exact ⟨engine, fun known => (supported known).elim⟩

theorem meets_leaseOperation (request : LogicalTurnOperationLeaseRequest) :
    Meets (fun _ => True) (leaseOperation request) (fun _ after =>
      after.engine.store.loadOperation request.operation.operationId = some request.operation)
      (fun _ _ => True) := by
  have leases : Meets (fun _ => True)
      (CoreEngine.onStore fun s => s.leaseLogicalTurnOperation request)
      (fun _ e => e.store.loadOperation request.operation.operationId = some request.operation)
      (fun _ _ => True) := by
    refine meets_transact (fun e e' operation accepted _ => ?_) fun _ _ _ _ => trivial
    split at accepted
    · next store record leased =>
      cases accepted
      obtain ⟨-, -, -, -, -, ⟨rfl, loaded⟩ | inserted⟩ := leaseLogicalTurnOperation_ok leased
      · exact loaded
      · obtain ⟨-, rfl⟩ := insertOperation_ok inserted
        simp [Store.loadOperation, OperationRow.ofRecord]
    · cases accepted
  intro bridge _
  by_cases running : bridge.initialized = true
  · have answered := leases bridge.engine trivial
    simp only [leaseOperation, onEngine, running, if_true]
    split at answered
    · next same => rw [same]; exact answered
    · next same => rw [same]; trivial
  · simp only [leaseOperation, onEngine, running]
    trivial

theorem leaseHostTool_stores (services : BridgeServices) {operationId : BrainOperationId}
    {requestFingerprint : String} (told : (leaseHostTool services active callId requestFingerprint
      operationId bridge).1 = .ok true) :
    ∃ operation, (leaseHostTool services active callId requestFingerprint operationId
        bridge).2.engine.store.loadOperation operationId = some operation ∧
      operation.logicalTurnId = active.claim.record.logicalTurnId ∧ operation.phase = .leased ∧
      operation.requestFingerprint = requestFingerprint := by
  have stores : Meets (fun _ => True)
      (leaseHostTool services active callId requestFingerprint operationId)
      (fun _ after => ∃ operation, after.engine.store.loadOperation operationId = some operation ∧
        operation.logicalTurnId = active.claim.record.logicalTurnId ∧
        operation.phase = .leased ∧ operation.requestFingerprint = requestFingerprint)
      (fun _ _ => True) := by
    refine meets_bind (meets_lift (fun _ _ _ _ => trivial) fun _ _ _ _ => trivial) fun epochId => ?_
    refine meets_bind (meets_lift (fun _ _ _ _ => trivial) fun _ _ _ _ => trivial)
      fun claimGeneration => ?_
    refine meets_bind (meets_leaseOperation _) fun _ => ?_
    intro after stored
    exact ⟨_, stored, rfl, rfl, rfl⟩
  have answered := stores bridge trivial
  rw [← Prod.eta (leaseHostTool services active callId requestFingerprint operationId bridge),
    told] at answered
  exact answered

section
variable (ledger : Ledger bridge.engine.store) (services : BridgeServices) (moduleId : String)
  (requested : Requests bridge wakeId request active callId name argumentsJson)

section
include ledger requested

theorem divergedRequest_rejected
    (recorded : entry ∈ attemptsAt bridge.engine.store (requestedPosition active))
    (diverged : entry.2.requestFingerprint ≠ hostToolFingerprint name argumentsJson) :
    prepareHostToolOperation services moduleId wakeId request bridge =
      (.error (if bridge.initialized then
          ⟨.actionRejected, "logical turn replay diverged at host tool operation " ++
            toString active.nextHostToolOperation⟩
        else engineNotInitialized), countedBridge bridge active) := by
  rw [prepareHostTool_eq services moduleId requested]
  by_cases running : bridge.initialized = true
  · rw [if_pos running, if_pos running]
    obtain ⟨last, member, latest, -⟩ := latestAttempt_greatest recorded
    obtain ⟨row, stored, attempts, same⟩ := (mem_attemptsAt ledger.grounded).mp recorded
    obtain ⟨lastRow, lastStored, lastAttempts, lastSame⟩ :=
      (mem_attemptsAt ledger.grounded).mp member
    have request := ledger.fingerprint row stored lastRow lastStored _ _ _ attempts lastAttempts
    rw [same, lastSame] at request
    rw [request] at diverged
    simp only [chosenAnswer, latest, chooseAttempt, rejectIf, if_pos diverged, error_bind]
  · rw [if_neg running, if_neg running]

theorem completedAttempt_replayed
    (recorded : entry ∈ attemptsAt bridge.engine.store (requestedPosition active))
    (completed : entry.2.phase = .completed)
    (same : entry.2.requestFingerprint = hostToolFingerprint name argumentsJson)
    (running : bridge.initialized = true) :
    ∃ members, entry.2.resultPayload = some (.object members) ∧
      prepareHostToolOperation services moduleId wakeId request bridge =
        replayHostToolResult services (countedWake active) moduleId callId entry.2
          (countedBridge bridge active) := by
  obtain ⟨row, stored, attempts, isRecord⟩ := (mem_attemptsAt ledger.grounded).mp recorded
  rw [← isRecord] at completed
  obtain ⟨members, payload⟩ := ledger.payload row stored _ _ attempts completed
  refine ⟨members, isRecord ▸ payload, ?_⟩
  rw [isRecord] at completed
  have chosen : chosenAnswer bridge.engine.store active name argumentsJson =
      .ok (.replay entry.2) := by
    rw [chosenAnswer, completed_latest ledger recorded completed]
    simp only [chooseAttempt, rejectIf, same, ne_eq, not_true_eq_false, if_false, ok_bind,
      completed]
  rw [prepareHostTool_eq services moduleId requested, if_pos running, chosen]
  rfl

end

section
include requested

theorem execution_leases
    (told : (prepareHostToolOperation services moduleId wakeId request bridge).1 = .ok true) :
    ∃ operationId, chosenAnswer bridge.engine.store active name argumentsJson =
        .ok (.lease operationId) ∧
      ∃ operation, (prepareHostToolOperation services moduleId wakeId request
          bridge).2.engine.store.loadOperation operationId = some operation ∧
        operation.logicalTurnId = (requestedPosition active).turn ∧ operation.phase = .leased ∧
        operation.requestFingerprint = hostToolFingerprint name argumentsJson := by
  rw [prepareHostTool_eq services moduleId requested] at told ⊢
  split at told
  · next running =>
    rw [if_pos running]
    cases chosen : chosenAnswer bridge.engine.store active name argumentsJson with
    | error failure =>
      rw [chosen] at told
      cases told
    | ok answer =>
      rw [chosen] at told
      cases answer with
      | replay operation =>
        exact (replay_never_executes services moduleId callId operation _ told).elim
      | suppress => cases told
      | lease operationId => exact ⟨operationId, rfl, leaseHostTool_stores services told⟩
  · cases told

end

include ledger

theorem execution_superseded (chosen : chosenAnswer bridge.engine.store active name argumentsJson =
      .ok (.lease operationId)) :
    ∀ entry ∈ attemptsAt bridge.engine.store (requestedPosition active),
      entry.2.phase = .superseded := by
  intro entry recorded
  obtain ⟨row, stored, attempts, isRecord⟩ := (mem_attemptsAt ledger.grounded).mp recorded
  obtain ⟨_, -, -, earlier⟩ := lease_chosen ledger chosen
  rw [← isRecord]
  exact (earlier row stored entry.1 attempts).2.1

theorem attempt_recorded {operation : LogicalTurnOperationRecord} {after : Store}
    (grounded : GroundedStore after)
    (chosen : chosenAnswer bridge.engine.store active name argumentsJson = .ok (.lease operationId))
    (loaded : after.loadOperation operationId = some operation)
    (owner : operation.logicalTurnId = (requestedPosition active).turn) :
    ∃ attempt, (attempt, operation) ∈ attemptsAt after (requestedPosition active) := by
  obtain ⟨attempt, small, name, -⟩ := lease_chosen ledger chosen
  obtain ⟨row, present, rfl⟩ := Option.map_eq_some_iff.mp loaded
  obtain ⟨stored, named⟩ := find?_eq_some.mp present
  refine ⟨attempt, (mem_attemptsAt grounded).mpr ⟨row, stored, ⟨?_, ?_⟩, rfl⟩⟩
  · rw [← (owned_of_row grounded stored).2, owner]
  · rw [named, name]
    exact attempt_operationId small

end

end

/-- A stored result under the ids of the request that is answered with it. -/
structure Replays (result : Json) (wakeId callId : String) (replay : Json) : Prop where
  wakeId : replay.get "wakeId" = some (.string wakeId)
  callId : replay.get "callId" = some (.string callId)
  stored : ∀ name, name ≠ "wakeId" → name ≠ "callId" → replay.get name = result.get name

theorem replays_payload (members : List (String × Json)) (wakeId callId : String) :
    Replays (.object members) wakeId callId (replayedPayload members wakeId callId) := by
  have reads (name : String) : (replayedPayload members wakeId callId).get name =
      if name = "callId" then some (.string callId) else
        if name = "wakeId" then some (.string wakeId) else members.lookup name := by
    rw [replayedPayload, Json.get_object, Json.lookup_insertMember, Json.lookup_insertMember]
  refine ⟨by simp [reads], by simp [reads], fun name notWake notCall => ?_⟩
  rw [reads, if_neg notCall, if_neg notWake, Json.get_object]

structure HostToolsOnce (bridge : NativeBridge) : Prop where
  /-- An operation that a call adds is at no position with an attempt that is not superseded. -/
  leased : ∀ call id operation position attempt, bridge.engine.store.loadOperation id = none →
    (bridge.step call).engine.store.loadOperation id = some operation →
    operation.logicalTurnId = position.turn →
    hostToolOperationAttempt position.base id.raw = some attempt →
    ∀ entry ∈ attemptsAt bridge.engine.store position, entry.2.phase = .superseded
  /-- Nor is the host told to carry out the call at such a position, and when it is told to, a
  leased attempt for the request is on record. -/
  executed : ∀ services moduleId wakeId request active callId name argumentsJson,
    Requests bridge wakeId request active callId name argumentsJson →
    let answer := prepareHostToolOperation services moduleId wakeId request bridge
    answer.1 = .ok true →
      (∀ entry ∈ attemptsAt bridge.engine.store (requestedPosition active),
        entry.2.phase = .superseded) ∧
      ∃ entry ∈ attemptsAt answer.2.engine.store (requestedPosition active),
        entry.2.phase = .leased ∧
          entry.2.requestFingerprint = hostToolFingerprint name argumentsJson
  /-- A completed attempt answers the request with its stored result and leaves the engine alone. -/
  replayed : ∀ services moduleId wakeId request active callId name argumentsJson,
    Requests bridge wakeId request active callId name argumentsJson → bridge.initialized = true →
    ∀ entry ∈ attemptsAt bridge.engine.store (requestedPosition active),
      entry.2.phase = .completed →
      entry.2.requestFingerprint = hostToolFingerprint name argumentsJson →
      ∃ result replay, entry.2.resultPayload = some result ∧
        Replays result wakeId callId replay ∧
        let answer :=
          prepareHostToolOperation services moduleId wakeId request bridge
        answer.2.engine = bridge.engine ∧ answer.1 ≠ .ok true ∧
          (moduleId = chatCompletionsModuleId ∨ moduleId = openaiResponsesModuleId →
            ∀ u, services.submitToolOutput moduleId replay.render = .ok u → answer.1 = .ok false ∧
                answer.2.toolOutputs = bridge.toolOutputs ++ [(moduleId, replay.render)])
  /-- A request that differs from the recorded one is rejected. -/
  diverged : ∀ services moduleId wakeId request active callId name argumentsJson,
    Requests bridge wakeId request active callId name argumentsJson →
    ∀ entry ∈ attemptsAt bridge.engine.store (requestedPosition active),
      entry.2.requestFingerprint ≠ hostToolFingerprint name argumentsJson →
      prepareHostToolOperation services moduleId wakeId request bridge =
        (.error (if bridge.initialized then
            ⟨.actionRejected, "logical turn replay diverged at host tool operation " ++
              toString active.nextHostToolOperation⟩
          else engineNotInitialized), countedBridge bridge active)

theorem host_tools_execute_once (calls : List BridgeCall) :
    HostToolsOnce (run NativeBridge.step NativeBridge.fresh calls) := by
  obtain ⟨ledger, providers⟩ := run_kept calls
  generalize run NativeBridge.step NativeBridge.fresh calls = bridge at ledger providers ⊢
  refine ⟨?_, ?_, ?_, ?_⟩
  · intro call id operation position attempt absent found owner read entry recorded
    have after := step_kept bridge ledger providers call
    obtain ⟨row, present, isOperation⟩ := Option.map_eq_some_iff.mp found
    obtain ⟨stored, named⟩ := find?_eq_some.mp present
    rcases after.store.recorded row stored with ⟨old, was, same⟩ | superseded
    · have free := find?_eq_none.mp (Option.map_eq_none_iff.mp absent)
      exact (free old was (same.trans named)).elim
    · obtain ⟨earlier, before, attempts, isRecord⟩ := (mem_attemptsAt ledger.grounded).mp recorded
      rw [← isRecord]
      refine superseded position attempt ⟨?_, named ▸ read⟩ earlier before entry.1 attempts
      rw [← (owned_of_row after.store.ledger.grounded stored).2, isOperation]
      exact owner
  · intro services moduleId wakeId request active callId name argumentsJson requested answer told
    obtain ⟨operationId, chosen, operation, loaded, owner, leased, fingerprint⟩ :=
      execution_leases services moduleId requested told
    refine ⟨execution_superseded ledger chosen, ?_⟩
    have after := step_kept bridge ledger providers
      (.prepareHostTool services moduleId wakeId request)
    obtain ⟨attempt, recorded⟩ :=
      attempt_recorded ledger after.store.ledger.grounded chosen loaded owner
    exact ⟨_, recorded, leased, fingerprint⟩
  · intro services moduleId wakeId request active callId name argumentsJson requested running entry
      recorded completed same
    obtain ⟨members, payload, answered⟩ :=
      completedAttempt_replayed ledger services moduleId requested recorded completed same running
    have key : active.wakeId = wakeId := key_of_find? requested.active
    have wake : (countedWake active).wakeId = wakeId := key
    refine ⟨_, _, payload, replays_payload members wakeId callId, ?_⟩
    rw [answered, ← wake]
    obtain ⟨engine, handed⟩ :=
      replay_outcome services moduleId callId payload (countedBridge bridge active)
    exact ⟨engine, replay_never_executes services moduleId callId entry.2 _, handed⟩
  · intro services moduleId wakeId request active callId name argumentsJson requested entry recorded
      diverged
    exact divergedRequest_rejected ledger services moduleId requested recorded diverged

/-- All attempts are for one request, and one that is not superseded is the last. -/
def LiveIsLast (recorded : List (Nat × LogicalTurnOperationRecord)) : Prop :=
  ∀ entry ∈ recorded, ∀ other ∈ recorded,
    entry.2.requestFingerprint = other.2.requestFingerprint ∧ (entry.2.phase ≠ .superseded →
      other = entry ∨ other.1 < entry.1 ∧ other.2.phase = .superseded)

theorem live_attempt_is_last (calls : List BridgeCall) (position : Position) : LiveIsLast
    (attemptsAt (run NativeBridge.step NativeBridge.fresh calls).engine.store position) := by
  rintro ⟨attempt, operation⟩ isEntry ⟨attempt', operation'⟩ isOther
  obtain ⟨ledger, -⟩ := run_kept calls
  obtain ⟨row, stored, attempts, rfl⟩ := (mem_attemptsAt ledger.grounded).mp isEntry
  obtain ⟨row', stored', attempts', rfl⟩ := (mem_attemptsAt ledger.grounded).mp isOther
  refine ⟨ledger.fingerprint row stored row' stored' _ _ _ attempts attempts', fun live => ?_⟩
  rcases Nat.lt_trichotomy attempt' attempt with earlier | rfl | later
  · exact .inr ⟨earlier, ledger.superseded row' stored' row stored _ _ _ attempts' attempts earlier⟩
  · have name := (attempts_name ledger stored attempts).1
    rw [← (attempts_name ledger stored' attempts').1] at name
    cases List.inj_on_of_nodup_map (Table.unique _) stored stored' name
    exact .inl rfl
  · exact (live (ledger.superseded row stored row' stored' _ _ _ attempts attempts' later)).elim

end RustyCrew.Proof.Bridge

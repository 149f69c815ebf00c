import RustyCrew.Engine.BrainRuntime

namespace RustyCrew.Proof.Engine

open Library Protocol RustyCrew.Persistence RustyCrew.Engine CrewM

variable {kind : CoreErrorKind}

/-! ## Rules for calls that may fail -/

section
variable {α : Type} {P E : CrewEngine → Prop} {Q : α → CrewEngine → Prop}

open Attended

theorem upholds_now : Upholds P now (fun _ => P) E :=
  upholds_bind (upholds_ask fun _ _ => id) fun _ => upholds_pure fun _ => id

theorem upholds_reject (fails : ∀ e, P e → E e) : Upholds P (reject kind message) Q E :=
  fun _ _ pre => ⟨pre.1, fails _ pre.2⟩

theorem upholds_call (fails : ∀ e, P e → E e) : Upholds P call (fun _ => P) E := by
  apply upholds_bind (upholds_ask fun _ _ => id)
  intro answer
  cases answer.fault with
  | some failure => exact upholds_lift (fun _ _ impossible => by cases impossible) fails
  | none => exact upholds_pure fun _ => id

theorem upholds_inStore {statement : SessionTables → CoreResult (α × SessionTables)}
    (post : ∀ e a tables, statement e.tables = .ok (a, tables) → P e → Q a { e with tables })
    (fails : ∀ e, P e → E e) : Upholds P (inStore statement) Q E :=
  upholds_bind (upholds_call fails) fun _ => upholds_within post fails

theorem upholds_load {query : SessionTables → α} (post : ∀ e, P e → Q (query e.tables) e)
    (fails : ∀ e, P e → E e) : Upholds P (load query) Q E := by
  refine upholds_inStore (fun e a tables stated pre => ?_) fails
  cases stated
  exact post e pre

theorem upholds_save {Q : Unit → CrewEngine → Prop}
    (post : ∀ e, P e → Q () { e with tables := write e.tables }) (fails : ∀ e, P e → E e) :
    Upholds P (save write) Q E := by
  refine upholds_inStore (fun e a tables stated pre => ?_) fails
  cases stated
  exact post e pre

theorem upholds_inRegistry {f : SessionRegistry → CoreResult (α × SessionRegistry)}
    (post : ∀ e a registry, f e.registry = .ok (a, registry) → P e → Q a { e with registry })
    (fails : ∀ e, P e → E e) : Upholds P (inRegistry f) Q E :=
  upholds_within post fails

theorem upholds_lookUp {query : SessionRegistry → CoreResult α}
    (post : ∀ e a, query e.registry = .ok a → P e → Q a e) (fails : ∀ e, P e → E e) :
    Upholds P (lookUp query) Q E := by
  refine upholds_inRegistry (fun e a registry ran pre => ?_) fails
  simp only [bind_eq_ok, pure_eq_ok, Prod.mk.injEq] at ran
  obtain ⟨answer, stated, rfl, rfl⟩ := ran
  exact post e answer stated pre

theorem upholds_publish {Q : Nat → CrewEngine → Prop}
    (post : ∀ sequence e, P e → Q sequence { e with published := e.published ++ [event] })
    (fails : ∀ e, P e → E e) : Upholds P (publish event) Q E := by
  apply upholds_bind (upholds_call fails)
  intro outside
  refine upholds_transact (fun e a e' ran pre => ?_) fails
  cases ran
  exact post _ e pre

theorem upholds_elsewhere (fails : ∀ e, P e → E e) : Upholds P elsewhere (fun _ => P) E :=
  upholds_bind (upholds_call fails) fun _ => upholds_pure fun _ => id

attribute [grind =] getSession loadDelegatedWorkerRunBySession validateAgentIdRouteReservation

@[grind ←] theorem preserves_now : Preserves P now := upholds_now

@[grind ←] theorem preserves_reject : Preserves P (reject kind message : CrewM α) :=
  preserves_lift

@[grind ←] theorem preserves_call : Preserves P call := upholds_call fun _ => id

@[grind ←] theorem preserves_elsewhere : Preserves P elsewhere := upholds_elsewhere fun _ => id

@[grind ←] theorem preserves_load {query : SessionTables → α} : Preserves P (load query) :=
  upholds_load (fun _ => id) fun _ => id

@[grind ←] theorem preserves_lookUp {query : SessionRegistry → CoreResult α} :
    Preserves P (lookUp query) :=
  upholds_lookUp (fun _ _ _ => id) fun _ => id

end

/-! ## Calls that return -/

/-- The computation can return `a` and take the engine from one state to the other. -/
def Returns {α : Type} (x : CrewM α) (e : CrewEngine) (a : α) (e' : CrewEngine) : Prop :=
  ∃ attended next, x attended = (.ok a, next) ∧ attended.state = e ∧ next.state = e'

section
variable {α β : Type} {e e' : CrewEngine} {a : α}

open Attended

theorem returns_of_ok
    (ok : (x attended).1 = .ok a) : Returns x attended.state a (x attended).2.state :=
  ⟨attended, (x attended).2, Prod.ext ok rfl, rfl, rfl⟩

theorem returns_bind {f : α → CrewM β} (returned : Returns (x >>= f) e b e') :
    ∃ a middle, Returns x e a middle ∧ Returns (f a) middle b e' := by
  obtain ⟨attended, next, ran, start, finish⟩ := returned
  obtain ⟨a, between, first, later⟩ := Effect.bind_returns.mp ran
  exact ⟨a, between.state, ⟨attended, between, first, start, rfl⟩,
    between, next, later, rfl, finish⟩

theorem returns_then {f : α → CrewM β} {S : α → CrewEngine → Prop}
    (first : ∀ {a middle}, Returns x e a middle → S a middle)
    (returned : Returns (x >>= f) e b e') : ∃ a middle, S a middle ∧ Returns (f a) middle b e' := by
  obtain ⟨a, middle, ran, later⟩ := returns_bind returned
  exact ⟨a, middle, first ran, later⟩

@[elab_as_elim] theorem Returns.upheld {Q : α → CrewEngine → Prop} {E : CrewEngine → Prop}
    (returned : Returns x e a e') (upholds : Upholds (· = e) x Q E) : Q a e' := by
  obtain ⟨attended, next, ran, rfl, rfl⟩ := returned
  have holds := upholds attended.answers attended ⟨⟨0, fun _ => rfl⟩, rfl⟩
  rw [ran] at holds
  exact holds.2

theorem returns_pure (returned : Returns (pure b) e a e') : a = b ∧ e' = e :=
  returned.upheld (E := (· = e)) (upholds_pure fun _ same => ⟨rfl, same⟩)

theorem returns_lift {result : CoreResult α} (returned : Returns (Effect.lift result) e a e') :
    result = .ok a ∧ e' = e :=
  returned.upheld (upholds_lift (fun _ _ ok same => ⟨ok, same⟩) fun _ => id)

theorem returns_now (returned : Returns now e time e') : e' = e :=
  returned.upheld preserves_now

theorem returns_elsewhere (returned : Returns elsewhere e () e') : e' = e :=
  returned.upheld preserves_elsewhere

theorem returns_load {query : SessionTables → α} (returned : Returns (load query) e a e') :
    a = query e.tables ∧ e' = e :=
  returned.upheld (upholds_load (fun _ same => ⟨same ▸ rfl, same⟩) fun _ => id)

theorem returns_save (returned : Returns (save write) e u e') :
    e' = { e with tables := write e.tables } :=
  returned.upheld (upholds_save (fun _ same => same ▸ rfl) fun _ => id)

theorem returns_inRegistry {f : SessionRegistry → CoreResult (α × SessionRegistry)}
    (returned : Returns (inRegistry f) e a e') :
    ∃ registry, f e.registry = .ok (a, registry) ∧ e' = { e with registry } :=
  returned.upheld (upholds_inRegistry (fun _ _ registry ran same =>
    ⟨registry, same ▸ ran, same ▸ rfl⟩) fun _ => id)

theorem returns_lookUp {query : SessionRegistry → CoreResult α}
    (returned : Returns (lookUp query) e a e') : query e.registry = .ok a ∧ e' = e :=
  returned.upheld (upholds_lookUp (fun _ _ ran same => ⟨same ▸ ran, same⟩) fun _ => id)

theorem returns_publish {sequence : Nat} (returned : Returns (publish event) e sequence e') :
    e' = { e with published := e.published ++ [event] } :=
  returned.upheld (upholds_publish (fun _ _ same => same ▸ rfl) fun _ => id)

/-! ## Loops -/

inductive Visits (Round : CrewEngine → α → CrewEngine → Prop) :
    CrewEngine → List α → CrewEngine → Prop
  | none {e : CrewEngine} : Visits Round e [] e
  | next {e middle e' : CrewEngine} {item : α} {rest : List α} : Round e item middle →
      Visits Round middle rest e' → Visits Round e (item :: rest) e'

theorem returns_forEach {f : α → CrewM Unit} (returned : Returns (Effect.forEach f items) e u e') :
    Visits (fun e item e' => Returns (f item) e () e') e items e' := by
  induction items generalizing e with
  | nil =>
    obtain ⟨-, rfl⟩ := returns_pure returned
    exact .none
  | cons item rest ih =>
    obtain ⟨u, middle, first, later⟩ := returns_bind returned
    exact .next first (ih later)

theorem returns_gather {f : α → CrewM (Option β)}
    (returned : Returns (Effect.gather f items) e found e') :
    Visits (fun e item e' => ∃ one, Returns (f item) e one e') e items e' := by
  induction items generalizing e found with
  | nil =>
    obtain ⟨-, rfl⟩ := returns_pure returned
    exact .none
  | cons item rest ih =>
    obtain ⟨one, middle, first, later⟩ := returns_bind returned
    obtain ⟨others, last, visited, ending⟩ := returns_bind later
    obtain ⟨-, rfl⟩ := returns_pure ending
    exact .next ⟨one, first⟩ (ih visited)

end

/-! ## Rules for calls that do not fail from some point on -/

/-- No call fails from answer number `k` on. -/
abbrev Calmly {α : Type} (k : Nat) (P : CrewEngine → Prop) (x : CrewM α) (k' : Nat)
    (Q : α → CrewEngine → Prop) (E : CrewEngine → Prop) : Prop :=
  Attended.Attends (fun outside => outside.fault = none) k P x k' Q E

section
variable {α : Type} {P E : CrewEngine → Prop} {Q : α → CrewEngine → Prop} {k : Nat}

open Attended

theorem calmly_reject (fails : ∀ e, P e → E e) : Calmly k P (reject kind message) k' Q E :=
  fun _ pre => fails _ pre.2

theorem calmly_now : Calmly k P now (k - 1) (fun _ => P) E :=
  attends_bind (attends_ask fun _ _ _ => id) fun _ => attends_pure fun _ => id

theorem calmly_call_early (fails : ∀ e, P e → E e) : Calmly (k + 1) P call k (fun _ => P) E := by
  apply attends_bind (attends_ask fun _ _ _ => id)
  intro answer
  cases answer.fault with
  | some failure =>
    exact attends_lift (fun _ _ impossible => by cases impossible) fun _ e _ => fails e
  | none => exact attends_pure fun _ => id

theorem calmly_call : Calmly 0 P call 0 (fun _ => P) E := by
  refine attends_bind (Q := fun answer e => answer.fault = none ∧ P e)
    (attends_ask fun _ _ calm pre => ⟨calm rfl, pre⟩) fun answer => attends_assume fun calm => ?_
  rw [calm]
  exact attends_pure fun _ => id

section
variable (calls : Calmly k P call k' (fun _ => P) E)
include calls

theorem calmly_load_of {query : SessionTables → α} (post : ∀ e, P e → Q (query e.tables) e) :
    Calmly k P (load query) k' Q E :=
  attends_bind calls fun _ => attends_total post

theorem calmly_save_of {Q : Unit → CrewEngine → Prop}
    (post : ∀ e, P e → Q () { e with tables := write e.tables }) :
    Calmly k P (save write) k' Q E :=
  attends_bind calls fun _ => attends_total post

theorem calmly_elsewhere_of : Calmly k P elsewhere k' (fun _ => P) E :=
  attends_bind calls fun _ => attends_pure fun _ => id

end

theorem calmly_inRegistry {f : SessionRegistry → CoreResult (α × SessionRegistry)}
    (post : ∀ e a registry, f e.registry = .ok (a, registry) → P e → Q a { e with registry })
    (fails : ∀ e failure, f e.registry = .error failure → P e → E e) :
    Calmly k P (inRegistry f) k Q E := by
  refine attends_transact (fun e a e' ran pre => ?_) fun e failure refused pre => ?_
  · simp only [bind_eq_ok, pure_eq_ok, Prod.exists, Prod.mk.injEq] at ran
    obtain ⟨answer, registry, stated, rfl, rfl⟩ := ran
    exact post e answer registry stated pre
  · cases outcome : f e.registry with
    | error failure => exact fails e failure outcome pre
    | ok result =>
      rw [outcome] at refused
      cases refused

theorem calmly_lookUp {query : SessionRegistry → CoreResult α}
    (post : ∀ e a, query e.registry = .ok a → P e → Q a e)
    (fails : ∀ e failure, query e.registry = .error failure → P e → E e) :
    Calmly k P (lookUp query) k Q E := by
  refine calmly_inRegistry (fun e a registry ran pre => ?_) fun e failure refused pre => ?_
  · simp only [bind_eq_ok, pure_eq_ok, Prod.mk.injEq] at ran
    obtain ⟨answer, stated, rfl, rfl⟩ := ran
    exact post e answer stated pre
  · cases outcome : query e.registry with
    | error failure => exact fails e failure outcome pre
    | ok result =>
      rw [outcome] at refused
      cases refused

theorem calmly_publish {Q : Nat → CrewEngine → Prop}
    (post : ∀ sequence e, P e → Q sequence { e with published := e.published ++ [event] }) :
    Calmly 0 P (publish event) 0 Q E :=
  attends_bind calmly_call fun _ => attends_total (post _)

end

/-! ## Sample engines -/

def calm : Surroundings := ⟨"2026-01-02T00:00:00Z", none, 1, false, [], true⟩

def lineageOf (parent : String) : DelegationLineage where
  parentSessionId := ⟨parent⟩
  parentAgentId := ⟨"agent"⟩
  sourceWakeId := "wake"
  sourceActionIndex := 0
  requestedTaskId := none
  correlationId := "c"
  workspaceConstraint := none

def crewSession (handle : Nat) (id : String) (parent : Option String) : SessionState where
  handle := handle
  sessionId := ⟨id⟩
  agentId := ⟨id⟩
  profileId := ⟨"profile"⟩
  kind := if parent.isSome then .delegated else .full
  delegation := parent.map lineageOf
  workspace := none
  resourceLimits := ⟨none, none⟩
  toolProfile := ⟨[]⟩
  historyWindow := none
  inferenceOverrides := ⟨none⟩
  status := .idle
  brainTurnCount := 0
  createdAt := "2026-01-01T00:00:00Z"
  lastActiveAt := "2026-01-01T00:00:00Z"

def crewRun (id session : String) (status : WorkerRunStatus) : WorkerRunRecord where
  runId := ⟨id⟩
  parentSessionId := ⟨"r"⟩
  delegatedSessionId := some ⟨session⟩
  parentAgentId := none
  profileId := ⟨"profile"⟩
  taskId := none
  status := status
  createdAt := "2026-01-01T00:00:00Z"
  lastUpdatedAt := "2026-01-01T00:00:00Z"
  sourceWakeId := "wake"
  sourceActionIndex := 0
  delegationCorrelationId := none
  parentConsumption := .awaitCompletion
  fanOutGroupId := none
  fanOutMaxConcurrency := none
  fanOutFailurePolicy := .failSoft
  workerPoolWorkItemId := none
  workerPoolLeaseId := none
  workerPoolMemberId := none
  workerPoolClaimToken := none

def crewOf (sessions : List SessionState) (runs : List WorkerRunRecord) : CrewEngine where
  registry := SessionRegistry.fromStates sessions
  profileToolProfiles := Table.empty
  tables :=
    { SessionTables.empty with
      sessions := sessions.foldl Table.put Table.empty
      workerRuns := runs.foldl Table.put Table.empty }
  published := []

def attendedBy (e : CrewEngine) : Attended CrewEngine Surroundings := ⟨e, fun _ => calm⟩

def newYear (day : Nat) (valid : 1 ≤ day ∧ day ≤ 31) : OffsetDateTime :=
  { OffsetDateTime.startOfYear 2026 with day, day_valid := valid }

def crewCalendar : Calendar where
  parse timestamp :=
    if timestamp = "2026-01-01T00:00:00Z" then .ok (newYear 1 (by decide))
    else if timestamp = "2026-01-02T00:00:00Z" then .ok (newYear 2 (by decide))
    else .error "not parsed"
  formatAfter _ _ := .error "not formatted"

end RustyCrew.Proof.Engine

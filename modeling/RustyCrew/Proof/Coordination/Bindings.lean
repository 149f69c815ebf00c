import RustyCrew.Library.Lineages
import RustyCrew.Proof.Coordination.Store

namespace RustyCrew.Proof.Coordination

open Library Protocol RustyCrew.Coordination Relation ExternalTables

structure Wrote (tables : ExternalTables) (record saved : ExternalAgentBinding) : Prop where
  valid : record.validate = .ok ()
  transition : validateExternalAgentBindingTransition (tables.bindings.find? record.bindingId)
    (record.lineage.bind fun lineage => tables.bindings.find? lineage.predecessorBindingId)
    (tables.bindings.rows.any (namesPredecessor record.bindingId)) record = .ok ()
  saves : saved = savedBinding record (tables.bindings.find? record.bindingId)
  constraints : tables.checkBindingConstraints saved = .ok ()

structure Succeeds (predecessor : ExternalAgentBinding) (lineage : ExternalAgentBindingLineage)
    (successor : ExternalAgentBinding) : Prop where
  session : predecessor.sessionId = some lineage.predecessorSessionId
  thread : predecessor.nativeThreadId = some lineage.predecessorNativeThreadId
  runtime : predecessor.runtimeId = successor.runtimeId
  sessionsDiffer : successor.sessionId ≠ predecessor.sessionId
  threadsDiffer : successor.nativeThreadId ≠ predecessor.nativeThreadId

theorem bindings_serve (tables) (jsonLength : NormalizedExternalRuntimeEvent → Nat) (call) :
    (tables.serve jsonLength call).bindings = tables.bindings ∨
      ∃ record expected saved, call = .putBinding record expected ∧ Wrote tables record saved ∧
        (tables.serve jsonLength call).bindings = tables.bindings.put saved := by
  cases call with
  | putBinding record expected =>
    cases done : tables.putExternalAgentBinding record expected with
    | error failure =>
      left
      simp only [ExternalTables.serve, done, ExternalTables.settled]
    | ok answer =>
      obtain ⟨saved, after⟩ := answer
      simp only [ExternalTables.serve, done, ExternalTables.settled]
      obtain rfl | ⟨valid, transition, saves, constraints, rfl⟩ :=
        putExternalAgentBinding_eq done
      · exact .inl rfl
      · exact .inr ⟨record, expected, saved, rfl, ⟨valid, transition, saves, constraints⟩, rfl⟩
  | _ => exact .inl ((serve_frame tables jsonLength _).bindings rfl)

/-! ## What the checks of a write say -/

section
variable {record : ExternalAgentBinding}

@[simp] theorem bindingId_saved (record : ExternalAgentBinding)
    (current : Option ExternalAgentBinding) :
    (savedBinding record current).bindingId = record.bindingId := rfl

@[simp] theorem lineage_saved (record : ExternalAgentBinding)
    (current : Option ExternalAgentBinding) :
    (savedBinding record current).lineage = record.lineage := rfl

section
variable (wrote : Wrote tables record saved)
include wrote

theorem Wrote.lineage_kept (found : tables.bindings.find? record.bindingId = some current)
    (owns : current.lineage = some lineage) : record.lineage = some lineage := by
  have transition := wrote.transition
  simp only [validateExternalAgentBindingTransition, validateAuthority, found, bind_eq_ok,
    rejectIf_eq_ok, owns, Option.isSome_some, true_and, ne_eq, not_not] at transition
  obtain ⟨-, ⟨-, -, same⟩, -⟩ := transition
  exact same.symm

theorem Wrote.identity_kept (found : tables.bindings.find? record.bindingId = some current)
    (isRow : row ∈ tables.bindings.rows) (names : row.lineage = some lineage)
    (named : lineage.predecessorBindingId = record.bindingId) :
    current.runtimeId = record.runtimeId ∧ current.sessionId = record.sessionId ∧
      current.nativeThreadId = record.nativeThreadId := by
  have referenced : tables.bindings.rows.any (namesPredecessor record.bindingId) = true := by
    rw [List.any_eq_true]
    exact ⟨row, isRow, by simp [namesPredecessor, names, named]⟩
  have transition := wrote.transition
  simp only [validateExternalAgentBindingTransition, validateAuthority, found, bind_eq_ok,
    rejectIf_eq_ok, referenced, changesAuthority, true_and, not_or, ne_eq, not_not] at transition
  obtain ⟨-, ⟨-, ⟨-, same⟩, -⟩, -⟩ := transition
  exact same

theorem Wrote.not_own (names : record.lineage = some lineage) :
    lineage.predecessorBindingId ≠ record.bindingId := by
  have valid := wrote.valid
  simp only [ExternalAgentBinding.validate, names, ExternalAgentBindingLineage.validate,
    bind_eq_ok, rejectIf_eq_ok] at valid
  grind

theorem Wrote.succeeds (names : record.lineage = some lineage) :
    (tables.bindings.find? record.bindingId).isSome ∧
      ∃ predecessor, tables.bindings.find? lineage.predecessorBindingId = some predecessor ∧
        Succeeds predecessor lineage record := by
  have transition := wrote.transition
  simp only [validateExternalAgentBindingTransition, names, bind_eq_ok, validateLineage,
    rejectIf_eq_ok, orFail_eq_ok, not_or, ne_eq, not_not, Option.bind_some] at transition
  obtain ⟨-, -, -, present, predecessor, found, -, ⟨-, -, runtime, session, thread⟩,
    -, sessions, -, threads⟩ := transition
  constructor
  · exact Option.isSome_iff_ne_none.mpr present
  · exact ⟨predecessor, found, session, thread, runtime, session ▸ sessions, thread ▸ threads⟩

end

end

/-! ## Lineages are kept -/

structure LineageSound (tables : ExternalTables) : Prop where
  succeeds : ∀ binding ∈ tables.bindings.rows, ∀ lineage, binding.lineage = some lineage →
    ∃ predecessor, tables.bindings.find? lineage.predecessorBindingId = some predecessor ∧
      Succeeds predecessor lineage binding
  named : ∀ binding ∈ tables.bindings.rows, binding.purpose = .crewAgent → binding.agentId.isSome
  single : ∀ binding ∈ tables.bindings.rows, ∀ other ∈ tables.bindings.rows,
    binding.activeCrewAgent.isSome → binding.activeCrewAgent = other.activeCrewAgent →
      binding.bindingId = other.bindingId

def LineagesKept (earlier later : ExternalTables) : Prop :=
  ∀ id binding lineage, earlier.bindings.find? id = some binding → binding.lineage = some lineage →
    ∃ next, later.bindings.find? id = some next ∧ next.lineage = some lineage

section
variable {tables : ExternalTables}

section
variable (wrote : Wrote tables record saved)
include wrote

theorem Wrote.named (crew : record.purpose = .crewAgent) : record.agentId.isSome := by
  have valid := wrote.valid
  simp only [ExternalAgentBinding.validate, crew, bind_eq_ok, rejectIf_eq_ok, true_and,
    not_or] at valid
  obtain ⟨-, -, -, -, -, -, -, -, -, -, -, ⟨-, agent, -⟩, -⟩ := valid
  exact Option.isSome_iff_ne_none.mpr agent

theorem Wrote.single (isRow : row ∈ tables.bindings.rows)
    (active : saved.activeCrewAgent.isSome) (same : row.activeCrewAgent = saved.activeCrewAgent) :
    row.bindingId = saved.bindingId := by
  have constraints := wrote.constraints
  simp only [checkBindingConstraints, bind_eq_ok, rejectIf_eq_ok, active, true_and,
    List.any_eq_true, Bool.and_eq_true, decide_eq_true_eq, not_exists, not_and] at constraints
  obtain ⟨-, only, -⟩ := constraints
  by_contra other
  exact only row isRow other same

theorem Wrote.succeeds_row (isRow : row ∈ tables.bindings.rows) (names : row.lineage = some lineage)
    (found : tables.bindings.find? lineage.predecessorBindingId = some predecessor)
    (succeeds : Succeeds predecessor lineage row) :
    ∃ next, (tables.bindings.put saved).find? lineage.predecessorBindingId = some next ∧
      Succeeds next lineage row := by
  obtain rfl := wrote.saves
  by_cases named : record.bindingId = lineage.predecessorBindingId
  · rw [← named] at found
    obtain ⟨runtime, session, thread⟩ := wrote.identity_kept found isRow names named.symm
    refine ⟨_, by rw [Table.find?_put, bindingId_saved, if_pos named], ?_⟩
    exact ⟨session.symm.trans succeeds.session, thread.symm.trans succeeds.thread,
      runtime.symm.trans succeeds.runtime, session ▸ succeeds.sessionsDiffer,
      thread ▸ succeeds.threadsDiffer⟩
  · exact ⟨predecessor, by simp [named, found], succeeds⟩

end

theorem lineageSound_put (sound : LineageSound tables) (wrote : Wrote tables record saved)
    (written : after.bindings = tables.bindings.put saved) : LineageSound after := by
  have isRecord := wrote.saves
  constructor
  · intro binding isRow lineage names
    rw [written, Table.mem_put] at isRow
    rw [written]
    obtain rfl | ⟨isRow, -⟩ := isRow
    · subst isRecord
      obtain ⟨-, predecessor, found, succeeds⟩ := wrote.succeeds names
      have other : ¬record.bindingId = lineage.predecessorBindingId :=
        fun own => wrote.not_own names own.symm
      refine ⟨predecessor, by simp [other, found], ?_⟩
      exact ⟨succeeds.session, succeeds.thread, succeeds.runtime, succeeds.sessionsDiffer,
        succeeds.threadsDiffer⟩
    · obtain ⟨predecessor, found, succeeds⟩ := sound.succeeds binding isRow lineage names
      exact wrote.succeeds_row isRow names found succeeds
  · intro binding isRow crew
    rw [written, Table.mem_put] at isRow
    obtain rfl | ⟨isRow, -⟩ := isRow
    · subst isRecord
      exact wrote.named crew
    · exact sound.named binding isRow crew
  · intro binding isRow other isOther active same
    rw [written, Table.mem_put] at isRow isOther
    obtain rfl | ⟨isRow, -⟩ := isRow
    · obtain rfl | ⟨isOther, -⟩ := isOther
      · rfl
      · exact (wrote.single isOther active same.symm).symm
    · obtain rfl | ⟨isOther, -⟩ := isOther
      · exact wrote.single isRow (same ▸ active) same
      · exact sound.single binding isRow other isOther active same

theorem lineageSound_serve (call) (sound : LineageSound tables) :
    LineageSound (tables.serve jsonLength call) := by
  obtain same | ⟨record, expected, saved, -, wrote, written⟩ :=
    bindings_serve tables jsonLength call
  · constructor
    · rw [same]
      exact sound.succeeds
    · rw [same]
      exact sound.named
    · rw [same]
      exact sound.single
  · exact lineageSound_put sound wrote written

theorem lineagesKept_serve (call) : LineagesKept tables (tables.serve jsonLength call) := by
  intro id binding lineage found names
  obtain same | ⟨record, expected, saved, -, wrote, written⟩ :=
    bindings_serve tables jsonLength call
  · exact ⟨binding, by rw [same, found], names⟩
  · rw [written]
    have isRecord := wrote.saves
    by_cases written : record.bindingId = id
    · subst written
      exact ⟨saved, by simp [isRecord], by simp [isRecord, wrote.lineage_kept found names]⟩
    · exact ⟨binding, by simp [isRecord, written, found], names⟩

theorem lineagesKept_trans (early : LineagesKept tables middle)
    (late : LineagesKept middle after) : LineagesKept tables after := by
  intro id binding lineage found names
  obtain ⟨next, nextFound, nextNames⟩ := early id binding lineage found names
  exact late id next lineage nextFound nextNames

end

/-- A lineage stays as it was recorded, agrees with the predecessor's own row, and an agent has at
most one active binding. -/
theorem lineages_agree (jsonLength : NormalizedExternalRuntimeEvent → Nat)
    (calls : List StoreCall) :
    (∀ n m, n ≤ m → LineagesKept (tablesAt jsonLength calls n) (tablesAt jsonLength calls m)) ∧
    (∀ n, ∀ binding ∈ (tablesAt jsonLength calls n).bindings.rows, ∀ lineage,
      binding.lineage = some lineage → ∃ predecessor,
        (tablesAt jsonLength calls n).bindings.find? lineage.predecessorBindingId =
          some predecessor ∧ Succeeds predecessor lineage binding) ∧
    (∀ n, ∀ binding ∈ (tablesAt jsonLength calls n).bindings.rows,
      ∀ other ∈ (tablesAt jsonLength calls n).bindings.rows,
      binding.purpose = .crewAgent → binding.status = .active →
      other.purpose = .crewAgent → other.status = .active →
      binding.agentId = other.agentId → binding = other) := by
  have sound (n : Nat) : LineageSound (tablesAt jsonLength calls n) := by
    apply run_invariant_all
    · exact fun tables call => lineageSound_serve call
    · exact ⟨by simp [ExternalTables.empty], by simp [ExternalTables.empty],
        by simp [ExternalTables.empty]⟩
  refine ⟨?_, fun n => (sound n).succeeds, ?_⟩
  · intro n m order
    refine stateAt_relates ?_ (fun _ _ _ => lineagesKept_trans) ?_ order
    · exact fun _ _ binding _ found names => ⟨binding, found, names⟩
    · exact fun _ call _ => lineagesKept_serve call
  · intro n binding isRow other isOther crew active otherCrew otherActive same
    have named := (sound n).named binding isRow crew
    apply List.inj_on_of_nodup_map (tablesAt jsonLength calls n).bindings.unique isRow isOther
    apply (sound n).single binding isRow other isOther
    · simpa [ExternalAgentBinding.activeCrewAgent, crew, active] using named
    · simp [ExternalAgentBinding.activeCrewAgent, crew, active, otherCrew, otherActive, same]

/-! ## The graph of predecessors -/

def predecessorOf (tables : ExternalTables) (id : ExternalBindingId) : Option ExternalBindingId :=
  ((tables.bindings.find? id).bind (·.lineage)).map (·.predecessorBindingId)

def Precedes (tables : ExternalTables) (predecessor successor : ExternalBindingId) : Prop :=
  predecessorOf tables successor = some predecessor

/-- Following predecessors never returns, and no two bindings share one. -/
structure Forest (tables : ExternalTables) : Prop where
  acyclic : Acyclic (Precedes tables)
  unshared : ∀ predecessor first second, Precedes tables predecessor first →
    Precedes tables predecessor second → first = second

def establishes (jsonLength : NormalizedExternalRuntimeEvent → Nat) (tables : ExternalTables) :
    StoreCall → Option (ExternalBindingId × ExternalBindingId)
  | .putBinding record expected =>
    match predecessorOf tables record.bindingId,
      predecessorOf (tables.serve jsonLength (.putBinding record expected)) record.bindingId with
    | none, some predecessor => some (predecessor, record.bindingId)
    | _, _ => none
  | _ => none

/-- A lineage that a call establishes names a predecessor that no binding names yet and that does
not itself descend from the successor. -/
def FreshLineage (jsonLength : NormalizedExternalRuntimeEvent → Nat) (tables : ExternalTables)
    (call : StoreCall) : Prop :=
  ∀ predecessor successor, establishes jsonLength tables call = some (predecessor, successor) →
    (∀ other, ¬Precedes tables predecessor other) ∧
      ¬ReflTransGen (Precedes tables) successor predecessor

section

theorem predecessorOf_serve (call) : establishes jsonLength tables call = none ∧
        predecessorOf (tables.serve jsonLength call) = predecessorOf tables ∨
      ∃ predecessor successor, establishes jsonLength tables call = some (predecessor, successor) ∧
        predecessorOf tables successor = none ∧
        ∀ id, predecessorOf (tables.serve jsonLength call) id =
          if id = successor then some predecessor else predecessorOf tables id := by
  obtain same | ⟨record, expected, saved, rfl, wrote, written⟩ :=
    bindings_serve tables jsonLength call
  · have kept : predecessorOf (tables.serve jsonLength call) = predecessorOf tables := by
      funext id
      rw [predecessorOf, same, predecessorOf]
    refine .inl ⟨?_, kept⟩
    cases call with
    | putBinding record expected =>
      rw [establishes, kept]
      cases predecessorOf tables record.bindingId <;> rfl
    | _ => rfl
  · have isRecord := wrote.saves
    have after (id : ExternalBindingId) :
        predecessorOf (tables.serve jsonLength (.putBinding record expected)) id =
          if id = record.bindingId then record.lineage.map (·.predecessorBindingId)
          else predecessorOf tables id := by
      rw [predecessorOf, written, Table.find?_put, isRecord, bindingId_saved]
      by_cases own : record.bindingId = id
      · simp [own]
      · rw [if_neg own, if_neg (Ne.symm own), predecessorOf]
    rw [establishes, after, if_pos rfl]
    cases before : predecessorOf tables record.bindingId with
    | some predecessor =>
      -- the binding has a lineage already, and the write repeats it
      obtain ⟨lineage, owns, rfl⟩ := Option.map_eq_some_iff.mp before
      obtain ⟨current, found, owns⟩ := Option.bind_eq_some_iff.mp owns
      have repeated := wrote.lineage_kept found owns
      left
      refine ⟨by simp, ?_⟩
      funext id
      rw [after]
      split
      · next own => rw [repeated, own, before, Option.map_some]
      · rfl
    | none =>
      cases names : record.lineage with
      | none =>
        left
        refine ⟨rfl, ?_⟩
        funext id
        rw [after]
        split
        · next own => rw [names, own, before, Option.map_none]
        · rfl
      | some lineage =>
        right
        refine ⟨lineage.predecessorBindingId, record.bindingId, rfl, before, ?_⟩
        intro id
        rw [after, names, Option.map_some]

theorem precedes_addEdge (fresh : predecessorOf tables successor = none)
    (added : ∀ id, predecessorOf after id =
      if id = successor then some predecessor else predecessorOf tables id) :
    Precedes after = AddEdge (Precedes tables) predecessor successor := by
  funext first second
  rw [Precedes, added, eq_iff_iff, AddEdge, Precedes]
  by_cases own : second = successor
  · simp [own, fresh, eq_comm]
  · simp [own]

theorem forest_addEdge (fresh : predecessorOf tables successor = none)
    (added : ∀ id, predecessorOf after id =
      if id = successor then some predecessor else predecessorOf tables id) :
    Forest after ↔ Forest tables ∧ (∀ other, ¬Precedes tables predecessor other) ∧
      ¬ReflTransGen (Precedes tables) successor predecessor := by
  have edge := precedes_addEdge fresh added
  have new : Precedes after predecessor successor := by rw [edge]; exact .inr ⟨rfl, rfl⟩
  have old {first second : ExternalBindingId} (precedes : Precedes tables first second) :
      Precedes after first second := by rw [edge]; exact .inl precedes
  constructor
  · intro forest
    obtain ⟨acyclic, forward⟩ := acyclic_addEdge.mp (edge ▸ forest.acyclic)
    refine ⟨⟨acyclic, ?_⟩, ?_, forward⟩
    · intro predecessor first second firstEdge secondEdge
      exact forest.unshared predecessor first second (old firstEdge) (old secondEdge)
    · intro other precedes
      have same := forest.unshared predecessor other successor (old precedes) new
      rw [Precedes, same, fresh] at precedes
      cases precedes
  · intro ⟨forest, unnamed, forward⟩
    constructor
    · rw [edge]
      exact acyclic_addEdge.mpr ⟨forest.acyclic, forward⟩
    · intro shared first second firstEdge secondEdge
      rw [edge] at firstEdge secondEdge
      obtain firstOld | ⟨rfl, rfl⟩ := firstEdge
      · obtain secondOld | ⟨rfl, rfl⟩ := secondEdge
        · exact forest.unshared shared first second firstOld secondOld
        · exact absurd firstOld (unnamed first)
      · obtain secondOld | ⟨-, rfl⟩ := secondEdge
        · exact absurd secondOld (unnamed second)
        · rfl

theorem forest_serve (call) : Forest (tables.serve jsonLength call) ↔
      Forest tables ∧ FreshLineage jsonLength tables call := by
  obtain ⟨none, same⟩ | ⟨predecessor, successor, edge, fresh, added⟩ := predecessorOf_serve call
  · have kept : Precedes (tables.serve jsonLength call) = Precedes tables := by
      funext first second
      rw [Precedes, same, Precedes]
    have trivially : FreshLineage jsonLength tables call := by
      intro predecessor successor some
      rw [none] at some
      cases some
    constructor
    · intro forest
      exact ⟨⟨kept ▸ forest.acyclic, kept ▸ forest.unshared⟩, trivially⟩
    · intro both
      exact ⟨kept ▸ both.1.acyclic, kept ▸ both.1.unshared⟩
  · rw [forest_addEdge fresh added]
    apply and_congr_right
    intro _
    constructor
    · intro facts first second isEdge
      rw [edge, Option.some.injEq, Prod.mk.injEq] at isEdge
      obtain ⟨rfl, rfl⟩ := isEdge
      exact facts
    · exact fun facts => facts predecessor successor edge

theorem forest_run (calls) : Forest (run (ExternalTables.serve jsonLength) tables calls) ↔
      Forest tables ∧
        Along (ExternalTables.serve jsonLength) (FreshLineage jsonLength) tables calls := by
  induction calls generalizing tables with
  | nil => simp [Along]
  | cons call rest ih => rw [run_cons, ih, forest_serve, Along, and_assoc]

end

/-- The predecessors recorded in a new store form a forest exactly when each lineage, as it was
established, named an unnamed predecessor that does not descend from the successor. -/
theorem lineage_forest_iff (jsonLength : NormalizedExternalRuntimeEvent → Nat)
    (calls : List StoreCall) :
    Forest (run (ExternalTables.serve jsonLength) ExternalTables.empty calls) ↔
      Along (ExternalTables.serve jsonLength) (FreshLineage jsonLength) ExternalTables.empty
        calls := by
  have none (predecessor successor : ExternalBindingId) :
      ¬Precedes ExternalTables.empty predecessor successor := by
    simp [Precedes, predecessorOf, ExternalTables.empty]
  rw [forest_run, and_iff_right_iff_imp]
  intro _
  constructor
  · intro id cycle
    obtain ⟨_, -, edge⟩ := TransGen.tail'_iff.mp cycle
    exact none _ _ edge
  · exact fun _ _ _ edge => absurd edge (none _ _)

/-! ## Lineages that do not form a forest -/

def codexRuntime : ExternalRuntimeRegistration :=
  ⟨⟨"codex"⟩, .certified, .enabled, .ready, none, 0⟩

def crewBinding (name : String) : ExternalAgentBinding where
  bindingId := ⟨name⟩
  runtimeId := ⟨"codex"⟩
  sessionId := some ⟨name ++ "-session"⟩
  agentId := some ⟨name ++ "-agent"⟩
  profileId := some ⟨"crew"⟩
  profileRevision := some 1
  profilePromptHash := some "hash"
  profilePromptSnapshot := none
  dynamicToolCatalogFingerprint := none
  messageDeliveryPolicy := .serialNextTurn
  purpose := .crewAgent
  nativeThreadId := some (name ++ "-thread")
  cwd := none
  label := none
  taskRef := none
  lineage := none
  effectiveConfigFingerprint := "config"
  status := .active
  revision := 0
  createdAt := "2026-01-01T00:00:00Z"
  updatedAt := "2026-01-01T00:00:00Z"

def succeeding (name predecessor : String) : ExternalAgentBinding :=
  { crewBinding name with
    lineage := some ⟨⟨predecessor⟩, ⟨predecessor ++ "-session"⟩, predecessor ++ "-thread", "move",
      "handover", "2026-01-01T00:00:00Z"⟩ }

def threeBindings : List StoreCall :=
  [.registerRuntime codexRuntime none, .saveSession ⟨"a-session"⟩, .saveSession ⟨"b-session"⟩,
    .saveSession ⟨"c-session"⟩, .putBinding (crewBinding "a") none,
    .putBinding (crewBinding "b") none, .putBinding (crewBinding "c") none]

def crossedLineages : List StoreCall :=
  threeBindings ++ [.putBinding (succeeding "b" "a") (some 1),
    .putBinding (succeeding "a" "b") (some 1)]

def sharedLineages : List StoreCall :=
  threeBindings ++ [.putBinding (succeeding "b" "a") (some 1),
    .putBinding (succeeding "c" "a") (some 1)]

/-- Two bindings can become each other's predecessor, and two can share one. -/
theorem lineages_crossed_and_shared :
    (predecessorOf (run (ExternalTables.serve fun _ => 0) ExternalTables.empty crossedLineages)
        ⟨"b"⟩ = some ⟨"a"⟩ ∧
      predecessorOf (run (ExternalTables.serve fun _ => 0) ExternalTables.empty crossedLineages)
        ⟨"a"⟩ = some ⟨"b"⟩) ∧
    (predecessorOf (run (ExternalTables.serve fun _ => 0) ExternalTables.empty sharedLineages)
        ⟨"b"⟩ = some ⟨"a"⟩ ∧
      predecessorOf (run (ExternalTables.serve fun _ => 0) ExternalTables.empty sharedLineages)
        ⟨"c"⟩ = some ⟨"a"⟩) := by
  decide +kernel

end RustyCrew.Proof.Coordination

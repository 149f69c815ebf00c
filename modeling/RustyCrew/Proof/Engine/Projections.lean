import RustyCrew.Proof.Engine.Sessions

namespace RustyCrew.Proof.Engine

open Library Protocol RustyCrew.Persistence RustyCrew.Lifecycle
open RustyCrew.Engine RustyCrew.Proof.Persistence RustyCrew.Proof.Lifecycle

/-! ## Projection ids of new turns are new -/

theorem projected_lifecycleForRecord (record progress kind) (reasonCode summary : String) (now) :
    Projected (lifecycleForRecord record progress kind reasonCode summary now) := by
  refine ⟨toString record.revision ++ ":" ++ kind.asStr, ?_⟩
  simp only [lifecycleForRecord, String.append_assoc]

def ProjectedLog (v : TurnView) : Prop := ∀ event ∈ v.log, Projected event

theorem projectedLog_append {log events : List LogicalTurnLifecycleEvent}
    (old : ∀ event ∈ log, Projected event) (new : ∀ event ∈ events, Projected event) :
    ∀ event ∈ log ++ events, Projected event := by
  intro event member
  rcases List.mem_append.mp member with left | right
  · exact old event left
  · exact new event right

theorem step_projectedLog {op : Op} {v v' : TurnView} (step : TurnStep op v v')
    (allowed : EngineOp op) (projected : ProjectedLog v) : ProjectedLog v' := by
  cases step with
  | admitTurn valid =>
    rcases allowed with
      impossible | impossible | ⟨wake, binding, bodyStateJson, admittedAt, admission⟩
    · exact impossible.elim
    · exact impossible.elim
    · cases admission
      intro event member
      cases List.mem_singleton.mp member
      exact projected_lifecycleEvent _ _
  | claim | finalize | interrupt | recover =>
    refine projectedLog_append projected fun event member => ?_
    cases List.mem_singleton.mp member
    exact projected_lifecycleForRecord _ _ _ _ _ _
  | cancel =>
    refine projectedLog_append projected fun event member => ?_
    simp only [List.mem_cons, List.not_mem_nil, or_false] at member
    rcases member with rfl | rfl
    · exact projected_lifecycleForRecord _ _ _ _ _ _
    · exact projected_lifecycleForRecord _ _ _ _ _ _
  | yield | requireAttention | resolveAttention | complete =>
    refine projectedLog_append projected fun event member => ?_
    cases List.mem_singleton.mp member
    rcases allowed with continues | impossible | ⟨_, _, _, _, admission⟩
    · exact continues
    · exact impossible.elim
    · cases admission
  | leaseOperation | completeOperation | refresh => exact projected

structure NamedStore (s : Store) : Prop where
  grounded : GroundedStore s
  projected : ∀ id, ProjectedLog (view s id)
  named : ∀ id, (s.loadTurn id).isSome = true → ∃ wake, id = admittedTurnId wake

theorem namedStore_empty : NamedStore Store.empty := by
  refine ⟨groundedStore_empty, fun id event member => ?_, fun id stored => ?_⟩
  · cases member
  · cases stored

theorem step_namedStore (allowed : EngineOp op) (store : NamedStore s) :
    NamedStore (s.step op) := by
  refine ⟨step_groundedStore store.grounded op,
    step_views store.grounded store.projected fun id step => ?_, fun id stored => ?_⟩
  · exact step_projectedLog step allowed (store.projected id)
  · obtain ⟨record, stored⟩ := Option.isSome_iff_exists.mp stored
    rcases step_turn store.grounded op stored with ⟨write, rfl, rfl⟩ | ⟨before, was, -⟩
    · rcases allowed with
        impossible | impossible | ⟨wake, binding, bodyStateJson, admittedAt, admission⟩
      · exact impossible.elim
      · exact impossible.elim
      · cases admission
        exact ⟨wake, (Table.key_of_find? stored).symm⟩
    · exact store.named id (by rw [was]; rfl)

theorem run_namedStore (calls) : NamedStore (run CoreEngine.step CoreEngine.fresh calls).store :=
  calls_invariant (run_engineOps calls) namedStore_empty
    fun _ _ store allowed => step_namedStore allowed store

theorem length_admittedTurnId (wake) : (admittedTurnId wake).raw.toList.length = 69 := by
  rw [admittedTurnId, String.toList_append, List.length_append]
  show 5 + (Sha256.sha256Hex _).toList.length = 69
  rw [Sha256.length_sha256Hex]

theorem projection_absent (store : NamedStore s)
    (missing : s.loadTurn (admittedTurnId wake) = none) (rest : String) :
    s.outbox.find? ⟨"projection:" ++ (admittedTurnId wake).raw ++ ":" ++ rest⟩ = none := by
  refine Table.find?_eq_none.mpr fun row member same => ?_
  have logged : row.event ∈ (view s row.event.logicalTurnId).log := by
    refine List.mem_map_of_mem ?_
    exact Table.mem_select.mpr ⟨member, by simp⟩
  have stored : (s.loadTurn row.event.logicalTurnId).isSome = true := by
    cases found : s.loadTurn row.event.logicalTurnId with
    | some record => rfl
    | none =>
      rw [(store.grounded _).eq_absent found] at logged
      cases logged
  obtain ⟨other, isOther⟩ := store.named _ stored
  obtain ⟨rest', projected⟩ := store.projected _ row.event logged
  have texts : "projection:" ++ (admittedTurnId other).raw ++ ":" ++ rest' =
      "projection:" ++ (admittedTurnId wake).raw ++ ":" ++ rest := by
    rw [← isOther, ← projected]
    exact congrArg TurnProjectionId.raw same
  have chars := congrArg String.toList texts
  simp only [String.toList_append, List.append_assoc, List.append_cancel_left_eq] at chars
  have turns := (List.append_inj chars (by
    rw [length_admittedTurnId, length_admittedTurnId])).1
  have sameTurn : row.event.logicalTurnId = admittedTurnId wake := by
    rw [isOther]
    exact congrArg LogicalTurnId.mk (String.toList_inj.mp turns)
  rw [sameTurn, missing] at stored
  cases stored

end RustyCrew.Proof.Engine

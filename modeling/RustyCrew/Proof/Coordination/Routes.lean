import RustyCrew.Coordination.Routes
import RustyCrew.Library.Runs

namespace RustyCrew.Proof.Coordination

open Library Protocol RustyCrew.Coordination

/-! ## Operators that share the routes -/

inductive RouteCall where
  | put (write : AgentRouteWrite)
  | delete (gone : AgentRouteDelete)

namespace RouteCall

def routeKey : RouteCall → AgentRouteKey
  | put write => write.routeKey
  | delete gone => gone.routeKey

def expectedRevision : RouteCall → Option Nat
  | put write => write.expectedRevision
  | delete gone => some gone.expectedRevision

def serve (tables : ExternalTables) : RouteCall → CoreResult (AgentRouteRecord × ExternalTables)
  | put write => tables.putAgentRoute write
  | delete gone => tables.deleteAgentRoute gone

def apply (tables : ExternalTables) (call : RouteCall) : ExternalTables :=
  match call.serve tables with
  | .ok (_, after) => after
  | .error _ => tables

def Changes (tables : ExternalTables) (key : AgentRouteKey) (call : RouteCall) : Prop :=
  call.routeKey = key ∧ (call.serve tables).isOk = true

def Removes (tables : ExternalTables) (key : AgentRouteKey) (call : RouteCall) : Prop :=
  call.Changes tables key ∧ ∃ gone, call = delete gone

end RouteCall

open RouteCall

section
variable {tables : ExternalTables} {key : AgentRouteKey} {call : RouteCall} {calls : List RouteCall}

theorem version_present {write : AgentRouteWrite}
    (chosen : write.version (some current) = .ok version) :
    write.expectedRevision = some current.revision ∧ current.revision < version.1 := by
  cases expected : write.expectedRevision with
  | none => simp [AgentRouteWrite.version, expected] at chosen
  | some revision =>
    simp only [AgentRouteWrite.version, expected, bind_eq_ok, rejectIf_eq_ok, pure_eq_ok, ne_eq,
      not_not] at chosen
    obtain ⟨-, rfl, rfl⟩ := chosen
    exact ⟨rfl, Nat.lt_succ_self _⟩

theorem put_ok (served : tables.putAgentRoute write = .ok (saved, after)) :
    ∃ version, write.version (tables.routes.find? write.routeKey) = .ok version ∧
      after = { tables with routes := tables.routes.put (write.record version) } := by
  simp only [ExternalTables.putAgentRoute, bind_eq_ok, pure_eq_ok, Prod.mk.injEq] at served
  obtain ⟨-, -, version, chosen, -, rfl⟩ := served
  exact ⟨version, chosen, rfl⟩

theorem delete_ok (served : tables.deleteAgentRoute gone = .ok (saved, after)) :
    (∃ current, tables.routes.find? gone.routeKey = some current ∧
      current.revision = gone.expectedRevision) ∧
      after = { tables with routes := tables.routes.erase gone.routeKey } := by
  simp only [ExternalTables.deleteAgentRoute, bind_eq_ok, orFail_eq_ok, rejectIf_eq_ok, pure_eq_ok,
    Prod.mk.injEq, ne_eq, not_not] at served
  obtain ⟨current, found, -, same, -, rfl⟩ := served
  exact ⟨⟨current, found, same⟩, rfl⟩

theorem served_present (served : call.serve tables = .ok (saved, after))
    (present : tables.routes.find? call.routeKey = some current) :
    call.expectedRevision = some current.revision := by
  cases call with
  | put write =>
    obtain ⟨version, chosen, -⟩ := put_ok served
    rw [show tables.routes.find? write.routeKey = _ from present] at chosen
    exact (version_present chosen).1
  | delete gone =>
    obtain ⟨⟨stored, found, same⟩, -⟩ := delete_ok served
    cases found.symm.trans present
    exact congrArg some same.symm

/-- One call leaves a route alone, raises its revision or removes it. -/
theorem call_cases (present : tables.routes.find? key = some current) (call) :
    (¬call.Changes tables key ∧ (apply tables call).routes.find? key = some current) ∨
      (∃ next, (apply tables call).routes.find? key = some next ∧
        current.revision < next.revision) ∨ call.Removes tables key := by
  cases served : call.serve tables with
  | error failure =>
    left
    rw [apply, served]
    exact ⟨by simp [Changes, served, Except.isOk, Except.toBool], present⟩
  | ok result =>
    obtain ⟨saved, after⟩ := result
    rw [apply, served]
    by_cases same : call.routeKey = key
    · right
      subst same
      cases call with
      | put write =>
        obtain ⟨version, chosen, rfl⟩ := put_ok served
        rw [show tables.routes.find? write.routeKey = _ from present] at chosen
        exact .inl ⟨write.record version, by simp [routeKey, AgentRouteWrite.record],
          (version_present chosen).2⟩
      | delete gone => exact .inr ⟨⟨rfl, by rw [served]; rfl⟩, gone, rfl⟩
    · left
      refine ⟨fun changes => same changes.1, ?_⟩
      cases call with
      | put write =>
        obtain ⟨version, -, rfl⟩ := put_ok served
        simpa [AgentRouteWrite.record, show write.routeKey ≠ key from same] using present
      | delete gone =>
        obtain ⟨-, rfl⟩ := delete_ok served
        simpa [show gone.routeKey ≠ key from same] using present

theorem revision_grows (present : tables.routes.find? key = some record)
    (kept : Along apply (fun t call => ¬call.Removes t key) tables calls) :
    ∃ current, (run apply tables calls).routes.find? key = some current ∧
      record.revision ≤ current.revision ∧
      (current.revision = record.revision →
        Along apply (fun t call => ¬call.Changes t key) tables calls) := by
  induction calls generalizing tables record with
  | nil => exact ⟨record, present, le_rfl, fun _ => trivial⟩
  | cons call calls ih =>
    rcases call_cases present call with ⟨alone, same⟩ | ⟨next, raised, more⟩ | removes
    · obtain ⟨current, stored, least, unchanged⟩ := ih same kept.2
      exact ⟨current, stored, least, fun level => ⟨alone, unchanged level⟩⟩
    · obtain ⟨current, stored, least, -⟩ := ih raised kept.2
      exact ⟨current, stored, by omega, fun level => by omega⟩
    · exact (kept.1 removes).elim

/-- A call that carries the revision its operator read is accepted over a route that has changed
since exactly when the route was deleted in between. -/
theorem route_revision_fences (tables : ExternalTables) (calls : List RouteCall)
    (call : RouteCall) (record : AgentRouteRecord)
    (read : tables.routes.find? call.routeKey = some record)
    (carried : call.expectedRevision = some record.revision)
    (accepted : (call.serve (run apply tables calls)).isOk = true) :
    Along apply (fun t other => ¬other.Changes t call.routeKey) tables calls ↔
      Along apply (fun t other => ¬other.Removes t call.routeKey) tables calls := by
  constructor
  · exact along_mono fun t other unchanged removes => unchanged removes.1
  · intro kept
    obtain ⟨current, present, -, unchanged⟩ := revision_grows read kept
    apply unchanged
    cases served : call.serve (run apply tables calls) with
    | error failure => simp [served, Except.isOk, Except.toBool] at accepted
    | ok result => simpa using (served_present served present).symm.trans carried

end

def routeWrite (key label : String) (expectedRevision : Option Nat) : RouteCall :=
  .put ⟨⟨key⟩, label, none, true, .directBrain ⟨"agent"⟩ ⟨"session"⟩, none, none,
    expectedRevision, "2026-07-20T00:00:00Z"⟩

def reviewerWrite : String → Option Nat → RouteCall := routeWrite "reviewer"

def reviewerRecord (label : String) : AgentRouteRecord :=
  ⟨⟨"reviewer"⟩, label, none, true, .directBrain ⟨"agent"⟩ ⟨"session"⟩, none, none, 1,
    "2026-07-20T00:00:00Z", "2026-07-20T00:00:00Z"⟩

/-- Between read and write another route is updated, and a deletion of this one that carries an old
revision is refused. -/
theorem route_revision_fences_update :
    let tables := run apply .empty [reviewerWrite "first" none, routeWrite "planner" "first" none]
    let calls := [routeWrite "planner" "second" (some 1), .delete ⟨⟨"reviewer"⟩, 7⟩]
    ((run apply tables calls).routes.find? ⟨"planner"⟩).map (·.revision) = some 2 ∧
      ((reviewerWrite "second" (some 1)).serve (run apply tables calls)).isOk = true ∧
      Along apply (fun t other => ¬other.Changes t ⟨"reviewer"⟩) tables calls := by
  intro tables calls
  have writes : ((reviewerWrite "second" (some 1)).serve (run apply tables calls)).isOk = true := by
    decide +kernel
  refine ⟨by decide +kernel, writes, (route_revision_fences tables calls
    (reviewerWrite "second" (some 1)) (reviewerRecord "first") (by decide +kernel) rfl writes).mpr
      ⟨?_, ?_, trivial⟩⟩
  · rintro ⟨-, gone, deletes⟩
    cases deletes
  · rintro ⟨⟨-, accepted⟩, -⟩
    revert accepted
    decide +kernel

/-- A route is deleted and created anew at revision 1, and the update of an operator that read the
old one at revision 1 is accepted. -/
theorem route_revision_reused :
    let tables := apply .empty (reviewerWrite "first" none)
    let calls := [.delete ⟨⟨"reviewer"⟩, 1⟩, reviewerWrite "second" none]
    tables.routes.find? ⟨"reviewer"⟩ = some (reviewerRecord "first") ∧
      (run apply tables calls).routes.find? ⟨"reviewer"⟩ = some (reviewerRecord "second") ∧
      ((reviewerWrite "third" (some 1)).serve (run apply tables calls)).isOk = true := by
  decide +kernel

end RustyCrew.Proof.Coordination

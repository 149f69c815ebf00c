import RustyCrew.Proof.Coordination.Store

namespace RustyCrew.Proof.Coordination

open Library Protocol RustyCrew.Coordination ExternalTables

variable {lease : ExternalControllerLease} {now : IsoTimestamp}

def contextOf (lease : ExternalControllerLease) : ExternalControllerContext :=
  ⟨lease.holderInstanceId, lease.generation⟩

def Controls (tables : ExternalTables) (runtimeId : ExternalRuntimeId)
    (context : ExternalControllerContext) (now : IsoTimestamp) : Prop :=
  ∃ lease, tables.validateExternalController runtimeId context now = .ok lease

/-- Generations only grow, and one that has not reached the maximum grows with the holder. -/
structure Follows (earlier later : ExternalControllerLease) : Prop where
  grows : earlier.generation ≤ later.generation
  fenced : earlier.generation < maxGeneration →
    earlier.holderInstanceId ≠ later.holderInstanceId → earlier.generation < later.generation
  bounded : later.generation ≤ maxGeneration

def LeasesFollow (earlier later : ExternalTables) : Prop :=
  ∀ runtimeId lease, earlier.controllerLeases.find? runtimeId = some lease →
    lease.generation ≤ maxGeneration →
      ∃ next, later.controllerLeases.find? runtimeId = some next ∧ Follows lease next

def LeasesBounded (tables : ExternalTables) : Prop :=
  ∀ runtimeId lease, tables.controllerLeases.find? runtimeId = some lease →
    lease.generation ≤ maxGeneration

def LeasesAdvance (tables after : ExternalTables) : Prop :=
  LeasesFollow tables after ∧ LeasesBounded after

section
variable {tables : ExternalTables}

theorem Follows.refl (bounded : first.generation ≤ maxGeneration) :
    Follows first first :=
  ⟨Nat.le_refl _, fun _ other => absurd rfl other, bounded⟩

theorem Follows.trans (early : Follows first second) (late : Follows second third) :
    Follows first third := by
  refine ⟨early.grows.trans late.grows, ?_, late.bounded⟩
  intro below other
  by_cases moved : first.holderInstanceId = second.holderInstanceId
  · have := early.grows
    by_cases full : second.generation < maxGeneration
    · exact Nat.lt_of_le_of_lt this (late.fenced full (moved ▸ other))
    · have := late.grows
      omega
  · exact Nat.lt_of_lt_of_le (early.fenced below moved) late.grows

theorem leasesFollow_refl (tables) : LeasesFollow tables tables :=
  fun _ lease found bounded => ⟨lease, found, .refl bounded⟩

theorem leasesFollow_trans (early : LeasesFollow tables middle)
    (late : LeasesFollow middle after) : LeasesFollow tables after := by
  intro runtimeId lease found bounded
  obtain ⟨next, nextFound, follows⟩ := early runtimeId lease found bounded
  obtain ⟨last, lastFound, laterFollows⟩ := late runtimeId next nextFound follows.bounded
  exact ⟨last, lastFound, follows.trans laterFollows⟩

/-! ## What one call does to the leases -/

theorem follows_granted {current : ExternalControllerLease}
    (bounded : current.generation ≤ maxGeneration) :
    Follows current (grantedLease candidate (some current)) := by
  by_cases same : current.holderInstanceId = candidate.holderInstanceId
  · constructor <;> simp [grantedLease, same, bounded]
  · have raised : (grantedLease candidate (some current)).generation =
        min (current.generation + 1) maxGeneration := by
      simp [grantedLease, same, saturatingSucc]
    constructor <;> rw [raised] <;> omega

theorem leasesFollow_put
    (follows : ∀ current, tables.controllerLeases.find? lease.runtimeId = some current →
      current.generation ≤ maxGeneration → Follows current lease) : LeasesFollow tables
      { tables with controllerLeases := tables.controllerLeases.put lease } := by
  intro runtimeId current found bounded
  by_cases same : lease.runtimeId = runtimeId
  · subst same
    exact ⟨lease, by simp, follows current found bounded⟩
  · exact ⟨current, by simp [same, found], .refl bounded⟩

section
variable (bounded : LeasesBounded tables)
include bounded

theorem leasesBounded_put (within : lease.generation ≤ maxGeneration) :
    LeasesBounded { tables with controllerLeases := tables.controllerLeases.put lease } := by
  intro runtimeId current found
  by_cases same : lease.runtimeId = runtimeId
  · simp only [Table.find?_put, same, if_true, Option.some.injEq] at found
    exact found ▸ within
  · simp only [Table.find?_put, same, if_false] at found
    exact bounded runtimeId current found

theorem acquire_leases
    (done : tables.acquireExternalControllerLease candidate now = .ok (lease, after)) :
    LeasesAdvance tables after := by
  obtain ⟨rfl, rfl⟩ := acquireExternalControllerLease_eq done
  cases found : tables.controllerLeases.find? candidate.runtimeId with
  | none =>
    constructor
    · apply leasesFollow_put
      intro current isCurrent
      exact absurd (found.symm.trans isCurrent) (by simp)
    · exact leasesBounded_put bounded (by simp [grantedLease, maxGeneration])
  | some old =>
    have follows := @follows_granted candidate old (bounded _ old found)
    constructor
    · apply leasesFollow_put
      intro current isCurrent _
      have same : old = current := Option.some.inj (found.symm.trans isCurrent)
      exact same ▸ follows
    · exact leasesBounded_put bounded follows.bounded

theorem release_leases
    (done : tables.releaseExternalControllerLease runtimeId holder generation now = .ok (lease,
      after)) : LeasesAdvance tables after := by
  obtain ⟨old, found, rfl, rfl⟩ := releaseExternalControllerLease_eq done
  have within := bounded runtimeId old found
  have isRuntime : old.runtimeId = runtimeId := Table.key_of_find? found
  constructor
  · apply leasesFollow_put
    intro current isCurrent _
    have same : old = current := by
      rw [show (releasedLease old now).runtimeId = runtimeId from isRuntime, found] at isCurrent
      exact Option.some.inj isCurrent
    subst same
    exact ⟨Nat.le_refl _, fun _ other => absurd rfl other, within⟩
  · exact leasesBounded_put bounded within

end

theorem leases_serve (call) (bounded : LeasesBounded tables) :
    LeasesAdvance tables (tables.serve jsonLength call) := by
  have same : LeasesAdvance tables tables := ⟨leasesFollow_refl _, bounded⟩
  have framed := serve_frame tables jsonLength call
  cases call with
  | acquireController candidate now =>
    exact settled_of same fun lease after done => acquire_leases bounded done
  | releaseController runtimeId holder generation now =>
    exact settled_of same fun lease after done => release_leases bounded done
  | _ =>
    rw [LeasesAdvance, LeasesFollow, LeasesBounded, framed.leases rfl]
    exact same

end

/-! ## Whole runs -/

section

theorem leasesBounded_at (n : Nat) : LeasesBounded (tablesAt jsonLength calls n) := by
  apply run_invariant_all
  · intro tables call bounded
    exact (leases_serve call bounded).2
  · intro runtimeId lease found
    simp [ExternalTables.empty] at found

theorem leases_follow (order : n ≤ m) :
    LeasesFollow (tablesAt jsonLength calls n) (tablesAt jsonLength calls m) := by
  apply stateAt_relates leasesFollow_refl (fun _ _ _ => leasesFollow_trans) _ order
  intro k call _
  exact (leases_serve call (leasesBounded_at k)).1

theorem lease_of_controls (controls : Controls tables runtimeId context now) :
    ∃ lease, tables.controllerLeases.find? runtimeId = some lease ∧ contextOf lease = context := by
  obtain ⟨lease, passes⟩ := controls
  simp only [ExternalTables.validateExternalController, bind_eq_ok, orFail_eq_ok, rejectIf_eq_ok,
    pure_eq_ok, not_or, ne_eq, not_not, String.not_le] at passes
  obtain ⟨_, found, -, ⟨holder, generation, -⟩, rfl⟩ := passes
  exact ⟨_, found, by simp [contextOf, holder, generation]⟩

end

/-- At any moment one pair of holder and generation controls a runtime; the generation grows with
the holder; and a pair that another holder superseded never controls the runtime again. -/
theorem controllers_fenced (jsonLength : NormalizedExternalRuntimeEvent → Nat)
    (calls : List StoreCall) (runtimeId : ExternalRuntimeId) :
    (∀ n now context other, Controls (tablesAt jsonLength calls n) runtimeId context now →
      Controls (tablesAt jsonLength calls n) runtimeId other now → context = other) ∧
    (∀ n lease next, (tablesAt jsonLength calls n).controllerLeases.find? runtimeId = some lease →
      (tablesAt jsonLength calls (n + 1)).controllerLeases.find? runtimeId = some next →
      lease.holderInstanceId ≠ next.holderInstanceId →
      lease.generation < maxGeneration → lease.generation < next.generation) ∧
    (∀ n m k lease successor, n ≤ m → m ≤ k →
      (tablesAt jsonLength calls n).controllerLeases.find? runtimeId = some lease →
      (tablesAt jsonLength calls m).controllerLeases.find? runtimeId = some successor →
      lease.holderInstanceId ≠ successor.holderInstanceId →
      lease.generation < maxGeneration →
      ∀ now, ¬Controls (tablesAt jsonLength calls k) runtimeId (contextOf lease) now) := by
  have handover {n m : Nat} {lease next : ExternalControllerLease} (order : n ≤ m)
      (held : (tablesAt jsonLength calls n).controllerLeases.find? runtimeId = some lease)
      (later : (tablesAt jsonLength calls m).controllerLeases.find? runtimeId = some next) :
      Follows lease next := by
    obtain ⟨found, isFound, follows⟩ :=
      leases_follow order runtimeId lease held (leasesBounded_at n runtimeId lease held)
    rw [later, Option.some.injEq] at isFound
    exact isFound ▸ follows
  refine ⟨?_, ?_, ?_⟩
  · intro n now context other controls controlsToo
    obtain ⟨lease, held, rfl⟩ := lease_of_controls controls
    obtain ⟨same, heldToo, rfl⟩ := lease_of_controls controlsToo
    rw [held, Option.some.injEq] at heldToo
    rw [heldToo]
  · intro n lease next held later other below
    exact (handover (Nat.le_succ n) held later).fenced below other
  · intro n m k lease successor first second held superseded other below now controls
    obtain ⟨current, isCurrent, same⟩ := lease_of_controls controls
    have raised := (handover first held superseded).fenced below other
    have kept := (handover second superseded isCurrent).grows
    have equal : current.generation = lease.generation :=
      congrArg ExternalControllerContext.generation same
    omega

end RustyCrew.Proof.Coordination

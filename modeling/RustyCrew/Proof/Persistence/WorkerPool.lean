import RustyCrew.Library.Runs
import RustyCrew.Persistence.WorkerPool

namespace RustyCrew.Proof.Persistence

open Library Protocol RustyCrew.Persistence Table WorkerPoolTables List

variable {request : WorkerPoolClaimRequest} {status : WorkerPoolWorkStatus} {now : IsoTimestamp}

/-! ## Leases, work items and counters -/

abbrev Leases := Table WorkerPoolLeaseRecord.leaseId

def activeLeasesOf (leases : Leases) (memberId : String) : List WorkerPoolLeaseRecord :=
  leases.select fun lease => lease.memberId = memberId && lease.status = .active

def activeLeasesFor (leases : Leases) (workItemId : String) : List WorkerPoolLeaseRecord :=
  leases.select fun lease => lease.workItemId = workItemId && lease.status = .active

/-- Counters, leases and claimed work items account for each other. -/
structure Accounted (tables : WorkerPoolTables) : Prop where
  counted : ∀ member ∈ tables.members.rows,
    member.activeLeases = (activeLeasesOf tables.leases member.memberId).length
  bounded : ∀ member ∈ tables.members.rows, member.activeLeases ≤ member.concurrencyLimit
  held : ∀ item ∈ tables.items.rows, item.status.isHeld = true →
    (activeLeasesFor tables.leases item.workItemId).length = 1
  owned : ∀ lease ∈ tables.leases.rows, lease.status = .active →
    ∃ item, tables.items.find? lease.workItemId = some item ∧ item.status.isHeld = true

structure Under (item : WorkerPoolWorkItemRecord) (lease : WorkerPoolLeaseRecord) : Prop where
  workItemId : item.workItemId = lease.workItemId
  leaseId : item.leaseId = some lease.leaseId
  claimToken : item.claimToken = some lease.claimToken
  memberId : item.claimedByMemberId = some lease.memberId

/-- Every active lease has its claimed work item. -/
def Covered (tables : WorkerPoolTables) : Prop :=
  ∀ lease ∈ tables.leases.rows, lease.status = .active →
    ∃ item ∈ tables.items.rows, item.status.isHeld = true ∧ Under item lease

structure Leased (tables : WorkerPoolTables) : Prop where
  counted : ∀ member ∈ tables.members.rows,
    member.activeLeases = (activeLeasesOf tables.leases member.memberId).length
  bounded : ∀ member ∈ tables.members.rows, member.activeLeases ≤ member.concurrencyLimit
  itemLease : ∀ item ∈ tables.items.rows, item.status.isHeld = true →
    ∃ lease ∈ tables.leases.rows, lease.status = .active ∧ Under item lease
  leaseItem : ∀ lease ∈ tables.leases.rows, lease.status = .active →
    ∃ item ∈ tables.items.rows, item.status.isHeld = true ∧ Under item lease

section
variable {tables next : WorkerPoolTables} {item : WorkerPoolWorkItemRecord}
  {lease : WorkerPoolLeaseRecord}

theorem items_unique (isItem : item ∈ tables.items.rows) (isOther : other ∈ tables.items.rows)
    (same : item.workItemId = other.workItemId) : item = other :=
  inj_on_of_nodup_map tables.items.unique isItem isOther same

theorem Leased.only_lease (leased : Leased tables) (isItem : item ∈ tables.items.rows)
    (under : Under item lease)
    (isLease : second ∈ tables.leases.rows) (active : second.status = .active)
    (names : second.workItemId = item.workItemId) : second.leaseId = lease.leaseId := by
  obtain ⟨owner, isOwner, -, ownerUnder⟩ := leased.leaseItem second isLease active
  have same := items_unique isOwner isItem (ownerUnder.workItemId.trans names)
  subst same
  exact Option.some.inj (ownerUnder.leaseId.symm.trans under.leaseId)

theorem Leased.accounted (leased : Leased tables) : Accounted tables where
  counted := leased.counted
  bounded := leased.bounded
  held item isItem isHeld := by
    obtain ⟨lease, isLease, active, under⟩ := leased.itemLease item isItem isHeld
    have selected : activeLeasesFor tables.leases item.workItemId =
        tables.leases.select fun row => row.leaseId = lease.leaseId := by
      apply filter_congr
      intro row isRow
      rw [← Bool.decide_and, decide_eq_decide]
      constructor
      · intro both
        exact leased.only_lease isItem under isRow both.2 both.1
      · intro same
        obtain rfl := inj_on_of_nodup_map tables.leases.unique isRow isLease same
        exact ⟨under.workItemId.symm, active⟩
    rw [selected, select_key, find?_of_mem isLease]
    rfl
  owned lease isLease active := by
    obtain ⟨item, isItem, isHeld, under⟩ := leased.leaseItem lease isLease active
    exact ⟨item, under.workItemId ▸ find?_of_mem isItem, isHeld⟩

theorem leases_unique (isLease : lease ∈ tables.leases.rows)
    (isSecond : second ∈ tables.leases.rows) (same : lease.leaseId = second.leaseId) :
    lease = second :=
  inj_on_of_nodup_map tables.leases.unique isLease isSecond same

/-! ## Claims -/

theorem length_activeLeases_insert {leases : Leases} (memberId : String)
    (fresh : leases.find? lease.leaseId = none) (active : lease.status = .active) :
    (activeLeasesOf (leases.put lease) memberId).length =
      (activeLeasesOf leases memberId).length + if lease.memberId = memberId then 1 else 0 := by
  rw [activeLeasesOf, select_put_of_absent fresh, length_append, activeLeasesOf]
  by_cases mine : lease.memberId = memberId <;> simp [mine, active]

theorem Leased.covered (leased : Leased tables) : Covered tables := leased.leaseItem

theorem Covered.claim {later : WorkerPoolWorkItemRecord}
    {members : Table WorkerPoolMemberRecord.memberId} (covered : Covered tables)
    (isItem : item ∈ tables.items.rows) (free : item.status.isHeld = false)
    (sameId : later.workItemId = item.workItemId) (isHeld : later.status.isHeld = true)
    (under : Under later lease) :
    Covered ⟨members, tables.items.put later, tables.leases.put lease⟩ := by
  intro row isRow active
  rcases mem_put.mp isRow with rfl | ⟨isOld, -⟩
  · exact ⟨_, mem_put.mpr (.inl rfl), isHeld, under⟩
  · obtain ⟨old, isOldItem, oldHeld, oldUnder⟩ := covered row isOld active
    have differs : old.workItemId ≠ later.workItemId := by
      intro same
      rw [items_unique isOldItem isItem (same.trans sameId), free] at oldHeld
      cases oldHeld
    exact ⟨old, mem_put.mpr (.inr ⟨isOldItem, differs⟩), oldHeld, oldUnder⟩

theorem Leased.claim (leased : Leased tables)
    (isMember : member ∈ tables.members.rows) (room : member.activeLeases < member.concurrencyLimit)
    (isItem : item ∈ tables.items.rows) (pending : item.status.isHeld = false)
    (fresh : tables.leases.find? lease.leaseId = none) (active : lease.status = .active)
    (ofMember : lease.memberId = member.memberId)
    (under : Under (item.claimedBy member request) lease) :
    Leased ⟨tables.members.put (member.leased request.now),
      tables.items.put (item.claimedBy member request), tables.leases.put lease⟩ := by
  refine ⟨fun row isRow => ?_, fun row isRow => ?_, fun row isRow isHeld => ?_,
    leased.covered.claim isItem pending rfl rfl under⟩
  · simp only [length_activeLeases_insert row.memberId fresh active]
    rcases mem_put.mp isRow with rfl | ⟨isOld, other⟩
    · rw [if_pos (show lease.memberId = (member.leased request.now).memberId from ofMember)]
      exact congrArg (· + 1) (leased.counted member isMember)
    · rw [if_neg fun same => other (same.symm.trans ofMember)]
      exact leased.counted row isOld
  · exact forall_put (P := fun row => row.activeLeases ≤ row.concurrencyLimit)
      leased.bounded room row
      isRow
  · rcases mem_put.mp isRow with rfl | ⟨isOld, other⟩
    · exact ⟨lease, mem_put.mpr (.inl rfl), active, under⟩
    · obtain ⟨old, isLease, oldActive, oldUnder⟩ := leased.itemLease row isOld isHeld
      have differs : old.leaseId ≠ lease.leaseId := find?_eq_none.mp fresh old isLease
      exact ⟨old, mem_put.mpr (.inr ⟨isLease, differs⟩), oldActive, oldUnder⟩

/-! ## Ends of claims -/

def endClaim (tables : WorkerPoolTables) (item : WorkerPoolWorkItemRecord)
    (lease : WorkerPoolLeaseRecord) (status : WorkerPoolWorkStatus)
    (leaseStatus : WorkerPoolLeaseStatus) (now : IsoTimestamp) (summary : Option String) :
    WorkerPoolTables :=
  ({ tables with items := tables.items.put (item.ended status now summary) }.endLease lease.leaseId
    leaseStatus now).releaseWorkerPoolMemberLease lease.memberId now

theorem leases_endLease {status : WorkerPoolLeaseStatus} (isLease : lease ∈ tables.leases.rows)
    (active : lease.status = .active) :
    (tables.endLease lease.leaseId status now).leases =
      tables.leases.put (lease.ended status now) := by
  simp [WorkerPoolTables.endLease, Table.update, find?_of_mem isLease, active]

theorem length_activeLeases_end {leases : Leases} {status : WorkerPoolLeaseStatus}
    (memberId : String) (isLease : lease ∈ leases.rows) (active : lease.status = .active)
    (isEnd : status ≠ .active) :
    (activeLeasesOf (leases.put (lease.ended status now)) memberId).length +
        (if lease.memberId = memberId then 1 else 0) =
      (activeLeasesOf leases memberId).length := by
  have present : leases.find? (lease.ended status now).leaseId = some lease :=
    find?_of_mem isLease
  have counted := length_select_put present fun row =>
    row.memberId = memberId && row.status = .active
  by_cases mine : lease.memberId = memberId <;>
    simpa [WorkerPoolLeaseRecord.ended, active, isEnd, mine, activeLeasesOf] using counted

theorem find?_endLease {leaseId : String} {status : WorkerPoolLeaseStatus} (id : String) :
    (tables.endLease leaseId status now).leases.find? id =
      if leaseId = id then (tables.leases.find? leaseId).map fun lease =>
        if lease.status = .active then lease.ended status now else lease
      else tables.leases.find? id := by
  have sameKey : ∀ lease, (WorkerPoolLeaseRecord.ended status now lease).leaseId = lease.leaseId :=
    fun _ => rfl
  refine (find?_update sameKey id).trans ?_
  simp

theorem active_endLease {leaseId : String} {status : WorkerPoolLeaseStatus}
    (isEnd : status ≠ .active) (isLease : lease ∈ (tables.endLease leaseId status now).leases.rows)
    (active : lease.status = .active) : lease ∈ tables.leases.rows ∧ leaseId ≠ lease.leaseId := by
  have found := (find?_endLease lease.leaseId).symm.trans (find?_of_mem isLease)
  split at found
  · obtain ⟨old, -, rfl⟩ := Option.map_eq_some_iff.mp found
    split at active
    · exact absurd active isEnd
    · contradiction
  · next differs => exact ⟨mem_of_find? found, differs⟩

theorem Covered.endItem (covered : Covered tables) (isItem : item ∈ tables.items.rows)
    (later : WorkerPoolWorkItemRecord) (sameId : later.workItemId = item.workItemId)
    (items : next.items = tables.items.put later)
    (ended : ∀ lease ∈ next.leases.rows, lease.status = .active →
      lease ∈ tables.leases.rows ∧ item.leaseId ≠ some lease.leaseId) : Covered next := by
  intro lease isLease active
  obtain ⟨isOld, other⟩ := ended lease isLease active
  obtain ⟨owner, isOwner, isHeld, under⟩ := covered lease isOld active
  have differs : owner.workItemId ≠ later.workItemId := by
    intro same
    rw [items_unique isOwner isItem (same.trans sameId)] at under
    exact other under.leaseId
  rw [items]
  exact ⟨owner, mem_put.mpr (.inr ⟨isOwner, differs⟩), isHeld, under⟩

theorem Covered.endClaim
    (covered : Covered tables) (isItem : item ∈ tables.items.rows) (under : Under item lease)
    (leaseEnds : leaseStatus ≠ .active) :
    Covered (endClaim tables item lease status leaseStatus now summary) := by
  refine covered.endItem isItem (item.ended status now summary) rfl rfl fun row isRow active => ?_
  obtain ⟨isOld, differs⟩ := active_endLease leaseEnds isRow active
  exact ⟨isOld, fun same => differs (Option.some.inj (under.leaseId.symm.trans same))⟩

theorem Leased.endClaim (leased : Leased tables) (isItem : item ∈ tables.items.rows)
    (isLease : lease ∈ tables.leases.rows) (active : lease.status = .active)
    (under : Under item lease) (isEnd : status.isHeld = false) (leaseEnds : leaseStatus ≠ .active) :
    Leased (endClaim tables item lease status leaseStatus now summary) := by
  have leases : (Persistence.endClaim tables item lease status leaseStatus now summary).leases =
      tables.leases.put (lease.ended leaseStatus now) :=
    leases_endLease isLease active
  have members : (Persistence.endClaim tables item lease status
      leaseStatus now summary).members.rows =
      tables.members.rows.map fun row =>
        if row.memberId = lease.memberId ∧ true = true then row.released now else row :=
    rows_update fun _ => rfl
  refine ⟨fun row isRow => ?_, fun row isRow => ?_, fun row isRow isHeld => ?_,
    leased.covered.endClaim isItem under leaseEnds⟩
  · rw [members, mem_map] at isRow
    obtain ⟨old, isOld, rfl⟩ := isRow
    have count : (activeLeasesOf (tables.leases.put (lease.ended leaseStatus now))
        old.memberId).length + _ = _ :=
      length_activeLeases_end old.memberId isLease active leaseEnds
    have before := leased.counted old isOld
    rw [leases]
    split
    · next mine =>
      rw [if_pos mine.1.symm] at count
      simp only [WorkerPoolMemberRecord.released]
      omega
    · next other =>
      rw [if_neg fun same => other ⟨same.symm, rfl⟩] at count
      exact before.trans count.symm
  · rw [members, mem_map] at isRow
    obtain ⟨old, isOld, rfl⟩ := isRow
    have bounded := leased.bounded old isOld
    split
    · simp only [WorkerPoolMemberRecord.released]
      omega
    · exact bounded
  · rcases mem_put.mp isRow with rfl | ⟨isOld, other⟩
    · exact absurd isHeld (by simp [WorkerPoolWorkItemRecord.ended, isEnd])
    · obtain ⟨old, isOldLease, oldActive, oldUnder⟩ := leased.itemLease row isOld isHeld
      have differs : old.leaseId ≠ lease.leaseId := by
        intro same
        rw [leases_unique isOldLease isLease same] at oldUnder
        exact other (oldUnder.workItemId.trans under.workItemId.symm)
      rw [leases]
      exact ⟨old, mem_put.mpr (.inr ⟨isOldLease, differs⟩), oldActive, oldUnder⟩

/-! ## The operations -/

theorem isHeld_eq_false_of_isTerminal (terminal : status.isTerminal = true) :
    status.isHeld = false := by
  cases status <;> first | rfl | cases terminal

theorem leaseStatus_ends (mapped : workerPoolLeaseStatusForWorkStatus status = .ok leaseStatus) :
    leaseStatus ≠ .active := by
  cases status <;> cases mapped <;> simp

theorem mem_findNext (found : tables.findNextWorkerPoolWorkItemForClaim member = some item) :
    item ∈ tables.items.rows ∧ item.status = .pending := by
  have first := mem_of_mem_head? found
  rw [mem_insertionSort, mem_select] at first
  simp only [Bool.and_eq_true, decide_eq_true_eq] at first
  exact ⟨first.1, first.2.1⟩

def newLease (request : WorkerPoolClaimRequest) (item : WorkerPoolWorkItemRecord)
    (member : WorkerPoolMemberRecord) : WorkerPoolLeaseRecord :=
  ⟨request.leaseId, item.workItemId, member.memberId, request.claimToken, .active, request.now,
    request.claimDeadlineAt, none⟩

theorem claimNext_cases
    (claimed : tables.claimNextWorkerPoolWorkItem request = .ok (answer, next)) :
    (∃ reason, answer = .error reason) ∧ next = tables ∨
      ∃ member item, member ∈ tables.members.rows ∧ member.activeLeases < member.concurrencyLimit ∧
        item ∈ tables.items.rows ∧ item.status = .pending ∧
        tables.leases.find? request.leaseId = none ∧
        answer = .ok ⟨member.leased request.now, item.claimedBy member request,
          newLease request item member⟩ ∧
        next = ⟨tables.members.put (member.leased request.now),
          tables.items.put (item.claimedBy member request),
          tables.leases.put (newLease request item member)⟩ := by
  unfold claimNextWorkerPoolWorkItem at claimed
  cases isMember : tables.members.find? request.memberId with
  | none =>
    simp only [isMember] at claimed
    cases claimed
    exact .inl ⟨⟨_, rfl⟩, rfl⟩
  | some member =>
    simp only [isMember] at claimed
    split_ifs at claimed with unavailable stale full
    · cases claimed
      exact .inl ⟨⟨_, rfl⟩, rfl⟩
    · cases claimed
      exact .inl ⟨⟨_, rfl⟩, rfl⟩
    · cases claimed
      exact .inl ⟨⟨_, rfl⟩, rfl⟩
    · cases found : tables.findNextWorkerPoolWorkItemForClaim member with
      | none =>
        simp only [found] at claimed
        cases claimed
        exact .inl ⟨⟨_, rfl⟩, rfl⟩
      | some item =>
        obtain ⟨isItem, pending⟩ := mem_findNext found
        simp only [found, insertWorkerPoolLease, bind_eq_ok, rejectIf_eq_ok,
          Option.not_isSome_iff_eq_none, pure_eq_ok] at claimed
        obtain ⟨_, ⟨-, fresh, rfl⟩, claimed⟩ := claimed
        cases claimed
        exact .inr ⟨member, item, mem_of_find? isMember, Nat.lt_of_not_le full, isItem,
          pending, fresh, rfl, rfl⟩

theorem Leased.claimNext (leased : Leased tables)
    (claimed : tables.claimNextWorkerPoolWorkItem request = .ok (answer, next)) : Leased next := by
  rcases claimNext_cases claimed with
    ⟨-, rfl⟩ | ⟨member, item, isMember, room, isItem, pending, fresh, -, rfl⟩
  · exact leased
  · have free : item.status.isHeld = false := by
      rw [pending]
      rfl
    exact leased.claim isMember room isItem free fresh rfl rfl ⟨rfl, rfl, rfl, rfl⟩

theorem complete_cases {request : WorkerPoolCompletionRequest} {answer : Bool}
    (completed : tables.completeWorkerPoolWorkItem request = .ok (answer, next)) :
    next = tables ∨
      ∃ item lease leaseStatus, item ∈ tables.items.rows ∧ lease ∈ tables.leases.rows ∧
        lease.status = .active ∧ lease.workItemId = item.workItemId ∧ item.status.isHeld = true ∧
        request.status.isTerminal = true ∧ leaseStatus ≠ .active ∧
        next = endClaim tables item lease request.status leaseStatus request.now
          request.summary := by
  simp only [completeWorkerPoolWorkItem, bind_eq_ok, rejectIf_eq_ok] at completed
  obtain ⟨-, accepted, completed⟩ := completed
  cases found : tables.leases.find? request.leaseId with
  | none =>
    simp only [found] at completed
    cases completed
    exact .inl rfl
  | some lease =>
    simp only [found] at completed
    split_ifs at completed with foreign
    · cases completed
      exact .inl rfl
    · cases isItem : tables.items.find? lease.workItemId with
      | none =>
        simp only [isItem] at completed
        cases completed
        exact .inl rfl
      | some item =>
        simp only [isItem] at completed
        split_ifs at completed with terminal fits
        · cases completed
          exact .inl rfl
        · simp only [bind_eq_ok] at completed
          obtain ⟨leaseStatus, mapped, completed⟩ := completed
          cases completed
          push Not at foreign accepted
          exact .inr ⟨item, lease, leaseStatus, mem_of_find? isItem,
            mem_of_find? found, foreign.1, (key_of_find? isItem).symm, fits.2.2,
            by simpa using accepted.1, leaseStatus_ends mapped, rfl⟩
        · simp only [bind_eq_ok] at completed
          obtain ⟨-, -, completed⟩ := completed
          cases completed
          exact .inl rfl

theorem Leased.complete {request : WorkerPoolCompletionRequest}
    {answer : Bool} (leased : Leased tables)
    (completed : tables.completeWorkerPoolWorkItem request = .ok (answer, next)) : Leased next := by
  rcases complete_cases completed with rfl | ⟨item, lease, leaseStatus, isItem, isLease, active,
    names, isHeld, terminal, leaseEnds, rfl⟩
  · exact leased
  · obtain ⟨own, isOwn, ownActive, under⟩ := leased.itemLease item isItem isHeld
    have same := leases_unique isLease isOwn (leased.only_lease isItem under isLease active names)
    exact leased.endClaim isItem isLease active (same ▸ under)
      (isHeld_eq_false_of_isTerminal terminal) leaseEnds

theorem expireClaim_eq (isItem : item ∈ tables.items.rows) (isHeld : item.status.isHeld = true)
    (under : Under item lease) : (expireClaim now (expired, tables) item).2 =
      endClaim tables item lease .expired .expired now (some expiredSummary) := by
  simp [expireClaim, find?_of_mem isItem, isHeld, under.leaseId,
    under.memberId, Table.update, expireWorkItem, endClaim]

theorem items_expireClaim (isItem : item ∈ tables.items.rows) (isHeld : item.status.isHeld = true) :
    (expireClaim now (expired, tables) item).2.items =
      tables.items.put (expireWorkItem now item) := by
  cases isLease : item.leaseId <;> cases isMember : item.claimedByMemberId <;>
    simp [expireClaim, find?_of_mem isItem, isHeld, isLease, isMember, Table.update, endLease,
      releaseWorkerPoolMemberLease]

/-- The loop meets each stale work item as it was selected. -/
theorem expire_keeps {P : WorkerPoolTables → Prop}
    (keeps : ∀ tables expired item, item ∈ tables.items.rows → item.status.isHeld = true →
      P tables → P (expireClaim now (expired, tables) item).2)
    (holds : P tables) (staleBefore : IsoTimestamp) :
    P (tables.expireWorkerPoolClaims staleBefore now).2 := by
  have fold : ∀ (items : List WorkerPoolWorkItemRecord) (tables : WorkerPoolTables)
      (expired : List WorkerPoolWorkItemRecord),
      (items.map WorkerPoolWorkItemRecord.workItemId).Nodup →
      (∀ item ∈ items, item ∈ tables.items.rows ∧ item.status.isHeld = true) → P tables →
      P (items.foldl (expireClaim now) (expired, tables)).2 := by
    intro items
    induction items with
    | nil => exact fun _ _ _ _ => id
    | cons item rest ih =>
      intro tables expired distinct isItem holds
      obtain ⟨stored, isHeld⟩ := isItem item mem_cons_self
      obtain ⟨absent, distinct⟩ := nodup_cons.mp distinct
      refine ih (expireClaim now (expired, tables) item).2 _ distinct (fun other isOther => ?_)
        (keeps _ expired _ stored isHeld holds)
      obtain ⟨isOld, otherHeld⟩ := isItem other (.tail _ isOther)
      have differs : other.workItemId ≠ item.workItemId := by
        intro same
        exact absent (same ▸ mem_map_of_mem isOther)
      rw [items_expireClaim stored isHeld]
      exact ⟨mem_put.mpr (.inr ⟨isOld, differs⟩), otherHeld⟩
  refine fold _ _ _ ?_ (fun item isStale => ?_) holds
  · exact ((perm_insertionSort _ _).map _).nodup_iff.mpr (tables.items.nodup_select _)
  · rw [staleClaims, mem_insertionSort, mem_select, Bool.and_eq_true] at isStale
    exact ⟨isStale.1, isStale.2.1⟩

theorem Leased.expire (leased : Leased tables) (staleBefore now : IsoTimestamp) :
    Leased (tables.expireWorkerPoolClaims staleBefore now).2 := by
  refine expire_keeps (fun tables expired item isItem isHeld leased => ?_) leased staleBefore
  obtain ⟨lease, isLease, active, under⟩ := leased.itemLease item isItem isHeld
  rw [expireClaim_eq isItem isHeld under]
  exact leased.endClaim isItem isLease active under rfl (by decide)

theorem create_ok (created : tables.createWorkerPoolWorkItem item = .ok next) :
    tables.items.find? item.workItemId = none ∧
      next = { tables with items := tables.items.put item } := by
  simp only [createWorkerPoolWorkItem, bind_eq_ok, rejectIf_eq_ok, Option.not_isSome_iff_eq_none,
    pure_eq_ok] at created
  obtain ⟨-, fresh, rfl⟩ := created
  exact ⟨fresh, rfl⟩

theorem Covered.create (covered : Covered tables)
    (created : tables.createWorkerPoolWorkItem item = .ok next) : Covered next := by
  obtain ⟨fresh, rfl⟩ := create_ok created
  intro lease isLease active
  obtain ⟨old, isOld, oldHeld, under⟩ := covered lease isLease active
  have differs : old.workItemId ≠ item.workItemId := find?_eq_none.mp fresh old isOld
  exact ⟨old, mem_put.mpr (.inr ⟨isOld, differs⟩), oldHeld, under⟩

theorem Leased.create (leased : Leased tables) (free : item.status.isHeld = false)
    (created : tables.createWorkerPoolWorkItem item = .ok next) : Leased next := by
  have covered := leased.covered.create created
  obtain ⟨-, rfl⟩ := create_ok created
  refine ⟨leased.counted, leased.bounded, fun row isRow isHeld => ?_, covered⟩
  rcases mem_put.mp isRow with rfl | ⟨isOld, -⟩
  · rw [free] at isHeld
    cases isHeld
  · exact leased.itemLease row isOld isHeld

theorem Leased.heartbeat (leased : Leased tables) (memberId : String) (status now) :
    Leased (tables.heartbeatWorkerPoolMember memberId status now).2 := by
  have members : (tables.heartbeatWorkerPoolMember memberId status now).2.members.rows = _ :=
    rows_update fun _ => rfl
  refine ⟨fun row isRow => ?_, fun row isRow => ?_, leased.itemLease, leased.leaseItem⟩
  · rw [members, mem_map] at isRow
    obtain ⟨old, isOld, rfl⟩ := isRow
    split
    · exact leased.counted old isOld
    · exact leased.counted old isOld
  · rw [members, mem_map] at isRow
    obtain ⟨old, isOld, rfl⟩ := isRow
    split
    · exact leased.bounded old isOld
    · exact leased.bounded old isOld

end

/-! ## Runs of the worker pool -/

inductive WorkerPoolCall where
  | createWorkItem (record : WorkerPoolWorkItemRecord)
  | claimNext (request : WorkerPoolClaimRequest)
  | complete (request : WorkerPoolCompletionRequest)
  | expireClaims (staleBefore now : IsoTimestamp)
  | heartbeat (memberId : String) (status : WorkerPoolMemberStatus) (now : IsoTimestamp)

def workerPoolStep (tables : WorkerPoolTables) : WorkerPoolCall → WorkerPoolTables
  | .createWorkItem record =>
    match tables.createWorkerPoolWorkItem record with
    | .ok next => next
    | .error _ => tables
  | .claimNext request =>
    match tables.claimNextWorkerPoolWorkItem request with
    | .ok (_, next) => next
    | .error _ => tables
  | .complete request =>
    match tables.completeWorkerPoolWorkItem request with
    | .ok (_, next) => next
    | .error _ => tables
  | .expireClaims staleBefore now => (tables.expireWorkerPoolClaims staleBefore now).2
  | .heartbeat memberId status now => (tables.heartbeatWorkerPoolMember memberId status now).2

def CreatesUnclaimed : WorkerPoolCall → Prop
  | .createWorkItem record => record.status.isHeld = false
  | _ => True

theorem Leased.step (leased : Leased tables)
    (unclaimed : CreatesUnclaimed call) : Leased (workerPoolStep tables call) := by
  cases call with
  | createWorkItem record =>
    simp only [workerPoolStep]
    split
    · next next created => exact leased.create unclaimed created
    · exact leased
  | claimNext request =>
    simp only [workerPoolStep]
    split
    · next next claimed => exact leased.claimNext claimed
    · exact leased
  | complete request =>
    simp only [workerPoolStep]
    split
    · next next completed => exact leased.complete completed
    · exact leased
  | expireClaims staleBefore now => exact leased.expire staleBefore now
  | heartbeat memberId status now => exact leased.heartbeat memberId status now

def registered (members : Table WorkerPoolMemberRecord.memberId) : WorkerPoolTables :=
  ⟨members, Table.empty, Table.empty⟩

/-- In every run from registered members without leases, in which no work item is created as
claimed or running, counters, leases and claimed work items account for each other. -/
theorem worker_pool_accounted {members : Table WorkerPoolMemberRecord.memberId}
    (free : ∀ member ∈ members.rows, member.activeLeases = 0) {calls : List WorkerPoolCall}
    (unclaimed : ∀ call ∈ calls, CreatesUnclaimed call) :
    Accounted (run workerPoolStep (registered members) calls) := by
  have start : Leased (registered members) :=
    ⟨fun member isMember => free member isMember,
      fun member isMember => free member isMember ▸ Nat.zero_le _, by simp [registered],
      by simp [registered]⟩
  have kept : Leased (run workerPoolStep (registered members) calls) :=
    run_invariant (fun _ _ leased unclaimed => leased.step unclaimed) start
      (along_of_forall CreatesUnclaimed unclaimed)
  exact kept.accounted

def poolMember : WorkerPoolMemberRecord :=
  ⟨"member", ⟨"profile"⟩, none, none, .available, 1, 0, .null, "2026-01-01T09:00:00Z",
    "2026-01-01T09:00:00Z", "2026-01-01T09:00:00Z"⟩

def poolItem (workItemId : String) (status : WorkerPoolWorkStatus) : WorkerPoolWorkItemRecord :=
  ⟨workItemId, none, none, status, 100, .null, .null, "2026-01-01T09:00:00Z",
    "2026-01-01T09:00:00Z", none, none, none, none, none, none⟩

def poolClaim (leaseId : String) : WorkerPoolCall :=
  .claimNext ⟨"member", leaseId, "token", "2026-01-01T10:00:00Z", "2026-01-01T10:05:00Z",
    "2026-01-01T09:00:00Z"⟩

def poolCalls : List WorkerPoolCall :=
  [.createWorkItem (poolItem "first" .pending), .createWorkItem (poolItem "second" .pending),
    poolClaim "lease-1", poolClaim "refused",
    .complete ⟨"lease-1", "token", .completed, "2026-01-01T10:01:00Z", none⟩, poolClaim "lease-2"]

theorem worker_pool_accounted_sample :
    ((run workerPoolStep (registered (Table.empty.put poolMember)) poolCalls).leases.rows.map
        fun lease => (lease.leaseId, lease.workItemId, lease.status)) =
          [("lease-1", "first", .completed), ("lease-2", "second", .active)] ∧
      Accounted (run workerPoolStep (registered (Table.empty.put poolMember)) poolCalls) :=
  ⟨by decide +kernel,
    worker_pool_accounted (by decide) (by simp [poolCalls, poolClaim, poolItem, CreatesUnclaimed,
      WorkerPoolWorkStatus.isHeld])⟩

theorem created_as_claimed :
    ¬Accounted (run workerPoolStep (registered (Table.empty.put poolMember))
      [.createWorkItem (poolItem "first" .claimed)]) := by
  intro accounted
  have single := accounted.held (poolItem "first" .claimed) (by decide) rfl
  exact absurd single (by decide)

end RustyCrew.Proof.Persistence

import RustyCrew.Protocol.Sessions
import RustyCrew.Persistence.Store

namespace RustyCrew.Persistence

open Library Protocol

inductive WorkerPoolMemberStatus where
  | available
  | busy
  | offline
  | quarantined
  | retired
  deriving DecidableEq, Repr

def WorkerPoolMemberStatus.canClaim : WorkerPoolMemberStatus → Bool
  | .available | .busy => true
  | _ => false

inductive WorkerPoolWorkStatus where
  | pending
  | claimed
  | running
  | completed
  | failed
  | blocked
  | exhausted
  | cancelled
  | expired
  deriving DecidableEq, Repr

def WorkerPoolWorkStatus.isTerminal : WorkerPoolWorkStatus → Bool
  | .pending | .claimed | .running => false
  | _ => true

def WorkerPoolWorkStatus.isHeld : WorkerPoolWorkStatus → Bool
  | .claimed | .running => true
  | _ => false

inductive WorkerPoolLeaseStatus where
  | active
  | completed
  | failed
  | blocked
  | exhausted
  | cancelled
  | expired
  | released
  deriving DecidableEq, Repr

inductive WorkerPoolNoCapacityReason where
  | noPendingWork
  | memberUnavailable
  | memberHeartbeatStale
  | memberAtCapacity
  deriving DecidableEq, Repr

structure WorkerPoolMemberRecord where
  memberId : String
  profileId : ProfileId
  agentId : Option AgentId
  sessionId : Option SessionId
  status : WorkerPoolMemberStatus
  (concurrencyLimit activeLeases : Nat)
  capabilitiesJson : Json
  (registeredAt lastHeartbeatAt updatedAt : IsoTimestamp)
  deriving DecidableEq, Repr

structure WorkerPoolWorkItemRecord where
  workItemId : String
  requestedProfileId : Option ProfileId
  taskId : Option TaskId
  status : WorkerPoolWorkStatus
  priority : Int
  (workJson requiredCapabilitiesJson : Json)
  (createdAt updatedAt : IsoTimestamp)
  (claimedByMemberId leaseId claimToken : Option String)
  (claimDeadlineAt terminalAt : Option IsoTimestamp)
  terminalSummary : Option String
  deriving DecidableEq, Repr

structure WorkerPoolLeaseRecord where
  (leaseId workItemId memberId claimToken : String)
  status : WorkerPoolLeaseStatus
  (claimedAt claimDeadlineAt : IsoTimestamp)
  terminalAt : Option IsoTimestamp
  deriving DecidableEq, Repr

structure WorkerPoolClaimRecord where
  member : WorkerPoolMemberRecord
  workItem : WorkerPoolWorkItemRecord
  lease : WorkerPoolLeaseRecord
  deriving DecidableEq, Repr

structure WorkerPoolClaimRequest where
  (memberId leaseId claimToken : String)
  (now claimDeadlineAt minHeartbeatAt : IsoTimestamp)
  deriving DecidableEq, Repr

structure WorkerPoolCompletionRequest where
  (leaseId claimToken : String)
  status : WorkerPoolWorkStatus
  now : IsoTimestamp
  summary : Option String
  deriving DecidableEq, Repr

structure WorkerPoolTables where
  members : Table WorkerPoolMemberRecord.memberId
  items : Table WorkerPoolWorkItemRecord.workItemId
  leases : Table WorkerPoolLeaseRecord.leaseId
  deriving DecidableEq

def WorkerPoolTables.empty : WorkerPoolTables := ⟨Table.empty, Table.empty, Table.empty⟩

def workerPoolLeaseStatusForWorkStatus : WorkerPoolWorkStatus → CoreResult WorkerPoolLeaseStatus
  | .completed => .ok .completed
  | .failed => .ok .failed
  | .blocked => .ok .blocked
  | .exhausted => .ok .exhausted
  | .cancelled => .ok .cancelled
  | .expired => .ok .expired
  | .pending | .claimed | .running =>
    .error ⟨.invalidInput, "worker pool lease terminal status requires terminal work status"⟩

def WorkerPoolWorkItemRecord.claimedBy (item : WorkerPoolWorkItemRecord)
    (member : WorkerPoolMemberRecord) (request : WorkerPoolClaimRequest) :
    WorkerPoolWorkItemRecord :=
  { item with
    status := .claimed
    claimedByMemberId := some member.memberId
    leaseId := some request.leaseId
    claimToken := some request.claimToken
    claimDeadlineAt := some request.claimDeadlineAt
    updatedAt := request.now }

def WorkerPoolWorkItemRecord.ended (item : WorkerPoolWorkItemRecord)
    (status : WorkerPoolWorkStatus) (now : IsoTimestamp) (summary : Option String) :
    WorkerPoolWorkItemRecord :=
  { item with status, updatedAt := now, terminalAt := some now, terminalSummary := summary }

/-- The member with one more lease. Its count is below a 32-bit limit, so the addition is exact. -/
def WorkerPoolMemberRecord.leased (member : WorkerPoolMemberRecord) (now : IsoTimestamp) :
    WorkerPoolMemberRecord :=
  { member with
    activeLeases := member.activeLeases + 1
    status :=
      if member.concurrencyLimit ≤ member.activeLeases + 1 then .busy else member.status
    updatedAt := now }

def WorkerPoolMemberRecord.released (now : IsoTimestamp) (member : WorkerPoolMemberRecord) :
    WorkerPoolMemberRecord :=
  { member with
    activeLeases := member.activeLeases - 1
    status := if member.status.canClaim then .available else member.status
    updatedAt := now }

def WorkerPoolLeaseRecord.ended (status : WorkerPoolLeaseStatus) (now : IsoTimestamp)
    (lease : WorkerPoolLeaseRecord) : WorkerPoolLeaseRecord :=
  { lease with status, terminalAt := some now }

namespace WorkerPoolTables

variable (tables : WorkerPoolTables)

def heartbeatWorkerPoolMember (memberId : String)
    (status : WorkerPoolMemberStatus) (now : IsoTimestamp) : Bool × WorkerPoolTables :=
  ((tables.members.find? memberId).isSome, { tables with
      members := tables.members.update memberId (fun _ => true) fun member =>
        { member with status, lastHeartbeatAt := now, updatedAt := now } })

def createWorkerPoolWorkItem (record : WorkerPoolWorkItemRecord) : CoreResult WorkerPoolTables := do
  rejectIf (tables.items.find? record.workItemId).isSome
    (persistenceError "create worker pool work item"
      "UNIQUE constraint failed: worker_pool_work_items.work_item_id")
  pure { tables with items := tables.items.put record }

def findNextWorkerPoolWorkItemForClaim
    (member : WorkerPoolMemberRecord) : Option WorkerPoolWorkItemRecord :=
  ((tables.items.select fun item => item.status = .pending &&
      item.requestedProfileId.all (fun profileId => profileId = member.profileId)).insertionSort
    fun a b => a.priority < b.priority ∨ a.priority = b.priority ∧
      (a.createdAt < b.createdAt ∨ a.createdAt = b.createdAt ∧ a.workItemId ≤ b.workItemId)).head?

def insertWorkerPoolLease (lease : WorkerPoolLeaseRecord) : CoreResult WorkerPoolTables := do
  rejectIf (tables.leases.find? lease.leaseId).isSome (persistenceError "insert worker pool lease"
      "UNIQUE constraint failed: worker_pool_leases.lease_id")
  pure { tables with leases := tables.leases.put lease }

def releaseWorkerPoolMemberLease (memberId : String) (now : IsoTimestamp) : WorkerPoolTables :=
  { tables with
    members := tables.members.update memberId (fun _ => true)
      (WorkerPoolMemberRecord.released now) }

/-- One transaction. When there is no capacity it ends without a commit. -/
def claimNextWorkerPoolWorkItem (request : WorkerPoolClaimRequest) :
    CoreResult (Except WorkerPoolNoCapacityReason WorkerPoolClaimRecord × WorkerPoolTables) :=
  match tables.members.find? request.memberId with
  | none => .ok (.error .memberUnavailable, tables)
  | some member =>
    if !member.status.canClaim then .ok (.error .memberUnavailable, tables)
    else if member.lastHeartbeatAt < request.minHeartbeatAt then
      .ok (.error .memberHeartbeatStale, tables)
    else if member.concurrencyLimit ≤ member.activeLeases then
      .ok (.error .memberAtCapacity, tables)
    else
      match tables.findNextWorkerPoolWorkItemForClaim member with
      | none => .ok (.error .noPendingWork, tables)
      | some item => do
        let items := tables.items.put (item.claimedBy member request)
        let lease : WorkerPoolLeaseRecord :=
          ⟨request.leaseId, item.workItemId, member.memberId, request.claimToken, .active,
            request.now, request.claimDeadlineAt, none⟩
        let tables ← insertWorkerPoolLease { tables with items } lease
        let members := tables.members.put (member.leased request.now)
        pure (.ok ⟨member.leased request.now, item.claimedBy member request, lease⟩,
          { tables with members })

def endLease (leaseId : String) (status : WorkerPoolLeaseStatus)
    (now : IsoTimestamp) : WorkerPoolTables :=
  { tables with
    leases := tables.leases.update leaseId (fun lease => lease.status = .active)
      (WorkerPoolLeaseRecord.ended status now) }

def completeWorkerPoolWorkItem
    (request : WorkerPoolCompletionRequest) : CoreResult (Bool × WorkerPoolTables) := do
  rejectIf (request.status.isTerminal = false ∨ request.status = .pending)
    ⟨.invalidInput, "worker pool completion must use a terminal work status"⟩
  match tables.leases.find? request.leaseId with
  | none => pure (false, tables)
  | some lease =>
    if lease.status ≠ .active ∨ lease.claimToken ≠ request.claimToken then pure (false, tables)
    else
      match tables.items.find? lease.workItemId with
      | none => pure (false, tables)
      | some item =>
        if item.status.isTerminal then pure (false, tables)
        else
          let leaseStatus ← workerPoolLeaseStatusForWorkStatus request.status
          if item.leaseId = some lease.leaseId ∧ item.claimToken = some request.claimToken ∧
              item.status.isHeld then
            let items := tables.items.put (item.ended request.status request.now request.summary)
            let tables := { tables with items }.endLease lease.leaseId leaseStatus request.now
            pure (true, tables.releaseWorkerPoolMemberLease lease.memberId request.now)
          else pure (false, tables)

def expiredSummary : String := "worker pool claim expired"

def expireWorkItem (now : IsoTimestamp) (item : WorkerPoolWorkItemRecord) :
    WorkerPoolWorkItemRecord :=
  item.ended .expired now (some expiredSummary)

def expireClaim (now : IsoTimestamp) (expired : List WorkerPoolWorkItemRecord × WorkerPoolTables)
    (item : WorkerPoolWorkItemRecord) : List WorkerPoolWorkItemRecord × WorkerPoolTables :=
  let tables := expired.2
  if (tables.items.find? item.workItemId).any fun row => row.status.isHeld then
    let items := tables.items.update item.workItemId (fun row => row.status.isHeld)
      (expireWorkItem now)
    let tables := { tables with items }
    let tables := match item.leaseId with
      | some leaseId => tables.endLease leaseId .expired now
      | none => tables
    let tables := match item.claimedByMemberId with
      | some memberId => tables.releaseWorkerPoolMemberLease memberId now
      | none => tables
    (expired.1 ++ [expireWorkItem now item], tables)
  else expired

def staleClaims (staleBefore : IsoTimestamp) : List WorkerPoolWorkItemRecord :=
  (tables.items.select fun item => item.status.isHeld &&
      item.claimDeadlineAt.any (fun deadline => deadline < staleBefore)).insertionSort
    fun a b => a.claimDeadlineAt.getD "" < b.claimDeadlineAt.getD "" ∨
      a.claimDeadlineAt.getD "" = b.claimDeadlineAt.getD "" ∧ a.workItemId ≤ b.workItemId

def expireWorkerPoolClaims (staleBefore now : IsoTimestamp) :
    List WorkerPoolWorkItemRecord × WorkerPoolTables :=
  (tables.staleClaims staleBefore).foldl (expireClaim now) ([], tables)

end WorkerPoolTables

end RustyCrew.Persistence

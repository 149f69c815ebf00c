import RustyCrew.Engine.Requests
import RustyCrew.Library.Effect

namespace RustyCrew.Engine

open Library Protocol RustyCrew.Persistence Effect

/-- The durable state an engine works on: the logical-turn tables and the follow-up queue. Each
store call is one transaction of its own, so what a failing engine function has done stays done.
`moment` numbers the uses of the clock, of the event bus and of the database. -/
structure CoreEngine where
  store : Store
  queue : Queue
  moment : Nat

abbrev EngineM := Effect CoreEngine CoreError

namespace CoreEngine

def fresh : CoreEngine := ⟨Store.empty, Table.empty, 0⟩

def tick (e : CoreEngine) : CoreEngine := { e with moment := e.moment + 1 }

def onStore {α : Type} (f : Store → CoreResult (Store × α)) : EngineM α :=
  transact fun e =>
    match f e.store with
    | .ok (store, a) => .ok ({ e with store }, a)
    | .error failure => .error failure

variable (services : Services)

def now : EngineM IsoTimestamp := do
  let moment ← read CoreEngine.moment
  edit tick
  pure (services.clock moment)

def publish (event : CoreEvent) : EngineM Unit := do
  let moment ← read CoreEngine.moment
  edit tick
  lift (services.publish moment event)

def storeCall : EngineM Unit := do
  let moment ← read CoreEngine.moment
  edit tick
  lift (services.storeCall moment)

def callStore {α : Type} (f : Store → CoreResult (Store × α)) : EngineM α := do
  storeCall services
  onStore f

def loadStore {α : Type} (f : Store → α) : EngineM α := do
  storeCall services
  read fun e => f e.store

def deliverProjection (record : LogicalTurnOutboxRecord) : EngineM Unit := do
  publish services (.logicalTurnLifecycleObserved record.event)
  publish services (.sessionExecutionObserved record.event.sessionId)
  let deliveredAt ← now services
  storeCall services
  edit fun e =>
    { e with store := e.store.markLogicalTurnOutboxDelivered record.projectionId deliveredAt }

def flushLogicalTurnOutbox : EngineM Unit := do
  let pending ← loadStore services fun s => s.listPendingLogicalTurnOutbox
  forEach (deliverProjection services) pending

/-! ## The calls that one store transaction and a flush make up -/

def ensureLogicalTurnSession (record : LogicalTurnRecord) : CoreResult Unit := do
  let session ← services.getSession record.sessionId
  rejectIf (session.status = .archived)
    ⟨.actionRejected, "cannot admit logical turn " ++ record.logicalTurnId.raw ++
      " for archived session " ++ record.sessionId.raw⟩
  rejectIf (session.profileId ≠ record.binding.profileId)
    ⟨.actionRejected, "logical turn binding profile does not match the session profile"⟩

def admitLogicalTurn (write : LogicalTurnAdmissionWrite) : EngineM LogicalTurnAdmission := do
  lift (ensureLogicalTurnSession services write.admission.record)
  let admission ← callStore services fun s => s.insertLogicalTurnAdmission write
  flushLogicalTurnOutbox services
  pure admission

def claimLogicalTurn (request : LogicalTurnClaimRequest) :
    EngineM LogicalTurnContinuationClaim := do
  let claim ← callStore services fun s => s.claimLogicalTurn request
  flushLogicalTurnOutbox services
  pure claim

def yieldLogicalTurn (request : LogicalTurnYieldRequest) : EngineM LogicalTurnYieldReceipt := do
  let receipt ← callStore services fun s => s.yieldLogicalTurn request
  flushLogicalTurnOutbox services
  if receipt.replayed then pure receipt
  else do
    publish services (.brainWakeRequested receipt.record.sessionId)
    pure receipt

def requireLogicalTurnAttention (request : LogicalTurnAttentionRequest) :
    EngineM LogicalTurnAttentionReceipt := do
  let receipt ← callStore services fun s => s.requireLogicalTurnAttention request
  flushLogicalTurnOutbox services
  pure receipt

def resolveLogicalTurnAttention (request : LogicalTurnAttentionResolutionRequest) :
    EngineM LogicalTurnAttentionResolutionReceipt := do
  let receipt ← callStore services fun s => s.resolveLogicalTurnAttention request
  flushLogicalTurnOutbox services
  if receipt.replayed then pure receipt
  else do
    publish services (.brainWakeRequested receipt.record.sessionId)
    pure receipt

def completeLogicalTurn (request : LogicalTurnCompletionRequest) : EngineM LogicalTurnRecord := do
  let record ← callStore services fun s => s.completeLogicalTurn request
  flushLogicalTurnOutbox services
  pure record

def cancelLogicalTurn (request : LogicalTurnCancelRequest) :
    EngineM LogicalTurnCancellationReceipt := do
  let receipt ← callStore services fun s => s.cancelLogicalTurn request
  flushLogicalTurnOutbox services
  pure receipt

def requeueLogicalTurnContinuations : EngineM Nat := do
  let tickets ← loadStore services fun s => s.listLogicalTurnTickets
  let live := tickets.filter fun ticket =>
    match services.getSession ticket.sessionId with
    | .ok session => session.status ≠ .archived
    | .error _ => false
  forEach (fun ticket => publish services (.brainWakeRequested ticket.sessionId)) live
  pure live.length

def hydrateLogicalTurnContinuations : EngineM LogicalTurnHydrationReport := do
  let hydratedAt ← now services
  let report ← callStore services fun s => s.hydrateLogicalTurns hydratedAt
  flushLogicalTurnOutbox services
  let _ ← requeueLogicalTurnContinuations services
  pure report

end CoreEngine

end RustyCrew.Engine

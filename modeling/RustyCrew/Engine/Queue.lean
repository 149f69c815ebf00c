import RustyCrew.Library.Table
import RustyCrew.Protocol.Sessions

namespace RustyCrew.Engine

open Library Protocol

inductive QueuedMessageState where
  | pending
  | delivered
  | expired
  | discarded
  | cancelled
  deriving DecidableEq, Repr

structure QueuedMessageRecord where
  messageId : String
  ownerSessionId : Option SessionId
  ownerAgentId : AgentId
  message : AgentMessage
  sourceSequence : Option Nat
  (enqueuedAt expiresAt : IsoTimestamp)
  (ttlMs deliveryAttempts : Nat)
  state : QueuedMessageState
  terminalAt : Option IsoTimestamp
  stateReason : Option String
  deriving DecidableEq, Repr

structure QueuedMessageFilter where
  state : Option QueuedMessageState
  ownerSessionId : Option SessionId
  ownerAgentId : Option AgentId
  limit : Option Nat
  deriving DecidableEq, Repr

abbrev Queue := Table QueuedMessageRecord.messageId

def QueuedMessageFilter.admits (filter : QueuedMessageFilter) (row : QueuedMessageRecord) : Bool :=
  filter.state.all (fun state => row.state = state) &&
    filter.ownerSessionId.all (fun session => row.ownerSessionId = some session) &&
    filter.ownerAgentId.all (fun agent => row.ownerAgentId = agent)

namespace Queue

def loadQueuedMessages (queue : Queue) (filter : QueuedMessageFilter) :
    List QueuedMessageRecord :=
  ((queue.select fun row => filter.admits row).insertionSort fun a b =>
    a.enqueuedAt < b.enqueuedAt ∨ a.enqueuedAt = b.enqueuedAt ∧ a.messageId ≤ b.messageId).take
      (max 1 (min (filter.limit.getD 1000) 10000))

/-- Insert or update a row. An update leaves the column `enqueued_at` as it is. -/
def saveQueuedMessage (queue : Queue) (record : QueuedMessageRecord) : Queue :=
  match queue.find? record.messageId with
  | some stored => queue.put { record with enqueuedAt := stored.enqueuedAt }
  | none => queue.put record

def expiredMessage (now : IsoTimestamp) (record : QueuedMessageRecord) : QueuedMessageRecord :=
  { record with state := .expired, terminalAt := some now, stateReason := some "ttl_expired" }

def expireQueuedMessagesAt (queue : Queue) (now : IsoTimestamp) : Queue :=
  let expiring := (loadQueuedMessages queue ⟨some .pending, none, none, none⟩).filter
    fun message => message.expiresAt ≤ now
  expiring.foldl (fun queue message => saveQueuedMessage queue (expiredMessage now message)) queue

end Queue

def pendingFilter (sessionId : SessionId) : QueuedMessageFilter :=
  ⟨some .pending, some sessionId, none, none⟩

def applyHistoryWindow {α : Type} (items : List α) (maxItems : Option Nat) : List α :=
  match maxItems with
  | none => items
  | some maxItems =>
    if maxItems = 0 then []
    else if items.length ≤ maxItems then items
    else items.drop (items.length - maxItems)

def drainedMessage (now : IsoTimestamp) (includeInWake : Bool) (record : QueuedMessageRecord) :
    QueuedMessageRecord :=
  { record with
    state := if includeInWake then .delivered else .discarded
    deliveryAttempts := record.deliveryAttempts + 1
    terminalAt := some now
    stateReason := some
      (if includeInWake then "delivered_for_wake" else "history_window_exceeded") }

def drainFollowUpQueueForWake (queue : Queue) (now : IsoTimestamp) (sessionId : SessionId)
    (maxDeliveredMessages : Option Nat) : Queue × List QueuedMessageRecord :=
  let queue := queue.expireQueuedMessagesAt now
  let pending := queue.loadQueuedMessages (pendingFilter sessionId)
  let deliveredIds :=
    applyHistoryWindow (pending.map QueuedMessageRecord.messageId) maxDeliveredMessages
  pending.foldl (fun (queue, delivered) record =>
      let includeInWake := deliveredIds.contains record.messageId
      let record := drainedMessage now includeInWake record
      (queue.saveQueuedMessage record, if includeInWake then delivered ++ [record] else delivered))
    (queue, [])

def overflowingMessage (now : IsoTimestamp) (record : QueuedMessageRecord) :
    QueuedMessageRecord :=
  { record with
    state := .discarded, terminalAt := some now, stateReason := some "queue_cap_exceeded" }

def enforceFollowUpQueueCap (queue : Queue) (now : IsoTimestamp) (sessionId : SessionId)
    (maxQueuedMessages : Nat) : Queue :=
  let pending := queue.loadQueuedMessages (pendingFilter sessionId)
  let overflow := pending.length - maxQueuedMessages
  (pending.take overflow).foldl
    (fun queue record => queue.saveQueuedMessage (overflowingMessage now record)) queue

end RustyCrew.Engine

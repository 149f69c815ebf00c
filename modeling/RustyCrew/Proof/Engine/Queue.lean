import RustyCrew.Engine.Queue
import RustyCrew.Library.Paging
import RustyCrew.Library.Text

namespace RustyCrew.Proof.Engine

open Library Protocol RustyCrew.Engine Table List

/-! ## The order of the queue -/

/-- `ORDER BY enqueued_at, message_id` -/
def queueOrder (a b : QueuedMessageRecord) : Prop :=
  a.enqueuedAt < b.enqueuedAt ∨ a.enqueuedAt = b.enqueuedAt ∧ a.messageId ≤ b.messageId

instance : DecidableRel queueOrder := fun a b =>
  inferInstanceAs (Decidable
    (a.enqueuedAt < b.enqueuedAt ∨ a.enqueuedAt = b.enqueuedAt ∧ a.messageId ≤ b.messageId))

instance : Std.Total queueOrder where
  total a b := by
    unfold queueOrder
    rcases lt_trichotomy a.enqueuedAt b.enqueuedAt with earlier | same | later
    · exact .inl (.inl earlier)
    · rcases le_total a.messageId b.messageId with first | second
      · exact .inl (.inr ⟨same, first⟩)
      · exact .inr (.inr ⟨same.symm, second⟩)
    · exact .inr (.inl later)

instance : IsTrans QueuedMessageRecord queueOrder where
  trans a b c := by
    unfold queueOrder
    intro ab bc
    rcases ab with ab | ⟨ab, first⟩
    · rcases bc with bc | ⟨bc, -⟩
      · exact .inl (ab.trans bc)
      · exact .inl (bc ▸ ab)
    · rcases bc with bc | ⟨bc, second⟩
      · exact .inl (ab ▸ bc)
      · exact .inr ⟨ab.trans bc, first.trans second⟩

def Before (a b : QueuedMessageRecord) : Prop :=
  a.enqueuedAt < b.enqueuedAt ∨ a.enqueuedAt = b.enqueuedAt ∧ a.messageId < b.messageId

instance : DecidableRel Before := fun a b =>
  inferInstanceAs (Decidable
    (a.enqueuedAt < b.enqueuedAt ∨ a.enqueuedAt = b.enqueuedAt ∧ a.messageId < b.messageId))

theorem not_queueOrder : ¬queueOrder b a ↔ Before a b := by
  unfold queueOrder Before
  rw [not_or, not_lt, not_and, not_le]
  constructor
  · rintro ⟨le, tie⟩
    rcases lt_or_eq_of_le le with lt | same
    · exact .inl lt
    · exact .inr ⟨same, tie same.symm⟩
  · rintro (lt | ⟨same, tie⟩)
    · exact ⟨lt.le, fun same => (lt.ne same.symm).elim⟩
    · exact ⟨same.le, fun _ => tie⟩

theorem Before.trans (first : Before a b) (second : Before b c) : Before a c := by
  have ordered : queueOrder b c :=
    (total_of queueOrder b c).resolve_right (not_queueOrder.mpr second)
  rw [← not_queueOrder] at first ⊢
  intro reversed
  exact first (IsTrans.trans b c a ordered reversed)

section
variable {queue : Queue}

theorem Queue.row_unique (isRow : a ∈ queue.rows) (isOther : b ∈ queue.rows)
    (same : a.messageId = b.messageId) : a = b := by
  have found := find?_of_mem isRow
  rw [same, find?_of_mem isOther] at found
  exact (Option.some.inj found).symm

theorem queueOrder_antisymm (isRow : a ∈ queue.rows) (isOther : b ∈ queue.rows)
    (first : queueOrder a b) (second : queueOrder b a) : b = a := by
  unfold queueOrder at first second
  apply Queue.row_unique isOther isRow
  rcases first with lt | ⟨same, le⟩
  · rcases second with gt | ⟨same, -⟩
    · exact (lt.asymm gt).elim
    · exact (lt.ne same.symm).elim
  · rcases second with gt | ⟨-, ge⟩
    · exact (gt.ne same.symm).elim
    · exact le_antisymm ge le

theorem Queue.rows_nodup (queue : Queue) : queue.rows.Nodup := .of_map _ queue.unique

end

/-! ## Loading -/

def pageSize (filter : QueuedMessageFilter) : Nat := max 1 (min (filter.limit.getD 1000) 10000)

theorem loadQueuedMessages_eq (queue : Queue) (filter : QueuedMessageFilter) :
    queue.loadQueuedMessages filter =
      page queueOrder (pageSize filter) (queue.select fun row => filter.admits row) :=
  rfl

section
variable {queue : Queue} {filter : QueuedMessageFilter}

theorem loaded_row (loaded : row ∈ queue.loadQueuedMessages filter) :
    row ∈ queue.rows ∧ filter.admits row = true :=
  mem_select.mp (mem_of_mem_page loaded)

theorem nodup_load (queue : Queue) (filter : QueuedMessageFilter) :
    (queue.loadQueuedMessages filter).Nodup :=
  nodup_page ((Queue.rows_nodup queue).filter _)

theorem ids_load (queue : Queue) (filter : QueuedMessageFilter) :
    ((queue.loadQueuedMessages filter).map QueuedMessageRecord.messageId).Nodup := by
  refine List.Nodup.map_on ?_ (nodup_load queue filter)
  intro a isRow b isOther same
  exact Queue.row_unique (loaded_row isRow).1 (loaded_row isOther).1 same

theorem mem_load (member : row ∈ queue.rows) (admitted : filter.admits row = true) :
    row ∈ queue.loadQueuedMessages filter ↔
      (queue.rows.filter fun other => filter.admits other ∧ Before other row).length <
        pageSize filter := by
  have ranked : row ∈ page queueOrder (pageSize filter) (queue.rows.filter filter.admits) ↔ _ :=
    mem_page_iff ((Queue.rows_nodup queue).filter _) (fun other isOther =>
      queueOrder_antisymm member (mem_select.mp isOther).1) (mem_select.mpr ⟨member, admitted⟩)
  rw [filter_filter] at ranked
  simp only [not_queueOrder] at ranked
  refine ranked.trans ?_
  simp only [Bool.decide_and, Bool.decide_eq_true, Bool.and_comm]

end

/-! ## Settling messages -/

def settle (queue : Queue) (f : QueuedMessageRecord → QueuedMessageRecord)
    (rows : List QueuedMessageRecord) : Queue :=
  rows.foldl (fun queue record => queue.saveQueuedMessage (f record)) queue

structure InPlace (f : QueuedMessageRecord → QueuedMessageRecord) : Prop where
  messageId : ∀ record, (f record).messageId = record.messageId
  enqueuedAt : ∀ record, (f record).enqueuedAt = record.enqueuedAt

section
variable {queue : Queue}
variable {rows : List QueuedMessageRecord}

theorem rows_save (inPlace : InPlace f) (stored : row ∈ queue.rows) :
    (queue.saveQueuedMessage (f row)).rows =
      queue.rows.map fun other => if other = row then f row else other := by
  have found : queue.find? (f row).messageId = some row := by
    rw [inPlace.messageId]
    exact find?_of_mem stored
  have kept : { f row with enqueuedAt := row.enqueuedAt } = f row := by rw [← inPlace.enqueuedAt]
  simp only [Queue.saveQueuedMessage, found, kept]
  rw [rows_put_of_present found]
  apply map_congr_left
  intro other isOther
  have same : other.messageId = (f row).messageId ↔ other = row := by
    rw [inPlace.messageId]
    exact ⟨Queue.row_unique isOther stored, congrArg _⟩
  simp only [same]

theorem rows_settle (inPlace : InPlace f) (stored : ∀ row ∈ rows, row ∈ queue.rows)
    (unique : rows.Nodup) :
    (settle queue f rows).rows = queue.rows.map fun row => if row ∈ rows then f row else row := by
  induction rows generalizing queue with
  | nil => simp [settle]
  | cons row rest ih =>
    obtain ⟨fresh, unique⟩ := nodup_cons.mp unique
    have isRow := stored row mem_cons_self
    have saved := rows_save inPlace isRow
    have settled : settle queue f (row :: rest) =
        settle (queue.saveQueuedMessage (f row)) f rest := rfl
    rw [settled, ih _ unique, saved, map_map]
    · apply map_congr_left
      intro other isOther
      simp only [Function.comp_apply, mem_cons]
      by_cases same : other = row
      · have written : f row ∉ rest := by
          intro later
          have isWritten := stored (f row) (mem_cons_of_mem _ later)
          rw [Queue.row_unique isWritten isRow (inPlace.messageId row)] at later
          exact fresh later
        simp [same, written]
      · simp [same]
    · intro later isLater
      rw [saved, mem_map]
      refine ⟨later, stored later (mem_cons_of_mem _ isLater), if_neg ?_⟩
      rintro rfl
      exact fresh isLater

theorem select_settle (inPlace : InPlace f) (stored : ∀ row ∈ rows, row ∈ queue.rows)
    (unique : rows.Nodup) {test : QueuedMessageRecord → Bool}
    (settled : ∀ row ∈ rows, test (f row) = false) :
    (settle queue f rows).select test = queue.rows.filter fun row => test row ∧ row ∉ rows := by
  rw [Table.select, rows_settle inPlace stored unique, filter_map]
  have tests : queue.rows.filter (test ∘ fun row => if row ∈ rows then f row else row) =
        queue.rows.filter fun row => test row ∧ row ∉ rows := by
    apply filter_congr
    intro row isRow
    by_cases isSettled : row ∈ rows
    · simp [isSettled, settled row isSettled]
    · simp [isSettled]
  have kept : ∀ row ∈ queue.rows.filter (fun row => test row ∧ row ∉ rows),
      (if row ∈ rows then f row else row) = id row := by
    intro row isKept
    rw [mem_filter, decide_eq_true_eq] at isKept
    exact if_neg isKept.2.2
  rw [tests, map_congr_left kept, map_id]

end

/-! ## The operations -/

theorem expired_inPlace (now) : InPlace (Queue.expiredMessage now) :=
  ⟨fun _ => rfl, fun _ => rfl⟩

def expiring (queue : Queue) (now : IsoTimestamp) : List QueuedMessageRecord :=
  (queue.loadQueuedMessages ⟨some .pending, none, none, none⟩).filter
    fun message => message.expiresAt ≤ now

theorem expire_eq (queue now) : queue.expireQueuedMessagesAt now =
      settle queue (Queue.expiredMessage now) (expiring queue now) :=
  rfl

theorem expiring_row (expires : row ∈ expiring queue now) :
    row ∈ queue.rows ∧ row.state = .pending ∧ row.expiresAt ≤ now := by
  obtain ⟨loaded, due⟩ := mem_filter.mp expires
  obtain ⟨isRow, admitted⟩ := loaded_row loaded
  refine ⟨isRow, ?_, by simpa using due⟩
  simpa [QueuedMessageFilter.admits] using admitted

theorem rows_expire (queue : Queue) (now : IsoTimestamp) :
    (queue.expireQueuedMessagesAt now).rows = queue.rows.map fun row =>
      if row ∈ expiring queue now then Queue.expiredMessage now row else row :=
  rows_settle (expired_inPlace now) (fun _ expires => (expiring_row expires).1)
    ((nodup_load queue _).filter _)

def draining (queue : Queue) (now : IsoTimestamp) (sessionId : SessionId) :
    List QueuedMessageRecord :=
  (queue.expireQueuedMessagesAt now).loadQueuedMessages (pendingFilter sessionId)

def isDelivered (queue : Queue) (now : IsoTimestamp) (sessionId : SessionId)
    (maxDeliveredMessages : Option Nat) (row : QueuedMessageRecord) : Bool :=
  (applyHistoryWindow ((draining queue now sessionId).map QueuedMessageRecord.messageId)
    maxDeliveredMessages).contains row.messageId

theorem drain_fold (now) (included : QueuedMessageRecord → Bool) (rows : List QueuedMessageRecord)
    (queue) (done : List QueuedMessageRecord) : rows.foldl
        (fun (state : Queue × List QueuedMessageRecord) record =>
          (state.1.saveQueuedMessage (drainedMessage now (included record) record),
            if included record then state.2 ++ [drainedMessage now (included record) record]
            else state.2)) (queue, done) =
      (settle queue (fun record => drainedMessage now (included record) record) rows,
        done ++ (rows.filter included).map (drainedMessage now true)) := by
  induction rows generalizing queue done with
  | nil => simp [settle]
  | cons row rest ih =>
    rw [foldl_cons, ih]
    cases decision : included row <;> simp [settle, decision]

theorem drain_eq (queue now sessionId) (maxDeliveredMessages : Option Nat) :
    drainFollowUpQueueForWake queue now sessionId maxDeliveredMessages =
      (settle (queue.expireQueuedMessagesAt now) (fun record => drainedMessage now
          (isDelivered queue now sessionId maxDeliveredMessages record) record)
        (draining queue now sessionId),
      ((draining queue now sessionId).filter
        (isDelivered queue now sessionId maxDeliveredMessages)).map (drainedMessage now true)) := by
  rw [← nil_append (((draining queue now sessionId).filter _).map _), ← drain_fold]
  rfl

theorem drained_inPlace (now) (included : QueuedMessageRecord → Bool) :
    InPlace fun record => drainedMessage now (included record) record :=
  ⟨fun _ => rfl, fun _ => rfl⟩

theorem rows_drain (queue now sessionId) (maxDeliveredMessages : Option Nat) :
    (drainFollowUpQueueForWake queue now sessionId maxDeliveredMessages).1.rows =
      (queue.expireQueuedMessagesAt now).rows.map fun row =>
        if row ∈ draining queue now sessionId then
          drainedMessage now (isDelivered queue now sessionId maxDeliveredMessages row) row
        else row := by
  rw [drain_eq]
  exact rows_settle (drained_inPlace now _) (fun _ drained => (loaded_row drained).1)
    (nodup_load _ _)

section
variable {queue : Queue} {now : IsoTimestamp} {sessionId : SessionId}

theorem admits_pending :
    (pendingFilter sessionId).admits row = true ↔
      row.state = .pending ∧ row.ownerSessionId = some sessionId := by
  simp [pendingFilter, QueuedMessageFilter.admits]

theorem draining_row (drained : row ∈ draining queue now sessionId) :
    row ∈ queue.rows ∧ row.state = .pending ∧ row.ownerSessionId = some sessionId ∧
      row ∉ expiring queue now := by
  obtain ⟨isRow, admitted⟩ := loaded_row drained
  obtain ⟨pending, owner⟩ := admits_pending.mp admitted
  rw [rows_expire, mem_map] at isRow
  obtain ⟨old, isOld, rfl⟩ := isRow
  split at pending
  · cases pending
  · next kept =>
    rw [if_neg kept] at owner ⊢
    exact ⟨isOld, pending, owner, kept⟩

theorem mem_expiring (isRow : row ∈ queue.rows) (pending : row.state = .pending)
    (due : row.expiresAt ≤ now) :
    row ∈ expiring queue now ↔
      (queue.rows.filter fun other => other.state = .pending ∧ Before other row).length < 1000 := by
  have admitted : ∀ other : QueuedMessageRecord,
      (QueuedMessageFilter.mk (some .pending) none none none).admits other = true ↔
        other.state = .pending := by
    simp [QueuedMessageFilter.admits]
  rw [expiring, mem_filter, mem_load isRow ((admitted row).mpr pending)]
  simp only [admitted, due, decide_true, and_true]
  rfl

/-! ## Expired messages are not delivered -/

structure RespectsExpiry (queue : Queue) (now : IsoTimestamp) (sessionId : SessionId)
    (drained : Queue × List QueuedMessageRecord) : Prop where
  unexpired : ∀ record ∈ drained.2, ¬record.expiresAt ≤ now
  marked : ∀ message ∈ queue.rows, message.state = .pending →
    message.ownerSessionId = some sessionId → message.expiresAt ≤ now →
      { message with
        state := .expired, terminalAt := some now, stateReason := some "ttl_expired" } ∈
          drained.1.rows

/-- Fewer than a page of pending messages, of all sessions, come before each expired message of
the session. -/
def ExpiryReached (queue : Queue) (now : IsoTimestamp) (sessionId : SessionId) : Prop :=
  ∀ message ∈ queue.rows, message.state = .pending → message.ownerSessionId = some sessionId →
    message.expiresAt ≤ now →
      (queue.rows.filter fun other => other.state = .pending ∧ Before other message).length < 1000

theorem respectsExpiry_of_reached (reached : ExpiryReached queue now sessionId)
    (maxDeliveredMessages : Option Nat) :
    RespectsExpiry queue now sessionId
      (drainFollowUpQueueForWake queue now sessionId maxDeliveredMessages) := by
  constructor
  · intro record delivered due
    rw [drain_eq, mem_map] at delivered
    obtain ⟨row, drained, rfl⟩ := delivered
    obtain ⟨isRow, pending, owner, kept⟩ := draining_row (mem_filter.mp drained).1
    exact kept ((mem_expiring isRow pending due).mpr (reached row isRow pending owner due))
  · intro message isRow pending owner due
    have expires := (mem_expiring isRow pending due).mpr (reached message isRow pending owner due)
    have expired : Queue.expiredMessage now message ∈ (queue.expireQueuedMessagesAt now).rows := by
      rw [rows_expire, mem_map]
      exact ⟨message, isRow, if_pos expires⟩
    rw [rows_drain, mem_map]
    refine ⟨_, expired, if_neg fun drained => ?_⟩
    have stillPending := (draining_row drained).2.1
    cases stillPending

theorem reached_of_respectsExpiry (respects : RespectsExpiry queue now sessionId
      (drainFollowUpQueueForWake queue now sessionId maxDeliveredMessages)) :
    ExpiryReached queue now sessionId := by
  intro message isRow pending owner due
  rw [← mem_expiring isRow pending due]
  by_contra missed
  have marked := respects.marked message isRow pending owner due
  rw [rows_drain, rows_expire, map_map, mem_map] at marked
  obtain ⟨row, isOther, marked⟩ := marked
  have same : row = message := by
    apply Queue.row_unique isOther isRow
    have ids := congrArg QueuedMessageRecord.messageId marked
    simp only [Function.comp_apply] at ids
    split at ids <;> split at ids <;> exact ids
  rw [same, Function.comp_apply, if_neg missed] at marked
  have states := congrArg QueuedMessageRecord.state marked
  split at states
  · simp only [drainedMessage] at states
    split at states <;> cases states
  · rw [pending] at states
    cases states

end

theorem drain_respects_expiry_iff (queue : Queue) (now : IsoTimestamp) (sessionId : SessionId)
    (maxDeliveredMessages : Option Nat) :
    RespectsExpiry queue now sessionId
        (drainFollowUpQueueForWake queue now sessionId maxDeliveredMessages) ↔
      ExpiryReached queue now sessionId :=
  ⟨reached_of_respectsExpiry, fun reached => respectsExpiry_of_reached reached _⟩

def sampleMessage (messageId sessionId : String) (enqueuedAt expiresAt : IsoTimestamp) :
    QueuedMessageRecord where
  messageId := messageId
  ownerSessionId := some ⟨sessionId⟩
  ownerAgentId := ⟨"agent"⟩
  message := ⟨⟨"operator"⟩, ⟨"agent"⟩, none, none, "body", none, none⟩
  sourceSequence := none
  enqueuedAt := enqueuedAt
  expiresAt := expiresAt
  ttlMs := 5000
  deliveryAttempts := 0
  state := .pending
  terminalAt := none
  stateReason := none

def shortQueue : Queue :=
  Table.empty.put (sampleMessage "late" "session" "2026-01-01T10:00:00Z" "2026-01-01T10:00:05Z")

theorem drain_respects_expiry_sample :
    ExpiryReached shortQueue "2026-01-01T11:00:00Z" ⟨"session"⟩ ∧
      RespectsExpiry shortQueue "2026-01-01T11:00:00Z" ⟨"session"⟩
        (drainFollowUpQueueForWake shortQueue "2026-01-01T11:00:00Z" ⟨"session"⟩ none) :=
  have reached : ExpiryReached shortQueue "2026-01-01T11:00:00Z" ⟨"session"⟩ := by
    unfold ExpiryReached
    decide +kernel
  ⟨reached, (drain_respects_expiry_iff _ _ _ _).mpr reached⟩

/-- An expired message behind a page of messages of other sessions that have not expired. -/
structure Crowded (queue : Queue) (late : QueuedMessageRecord) (now : IsoTimestamp)
    (sessionId : SessionId) : Prop where
  isRow : late ∈ queue.rows
  pending : late.state = .pending
  owner : late.ownerSessionId = some sessionId
  due : late.expiresAt ≤ now
  others : ∀ row ∈ queue.rows, row = late ∨
    row.ownerSessionId ≠ some sessionId ∧ ¬row.expiresAt ≤ now
  before : 1000 ≤ (queue.rows.filter fun other => other.state = .pending ∧ Before other late).length

section

section
variable (crowded : Crowded queue late now sessionId)
include crowded

theorem Crowded.nothing_expires : expiring queue now = [] := by
  apply eq_nil_iff_forall_not_mem.mpr
  intro row expires
  obtain ⟨isRow, pending, due⟩ := expiring_row expires
  rcases crowded.others row isRow with rfl | ⟨-, later⟩
  · have few := (mem_expiring isRow pending due).mp expires
    have many := crowded.before
    omega
  · exact later due

theorem Crowded.drains : draining queue now sessionId = [late] := by
  have unchanged : queue.expireQueuedMessagesAt now = queue := by
    rw [expire_eq, crowded.nothing_expires]
    rfl
  have only : ∀ row ∈ draining queue now sessionId, row = late := by
    intro row drained
    obtain ⟨isRow, -, owner, -⟩ := draining_row drained
    exact (crowded.others row isRow).resolve_right fun other => other.1 owner
  have taken : late ∈ draining queue now sessionId := by
    rw [draining, unchanged]
    refine (mem_load crowded.isRow (admits_pending.mpr ⟨crowded.pending, crowded.owner⟩)).mpr ?_
    rw [filter_eq_nil_iff.mpr]
    · exact Nat.zero_lt_succ 999
    · intro row isRow counted
      rw [decide_eq_true_eq, admits_pending] at counted
      obtain ⟨⟨-, owner⟩, before⟩ := counted
      rcases crowded.others row isRow with rfl | ⟨other, -⟩
      · exact not_queueOrder.mpr before ((total_of queueOrder row row).elim id id)
      · exact other owner
  have unique : (draining queue now sessionId).Nodup := nodup_load _ _
  rw [eq_replicate_of_mem only] at taken unique ⊢
  have one := nodup_replicate.mp unique
  have some := (mem_replicate.mp taken).1
  rw [show (draining queue now sessionId).length = 1 by omega]
  rfl

theorem Crowded.delivers :
    (drainFollowUpQueueForWake queue now sessionId none).2 = [drainedMessage now true late] := by
  have included : isDelivered queue now sessionId none late = true := by
    rw [isDelivered, crowded.drains]
    simp [applyHistoryWindow]
  rw [drain_eq, crowded.drains, filter_cons_of_pos included]
  rfl

end

theorem crowded_behind {f : Nat → QueuedMessageRecord}
    (rows : queue.rows = (List.range 1000).map f ++ [late]) (pending : late.state = .pending)
    (owner : late.ownerSessionId = some sessionId) (due : late.expiresAt ≤ now)
    (earlier : ∀ i, (f i).state = .pending ∧ (f i).enqueuedAt < late.enqueuedAt ∧
      (f i).ownerSessionId ≠ some sessionId ∧ ¬(f i).expiresAt ≤ now) :
    Crowded queue late now sessionId := by
  refine ⟨by simp [rows], pending, owner, due, ?_, ?_⟩
  · intro row isRow
    rw [rows, mem_append, mem_singleton, mem_map] at isRow
    obtain ⟨i, -, rfl⟩ | isLate := isRow
    · exact .inr (earlier i).2.2
    · exact .inl isLate
  · have all : ((List.range 1000).map f).filter
        (fun other => other.state = .pending ∧ Before other late) = (List.range 1000).map f := by
      apply filter_eq_self.mpr
      intro row isRow
      obtain ⟨i, -, rfl⟩ := mem_map.mp isRow
      exact decide_eq_true ⟨(earlier i).1, .inl (earlier i).2.1⟩
    rw [rows, filter_append, all, length_append, length_map, length_range]
    exact Nat.le_add_right _ _

end

def lateMessage : QueuedMessageRecord :=
  sampleMessage "late" "session" "2026-01-01T10:00:00Z" "2026-01-01T10:00:05Z"

def earlierMessages (n : Nat) : List QueuedMessageRecord :=
  (List.range n).map fun i =>
    sampleMessage (toString i) "busy" "2026-01-01T09:00:00Z" "2026-01-02T00:00:00Z"

theorem toString_ne {text : String} (member : c ∈ text.toList)
    (letter : c.isDigit = false) (i : Nat) : toString i ≠ text := by
  intro same
  rw [← same] at member
  rw [Text.isDigit_of_mem_toString member] at letter
  cases letter

theorem crowded_unique (n : Nat) :
    ((earlierMessages n ++ [lateMessage]).map QueuedMessageRecord.messageId).Nodup := by
  rw [map_append, nodup_append, earlierMessages, map_map]
  refine ⟨nodup_range.map fun i j same => Text.toString_injective same, by simp, ?_⟩
  intro messageId earlier late isLate same
  obtain ⟨i, -, rfl⟩ := mem_map.mp earlier
  rw [map_singleton, mem_singleton] at isLate
  exact toString_ne (c := 'l') (by decide) (by decide) i (same.trans isLate)

def crowdedQueue : Queue := ⟨earlierMessages 1000 ++ [lateMessage], crowded_unique 1000⟩

theorem crowdedQueue_crowded :
    Crowded crowdedQueue lateMessage "2026-01-01T11:00:00Z" ⟨"session"⟩ := by
  have expires : ("2026-01-01T09:00:00Z" : IsoTimestamp) < lateMessage.enqueuedAt ∧
      ¬("2026-01-02T00:00:00Z" : IsoTimestamp) ≤ "2026-01-01T11:00:00Z" := by
    decide +kernel
  have rows : ∀ n, (Table.mk _ (crowded_unique n)).rows =
      (List.range n).map (fun i => sampleMessage (toString i) "busy" "2026-01-01T09:00:00Z"
        "2026-01-02T00:00:00Z") ++ [lateMessage] := fun _ => rfl
  exact crowded_behind (rows 1000) rfl rfl (by decide +kernel)
    fun i => ⟨rfl, expires.1, by simp [sampleMessage], expires.2⟩

theorem expired_message_delivered :
    let drained := drainFollowUpQueueForWake crowdedQueue "2026-01-01T11:00:00Z" ⟨"session"⟩ none
    lateMessage.expiresAt ≤ "2026-01-01T11:00:00Z" ∧
      drained.2 = [drainedMessage "2026-01-01T11:00:00Z" true lateMessage] ∧
      ¬RespectsExpiry crowdedQueue "2026-01-01T11:00:00Z" ⟨"session"⟩ drained := by
  have delivered := crowdedQueue_crowded.delivers
  refine ⟨crowdedQueue_crowded.due, delivered, fun respects => ?_⟩
  apply respects.unexpired (drainedMessage "2026-01-01T11:00:00Z" true lateMessage)
  · rw [delivered]
    exact mem_singleton_self _
  · exact crowdedQueue_crowded.due

end RustyCrew.Proof.Engine

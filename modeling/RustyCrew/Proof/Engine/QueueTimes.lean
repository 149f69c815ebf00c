import RustyCrew.Proof.Engine.Queue
import RustyCrew.Library.Chronology

namespace RustyCrew.Proof.Engine

open Library Protocol RustyCrew.Engine OffsetDateTime Queue

/-! ## Queue times as instants -/

/-- A timestamp is the RFC 3339 text of a time. -/
def Stamps (text : IsoTimestamp) (time : OffsetDateTime) : Prop := time.formatRfc3339 = some text

theorem comparable_comm : Comparable a b ↔ Comparable b a := by
  have swapped {a b : OffsetDateTime} (comparable : Comparable a b) : Comparable b a := by
    refine ⟨comparable.offsets.symm, fun utc same => ?_⟩
    obtain ⟨first, second⟩ := comparable.apart (comparable.offsets.trans utc) same.symm
    exact ⟨fun continued => (second continued).symm, fun continued => (first continued).symm⟩
  exact ⟨swapped, swapped⟩

theorem stamps_le_iff (offsets : a.offsetSeconds = b.offsetSeconds) (stamps : Stamps text a)
    (otherStamps : Stamps other b) :
    (text ≤ other ↔ a.instant ≤ b.instant) ↔ Comparable a b := by
  rw [comparable_comm, ← text_lt_iff offsets.symm otherStamps stamps, ← not_lt, ← not_lt,
    not_iff_not]

section
variable {queue : Queue}

theorem expired_iff (isRow : message ∈ queue.rows) (pending : message.state = .pending) :
    expiredMessage now message ∈ (queue.expireQueuedMessagesAt now).rows ↔
      message ∈ expiring queue now := by
  rw [rows_expire, List.mem_map]
  constructor
  · rintro ⟨row, isOther, marked⟩
    have same : row = message := by
      apply row_unique isOther isRow
      have ids := congrArg QueuedMessageRecord.messageId marked
      split at ids <;> exact ids
    rw [same] at marked
    by_contra kept
    rw [if_neg kept] at marked
    rw [marked] at pending
    cases pending
  · intro expires
    exact ⟨message, isRow, if_pos expires⟩

theorem length_before_le {first second : QueuedMessageRecord} {test : QueuedMessageRecord → Prop}
    [DecidablePred test] (before : Before first second) :
    (queue.rows.filter fun other => test other ∧ Before other first).length ≤
      (queue.rows.filter fun other => test other ∧ Before other second).length := by
  apply List.Sublist.length_le
  apply List.monotone_filter_right
  intro other counted
  rw [decide_eq_true_eq] at counted ⊢
  refine ⟨counted.1, ?_⟩
  exact counted.2.trans before

theorem draining_before {sessionId : SessionId} {first second : QueuedMessageRecord}
    (drained : second ∈ draining queue now sessionId)
    (isRow : first ∈ (queue.expireQueuedMessagesAt now).rows)
    (admitted : (pendingFilter sessionId).admits first = true) (before : Before first second) :
    first ∈ draining queue now sessionId := by
  obtain ⟨isSecond, secondAdmitted⟩ := loaded_row drained
  have room := (mem_load isSecond secondAdmitted).mp drained
  exact (mem_load isRow admitted).mpr (lt_of_le_of_lt (length_before_le before) room)

end

structure Chronological (queue : Queue) : Prop where
  /-- The texts of two times with one offset are in the order of the instants exactly when the times
  are comparable. -/
  compares : ∀ text other a b, Stamps text a → Stamps other b →
    a.offsetSeconds = b.offsetSeconds →
      ((text ≤ other ↔ a.instant ≤ b.instant) ↔ Comparable a b)
  /-- A pass expires a pending message just when its expiry is not after the time of the pass,
  exactly when it reaches the message and the texts are in the order of the instants, or does not
  reach it and need not. -/
  expires : ∀ message ∈ queue.rows, message.state = .pending → ∀ now expiry time,
    Stamps message.expiresAt expiry → Stamps now time →
      ((expiredMessage now message ∈ (queue.expireQueuedMessagesAt now).rows ↔
          expiry.instant ≤ time.instant) ↔
        if (queue.rows.filter fun other =>
            other.state = .pending ∧ Before other message).length < 1000 then
          (message.expiresAt ≤ now ↔ expiry.instant ≤ time.instant)
        else time.instant < expiry.instant)
  /-- One drain delivers two messages in the order of the instants they were queued at exactly when
  they are in that order by their texts. -/
  delivers : ∀ now sessionId capacity,
    ∀ first ∈ (drainFollowUpQueueForWake queue now sessionId capacity).2,
    ∀ second ∈ (drainFollowUpQueueForWake queue now sessionId capacity).2,
    ∀ a b, Stamps first.enqueuedAt a → Stamps second.enqueuedAt b → a.instant < b.instant →
      ([first, second].Sublist (drainFollowUpQueueForWake queue now sessionId capacity).2 ↔
        Before first second)
  /-- A message is not left for a later drain when one that was queued after it is delivered. -/
  settles : ∀ now sessionId capacity, ∀ first ∈ queue.rows, first.state = .pending →
    first.ownerSessionId = some sessionId →
    ∀ second ∈ (drainFollowUpQueueForWake queue now sessionId capacity).2,
    ∀ a b, Stamps first.enqueuedAt a → Stamps second.enqueuedAt b → Comparable a b →
    a.instant < b.instant →
    ∀ row ∈ (drainFollowUpQueueForWake queue now sessionId capacity).1.rows,
      row.messageId = first.messageId → row.state ≠ .pending

theorem delivered_in_order (queue now sessionId) (capacity : Option Nat) :
    (drainFollowUpQueueForWake queue now sessionId capacity).2.Pairwise Before := by
  have strict : (draining queue now sessionId).Pairwise Before := by
    have sorted : (draining queue now sessionId).Pairwise queueOrder := pairwise_page _ _
    refine (sorted.and (nodup_load _ _)).imp_of_mem fun isFirst isSecond ordered => ?_
    refine not_queueOrder.mp fun swapped => ordered.2 ?_
    exact queueOrder_antisymm (loaded_row isSecond).1 (loaded_row isFirst).1 swapped ordered.1
  rw [drain_eq, List.pairwise_map]
  exact strict.filter _

theorem settled_before {queue : Queue} {now : IsoTimestamp} {sessionId : SessionId}
    {capacity : Option Nat} {first second row : QueuedMessageRecord} (isRow : first ∈ queue.rows)
    (pending : first.state = .pending) (owner : first.ownerSessionId = some sessionId)
    (delivered : second ∈ (drainFollowUpQueueForWake queue now sessionId capacity).2)
    (earlier : first.enqueuedAt < second.enqueuedAt)
    (isLeft : row ∈ (drainFollowUpQueueForWake queue now sessionId capacity).1.rows)
    (same : row.messageId = first.messageId) : row.state ≠ .pending := by
  rw [drain_eq, List.mem_map] at delivered
  obtain ⟨source, drained, rfl⟩ := delivered
  rw [rows_drain, rows_expire, List.map_map, List.mem_map] at isLeft
  obtain ⟨old, isOld, rfl⟩ := isLeft
  have isFirst : old = first := by
    apply row_unique isOld isRow
    simp only [Function.comp_apply] at same
    split at same <;> split at same <;> exact same
  subst isFirst
  rw [Function.comp_apply]
  by_cases expires : old ∈ expiring queue now
  · rw [if_pos expires, if_neg]
    · simp [expiredMessage]
    · intro impossible
      have stillPending := (draining_row impossible).2.1
      cases stillPending
  · have kept : old ∈ (queue.expireQueuedMessagesAt now).rows := by
      rw [rows_expire, List.mem_map]
      exact ⟨old, isOld, if_neg expires⟩
    have taken := draining_before (List.mem_filter.mp drained).1 kept
      (admits_pending.mpr ⟨pending, owner⟩) (.inl earlier)
    rw [if_neg expires, if_pos taken]
    simp only [drainedMessage]
    split <;> simp

theorem queue_is_chronological (queue : Queue) : Chronological queue := by
  constructor
  · intro text other a b stamps otherStamps offsets
    exact stamps_le_iff offsets stamps otherStamps
  · intro message isRow pending now expiry time _ _
    have expired : expiredMessage now message ∈ (queue.expireQueuedMessagesAt now).rows ↔
        message.expiresAt ≤ now ∧ (queue.rows.filter fun other =>
          other.state = .pending ∧ Before other message).length < 1000 := by
      rw [expired_iff isRow pending]
      constructor
      · intro expires
        have due := (expiring_row expires).2.2
        exact ⟨due, (mem_expiring isRow pending due).mp expires⟩
      · exact fun reached => (mem_expiring isRow pending reached.1).mpr reached.2
    rw [expired]
    split
    · next reached => rw [and_iff_left reached]
    · next beyond => simp only [beyond, and_false, false_iff, not_le]
  · intro now sessionId capacity first isFirst second isSecond a b _ _ _
    refine sublist_pair_iff (delivered_in_order _ _ _ _) (fun x y before back => ?_)
      isFirst isSecond
    exact not_queueOrder.mpr (before.trans back) ((total_of queueOrder x x).elim id id)
  · intro now sessionId capacity first isRow pending owner second delivered a b stamps otherStamps
      comparable less row isLeft same
    have earlier := ((text_lt_iff comparable.offsets stamps otherStamps).mpr comparable).mpr less
    exact settled_before isRow pending owner delivered earlier isLeft same

def activeSession (maxMessages : Option Nat) (sessionId : SessionId) : SessionState where
  handle := 1
  sessionId := sessionId
  agentId := ⟨"agent"⟩
  profileId := ⟨"profile"⟩
  kind := .full
  delegation := none
  workspace := none
  resourceLimits := ⟨none, none⟩
  toolProfile := ⟨[]⟩
  historyWindow := maxMessages.map fun n => ⟨some n⟩
  inferenceOverrides := ⟨none⟩
  status := .active
  brainTurnCount := 0
  createdAt := "2026-01-01T00:00:00Z"
  lastActiveAt := "2026-01-01T00:00:00Z"

-- Named, so that the literals of the calendars below carry no proof of their own.
instance hours : NeZero 24 := ⟨by decide⟩

instance seconds : NeZero 60 := ⟨by decide⟩

instance nanoseconds : NeZero (10 ^ 9) := ⟨by decide⟩

def morning (hour : Fin 24) (second : Fin 60) (nanosecond : Fin (10 ^ 9)) (offsetSeconds : Int) :
    OffsetDateTime :=
  { OffsetDateTime.startOfYear 2026 with
    hour, second, nanosecond, offsetSeconds
    hour_valid := hour.isLt
    second_valid := second.isLt
    nanosecond_valid := nanosecond.isLt }

def oneMessage (enqueuedAt expiresAt : IsoTimestamp) : Queue :=
  Table.empty.put (sampleMessage "message" "session" enqueuedAt expiresAt)

def twoMessages (firstAt secondAt : IsoTimestamp) : Queue :=
  (Table.empty.put (sampleMessage "first" "session" firstAt "2026-01-02T00:00:00Z")).put
    (sampleMessage "second" "session" secondAt "2026-01-02T00:00:00Z")

theorem queue_is_chronological_sample :
    let message := sampleMessage "message" "session" "2026-01-01T10:00:00Z" "2026-01-01T10:00:05Z"
    let expiry := morning 10 5 0 0
    let time := morning 10 6 500000000 0
    (Stamps message.expiresAt expiry ∧ Stamps "2026-01-01T10:00:06.5Z" time ∧
      Comparable expiry time ∧ expiry.instant ≤ time.instant) ∧
    expiredMessage "2026-01-01T10:00:06.5Z" message ∈
      ((oneMessage "2026-01-01T10:00:00Z" "2026-01-01T10:00:05Z").expireQueuedMessagesAt
        "2026-01-01T10:00:06.5Z").rows := by
  have comparable : Comparable (morning 10 5 0 0) (morning 10 6 500000000 0) :=
    ⟨rfl, fun _ same => absurd same (by decide +kernel)⟩
  have stamps : Stamps "2026-01-01T10:00:05Z" (morning 10 5 0 0) := by
    unfold Stamps
    decide +kernel
  have timeStamps : Stamps "2026-01-01T10:00:06.5Z" (morning 10 6 500000000 0) := by
    unfold Stamps
    decide +kernel
  have due : (morning 10 5 0 0).instant ≤ (morning 10 6 500000000 0).instant := by decide +kernel
  have chronological :=
    queue_is_chronological (oneMessage "2026-01-01T10:00:00Z" "2026-01-01T10:00:05Z")
  have ordered := (chronological.compares _ _ _ _ stamps timeStamps rfl).mpr comparable
  refine ⟨⟨stamps, timeStamps, comparable, due⟩, ((chronological.expires
    (sampleMessage "message" "session" "2026-01-01T10:00:00Z" "2026-01-01T10:00:05Z")
    (by decide +kernel) rfl _ _ _ stamps timeStamps).mpr ?_).mpr due⟩
  rw [if_pos (by decide +kernel)]
  exact ordered

/-- Half a second after a whole second the text is smaller, and a text with an offset is compared
by its local time: messages are not expired in time and are delivered in the wrong order. -/
theorem timestamps_out_of_order :
    (Stamps "2026-01-01T10:00:05Z" (morning 10 5 0 0) ∧
      Stamps "2026-01-01T10:00:05.5Z" (morning 10 5 500000000 0) ∧
      (morning 10 5 0 0).instant < (morning 10 5 500000000 0).instant ∧
      ((oneMessage "2026-01-01T10:00:00Z" "2026-01-01T10:00:05Z").expireQueuedMessagesAt
        "2026-01-01T10:00:05.5Z").rows.map QueuedMessageRecord.state = [.pending] ∧
      (drainFollowUpQueueForWake (twoMessages "2026-01-01T10:00:05Z" "2026-01-01T10:00:05.5Z")
        "2026-01-01T10:01:00Z" ⟨"session"⟩ none).2.map QueuedMessageRecord.messageId =
          ["second", "first"]) ∧
    Stamps "2026-01-01T11:00:05+02:00" (morning 11 5 0 7200) ∧
      (morning 11 5 0 7200).instant < (morning 10 5 0 0).instant ∧
      ((oneMessage "2026-01-01T08:00:00Z" "2026-01-01T11:00:05+02:00").expireQueuedMessagesAt
        "2026-01-01T10:00:05Z").rows.map QueuedMessageRecord.state = [.pending] := by
  unfold Stamps
  decide +kernel

end RustyCrew.Proof.Engine

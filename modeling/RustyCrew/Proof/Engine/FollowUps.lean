import RustyCrew.Engine.FollowUps
import RustyCrew.Library.Runs
import RustyCrew.Proof.Engine.QueueTimes

namespace RustyCrew.Proof.Engine

open Library Protocol RustyCrew.Engine Effect List

variable {row record : QueuedMessageRecord} {f : QueuedMessageRecord → QueuedMessageRecord}
  {queue after : Queue} {sessionId : SessionId} {services : FollowUpServices} {now : IsoTimestamp}
  {state : ProjectedBody}

/-! ## The path of a message -/

/-- A message is left as it is, or a pending one reaches one of its three ends. -/
inductive Settles (row : QueuedMessageRecord) : QueuedMessageRecord → Prop where
  | kept : Settles row row
  | ended {row' : QueuedMessageRecord} (pending : row.state = .pending)
      (messageId : row'.messageId = row.messageId)
      (state : row'.state = .delivered ∨ row'.state = .expired ∨ row'.state = .discarded) :
      Settles row row'

theorem Settles.messageId (settles : Settles row row') : row'.messageId = row.messageId := by
  cases settles with
  | kept => rfl
  | ended _ messageId _ => exact messageId

theorem Settles.of_ended (settles : Settles row row')
    (ended : row.state ≠ .pending) : row' = row := by
  cases settles with
  | kept => rfl
  | ended pending _ _ => exact (ended pending).elim

theorem Settles.trans (first : Settles a b) (second : Settles b c) : Settles a c := by
  cases second with
  | kept => exact first
  | ended pending messageId state =>
    cases first with
    | kept => exact .ended pending messageId state
    | ended _ _ ended =>
      rw [pending] at ended
      simp at ended

/-- What one operation does: every message goes along its path, and a new one is pending unless
the cap has discarded it at once. -/
structure Progress (before after : Queue) : Prop where
  moved : ∀ row ∈ before.rows, ∃ row' ∈ after.rows, Settles row row'
  entered : ∀ row' ∈ after.rows, (∃ row ∈ before.rows, Settles row row') ∨
    before.find? row'.messageId = none ∧ (row'.state = .pending ∨ row'.state = .discarded)

section
variable {before after : Queue}

theorem Progress.refl (queue) : Progress queue queue :=
  ⟨fun row isRow => ⟨row, isRow, .kept⟩, fun row isRow => .inl ⟨row, isRow, .kept⟩⟩

theorem Progress.ended_kept (progress : Progress before after) (isRow : row ∈ before.rows)
    (ended : row.state ≠ .pending) : row ∈ after.rows := by
  obtain ⟨row', isRow', settles⟩ := progress.moved row isRow
  rwa [settles.of_ended ended] at isRow'

structure Moves (before after : Queue) (f : QueuedMessageRecord → QueuedMessageRecord) : Prop where
  rows : after.rows = before.rows.map f
  settles : ∀ row ∈ before.rows, Settles row (f row)

theorem Moves.progress (moves : Moves before after f) : Progress before after := by
  constructor
  · intro row isRow
    exact ⟨f row, by rw [moves.rows]; exact mem_map_of_mem isRow, moves.settles row isRow⟩
  · intro row' isRow'
    rw [moves.rows, mem_map] at isRow'
    obtain ⟨row, isRow, rfl⟩ := isRow'
    exact .inl ⟨row, isRow, moves.settles row isRow⟩

theorem Moves.trans {g : QueuedMessageRecord → QueuedMessageRecord} (first : Moves before middle f)
    (second : Moves middle after g) : Moves before after (g ∘ f) := by
  constructor
  · rw [second.rows, first.rows, map_map]
  · intro row isRow
    refine (first.settles row isRow).trans (second.settles (f row) ?_)
    rw [first.rows]
    exact mem_map_of_mem isRow

theorem moves_settle (inPlace : InPlace f)
    (stored : ∀ row ∈ rows, row ∈ queue.rows ∧ row.state = .pending) (unique : rows.Nodup)
    (ends : ∀ row, (f row).state = .delivered ∨ (f row).state = .expired ∨ (f row).state =
      .discarded) :
    Moves queue (settle queue f rows) fun row => if row ∈ rows then f row else row := by
  refine ⟨rows_settle inPlace (fun row isRow => (stored row isRow).1) unique, fun row isRow => ?_⟩
  split
  · next settled => exact .ended (stored row settled).2 (inPlace.messageId row) (ends row)
  · exact .kept

end

theorem moves_expire (queue now) : Moves queue (queue.expireQueuedMessagesAt now) fun row =>
      if row ∈ expiring queue now then Queue.expiredMessage now row else row :=
  moves_settle (expired_inPlace now)
    (fun _ expires => ⟨(expiring_row expires).1, (expiring_row expires).2.1⟩)
    ((nodup_load queue _).filter _) fun _ => .inr (.inl rfl)

theorem pending_loaded (loaded : row ∈ queue.loadQueuedMessages (pendingFilter sessionId)) :
    row ∈ queue.rows ∧ row.state = .pending :=
  ⟨(loaded_row loaded).1, (admits_pending.mp (loaded_row loaded).2).1⟩

theorem drainedMessage_ends (now) (includeInWake : Bool) (record) :
    (drainedMessage now includeInWake record).state = .delivered ∨
      (drainedMessage now includeInWake record).state = .expired ∨
      (drainedMessage now includeInWake record).state = .discarded := by
  cases includeInWake <;> simp [drainedMessage]

theorem moves_drain (queue now sessionId) (capacity : Option Nat) :
    ∃ f, Moves queue (drainFollowUpQueueForWake queue now sessionId capacity).1 f := by
  have drained : Moves (queue.expireQueuedMessagesAt now)
      (drainFollowUpQueueForWake queue now sessionId capacity).1 fun row =>
        if row ∈ draining queue now sessionId then
          drainedMessage now (isDelivered queue now sessionId capacity row) row
        else row := by
    rw [drain_eq]
    exact moves_settle (drained_inPlace now _) (fun _ => pending_loaded) (nodup_load _ _)
      fun row => drainedMessage_ends now _ row
  exact ⟨_, (moves_expire queue now).trans drained⟩

def overflowing (queue : Queue) (sessionId : SessionId) (maxQueuedMessages : Nat) :
    List QueuedMessageRecord :=
  let pending := queue.loadQueuedMessages (pendingFilter sessionId)
  pending.take (pending.length - maxQueuedMessages)

theorem overflow_inPlace (now) : InPlace (overflowingMessage now) :=
  ⟨fun _ => rfl, fun _ => rfl⟩

theorem moves_cap (queue now sessionId) (maxQueuedMessages : Nat) :
    Moves queue (enforceFollowUpQueueCap queue now sessionId maxQueuedMessages) fun row =>
      if row ∈ overflowing queue sessionId maxQueuedMessages then overflowingMessage now row
      else row :=
  moves_settle (overflow_inPlace now) (fun _ taken => pending_loaded (mem_of_mem_take taken))
    ((nodup_load _ _).sublist (take_sublist _ _)) fun _ => .inr (.inr rfl)

/-! ## Enqueueing -/

theorem enqueueRouted_cases (services sessionId request) (body : String) (queue) :
    (∃ error, enqueueRoutedAgentMessageWithoutWake services sessionId request body queue =
        (.error error, queue)) ∨
      ∃ record, (record.messageId = routedQueueId request ∧ record.state = .pending ∧
          record.ownerSessionId = some sessionId) ∧
        (queue.loadQueuedMessages (pendingFilter sessionId)).length < 32 ∧
        enqueueRoutedAgentMessageWithoutWake services sessionId request body queue =
          (.ok record, queue.saveQueuedMessage record) := by
  cases built : routedMessage services sessionId request body queue with
  | error error => exact .inl ⟨error, lift_bind_error built⟩
  | ok record =>
    right
    have checked := built
    simp only [routedMessage, project, bind_eq_ok, rejectIf_eq_ok, pure_eq_ok, not_le] at checked
    obtain ⟨-, -, session, -, -, -, state, ⟨own, -, routed, -, rfl⟩, -, room,
      ttlMs, -, rfl⟩ := checked
    exact ⟨_, ⟨rfl, rfl, rfl⟩, room, lift_bind built⟩

theorem followUpMessage_ok
    (built : followUpMessage services followUp = .ok (record, policy)) : (record.messageId =
        nextQueuedMessageId followUp.sessionId (services.clock 0) followUp.sequence ∧
      record.state = .pending ∧ record.ownerSessionId = some followUp.sessionId) ∧
      policy = defaultDeltaPolicy := by
  simp only [followUpMessage, project, bind_eq_ok, rejectIf_eq_ok, pure_eq_ok, Prod.mk.injEq]
    at built
  obtain ⟨session, -, -, -, state, ⟨own, -, routed, -, rfl⟩, expiresAt, -, rfl, rfl⟩ := built
  exact ⟨⟨rfl, rfl, rfl⟩, rfl⟩

theorem enqueueFollowUp_cases (services followUp) (requestWake : Bool) (queue) :
    (∃ error, enqueueBodyFollowUpMessageWithWake services followUp requestWake queue =
        (.error error, queue)) ∨
      ∃ record result, (record.messageId =
            nextQueuedMessageId followUp.sessionId (services.clock 0) followUp.sequence ∧
          record.state = .pending ∧ record.ownerSessionId = some followUp.sessionId) ∧
        enqueueBodyFollowUpMessageWithWake services followUp requestWake queue =
          (result, enforceFollowUpQueueCap (queue.saveQueuedMessage record) (services.clock 1)
            followUp.sessionId 32) := by
  cases built : followUpMessage services followUp with
  | error error => exact .inl ⟨error, lift_bind_error built⟩
  | ok made =>
    right
    obtain ⟨record, policy⟩ := made
    obtain ⟨known, rfl⟩ := followUpMessage_ok built
    refine ⟨record, ?_⟩
    cases requestWake with
    | false => exact ⟨_, known, lift_bind built⟩
    | true =>
      cases published : services.publish (.brainWakeRequested followUp.sessionId) with
      | ok u =>
        refine ⟨.ok record, known, (lift_bind built).trans ?_⟩
        exact lift_bind published
      | error error =>
        refine ⟨.error error, known, (lift_bind built).trans ?_⟩
        exact lift_bind_error published

section

theorem save_fresh (fresh : queue.find? record.messageId = none) :
    (queue.saveQueuedMessage record).rows = queue.rows ++ [record] := by
  simp only [Queue.saveQueuedMessage, fresh]
  exact Table.rows_put_of_absent fresh

theorem progress_enter (fresh : queue.find? record.messageId = none)
    (pending : record.state = .pending) (moves : Moves (queue.saveQueuedMessage record) after f)
    (discards : f record = record ∨ (f record).state = .discarded) : Progress queue after := by
  have rows := moves.rows
  rw [save_fresh fresh, map_append, map_singleton] at rows
  have settles : ∀ row ∈ queue.rows, Settles row (f row) := by
    intro row isRow
    apply moves.settles
    rw [save_fresh fresh]
    exact mem_append_left _ isRow
  constructor
  · intro row isRow
    refine ⟨f row, ?_, settles row isRow⟩
    rw [rows]
    exact mem_append_left _ (mem_map_of_mem isRow)
  · intro row' isRow'
    rw [rows, mem_append, mem_map, mem_singleton] at isRow'
    rcases isRow' with ⟨row, isRow, rfl⟩ | rfl
    · exact .inl ⟨row, isRow, settles row isRow⟩
    · right
      have settled := moves.settles record (by rw [save_fresh fresh]; simp)
      refine ⟨settled.messageId ▸ fresh, ?_⟩
      rcases discards with same | discarded
      · rw [same]
        exact .inl pending
      · exact .inr discarded

end

/-! ## How many messages are pending -/

def pendingOf (queue : Queue) (sessionId : SessionId) : List QueuedMessageRecord :=
  queue.rows.filter (pendingFilter sessionId).admits

theorem length_load (queue sessionId) :
    (queue.loadQueuedMessages (pendingFilter sessionId)).length =
      min 1000 (pendingOf queue sessionId).length := by
  rw [loadQueuedMessages_eq, page, length_take, length_insertionSort]
  rfl

theorem Moves.pendingOf_le (moves : Moves before after f) (sessionId) :
    (pendingOf after sessionId).length ≤ (pendingOf before sessionId).length := by
  rw [pendingOf, pendingOf, moves.rows, filter_map, length_map]
  rw [← countP_eq_length_filter, ← countP_eq_length_filter]
  apply countP_mono_left
  intro row isRow admitted
  rw [Function.comp_apply] at admitted
  have settles := moves.settles row isRow
  generalize f row = row' at settles admitted
  cases settles with
  | kept => exact admitted
  | ended _ _ state =>
    rw [(admits_pending.mp admitted).1] at state
    simp at state

theorem length_filter_not_mem {α : Type} [DecidableEq α] {xs ys : List α} (unique : xs.Nodup)
    (distinct : ys.Nodup) (subset : ∀ y ∈ ys, y ∈ xs) :
    (xs.filter fun x => x ∉ ys).length + ys.length = xs.length := by
  have taken : (xs.filter fun x => x ∈ ys).Perm ys := by
    rw [perm_ext_iff_of_nodup (unique.filter _) distinct]
    intro x
    rw [mem_filter, decide_eq_true_eq]
    exact ⟨fun member => member.2, fun member => ⟨subset x member, member⟩⟩
  rw [← taken.length_eq, length_eq_length_filter_add (l := xs) fun x => x ∈ ys]
  simp only [decide_not]
  omega

theorem pendingOf_cap (room : (pendingOf queue sessionId).length ≤ 1000) (now)
    (maxQueuedMessages : Nat) :
    (pendingOf (enforceFollowUpQueueCap queue now sessionId maxQueuedMessages) sessionId).length ≤
      maxQueuedMessages := by
  have isPending : ∀ row ∈ overflowing queue sessionId maxQueuedMessages,
      row ∈ pendingOf queue sessionId := by
    intro row taken
    obtain ⟨isRow, admitted⟩ := loaded_row (mem_of_mem_take taken)
    exact mem_filter.mpr ⟨isRow, admitted⟩
  have unique : (overflowing queue sessionId maxQueuedMessages).Nodup :=
    (nodup_load _ _).sublist (take_sublist _ _)
  have left : pendingOf (enforceFollowUpQueueCap queue now sessionId maxQueuedMessages) sessionId =
      (pendingOf queue sessionId).filter
        fun row => row ∉ overflowing queue sessionId maxQueuedMessages := by
    have selected : (settle queue (overflowingMessage now)
        (overflowing queue sessionId maxQueuedMessages)).select (pendingFilter sessionId).admits =
          _ := select_settle (overflow_inPlace now)
      (fun row taken => (mem_filter.mp (isPending row taken)).1) unique fun row _ => by
        simp [pendingFilter, QueuedMessageFilter.admits, overflowingMessage]
    rw [pendingOf, pendingOf, filter_filter]
    refine Eq.trans selected ?_
    simp only [Bool.decide_and, Bool.decide_eq_true, Bool.and_comm]
  have counted := length_filter_not_mem ((Queue.rows_nodup queue).filter _) unique isPending
  have taken : (overflowing queue sessionId maxQueuedMessages).length =
      (pendingOf queue sessionId).length - maxQueuedMessages := by
    rw [overflowing, length_take, length_load]
    omega
  rw [left]
  unfold pendingOf at counted taken ⊢
  omega

theorem pendingOf_save (fresh : queue.find? record.messageId = none) (sessionId) :
    (pendingOf (queue.saveQueuedMessage record) sessionId).length =
      (pendingOf queue sessionId).length +
        if (pendingFilter sessionId).admits record = true then 1 else 0 := by
  rw [pendingOf, pendingOf, save_fresh fresh, filter_append, length_append, filter_singleton]
  cases (pendingFilter sessionId).admits record <;> rfl

/-! ## What a drain takes -/

def eligible (queue : Queue) (now : IsoTimestamp) (sessionId : SessionId) :
    List QueuedMessageRecord :=
  (queue.rows.filter fun row => row.state = .pending ∧ row.ownerSessionId = some sessionId ∧
    ¬row.expiresAt ≤ now).insertionSort queueOrder

def newest {α : Type} (capacity : Option Nat) (items : List α) : List α :=
  capacity.elim items items.rtake

theorem applyHistoryWindow_eq {α : Type} (items : List α) (capacity : Option Nat) :
    applyHistoryWindow items capacity = newest capacity items := by
  cases capacity with
  | none => rfl
  | some n =>
    simp only [applyHistoryWindow, newest, Option.elim_some, List.rtake]
    split
    · next none => simp [none]
    · split
      · next short => simp [Nat.sub_eq_zero_of_le short]
      · rfl

theorem newest_eq_drop {α : Type} (capacity : Option Nat) (items : List α) :
    ∃ n, newest capacity items = items.drop n ∧
      ∀ {β : Type} (f : α → β), newest capacity (items.map f) = (items.map f).drop n := by
  cases capacity with
  | none => exact ⟨0, rfl, fun f => rfl⟩
  | some n =>
    refine ⟨items.length - n, rfl, fun f => ?_⟩
    simp [newest, List.rtake]

theorem filter_drop {α β : Type} [DecidableEq β] {f : α → β} {xs : List α}
    (unique : (xs.map f).Nodup) (n : Nat) :
    xs.filter (fun x => ((xs.map f).drop n).contains (f x)) = xs.drop n := by
  have split := unique
  rw [← take_append_drop n xs, map_append, nodup_append] at split
  conv_lhs => rw [← take_append_drop n xs]
  rw [filter_append, filter_eq_nil_iff.mpr, filter_eq_self.mpr, nil_append]
  · intro x dropped
    rw [contains_iff_mem, ← map_drop, take_append_drop]
    exact mem_map_of_mem dropped
  · intro x taken
    rw [contains_iff_mem, ← map_drop, take_append_drop]
    intro dropped
    exact split.2.2 (f x) (mem_map_of_mem taken) (f x) dropped rfl

theorem draining_eq (reached : ExpiryReached queue now sessionId)
    (room : (pendingOf queue sessionId).length ≤ 1000) :
    draining queue now sessionId = eligible queue now sessionId := by
  have selected : (queue.expireQueuedMessagesAt now).select (pendingFilter sessionId).admits =
      queue.rows.filter fun row => row.state = .pending ∧ row.ownerSessionId = some sessionId ∧
        ¬row.expiresAt ≤ now := by
    refine Eq.trans (select_settle (expired_inPlace now)
      (fun row expires => (expiring_row expires).1) ((nodup_load queue _).filter _)
      fun row _ => ?_) ?_
    · simp [pendingFilter, QueuedMessageFilter.admits, Queue.expiredMessage]
    · apply filter_congr
      intro row isRow
      rw [decide_eq_decide, admits_pending, and_assoc]
      refine and_congr_right fun pending => and_congr_right fun owner => not_congr ?_
      constructor
      · exact fun expires => (expiring_row expires).2.2
      · exact fun due => (mem_expiring isRow pending due).mpr (reached row isRow pending owner due)
  have short : (queue.rows.filter fun row => row.state = .pending ∧
      row.ownerSessionId = some sessionId ∧ ¬row.expiresAt ≤ now).length ≤ 1000 := by
    refine le_trans (List.Sublist.length_le ?_) room
    apply monotone_filter_right
    intro row counted
    rw [decide_eq_true_eq] at counted
    exact admits_pending.mpr ⟨counted.1, counted.2.1⟩
  rw [draining, loadQueuedMessages_eq]
  refine Eq.trans (congrArg _ selected) ?_
  exact page_of_length_le short

theorem drained_newest (reached : ExpiryReached queue now sessionId)
    (room : (pendingOf queue sessionId).length ≤ 1000) (capacity : Option Nat) :
    (drainFollowUpQueueForWake queue now sessionId capacity).2 =
      (newest capacity (eligible queue now sessionId)).map (drainedMessage now true) := by
  have unique : ((draining queue now sessionId).map QueuedMessageRecord.messageId).Nodup :=
    ids_load _ _
  obtain ⟨n, items, ids⟩ := newest_eq_drop capacity (draining queue now sessionId)
  rw [drain_eq, ← draining_eq reached room, items, ← filter_drop unique n, ← ids,
    ← applyHistoryWindow_eq]
  rfl

theorem delivered_row
    (delivered : record ∈ (drainFollowUpQueueForWake queue now sessionId capacity).2) :
    record ∈ (drainFollowUpQueueForWake queue now sessionId capacity).1.rows ∧
      record.state = .delivered ∧
      ∃ row ∈ queue.rows, row.state = .pending ∧ row.messageId = record.messageId := by
  rw [drain_eq, mem_map] at delivered
  obtain ⟨row, included, rfl⟩ := delivered
  obtain ⟨drained, chosen⟩ := mem_filter.mp included
  obtain ⟨isRow, pending, -⟩ := draining_row drained
  refine ⟨?_, rfl, row, isRow, pending, rfl⟩
  rw [rows_drain, mem_map]
  exact ⟨row, (loaded_row drained).1, by rw [if_pos drained, chosen]⟩

theorem ids_delivered (queue now sessionId) (capacity : Option Nat) :
    ((drainFollowUpQueueForWake queue now sessionId capacity).2.map
      QueuedMessageRecord.messageId).Nodup := by
  rw [drain_eq, map_map]
  exact ((filter_sublist.map _).nodup (ids_load _ _) :)

/-! ## Runs -/

def remainingWindow (state : ProjectedBody) : Option Nat :=
  (windowOf state.session).map fun maxMessages => maxMessages - state.pendingMessages.length

theorem drainForWake_eq (projected : project services sessionId = .ok state) (queue) :
    drainForWake services sessionId queue =
      let drained := drainFollowUpQueueForWake queue (services.clock 0) sessionId
        (remainingWindow state)
      (.ok ⟨state.pendingMessages ++ drained.2.map QueuedMessageRecord.message, drained.2⟩,
        drained.1) := by
  exact (lift_bind projected).trans rfl

theorem handed_drain (projected : project services sessionId = .ok state)
    (observed : ObservedQueue) :
    (observed.step (.drain services sessionId)).handed =
      observed.handed ++ (drainFollowUpQueueForWake observed.queue (services.clock 0) sessionId
        (remainingWindow state)).2 := by
  simp only [ObservedQueue.step]
  rw [drainForWake_eq projected]

/-- New messages get new ids, and the pass of a drain reaches the expired messages. For a routed
message the new id is what `deliver_agent_message_with_reply` has checked: it looks up the receipt
and the queue row of the message before it enqueues. -/
def Orderly (observed : ObservedQueue) : FollowUpCall → Prop
  | .enqueueRouted _ _ request _ => observed.queue.find? (routedQueueId request) = none
  | .enqueueFollowUp services followUp _ => observed.queue.find?
      (nextQueuedMessageId followUp.sessionId (services.clock 0) followUp.sequence) = none
  | .drain services sessionId => ExpiryReached observed.queue (services.clock 0) sessionId
  | .cap _ _ _ => True
  | .expire _ => True

structure Kept (observed : ObservedQueue) : Prop where
  bounded : ∀ sessionId, (pendingOf observed.queue sessionId).length ≤ 32
  handedOnce : (observed.handed.map QueuedMessageRecord.messageId).Nodup
  delivered : ∀ record ∈ observed.handed, record ∈ observed.queue.rows ∧ record.state = .delivered

section
variable {observed : ObservedQueue}

section
variable (kept : Kept observed)
include kept

theorem Kept.of_progress (progress : Progress observed.queue after)
    (bounded : ∀ sessionId, (pendingOf after sessionId).length ≤ 32) :
    Kept { observed with queue := after } := by
  refine ⟨bounded, kept.handedOnce, fun record isHanded => ?_⟩
  obtain ⟨isRow, delivered⟩ := kept.delivered record isHanded
  exact ⟨progress.ended_kept isRow (by simp [delivered]), delivered⟩

theorem Kept.of_moves (moves : Moves observed.queue after f) :
    Kept { observed with queue := after } :=
  kept.of_progress moves.progress fun sessionId =>
    (moves.pendingOf_le sessionId).trans (kept.bounded sessionId)

theorem step_routed (fresh : observed.queue.find? (routedQueueId request) = none) :
    Progress observed.queue (observed.step (.enqueueRouted services sessionId request body)).queue ∧
      Kept (observed.step (.enqueueRouted services sessionId request body)) := by
  simp only [ObservedQueue.step]
  rcases enqueueRouted_cases services sessionId request body observed.queue with
    ⟨error, rejected⟩ | ⟨record, ⟨messageId, pending, owner⟩, room, saved⟩
  · rw [rejected]
    exact ⟨.refl _, kept⟩
  · rw [saved]
    rw [← messageId] at fresh
    have moves : Moves (observed.queue.saveQueuedMessage record)
        (observed.queue.saveQueuedMessage record) id := ⟨by rw [map_id], fun _ _ => .kept⟩
    have progress := progress_enter fresh pending moves (.inl rfl)
    refine ⟨progress, kept.of_progress progress fun other => ?_⟩
    rw [pendingOf_save fresh]
    have bounded := kept.bounded other
    rw [length_load] at room
    split
    · next admitted =>
      obtain rfl : other = sessionId :=
        Option.some.inj ((admits_pending.mp admitted).2.symm.trans owner)
      omega
    · omega

theorem step_followUp {followUp : FollowUp}
    (fresh : observed.queue.find? (nextQueuedMessageId followUp.sessionId (services.clock 0)
      followUp.sequence) = none) :
    Progress observed.queue (observed.step (.enqueueFollowUp services followUp requestWake)).queue ∧
      Kept (observed.step (.enqueueFollowUp services followUp requestWake)) := by
  simp only [ObservedQueue.step]
  rcases enqueueFollowUp_cases services followUp requestWake observed.queue with
    ⟨error, rejected⟩ | ⟨record, result, ⟨messageId, pending, owner⟩, saved⟩
  · rw [rejected]
    exact ⟨.refl _, kept⟩
  · rw [saved]
    rw [← messageId] at fresh
    have moves := moves_cap (observed.queue.saveQueuedMessage record) (services.clock 1)
      followUp.sessionId 32
    have progress := progress_enter fresh pending moves (by
      split
      · exact .inr rfl
      · exact .inl rfl)
    refine ⟨progress, kept.of_progress progress fun other => ?_⟩
    have count := pendingOf_save fresh other
    have bounded := kept.bounded other
    by_cases same : other = followUp.sessionId
    · subst same
      refine pendingOf_cap ?_ _ _
      split at count <;> omega
    · refine (moves.pendingOf_le other).trans ?_
      rw [if_neg] at count
      · omega
      · intro admitted
        exact same (Option.some.inj ((admits_pending.mp admitted).2.symm.trans owner))

theorem step_drain (services sessionId) :
    Progress observed.queue (observed.step (.drain services sessionId)).queue ∧
      Kept (observed.step (.drain services sessionId)) := by
  simp only [ObservedQueue.step]
  cases projected : project services sessionId with
  | error error =>
    have rejected : drainForWake services sessionId observed.queue =
        (.error error, observed.queue) := lift_bind_error projected
    rw [rejected]
    exact ⟨.refl _, kept⟩
  | ok state =>
    rw [drainForWake_eq projected]
    obtain ⟨f, moves⟩ := moves_drain observed.queue (services.clock 0) sessionId
      (remainingWindow state)
    obtain ⟨bounded, handedOnce, delivered⟩ := kept.of_moves moves
    refine ⟨moves.progress, bounded, ?_, ?_⟩
    · rw [map_append]
      refine nodup_append.mpr ⟨handedOnce, ids_delivered _ _ _ _, ?_⟩
      intro oldId isOld newId isNew same
      obtain ⟨old, isHanded, rfl⟩ := mem_map.mp isOld
      obtain ⟨record, isDrained, rfl⟩ := mem_map.mp isNew
      obtain ⟨-, -, row, isRow, pending, messageId⟩ := delivered_row isDrained
      obtain ⟨isOldRow, ended⟩ := kept.delivered old isHanded
      rw [Queue.row_unique isOldRow isRow (same.trans messageId.symm), pending] at ended
      cases ended
    · intro record isHanded
      rcases mem_append.mp isHanded with old | new
      · exact delivered record old
      · exact ⟨(delivered_row new).1, (delivered_row new).2.1⟩

theorem step_followUps (orderly : Orderly observed call) :
    Progress observed.queue (observed.step call).queue ∧ Kept (observed.step call) := by
  cases call with
  | enqueueRouted services sessionId request body => exact step_routed kept orderly
  | enqueueFollowUp services followUp requestWake => exact step_followUp kept orderly
  | cap sessionId now maxQueuedMessages =>
    have moves := moves_cap observed.queue now sessionId maxQueuedMessages
    exact ⟨moves.progress, kept.of_moves moves⟩
  | expire now =>
    have moves := moves_expire observed.queue now
    exact ⟨moves.progress, kept.of_moves moves⟩
  | drain services sessionId => exact step_drain kept services sessionId

end

end

def queueAt (calls : List FollowUpCall) (n : Nat) : ObservedQueue :=
  stateAt ObservedQueue.step ⟨Table.empty, []⟩ calls n

structure FollowUpsSettled (calls : List FollowUpCall) : Prop where
  moved : ∀ n call, calls[n]? = some call →
    Progress (queueAt calls n).queue (queueAt calls (n + 1)).queue
  ended : ∀ n m, n ≤ m → ∀ row ∈ (queueAt calls n).queue.rows, row.state ≠ .pending →
    row ∈ (queueAt calls m).queue.rows
  handedOnce : ∀ n, ((queueAt calls n).handed.map QueuedMessageRecord.messageId).Nodup
  drained : ∀ n services sessionId state, calls[n]? = some (.drain services sessionId) →
    project services sessionId = .ok state →
      ∃ wake queue, drainForWake services sessionId (queueAt calls n).queue = (.ok wake, queue) ∧
        wake.drained = (newest (remainingWindow state)
          (eligible (queueAt calls n).queue (services.clock 0) sessionId)).map
            (drainedMessage (services.clock 0) true) ∧
        wake.messages = state.pendingMessages ++ wake.drained.map QueuedMessageRecord.message ∧
        ∀ maxMessages, windowOf state.session = some maxMessages →
          wake.messages.length ≤ maxMessages

theorem kept_at (orderly : Along ObservedQueue.step Orderly ⟨Table.empty, []⟩ calls) (n : Nat) :
    Kept (queueAt calls n) := by
  rw [← take_append_drop n calls, along_append] at orderly
  refine run_invariant (fun observed call kept orderly => (step_followUps kept orderly).2) ?_
    orderly.1
  exact ⟨fun _ => Nat.zero_le _, nodup_nil, fun _ member => by cases member⟩

theorem length_newest_le {α : Type} (n : Nat) (items : List α) :
    (newest (some n) items).length ≤ n := by
  simp only [newest, Option.elim_some, List.rtake, length_drop]
  omega

theorem project_window (projected : project services sessionId = .ok state)
    (window : windowOf state.session = some maxMessages) :
    state.pendingMessages.length ≤ maxMessages := by
  simp only [project, bind_eq_ok, pure_eq_ok] at projected
  obtain ⟨session, -, routed, -, rfl⟩ := projected
  rw [applyHistoryWindow_eq, window]
  exact length_newest_le _ _

theorem follow_ups_settle_once (calls : List FollowUpCall)
    (orderly : Along ObservedQueue.step Orderly ⟨Table.empty, []⟩ calls) :
    FollowUpsSettled calls := by
  have steps : ∀ n call, calls[n]? = some call →
      Progress (queueAt calls n).queue ((queueAt calls n).step call).queue :=
    fun n call position => (step_followUps (kept_at orderly n) (along_at orderly position)).1
  refine ⟨?_, ?_, fun n => (kept_at orderly n).handedOnce, ?_⟩
  · intro n call position
    rw [queueAt, queueAt, stateAt_succ position]
    exact steps n call position
  · intro n m order
    refine stateAt_relates (R := fun before after : ObservedQueue =>
      ∀ row ∈ before.queue.rows, row.state ≠ .pending → row ∈ after.queue.rows)
      (fun _ _ isRow _ => isRow)
      (fun _ _ _ first second row isRow ended => second row (first row isRow ended) ended)
      (fun k call position row isRow ended => (steps k call position).ended_kept isRow ended) order
  · intro n services sessionId state position projected
    have reached : ExpiryReached (queueAt calls n).queue (services.clock 0) sessionId :=
      along_at orderly position
    have bounded := (kept_at orderly n).bounded sessionId
    have drained := drained_newest reached (by omega) (remainingWindow state)
    refine ⟨_, _, drainForWake_eq projected _, drained, rfl, fun maxMessages window => ?_⟩
    have routed := project_window projected window
    have room := length_newest_le (maxMessages - state.pendingMessages.length)
      (eligible (queueAt calls n).queue (services.clock 0) sessionId)
    rw [length_append, length_map, drained, length_map, remainingWindow, window, Option.map_some]
    omega

def sampleParse (text : IsoTimestamp) : CoreResult OffsetDateTime :=
  if text = "2026-01-01T09:00:00Z" then .ok (morning 9 0 0 0)
  else if text = "2026-01-01T10:00:00Z" then .ok (morning 10 0 0 0)
  else if text = "2026-01-01T10:00:05Z" then .ok (morning 10 5 0 0)
  else if text = "2026-01-01T23:00:00Z" then .ok (morning 23 0 0 0)
  else .error ⟨.invalidInput, "invalid RFC3339 timestamp"⟩

def queueServices (now : IsoTimestamp) (maxMessages : Option Nat) : FollowUpServices where
  getSession sessionId := .ok (activeSession maxMessages sessionId)
  pendingMessagesForSession _ := .ok []
  clock _ := now
  parseRfc3339 := sampleParse
  addMillisToIso _ _ := .ok "2026-01-01T23:00:00Z"
  publish _ := .ok ()

def sampleRequest (messageId : String) (createdAt expiresAt : IsoTimestamp) :
    AgentMessageDeliveryRequest where
  deliveryId := "delivery"
  messageId := messageId
  fromAgentId := ⟨"sender"⟩
  fromSessionId := none
  toAgentId := ⟨"agent"⟩
  toSessionId := none
  correlationId := none
  createdAt := createdAt
  expiresAt := expiresAt

def routedCall (messageId sessionId : String) (createdAt expiresAt : IsoTimestamp) : FollowUpCall :=
  .enqueueRouted (queueServices createdAt none) ⟨sessionId⟩
    (sampleRequest messageId createdAt expiresAt) "body"

def followUpCall (sequence : Nat) : FollowUpCall :=
  .enqueueFollowUp (queueServices "2026-01-01T10:00:00Z" (some 1))
    ⟨⟨"session"⟩, ⟨"operator"⟩, "body", none, sequence⟩ true

def sampleFollowUps : List FollowUpCall :=
  [followUpCall 1, followUpCall 2,
    .drain (queueServices "2026-01-01T10:00:05Z" (some 1)) ⟨"session"⟩]

theorem follow_ups_settle_once_sample :
    (run ObservedQueue.step ⟨Table.empty, []⟩ sampleFollowUps).handed.map
        QueuedMessageRecord.messageId = ["follow-up:session:2026_01_01T10_00_00Z:2"] ∧
      FollowUpsSettled sampleFollowUps := by
  have orderly : Along ObservedQueue.step Orderly ⟨Table.empty, []⟩ sampleFollowUps := by
    refine ⟨rfl, ?_, ?_, trivial⟩
    · unfold followUpCall Orderly
      decide +kernel
    · unfold Orderly ExpiryReached
      decide +kernel
  exact ⟨by decide +kernel, follow_ups_settle_once sampleFollowUps orderly⟩

/-! ## A drain that delivers an expired message -/

def routedRecord (messageId sessionId : String) (createdAt expiresAt : IsoTimestamp) (ttlMs : Nat) :
    QueuedMessageRecord where
  messageId := "agent-message-queue:" ++ messageId
  ownerSessionId := some ⟨sessionId⟩
  ownerAgentId := ⟨"agent"⟩
  message := ⟨⟨"sender"⟩, ⟨"agent"⟩, none, none, "body", none, none⟩
  sourceSequence := none
  enqueuedAt := createdAt
  expiresAt := expiresAt
  ttlMs := ttlMs
  deliveryAttempts := 0
  state := .pending
  terminalAt := none
  stateReason := some "agent_delivery:delivery"

theorem step_routedCall {observed : ObservedQueue} {messageId sessionId : String}
    {createdAt expiresAt : IsoTimestamp} {ttlMs : Nat}
    (room : (pendingOf observed.queue ⟨sessionId⟩).length < 32)
    (fresh : ∀ row ∈ observed.queue.rows, row.messageId ≠ "agent-message-queue:" ++ messageId)
    (ttl : routedMessageTtl (queueServices createdAt none)
      (sampleRequest messageId createdAt expiresAt) = .ok ttlMs) :
    (observed.step (routedCall messageId sessionId createdAt expiresAt)).queue.rows =
        observed.queue.rows ++ [routedRecord messageId sessionId createdAt expiresAt ttlMs] ∧
      (observed.step (routedCall messageId sessionId createdAt expiresAt)).handed =
        observed.handed := by
  refine ⟨?_, rfl⟩
  have small : ¬maxRoutedMessageBytes < ("body" : String).utf8ByteSize := by decide +kernel
  have space : ¬32 ≤ (observed.queue.loadQueuedMessages (pendingFilter ⟨sessionId⟩)).length := by
    rw [length_load]
    omega
  have built : routedMessage (queueServices createdAt none) ⟨sessionId⟩
      (sampleRequest messageId createdAt expiresAt) "body" observed.queue =
        .ok (routedRecord messageId sessionId createdAt expiresAt ttlMs) := by
    have session : (queueServices createdAt none).getSession ⟨sessionId⟩ =
        .ok (activeSession none ⟨sessionId⟩) := rfl
    have projected : project (queueServices createdAt none) ⟨sessionId⟩ =
        .ok ⟨activeSession none ⟨sessionId⟩, [], defaultDeltaPolicy⟩ := rfl
    simp only [routedMessage, session, projected, ttl, ok_bind, rejectIf, if_neg small,
      defaultDeltaPolicy, if_neg space]
    rfl
  have stepped : (observed.step (routedCall messageId sessionId createdAt expiresAt)).queue =
      observed.queue.saveQueuedMessage
        (routedRecord messageId sessionId createdAt expiresAt ttlMs) :=
    congrArg Prod.snd (lift_bind built)
  rw [stepped]
  exact save_fresh (Table.find?_eq_none.mpr fresh)

theorem crowd_ttl (messageId : String) :
    routedMessageTtl (queueServices "2026-01-01T09:00:00Z" none)
        (sampleRequest messageId "2026-01-01T09:00:00Z" "2026-01-01T23:00:00Z") =
      .ok 50400000 := by
  have created : sampleParse "2026-01-01T09:00:00Z" = .ok (morning 9 0 0 0) := by decide +kernel
  have expires : sampleParse "2026-01-01T23:00:00Z" = .ok (morning 23 0 0 0) := by decide +kernel
  simp only [routedMessageTtl, queueServices, sampleRequest, created, expires, ok_bind]
  decide +kernel

def crowdRecord (i : Nat) : QueuedMessageRecord :=
  routedRecord (toString i) (toString (i / 32)) "2026-01-01T09:00:00Z" "2026-01-01T23:00:00Z"
    50400000

def crowdCalls (n : Nat) : List FollowUpCall :=
  (List.range n).map fun i =>
    routedCall (toString i) (toString (i / 32)) "2026-01-01T09:00:00Z" "2026-01-01T23:00:00Z"

theorem length_same_session (n : Nat) :
    ((List.range n).filter fun i => i / 32 = n / 32).length < 32 := by
  have subset : ((List.range n).filter fun i => i / 32 = n / 32) ⊆
      List.range' (32 * (n / 32)) (n % 32) := by
    intro i member
    rw [mem_filter, mem_range, decide_eq_true_eq] at member
    rw [mem_range'_1]
    omega
  have short := (subperm_of_subset (nodup_range.filter _) subset).length_le
  rw [length_range'] at short
  omega

theorem crowd_pending (rows : queue.rows = (List.range n).map crowdRecord) :
    (pendingOf queue ⟨toString (n / 32)⟩).length < 32 := by
  have admitted : ∀ i, (pendingFilter ⟨toString (n / 32)⟩).admits (crowdRecord i) = true ↔
      i / 32 = n / 32 := by
    intro i
    have state : (crowdRecord i).state = .pending := rfl
    have owner : (crowdRecord i).ownerSessionId = some ⟨toString (i / 32)⟩ := rfl
    rw [admits_pending, state, owner, Option.some_inj, SessionId.mk.injEq]
    exact ⟨fun same => Text.toString_injective same.2, fun same => ⟨rfl, by rw [same]⟩⟩
  have filtered : (List.range n).filter ((pendingFilter ⟨toString (n / 32)⟩).admits ∘ crowdRecord) =
        (List.range n).filter fun i => i / 32 = n / 32 := by
    apply filter_congr
    intro i _
    rw [Function.comp_apply, Bool.eq_iff_iff, admitted, decide_eq_true_eq]
  rw [pendingOf, rows, filter_map, length_map, filtered]
  exact length_same_session n

theorem queueId_injective
    (same : "agent-message-queue:" ++ first = "agent-message-queue:" ++ second) :
    first = second := by
  have lists := congrArg String.toList same
  rw [String.toList_append, String.toList_append] at lists
  exact String.toList_injective (append_cancel_left lists)

theorem crowd_run (n : Nat) :
    (run ObservedQueue.step ⟨Table.empty, []⟩ (crowdCalls n)).queue.rows =
        (List.range n).map crowdRecord ∧
      (run ObservedQueue.step ⟨Table.empty, []⟩ (crowdCalls n)).handed = [] := by
  induction n with
  | zero => exact ⟨rfl, rfl⟩
  | succ n ih =>
    have calls : crowdCalls (n + 1) = crowdCalls n ++ [routedCall (toString n)
        (toString (n / 32)) "2026-01-01T09:00:00Z" "2026-01-01T23:00:00Z"] := by
      simp [crowdCalls, range_succ]
    rw [calls, run_append, run_cons, run_nil]
    obtain ⟨rows, handed⟩ := ih
    have stepped := step_routedCall (crowd_pending rows) (fun row isRow same => by
      rw [rows, mem_map] at isRow
      obtain ⟨i, below, rfl⟩ := isRow
      have equal := Text.toString_injective (queueId_injective same)
      rw [mem_range] at below
      omega) (crowd_ttl (toString n))
    rw [stepped.1, stepped.2, rows, handed, range_succ, map_append]
    exact ⟨rfl, rfl⟩

def lateRecord : QueuedMessageRecord :=
  routedRecord "late" "session" "2026-01-01T10:00:00Z" "2026-01-01T10:00:05Z" 5000

def crowdedCalls : List FollowUpCall :=
  crowdCalls 1000 ++ [routedCall "late" "session" "2026-01-01T10:00:00Z" "2026-01-01T10:00:05Z"]

theorem crowd_other_session : (crowdRecord i).ownerSessionId ≠ some ⟨"session"⟩ := by
  intro owner
  have same : toString (i / 32) = "session" := congrArg SessionId.raw (Option.some.inj owner)
  exact toString_ne (c := 's') (by decide) (by decide) _ same

theorem crowdedCalls_run :
    (run ObservedQueue.step ⟨Table.empty, []⟩ crowdedCalls).queue.rows =
        (List.range 1000).map crowdRecord ++ [lateRecord] ∧
      (run ObservedQueue.step ⟨Table.empty, []⟩ crowdedCalls).handed = [] := by
  obtain ⟨rows, handed⟩ := crowd_run 1000
  have nothing : pendingOf (run ObservedQueue.step ⟨Table.empty, []⟩ (crowdCalls 1000)).queue
      ⟨"session"⟩ = [] := by
    apply filter_eq_nil_iff.mpr
    intro row isRow admitted
    rw [rows, mem_map] at isRow
    obtain ⟨i, -, rfl⟩ := isRow
    exact crowd_other_session (admits_pending.mp admitted).2
  have ttl : routedMessageTtl (queueServices "2026-01-01T10:00:00Z" none)
      (sampleRequest "late" "2026-01-01T10:00:00Z" "2026-01-01T10:00:05Z") = .ok 5000 := by
    decide +kernel
  have stepped := step_routedCall (by rw [nothing]; decide) (fun row isRow same => by
    rw [rows, mem_map] at isRow
    obtain ⟨i, -, rfl⟩ := isRow
    exact toString_ne (c := 'l') (by decide) (by decide) i (queueId_injective same)) ttl
  rw [crowdedCalls, run_append, run_cons, run_nil]
  rw [stepped.1, stepped.2, rows, handed]
  exact ⟨rfl, rfl⟩

theorem crowdedCalls_crowded :
    Crowded (run ObservedQueue.step ⟨Table.empty, []⟩ crowdedCalls).queue lateRecord
      "2026-01-01T11:00:00Z" ⟨"session"⟩ := by
  have expires : ("2026-01-01T09:00:00Z" : IsoTimestamp) < lateRecord.enqueuedAt ∧
      ¬("2026-01-01T23:00:00Z" : IsoTimestamp) ≤ "2026-01-01T11:00:00Z" := by
    decide +kernel
  exact crowded_behind crowdedCalls_run.1 rfl rfl (by decide +kernel)
    fun i => ⟨rfl, expires.1, crowd_other_session, expires.2⟩

theorem follow_up_delivered_late :
    (run ObservedQueue.step ⟨Table.empty, []⟩ (crowdedCalls ++
          [.drain (queueServices "2026-01-01T11:00:00Z" none) ⟨"session"⟩])).handed =
        [drainedMessage "2026-01-01T11:00:00Z" true lateRecord] ∧
      lateRecord.expiresAt ≤ "2026-01-01T11:00:00Z" := by
  refine ⟨?_, crowdedCalls_crowded.due⟩
  have projected : project (queueServices "2026-01-01T11:00:00Z" none) ⟨"session"⟩ =
      .ok ⟨activeSession none ⟨"session"⟩, [], defaultDeltaPolicy⟩ := rfl
  have window : remainingWindow
      ⟨activeSession none ⟨"session"⟩, [], defaultDeltaPolicy⟩ = none := rfl
  have clock : (queueServices "2026-01-01T11:00:00Z" none).clock 0 = "2026-01-01T11:00:00Z" := rfl
  rw [run_append, run_cons, run_nil, handed_drain projected, window, clock, crowdedCalls_run.2,
    nil_append]
  exact crowdedCalls_crowded.delivers

end RustyCrew.Proof.Engine

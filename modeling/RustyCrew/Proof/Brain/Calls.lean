import RustyCrew.Brain.History
import RustyCrew.Library.Runs

namespace RustyCrew.Proof.Brain

open Library Protocol RustyCrew.Brain Effect
open RustyCrew.Brain.BufferedBrainTurnCoordinator

/-! ## What an enqueue does -/

def coalescedTurn (queue : List SequencedBrainWakeStreamItem) (deltaBytes : Nat)
    (now : OffsetDateTime) (turn : BufferedBrainTurnCoordinator) : BufferedBrainTurnCoordinator :=
  { turn with
    streamItems := queue
    rawStreamItemCount := saturatingAdd turn.rawStreamItemCount 1
    rawDeltaItemCount := saturatingAdd turn.rawDeltaItemCount 1
    coalescedDeltaItemCount := saturatingAdd turn.coalescedDeltaItemCount 1
    retainedDeltaBytes := saturatingAdd turn.retainedDeltaBytes deltaBytes
    queuedDeltaBytes := turn.queuedDeltaBytes + deltaBytes
    lastTransitionAt := now }

def countedDelta (item : BrainWakeStreamItem) (turn : BufferedBrainTurnCoordinator) :
    BufferedBrainTurnCoordinator :=
  match streamDeltaBytes item with
  | some deltaBytes =>
    { turn with
      rawDeltaItemCount := saturatingAdd turn.rawDeltaItemCount 1
      retainedDeltaBytes := saturatingAdd turn.retainedDeltaBytes deltaBytes
      queuedDeltaBytes := saturatingAdd turn.queuedDeltaBytes deltaBytes }
  | none => turn

def endedBy (item : BrainWakeStreamItem) (now : OffsetDateTime)
    (turn : BufferedBrainTurnCoordinator) : BufferedBrainTurnCoordinator :=
  match itemEnd now item with
  | some (phase, terminal) => { turn with phase := phase, terminal := some terminal }
  | none => turn

def appendedTurn (item : BrainWakeStreamItem) (now : OffsetDateTime)
    (turn : BufferedBrainTurnCoordinator) : BufferedBrainTurnCoordinator :=
  { endedBy item now (countedDelta item { turn with
        nextStreamSequence := turn.nextStreamSequence + 1
        streamItems := turn.streamItems ++ [⟨turn.nextStreamSequence, item⟩]
        rawStreamItemCount := saturatingAdd turn.rawStreamItemCount 1
        retainedStreamItemCount := saturatingAdd turn.retainedStreamItemCount 1 }) with
    lastTransitionAt := now }

section
variable (item : BrainWakeStreamItem) (now : OffsetDateTime) (turn : BufferedBrainTurnCoordinator)

theorem countRetainedDelta_eq :
    countRetainedDelta item turn = (.ok (), countedDelta item turn) := by
  unfold countRetainedDelta countedDelta
  cases streamDeltaBytes item <;> rfl

theorem endByItem_eq : endByItem item now turn = (.ok (), endedBy item now turn) := by
  unfold endByItem endedBy
  cases itemEnd now item <;> rfl

theorem takeSequence_eq :
    takeSequence turn =
      if wordMax < turn.nextStreamSequence + 1 then (.error .sequenceExhausted, turn)
      else (.ok turn.nextStreamSequence,
        { turn with nextStreamSequence := turn.nextStreamSequence + 1 }) := by
  by_cases exhausted : wordMax < turn.nextStreamSequence + 1
  · rw [if_pos exhausted]
    exact lift_bind_error (if_pos exhausted)
  · rw [if_neg exhausted]
    exact lift_bind (if_neg exhausted)

def streamFull : Prop :=
  item.isTerminal = false ∧ turn.limits.maxStreamItems ≤ turn.streamItems.length

instance : Decidable (streamFull item turn) := by
  unfold streamFull
  infer_instance

theorem appendStreamItem_eq :
    appendStreamItem item now turn =
      if streamFull item turn then
        (.error (.bufferLimitExceeded "stream_items" turn.limits.maxStreamItems), turn)
      else if wordMax < turn.nextStreamSequence + 1 then (.error .sequenceExhausted, turn)
      else (.ok turn.nextStreamSequence, appendedTurn item now turn) := by
  by_cases full : streamFull item turn
  · rw [if_pos full]
    exact lift_bind_error (if_pos full)
  · rw [if_neg full]
    refine (lift_bind (if_neg full)).trans ?_
    have taken := takeSequence_eq turn
    by_cases exhausted : wordMax < turn.nextStreamSequence + 1
    · rw [if_pos exhausted] at taken ⊢
      exact bind_error taken
    · rw [if_neg exhausted] at taken ⊢
      refine (bind_ok taken).trans ((bind_ok rfl).trans ?_)
      refine (bind_ok (countRetainedDelta_eq item _)).trans ?_
      exact (bind_ok (endByItem_eq item now _)).trans rfl

def Identified : Prop := streamIdentity item = (turn.wakeId, turn.sessionId)

def DeltaFits : Prop :=
  ∀ deltaBytes, streamDeltaBytes item = some deltaBytes →
    turn.queuedDeltaBytes + deltaBytes ≤ wordMax ∧
      (turn.queuedDeltaBytes + deltaBytes ≤ turn.limits.maxStreamDeltaBytes ∨ turn.streamItems = [])

theorem validateStreamIdentity_eq :
    validateStreamIdentity item turn = (.ok (), turn) ∧ Identified item turn ∨
      ¬Identified item turn ∧ ∃ error, validateStreamIdentity item turn = (.error error, turn) ∧
        ∀ buffer limit, error ≠ .bufferLimitExceeded buffer limit := by
  obtain ⟨wakeId, sessionId, identity⟩ :
      ∃ wakeId sessionId, streamIdentity item = (wakeId, sessionId) := ⟨_, _, rfl⟩
  by_cases wake : wakeId = turn.wakeId
  · by_cases session : sessionId = turn.sessionId
    · left
      simp [validateStreamIdentity, check, identity, wake, session, rejectIf, Identified]
    · right
      refine ⟨by simp [Identified, identity, session],
        .sessionIdentityMismatch turn.sessionId.raw sessionId.raw, ?_, by simp⟩
      simp [validateStreamIdentity, check, identity, wake, session, rejectIf]
  · right
    refine ⟨by simp [Identified, identity, wake], .wakeIdentityMismatch turn.wakeId wakeId, ?_,
      by simp⟩
    simp [validateStreamIdentity, check, identity, wake, rejectIf]

inductive EnqueueOutcome (outcome : Except BufferedBrainTurnError Nat ×
    BufferedBrainTurnCoordinator) : Prop where
  | rejected (error : BufferedBrainTurnError) (result : outcome = (.error error, turn))
      (busy : ∀ buffer limit, error = .bufferLimitExceeded buffer limit →
        turn.phase = .running ∧ Identified item turn)
      (refused : ¬(turn.phase = .running ∧ Identified item turn ∧ DeltaFits item turn ∧
        ¬streamFull item turn ∧ turn.nextStreamSequence + 1 ≤ wordMax))
  | coalesced (before : List SequencedBrainWakeStreamItem) (last : SequencedBrainWakeStreamItem)
      (merged : BrainWakeStreamItem) (deltaBytes : Nat) (running : turn.phase = .running)
      (queue : turn.streamItems = before ++ [last])
      (merges : mergeDelta last.item item = some merged)
      (delta : streamDeltaBytes item = some deltaBytes) (fits : DeltaFits item turn)
      (result : outcome = (.ok last.sequence,
        coalescedTurn (before ++ [⟨last.sequence, merged⟩]) deltaBytes now turn))
  | appended (running : turn.phase = .running) (room : ¬streamFull item turn)
      (left : turn.nextStreamSequence + 1 ≤ wordMax) (fits : DeltaFits item turn)
      (apart : ∀ deltaBytes, streamDeltaBytes item = some deltaBytes →
        mergeIntoLast turn.streamItems item = none)
      (result : outcome = (.ok turn.nextStreamSequence, appendedTurn item now turn))

theorem append_outcome (running : turn.phase = .running) (identified : Identified item turn)
    (fits : DeltaFits item turn)
    (apart : ∀ deltaBytes, streamDeltaBytes item = some deltaBytes →
      mergeIntoLast turn.streamItems item = none) :
    EnqueueOutcome item now turn (appendStreamItem item now turn) := by
  rw [appendStreamItem_eq]
  by_cases full : streamFull item turn
  · rw [if_pos full]
    exact .rejected _ rfl (fun _ _ _ => ⟨running, identified⟩) fun accepts => accepts.2.2.2.1 full
  · rw [if_neg full]
    by_cases exhausted : wordMax < turn.nextStreamSequence + 1
    · rw [if_pos exhausted]
      refine .rejected _ rfl (fun _ _ impossible => ?_) fun accepts => ?_
      · cases impossible
      · exact Nat.not_le_of_lt exhausted accepts.2.2.2.2
    · rw [if_neg exhausted]
      exact .appended running full (Nat.le_of_not_lt exhausted) fits apart rfl

theorem nextQueuedDeltaBytes_eq (deltaBytes : Nat) :
    nextQueuedDeltaBytes deltaBytes turn =
      if wordMax < turn.queuedDeltaBytes + deltaBytes ∨
          turn.limits.maxStreamDeltaBytes < turn.queuedDeltaBytes + deltaBytes ∧
            turn.streamItems ≠ [] then
        (.error turn.deltaRoomExceeded, turn)
      else (.ok (turn.queuedDeltaBytes + deltaBytes), turn) := by
  by_cases overflow : wordMax < turn.queuedDeltaBytes + deltaBytes
  · simp [nextQueuedDeltaBytes, check, rejectIf, overflow]
  · by_cases full : turn.limits.maxStreamDeltaBytes < turn.queuedDeltaBytes + deltaBytes ∧
        turn.streamItems ≠ []
    · simp [nextQueuedDeltaBytes, check, rejectIf, overflow, full]
    · rw [if_neg (not_or.mpr ⟨overflow, full⟩)]
      simp only [nextQueuedDeltaBytes, check, rejectIf, if_neg overflow, if_neg full, ok_bind]
      rfl

theorem mergeIntoLast_eq_some {queue : List SequencedBrainWakeStreamItem} {sequence : Nat}
    {streamItems : List SequencedBrainWakeStreamItem}
    (merged : mergeIntoLast queue item = some (sequence, streamItems)) :
    ∃ before last both, queue = before ++ [last] ∧ mergeDelta last.item item = some both ∧
      sequence = last.sequence ∧ streamItems = before ++ [⟨last.sequence, both⟩] := by
  simp only [mergeIntoLast, Option.bind_eq_bind, Option.bind_eq_some_iff] at merged
  obtain ⟨last, isLast, both, merges, result⟩ := merged
  cases result
  refine ⟨queue.dropLast, last, both, ?_, merges, rfl, rfl⟩
  exact (List.dropLast_append_getLast? last isLast).symm

theorem enqueue_outcome :
    EnqueueOutcome item now turn (enqueueStreamItemAt item now turn) := by
  by_cases running : turn.phase = .running
  swap
  · have refused : requirePhase .running "enqueue stream item" turn =
        (.error (turn.invalidTransition "enqueue stream item"), turn) :=
      congrArg (·, turn) (if_pos running)
    refine .rejected _ (bind_error refused) (fun _ _ impossible => ?_) fun accepts => ?_
    · cases impossible
    · exact running accepts.1
  have allowed : requirePhase .running "enqueue stream item" turn = (.ok (), turn) :=
    congrArg (·, turn) (if_neg (not_not.mpr running))
  rcases validateStreamIdentity_eq item turn with ⟨valid, identified⟩ |
    ⟨unidentified, error, invalid, other⟩
  swap
  · refine .rejected error ((bind_ok allowed).trans (bind_error invalid))
      (fun buffer limit impossible => ?_) fun accepts => unidentified accepts.2.1
    exact (other buffer limit impossible).elim
  have entered : enqueueStreamItemAt item now turn =
      (coalesceItem item now >>= fun coalesced => match coalesced with
        | some sequence => pure sequence
        | none => appendStreamItem item now) turn :=
    (bind_ok allowed).trans (bind_ok valid)
  rw [entered]
  cases delta : streamDeltaBytes item with
  | none =>
    have nothing : coalesceItem item now turn = (.ok none, turn) := by
      rw [coalesceItem, delta]
      rfl
    rw [bind_ok nothing]
    refine append_outcome item now turn running identified (fun deltaBytes impossible => ?_)
      fun deltaBytes impossible => ?_
    all_goals
      rw [delta] at impossible
      cases impossible
  | some deltaBytes =>
    have next := nextQueuedDeltaBytes_eq turn deltaBytes
    have coalesces : coalesceItem item now = coalesceDelta item deltaBytes now := by
      rw [coalesceItem, delta]
    rw [coalesces]
    split at next
    · next full =>
      have failed : coalesceDelta item deltaBytes now turn =
          (.error turn.deltaRoomExceeded, turn) := bind_error next
      rw [bind_error failed]
      refine .rejected _ rfl (fun _ _ _ => ⟨running, identified⟩) fun accepts => ?_
      obtain ⟨word, within⟩ := accepts.2.2.1 deltaBytes delta
      rcases full with overflow | ⟨past, queued⟩
      · omega
      · exact within.elim (Nat.not_le_of_lt past) queued
    · next room =>
      rw [not_or, not_and_or, not_not] at room
      have fits : DeltaFits item turn := by
        intro bytes same
        cases delta.symm.trans same
        exact ⟨Nat.le_of_not_lt room.1, room.2.imp_left Nat.le_of_not_lt⟩
      cases merged : mergeIntoLast turn.streamItems item with
      | none =>
        have nothing : coalesceDelta item deltaBytes now turn = (.ok none, turn) := by
          have kept : coalesceAdjacentDelta item turn = (.ok none, turn) := by
            rw [coalesceAdjacentDelta, merged]
          exact (bind_ok next).trans (bind_ok kept)
        rw [bind_ok nothing]
        exact append_outcome item now turn running identified fits fun _ _ => merged
      | some result =>
        obtain ⟨sequence, streamItems⟩ := result
        obtain ⟨before, last, both, queue, merges, rfl, rfl⟩ :=
          mergeIntoLast_eq_some item merged
        have joined : coalesceAdjacentDelta item turn = (.ok (some last.sequence),
            { turn with streamItems := before ++ [⟨last.sequence, both⟩] }) := by
          rw [coalesceAdjacentDelta, merged]
        have coalesced : coalesceDelta item deltaBytes now turn = (.ok (some last.sequence),
            coalescedTurn (before ++ [⟨last.sequence, both⟩]) deltaBytes now turn) :=
          (bind_ok next).trans (bind_ok joined)
        rw [bind_ok coalesced]
        exact .coalesced before last both deltaBytes running queue merges delta fits rfl

end

theorem rejected_same (rejected : enqueueStreamItemAt item now turn = (.error error, turn')) :
    turn' = turn ∧ ∀ buffer limit, error = .bufferLimitExceeded buffer limit →
      turn.phase = .running ∧ Identified item turn := by
  have outcome := enqueue_outcome item now turn
  rw [rejected] at outcome
  cases outcome with
  | rejected _ result busy =>
    cases result
    exact ⟨rfl, busy⟩
  | coalesced _ _ _ _ _ _ _ _ _ result => cases result
  | appended _ _ _ _ _ result => cases result

def exceedsBuffer : BufferedBrainTurnError → Bool
  | .bufferLimitExceeded _ _ => true
  | _ => false

def refusedTurn (error : BufferedBrainTurnError) (failedAt : OffsetDateTime)
    (turn : BufferedBrainTurnCoordinator) : BufferedBrainTurnCoordinator :=
  if turn.phase.isTerminal = true ∨ exceedsBuffer error = true then turn
  else (failAt "provider_stream_enqueue_failed"
    ("provider stream item was rejected: " ++ error.message) failedAt turn).2

theorem provider_cases (item now failedAt turn) :
    (∃ sequence turn', enqueueStreamItemAt item now turn = (.ok sequence, turn') ∧
        enqueueProviderStreamItem item now failedAt turn = (.ok sequence, turn')) ∨
      ∃ error, enqueueProviderStreamItem item now failedAt turn =
        (.error error, refusedTurn error failedAt turn) := by
  cases enqueued : enqueueStreamItemAt item now turn with
  | mk result turn' =>
    cases result with
    | ok sequence =>
      left
      refine ⟨sequence, turn', rfl, ?_⟩
      rw [enqueueProviderStreamItem, enqueued]
    | error error =>
      right
      obtain ⟨rfl, -⟩ := rejected_same enqueued
      refine ⟨error, ?_⟩
      rw [enqueueProviderStreamItem, enqueued]
      cases error <;> simp [refusedTurn, exceedsBuffer] <;> split <;> rfl

/-! ## What a drain does -/

def queuedBytes (items : List SequencedBrainWakeStreamItem) : Nat :=
  (items.map fun entry => (streamDeltaBytes entry.item).getD 0).sum

@[simp] theorem queuedBytes_nil : queuedBytes [] = 0 := rfl

@[simp] theorem queuedBytes_cons (entry : SequencedBrainWakeStreamItem) (items) :
    queuedBytes (entry :: items) = (streamDeltaBytes entry.item).getD 0 + queuedBytes items := by
  simp [queuedBytes]

@[simp] theorem queuedBytes_append (items items' : List SequencedBrainWakeStreamItem) :
    queuedBytes (items ++ items') = queuedBytes items + queuedBytes items' := by
  simp [queuedBytes]

def drainedTurn (rest : List SequencedBrainWakeStreamItem) (bytes : Nat)
    (turn : BufferedBrainTurnCoordinator) : BufferedBrainTurnCoordinator :=
  { turn with streamItems := rest, queuedDeltaBytes := turn.queuedDeltaBytes - bytes }

theorem drainedTurn_drainedTurn (rest rest' : List SequencedBrainWakeStreamItem)
    (bytes bytes' : Nat) (turn) : drainedTurn rest' bytes' (drainedTurn rest bytes turn) =
      drainedTurn rest' (bytes + bytes') turn := by
  simp [drainedTurn, Nat.sub_sub]

theorem popStreamItems_cons {turn : BufferedBrainTurnCoordinator}
    (queue : turn.streamItems = entry :: rest) :
    popStreamItems (n + 1) turn =
      let next := drainedTurn rest ((streamDeltaBytes entry.item).getD 0) turn
      if entry.item.isTerminal then ([entry], next)
      else (entry :: (popStreamItems n next).1, (popStreamItems n next).2) := by
  rw [popStreamItems]
  simp only [queue]
  unfold drainedTurn
  cases streamDeltaBytes entry.item <;> rfl

theorem popStreamItems_eq (n : Nat) (turn) : ∃ items rest, turn.streamItems = items ++ rest ∧
      popStreamItems n turn = (items, drainedTurn rest (queuedBytes items) turn) := by
  induction n generalizing turn with
  | zero => exact ⟨[], turn.streamItems, rfl, rfl⟩
  | succ n ih =>
    cases queue : turn.streamItems with
    | nil =>
      refine ⟨[], [], rfl, ?_⟩
      simp only [popStreamItems, queue]
      rw [drainedTurn, queuedBytes_nil, Nat.sub_zero, ← queue]
    | cons entry rest =>
      rw [popStreamItems_cons queue]
      by_cases ends : entry.item.isTerminal = true
      · refine ⟨[entry], rest, rfl, ?_⟩
        simp [ends]
      · obtain ⟨items, rest', split, result⟩ :=
          ih (drainedTurn rest ((streamDeltaBytes entry.item).getD 0) turn)
        refine ⟨entry :: items, rest', ?_, ?_⟩
        · rw [List.cons_append, ← split]
          rfl
        · dsimp only
          rw [if_neg ends, result, queuedBytes_cons, ← drainedTurn_drainedTurn]

theorem drainStream_eq (maxItems : Nat) (now turn) :
    ∃ drain rest at', turn.streamItems = drain.items ++ rest ∧ drainStream maxItems now turn =
        (.ok drain, { drainedTurn rest (queuedBytes drain.items) turn with
          lastTransitionAt := at' }) ∧
      drain.terminal = (turn.phase.isTerminal && rest.isEmpty) := by
  obtain ⟨items, rest, queue, popped⟩ := popStreamItems_eq (max maxItems 1) turn
  have after : drainStream maxItems now turn =
      (.ok ⟨turn.wakeId, turn.phase, items, rest.length, turn.phase.isTerminal && rest.isEmpty⟩,
        { drainedTurn rest (queuedBytes items) turn with
          lastTransitionAt := if items = [] then turn.lastTransitionAt else now }) := by
    unfold drainStream
    rw [popped]
    by_cases empty : items = []
    · simp only [if_pos empty]
      rfl
    · simp only [if_neg empty]
      rfl
  exact ⟨_, rest, _, queue, after, rfl⟩

structure StreamView where
  limits : BufferedBrainTurnLimits
  streamItems : List SequencedBrainWakeStreamItem
  (nextStreamSequence rawStreamItemCount retainedStreamItemCount coalescedDeltaItemCount : Nat)
  queuedDeltaBytes : Nat

def streamView (turn : BufferedBrainTurnCoordinator) : StreamView :=
  ⟨turn.limits, turn.streamItems, turn.nextStreamSequence, turn.rawStreamItemCount,
    turn.retainedStreamItemCount, turn.coalescedDeltaItemCount, turn.queuedDeltaBytes⟩

theorem popToolRequests_eq (n : Nat) (turn) : popToolRequests n turn =
      ((turn.undeliveredToolRequestIds.take n).filterMap turn.pendingToolRequests.find?,
        { turn with undeliveredToolRequestIds := turn.undeliveredToolRequestIds.drop n }) := by
  induction n generalizing turn with
  | zero => rfl
  | succ n ih =>
    cases ids : turn.undeliveredToolRequestIds with
    | nil =>
      simp only [popToolRequests, ids, List.take_nil, List.filterMap_nil, List.drop_nil]
      rw [← ids]
    | cons callId rest =>
      simp only [popToolRequests, ids, ih, List.take_succ_cons, List.drop_succ_cons,
        List.filterMap_cons]
      cases turn.pendingToolRequests.find? callId <;> rfl

theorem drainHostToolRequests_eq (maxRequests : Nat) (now turn) :
    ∃ at', drainHostToolRequests maxRequests now turn =
      (.ok ((turn.undeliveredToolRequestIds.take (max maxRequests 1)).filterMap
          turn.pendingToolRequests.find?),
        { turn with
          undeliveredToolRequestIds := turn.undeliveredToolRequestIds.drop (max maxRequests 1)
          lastTransitionAt := at' }) := by
  unfold drainHostToolRequests
  rw [popToolRequests_eq]
  dsimp only
  split
  · exact ⟨turn.lastTransitionAt, rfl⟩
  · exact ⟨now, rfl⟩

end RustyCrew.Proof.Brain
